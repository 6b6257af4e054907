import SpecAtlas.Config.Merge

/-!
# Readers of configuration files

The text of a configuration file is read by a library. It is no part of the program, so it stands here for
whatever function turns a text into sections, or refuses it in one of two ways; only the first of these is
expected of a text that is no TOML. All that the program relies on is that sections are tables (`IsTabular`):
no key is in one of them twice.
-/

namespace SpecAtlas.Config

/-- Why a reader has no sections for a text. -/
inductive Unparsed where
  /-- The text is no TOML; the message tells where. -/
  | invalid (message : Text)
  /-- The reader fails in another way. -/
  | failed (message : Text)
  deriving DecidableEq, Repr

/-- A reader of configuration files. -/
abbrev TableReader := Text → Except Unparsed Settings

/-- If a value is a mapping, its keys are different. -/
def HasDistinctKeys (v : Value) : Prop := ∀ entries, v = .map entries → (entries.map Prod.fst).Nodup

/-- The names of the sections that are read are different, and so are the keys in each of them. -/
def TableReader.IsTabular (reader : TableReader) : Prop :=
  ∀ {text : Text} {sections : Settings}, reader text = .ok sections →
    (sections.map Prod.fst).Nodup ∧ ∀ e ∈ sections, HasDistinctKeys e.2

end SpecAtlas.Config
