import SpecAtlas.Shell.Quoting

/-!
# Words that a shell reads

A POSIX shell divides a line into words at its blanks, and takes away the quotes:

1. between single quotes every character stands for itself;
2. between double quotes too, but for the backslash, which there only quotes a dollar sign, a grave accent, a double
   quote and itself;
3. outside of both the backslash quotes the character behind it. A line feed behind a backslash goes away with it;
4. quotes do not end a word, so parts that are quoted in different ways make up one word, and a word may be empty.

`readWords?` knows these rules and no others. A character that would begin an operator, an expansion, a pattern or a
comment has to be quoted: where one is not, the line is more than a list of words, and nothing is read.

What `quoteWords` writes is read back word by word (`readWords?_quoteWords`), whatever the words hold.
-/

namespace SpecAtlas.Shell

open Text

/-! ## The shell -/

/-- In which quotes a character stands. -/
inductive Quotes where
  | none
  /-- Behind a backslash. -/
  | escape
  | single
  | double
  /-- Behind a backslash between double quotes. -/
  | doubleEscape
  deriving DecidableEq, Repr

/-- What has been read of a line: the words that have ended, the one that has not, and the open quotes. -/
structure Reader where
  words : List Text := []
  word : Option Text := none
  quotes : Quotes := .none
  deriving DecidableEq, Repr

/-- The characters that begin an operator, an expansion or a pattern, and the line feed, which ends a command. -/
def special : Text := "|&;<>()$`*?[~\n".toList

/-- The characters that the backslash quotes between double quotes. -/
def doubleQuoted : Text := "$`\"\\".toList

namespace Reader

/-- A word goes on, or begins. -/
def add (r : Reader) (text : Text) : Reader := { r with word := some (r.word.getD [] ++ text) }

/-- A word ends, if there is one. -/
def close (r : Reader) : Reader := { r with words := r.words ++ r.word.toList, word := none }

/-- Reads one character. -/
def step (r : Reader) (c : Char) : Option Reader :=
  match r.quotes with
  | .none =>
    if c = ' ' || c = '\t' then some r.close
    else if c = '\'' then some { r.add [] with quotes := .single }
    else if c = '"' then some { r.add [] with quotes := .double }
    else if c = '\\' then some { r with quotes := .escape }
    else if special.contains c || (c = '#' && r.word.isNone) then none
    else some (r.add [c])
  | .escape => some { (if c = '\n' then r else r.add [c]) with quotes := .none }
  | .single => some (if c = '\'' then { r with quotes := .none } else r.add [c])
  | .double =>
    if c = '"' then some { r with quotes := .none }
    else if c = '\\' then some { r with quotes := .doubleEscape }
    else if c = '$' || "`".toList.contains c then none
    else some (r.add [c])
  | .doubleEscape =>
    let quoted := if c = '\n' then [] else if doubleQuoted.contains c then [c] else ['\\', c]
    some { r.add quoted with quotes := .double }

/-- Reads a text. -/
def read (r : Reader) (text : Text) : Option Reader := text.foldlM step r

/-- The words of a line; at its end no quotes may be open. -/
def finish (r : Reader) : Option (List Text) := if r.quotes = .none then some r.close.words else none

end Reader

/-- The words of a line, if it is a list of words and nothing else. -/
def readWords? (line : Text) : Option (List Text) := (Reader.read {} line).bind Reader.finish

example : readWords? "a\\ b 'c d'\"\\$e\"#f ''".toList = some ["a b".toList, "c d$e#f".toList, []] := by decide

example : readWords? "a; b".toList = none := by decide

/-! ## Reading what was written -/

namespace Reader

theorem read_nil (r : Reader) : r.read [] = some r := rfl

theorem read_cons (r : Reader) (c : Char) (text : Text) : r.read (c :: text) = (r.step c).bind (read · text) := rfl

theorem read_append (r : Reader) (front back : Text) : r.read (front ++ back) = (r.read front).bind (read · back) :=
  List.foldlM_append

variable {words : List Text} {word text : Text}

/-- A character that means nothing but itself to the shell is taken as it is. -/
theorem step_plain {c : Char} (h : isPlain c = true) (word : Option Text) :
    step ⟨words, word, .none⟩ c = some ⟨words, some (word.getD [] ++ [c]), .none⟩ := by
  have hmarks : (" \t'\"\\#".toList ++ special).any isPlain = false := by decide
  have hne {x : Char} (hx : x ∈ " \t'\"\\#".toList ++ special) : c ≠ x := by
    rintro rfl
    exact List.any_eq_false.1 hmarks c hx h
  have hspecial : special.contains c = false := by
    rw [← Bool.not_eq_true, List.contains_iff_mem]
    exact fun hmem => hne (List.mem_append_right _ hmem) rfl
  simp only [step, hne (x := ' ') (by decide), hne (x := '\t') (by decide), hne (x := '\'') (by decide),
    hne (x := '"') (by decide), hne (x := '\\') (by decide), hne (x := '#') (by decide), hspecial, decide_false,
    Bool.or_self, Bool.false_and, Bool.false_eq_true, if_false]
  rfl

theorem step_single {c : Char} (h : c ≠ '\'') (word : Text) :
    step ⟨words, some word, .single⟩ c = some ⟨words, some (word ++ [c]), .single⟩ := by
  simp [step, add, h]

theorem read_plain (h : ∀ c ∈ text, isPlain c = true) (word : Text) :
    read ⟨words, some word, .none⟩ text = some ⟨words, some (word ++ text), .none⟩ := by
  induction text generalizing word with
  | nil => rw [read_nil, List.append_nil]
  | cons c text ih =>
      rw [read_cons, step_plain (h c List.mem_cons_self), Option.bind_some, Option.getD_some,
        ih fun x hx => h x (List.mem_cons_of_mem c hx), List.append_assoc]
      rfl

/-- Between single quotes a text is read as it was before its own quotes were taken apart. -/
theorem read_single (text word : Text) :
    read ⟨words, some word, .single⟩ (text.flatMap fun c => if c = '\'' then "'\"'\"'".toList else [c]) =
      some ⟨words, some (word ++ text), .single⟩ := by
  induction text generalizing word with
  | nil => rw [List.flatMap_nil, read_nil, List.append_nil]
  | cons c text ih =>
      have hhere : read ⟨words, some word, .single⟩ (if c = '\'' then "'\"'\"'".toList else [c]) =
          some ⟨words, some (word ++ [c]), .single⟩ := by
        by_cases hc : c = '\''
        · -- The single quotes end, a quote stands between double ones, and they begin anew.
          subst hc
          simp [read, step, add, List.foldlM]
        · rw [if_neg hc, read_cons, step_single hc, Option.bind_some, read_nil]
      rw [List.flatMap_cons, read_append, hhere, Option.bind_some, ih, List.append_assoc]
      rfl

/-- A word is read back. -/
theorem read_quoteWord (word : Text) : read ⟨words, none, .none⟩ (quoteWord word) = some ⟨words, some word, .none⟩ := by
  unfold quoteWord
  split
  · rename_i hplain
    rw [Bool.and_eq_true, List.all_eq_true] at hplain
    cases word with
    | nil => simp at hplain
    | cons c word =>
        rw [read_cons, step_plain (hplain.2 c List.mem_cons_self), Option.bind_some,
          read_plain fun x hx => hplain.2 x (List.mem_cons_of_mem c hx)]
        rfl
  · have hopen : step ⟨words, none, .none⟩ '\'' = some ⟨words, some [], .single⟩ := rfl
    rw [List.cons_append, read_cons, hopen, Option.bind_some, read_append, read_single, Option.bind_some, List.nil_append]
    rfl

/-- Words are read back behind those that have been read. -/
theorem read_quoteWords (written : List Text) :
    (read ⟨words, none, .none⟩ (quoteWords written)).bind finish = some (words ++ written) := by
  induction written generalizing words with
  | nil => simp [quoteWords, join, read_nil, finish, close]
  | cons word rest ih =>
      cases rest with
      | nil =>
          rw [quoteWords, List.map_singleton, join, List.intercalate_singleton, read_quoteWord]
          rfl
      | cons next rest =>
          have hclose : step ⟨words, some word, .none⟩ ' ' = some ⟨words ++ [word], none, .none⟩ := rfl
          rw [quoteWords, List.map_cons, join_cons_of_ne_nil _ _ (by simp), ← quoteWords, List.append_assoc, read_append,
            read_quoteWord, Option.bind_some, List.singleton_append, read_cons, hclose, Option.bind_some, ih,
            List.append_assoc, List.singleton_append]

end Reader

/-- **Words are read back as they were written**, whatever characters they hold. -/
theorem readWords?_quoteWords (words : List Text) : readWords? (quoteWords words) = some words :=
  Reader.read_quoteWords words

end SpecAtlas.Shell
