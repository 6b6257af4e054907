import SpecAtlas.Mapping
import SpecAtlas.Text.Word
import SpecAtlas.Value.Split
import SpecAtlas.Markup.CharacterReference

/-!
# Attributes and element text

The attributes of a tag are the places of the form `name="value"` or `name='value'` in it, found
from left to right; what does not fit is passed over. Of two attributes of one name the later
counts.

In the text of an element character references are resolved, but not inside the sections
`<![CDATA[ … ]]>`, whose content is literal.
-/

namespace SpecAtlas.Markup

open Text

/-! ## Attributes -/

/-- Whether a character may belong to the name of an attribute. -/
def isAttributeChar (c : Char) : Bool := isWord c || c == ':' || c == '.' || c == '-'

/-- A quoted value behind an equals sign, and what follows it. -/
def attributeValue? (text : Text) : Option (Text × Text) :=
  match trimLeft text with
  | '=' :: rest =>
    match trimLeft rest with
    | q :: rest => if isQuote q then cut? [q] rest else none
    | [] => none
  | _ => none

theorem length_trimLeft_le (text : Text) : (trimLeft text).length ≤ text.length :=
  (List.dropWhile_sublist isBlank).length_le

/-- A value takes at least one character. -/
theorem length_lt_of_attributeValue? {text value rest : Text} (h : attributeValue? text = some (value, rest)) :
    rest.length < text.length := by
  unfold attributeValue? at h
  split at h
  · rename_i r hr
    split at h
    · rename_i q s hs
      split at h
      · have h1 := length_trimLeft_le text
        have h2 := length_trimLeft_le r
        have h3 := length_lt_of_cut? (by simp) h
        rw [hr] at h1; rw [hs] at h2
        simp at h1 h2
        omega
      · simp at h
    · simp at h
  · simp at h

/-- What follows the name of an attribute is shorter than the text that the name begins. -/
theorem length_behindName_lt (c : Char) (rest : Text) :
    (rest.dropWhile isAttributeChar).length < (c :: rest).length :=
  Nat.lt_succ_of_le (List.dropWhile_sublist isAttributeChar).length_le

/-- The attributes in a text with their values as they are written, in order. -/
def writtenAttributes (text : Text) : List (Text × Text) :=
  match text with
  | [] => []
  | c :: rest =>
    if isAttributeChar c then
      match h : attributeValue? (rest.dropWhile isAttributeChar) with
      | some (value, behind) =>
        have := Nat.lt_trans (length_lt_of_attributeValue? h) (length_behindName_lt c rest)
        (c :: rest.takeWhile isAttributeChar, value) :: writtenAttributes behind
      | none => writtenAttributes (rest.dropWhile isAttributeChar)
    else writtenAttributes rest
termination_by text.length
decreasing_by
  · assumption
  · exact length_behindName_lt c rest
  · exact Nat.lt_succ_self rest.length

/-- The attributes in a text. -/
def attributes (text : Text) : Except LongNumeral (Mapping Text) := do
  let entries ← (writtenAttributes text).mapM fun (name, value) => do return (name, ← unescape value)
  return Mapping.ofList entries

/-! ## Element text -/

/-- How a literal section begins. -/
def sectionStart : Text := "<![CDATA[".toList

/-- How a literal section ends. -/
def sectionEnd : Text := "]]>".toList

/-- The text of an element in pieces: whether a piece is the content of a literal section, and the
piece. A section that does not end is no section. -/
def textPieces (raw : Text) : List (Bool × Text) :=
  match h : cut? sectionStart raw with
  | none => [(false, raw)]
  | some (before, rest) =>
    match h' : cut? sectionEnd rest with
    | none => [(false, raw)]
    | some (literal, behind) =>
      have : behind.length < raw.length :=
        Nat.lt_trans (length_lt_of_cut? (by decide) h') (length_lt_of_cut? (by decide) h)
      (false, before) :: (true, literal) :: textPieces behind
termination_by raw.length

/-- The text of an element, trimmed. -/
def elementText (raw : Text) : Except LongNumeral Text := do
  let pieces ← (textPieces raw).mapM fun (isLiteral, piece) =>
    if isLiteral then .ok piece else unescape piece
  return trim pieces.flatten

end SpecAtlas.Markup
