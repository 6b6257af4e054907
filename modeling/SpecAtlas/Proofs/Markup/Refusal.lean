import SpecAtlas.Markup.Attributes
import SpecAtlas.Proofs.Value.LongNumeral

/-!
# What markup is refused for

A character reference by decimal number is the one thing in markup that can be refused: its digits are read
as a natural number. `unescapeNumerals` lists the digits of the references in a text, in the order in which
they are read; those of attributes and of the text of an element are put together from them. Literal sections
have no references.
-/

namespace SpecAtlas.Markup

open Text Literal

/-- The digits of a decimal reference, from behind the ampersand. -/
def referenceNumerals (text : Text) : List Text :=
  match text with
  | '#' :: rest =>
    let digits := rest.takeWhile Char.isDigit
    if digits.isEmpty then [] else [digits]
  | _ => []

/-- The digits of the decimal references in a text. -/
def unescapeNumerals (text : Text) : List Text :=
  match text with
  | [] => []
  | c :: rest =>
    if c = '&' then
      match reference? rest with
      | some (_, size) => referenceNumerals rest ++ unescapeNumerals (rest.drop size)
      | none => unescapeNumerals rest
    else unescapeNumerals rest
termination_by text.length
decreasing_by all_goals simp only [List.length_drop, List.length_cons]; omega

/-- A reference is refused for its digits. -/
theorem refusedFor_reference {text : Text} {meaning : Except LongNumeral Text} {size : Nat}
    (h : reference? text = some (meaning, size)) : RefusedFor tooLong? (referenceNumerals text) meaning := by
  unfold reference? at h
  split at h
  · rename_i x rest
    dsimp only at h
    have hall : ((x :: rest).takeWhile Char.isDigit).all Text.isDigit = true :=
      List.all_eq_true.2 fun _ hc => Numeral.isDigit_of_ascii (List.mem_takeWhile_imp hc)
    rw [referenceNumerals]
    generalize (x :: rest).takeWhile Char.isDigit = digits at h hall ⊢
    cases digits with
    | nil =>
        dsimp only [List.isEmpty_nil] at h ⊢
        rw [if_pos rfl] at h ⊢
        split at h
        · cases h
          exact .ok _
        · contradiction
    | cons d digits =>
        dsimp only [List.isEmpty_cons] at h ⊢
        rw [if_neg Bool.false_ne_true] at h ⊢
        cases h
        exact (refusedFor_readNat (List.cons_ne_nil d digits) hall).map ofNumber
  · rename_i hother
    have hnone : referenceNumerals text = [] := by
      unfold referenceNumerals
      split
      · rename_i rest
        cases rest with
        | nil => rfl
        | cons x rest => exact absurd rfl (hother x rest)
      · rfl
    dsimp only at h
    rw [hnone]
    split at h
    · contradiction
    · cases h
      exact .ok _

/-- A text is refused for the digits of its decimal references. -/
theorem refusedFor_unescape (text : Text) : RefusedFor tooLong? (unescapeNumerals text) (unescape text) := by
  fun_induction unescapeNumerals text with
  | case1 =>
      rw [unescape]
      exact .ok []
  | case2 rest meaning size href ih =>
      rw [unescape, if_pos rfl, href, ← List.append_nil (unescapeNumerals _)]
      exact (refusedFor_reference href).bind fun m _ => ih.bind fun m' _ => .ok (m ++ m')
  | case3 rest href ih =>
      rw [unescape, if_pos rfl, href]
      exact ih.map ('&' :: ·)
  | case4 c rest hc ih =>
      rw [unescape, if_neg hc]
      exact ih.map (c :: ·)

/-- The digits of the decimal references in attributes. -/
def attributesNumerals (inside : Text) : List Text := (writtenAttributes inside).flatMap fun e => unescapeNumerals e.2

theorem refusedFor_attributes (inside : Text) : RefusedFor tooLong? (attributesNumerals inside) (attributes inside) := by
  have hentries : RefusedFor tooLong? (attributesNumerals inside)
      ((writtenAttributes inside).mapM fun e => do return (e.1, ← unescape e.2)) :=
    RefusedFor.mapM fun e _ => (refusedFor_unescape e.2).map fun value => (e.1, value)
  exact hentries.map Mapping.ofList

/-- The digits of the decimal references in the text of an element. -/
def elementNumerals (raw : Text) : List Text :=
  (textPieces raw).flatMap fun piece => if piece.1 then [] else unescapeNumerals piece.2

theorem refusedFor_elementText (raw : Text) : RefusedFor tooLong? (elementNumerals raw) (elementText raw) := by
  have hpieces : RefusedFor tooLong? (elementNumerals raw)
      ((textPieces raw).mapM fun piece => if piece.1 then .ok piece.2 else unescape piece.2) := by
    refine RefusedFor.mapM fun piece _ => ?_
    split
    · exact .ok _
    · exact refusedFor_unescape piece.2
  exact hpieces.map fun pieces => trim pieces.flatten

end SpecAtlas.Markup
