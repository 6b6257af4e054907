import Mathlib.Data.List.TakeWhile
import SpecAtlas.Proofs.Numeral
import SpecAtlas.Proofs.Refused
import SpecAtlas.Value.Literal

/-!
# Numbers that are too long

A scalar is refused for one reason only: it is a whole number with more digits than are read. The
refusal tells how many digits there are, so of several scalars it matters which one is read first.

`tooLong?` is the refusal of a scalar. A scalar is refused for itself (`refusedFor_coerce`), and a list of
parameters for its scalars (`refusedFor_parameters`).
-/

namespace SpecAtlas

open Text

namespace Numeral

/-! ## Whole numbers -/

theorem takeDigits?_eq_some {text digits rest : Text} (h : takeDigits? text = some (digits, rest)) :
    digits ≠ [] ∧ digits.all Text.isDigit = true ∧ text = digits ++ rest := by
  unfold takeDigits? at h
  rw [List.span_eq_takeWhile_dropWhile] at h
  split at h
  · contradiction
  · rename_i hne heq
    cases h
    obtain ⟨rfl, rfl⟩ := Prod.mk.inj heq
    exact ⟨hne, List.all_takeWhile, List.takeWhile_append_dropWhile.symm⟩

/-- Digits are taken up to the end of a text that has nothing else. -/
theorem takeDigits?_all {digits : Text} (hne : digits ≠ []) (hall : digits.all Text.isDigit = true) :
    takeDigits? digits = some (digits, []) := by
  have hspan : digits.span Text.isDigit = (digits, []) := by
    have hmem := List.all_eq_true.1 hall
    rw [List.span_eq_takeWhile_dropWhile, List.takeWhile_eq_self_iff.2 hmem, List.dropWhile_eq_nil_iff.2 hmem]
  unfold takeDigits?
  rw [hspan]
  cases digits with
  | nil => contradiction
  | cons c rest => rfl

end Numeral

namespace Literal

open Numeral

/-- A whole number is digits, at least one, with or without a minus sign in front. -/
theorem isWhole_iff {token : Text} :
    isWhole token = true ↔
      ∃ digits, digits ≠ [] ∧ digits.all Text.isDigit = true ∧ (token = digits ∨ token = '-' :: digits) := by
  unfold isWhole
  constructor
  · intro h
    split at h
    · rename_i signed hsigned
      unfold takeSigned? at hsigned
      split at hsigned
      · obtain ⟨⟨digits, rest⟩, htake, he⟩ := Option.map_eq_some_iff.1 hsigned
        obtain ⟨-, rfl⟩ := Prod.mk.inj he
        obtain ⟨hne, hall, rfl⟩ := takeDigits?_eq_some htake
        exact ⟨digits, hne, hall, .inr (by rw [List.append_nil])⟩
      · obtain ⟨hne, hall, rfl⟩ := takeDigits?_eq_some hsigned
        exact ⟨signed, hne, hall, .inl (List.append_nil _)⟩
    · contradiction
  · rintro ⟨digits, hne, hall, rfl | rfl⟩
    · have hsigned : takeSigned? token = some (token, []) := by
        unfold takeSigned?
        split
        · simp [show Text.isDigit '-' = false by decide] at hall
        · exact takeDigits?_all hne hall
      rw [hsigned]
    · simp only [takeSigned?, takeDigits?_all hne hall, Option.map_some]

/-- What is taken as a signed number is a whole number. -/
theorem isWhole_of_takeSigned? {text signed rest : Text} (h : takeSigned? text = some (signed, rest)) :
    isWhole signed = true := by
  unfold takeSigned? at h
  split at h
  · obtain ⟨⟨digits, rest'⟩, htake, he⟩ := Option.map_eq_some_iff.1 h
    obtain ⟨rfl, -⟩ := Prod.mk.inj he
    obtain ⟨hne, hall, -⟩ := takeDigits?_eq_some htake
    exact isWhole_iff.2 ⟨digits, hne, hall, .inr rfl⟩
  · obtain ⟨hne, hall, -⟩ := takeDigits?_eq_some h
    exact isWhole_iff.2 ⟨signed, hne, hall, .inl rfl⟩

/-- There is no white space in a whole number. -/
theorem trim_of_isWhole {token : Text} (h : isWhole token = true) : trim token = token := by
  have hblank : ∀ c ∈ token, isBlank c = false := by
    obtain ⟨digits, -, hall, rfl | rfl⟩ := isWhole_iff.1 h
    · exact fun c hc => isBlank_of_isDigit (List.all_eq_true.1 hall c hc)
    · intro c hc
      cases List.mem_cons.1 hc with
      | inl he => rw [he]; decide
      | inr hm => exact isBlank_of_isDigit (List.all_eq_true.1 hall c hm)
  exact trim_of_ends (fun c hc => hblank c (List.mem_of_head? hc)) fun c hc => hblank c (List.mem_of_getLast? hc)

/-- A written number is a whole number, with the digits of its amount. -/
theorem isWhole_ofInt (n : Int) :
    isWhole (ofInt n) = true ∧ (ofInt n).countP Text.isDigit = (ofNat n.natAbs).length := by
  have hdigits := all_isDigit_ofNat n.natAbs
  have hcount : (ofNat n.natAbs).countP Text.isDigit = (ofNat n.natAbs).length :=
    List.countP_eq_length.2 (List.all_eq_true.1 hdigits)
  have hwhole {token : Text} (h : token = ofNat n.natAbs ∨ token = '-' :: ofNat n.natAbs) :
      isWhole token = true := isWhole_iff.2 ⟨_, ofNat_ne_nil _, hdigits, h⟩
  refine ⟨hwhole (ofInt_eq n), ?_⟩
  rcases ofInt_eq n with he | he
  · rw [he, hcount]
  · rw [he, List.countP_cons_of_neg (by decide), hcount]

/-- A number without a sign is read by its digits. -/
theorem readInt_of_digits {digits : Text} (hall : digits.all Text.isDigit = true) :
    readInt digits = (readNat digits).map fun n : Nat => (n : Int) := by
  unfold readInt
  split
  · simp [show Text.isDigit '-' = false by decide] at hall
  · cases readNat digits <;> rfl

/-- A written number is read back, unless it has too many digits. -/
theorem readInt_ofInt {n : Int} (h : (ofNat n.natAbs).length ≤ limit) : readInt (ofInt n) = .ok n := by
  have hread : readNat (ofNat n.natAbs) = .ok n.natAbs := by rw [readNat, if_pos h, value_ofNat]
  cases n with
  | ofNat n =>
      have hread : readNat (ofNat n) = .ok n := hread
      rw [ofInt, readInt_of_digits (all_isDigit_ofNat n), hread]
      rfl
  | negSucc n =>
      have hread : readNat (ofNat (n + 1)) = .ok (n + 1) := hread
      rw [ofInt, readInt, hread]
      rfl

/-- Digits are a natural number, which is read unless it has too many of them. -/
theorem readNat_of_digits {digits : Text} (hall : digits.all Text.isDigit = true) :
    (digits.countP Text.isDigit ≤ limit ∧ ∃ n, readNat digits = .ok n) ∨
      (limit < digits.countP Text.isDigit ∧ readNat digits = .error ⟨digits.countP Text.isDigit⟩) := by
  rw [List.countP_eq_length.2 (List.all_eq_true.1 hall)]
  by_cases hle : digits.length ≤ limit
  · exact .inl ⟨hle, _, if_pos hle⟩
  · exact .inr ⟨by omega, if_neg hle⟩

/-- A whole number is read unless it has too many digits. -/
theorem readInt_of_isWhole {token : Text} (h : isWhole token = true) :
    (token.countP Text.isDigit ≤ limit ∧ ∃ n, readInt token = .ok n) ∨
      (limit < token.countP Text.isDigit ∧ readInt token = .error ⟨token.countP Text.isDigit⟩) := by
  obtain ⟨digits, -, hall, rfl | rfl⟩ := isWhole_iff.1 h
  · rw [readInt_of_digits hall]
    rcases readNat_of_digits hall with ⟨hle, n, hn⟩ | ⟨hlt, hn⟩
    · exact .inl ⟨hle, n, by rw [hn]; rfl⟩
    · exact .inr ⟨hlt, by rw [hn]; rfl⟩
  · have hcount : ('-' :: digits).countP Text.isDigit = digits.countP Text.isDigit :=
      List.countP_cons_of_neg (by decide)
    rw [hcount]
    rcases readNat_of_digits hall with ⟨hle, n, hn⟩ | ⟨hlt, hn⟩
    · exact .inl ⟨hle, -n, by rw [readInt, hn]; rfl⟩
    · exact .inr ⟨hlt, by rw [readInt, hn]; rfl⟩

/-! ## What is refused -/

/-- The refusal of a scalar: it is a whole number with more digits than are read. -/
def tooLong? (token : Text) : Option LongNumeral :=
  if isWhole (trim token) && limit < (trim token).countP Text.isDigit then
    some ⟨(trim token).countP Text.isDigit⟩
  else none

/-- A scalar that is no number is not refused. -/
theorem tooLong?_of_not_whole {token : Text} (h : isWhole (trim token) = false) : tooLong? token = none := by
  simp [tooLong?, h]

end Literal

open Literal

/-- The first refusal among scalars. -/
def firstTooLong? (scalars : List Text) : Option LongNumeral := scalars.findSome? tooLong?

/-- A whole number is refused for itself. -/
theorem refusedFor_readInt {token : Text} (h : isWhole token = true) :
    RefusedFor tooLong? [token] (Numeral.readInt token) := by
  intro e
  rcases readInt_of_isWhole h with ⟨hle, n, hn⟩ | ⟨hlt, hn⟩
  · simp [tooLong?, trim_of_isWhole h, h, hn, Nat.not_lt.2 hle]
  · simp [tooLong?, trim_of_isWhole h, h, hn, hlt]

/-- Digits are refused for themselves. -/
theorem refusedFor_readNat {digits : Text} (hne : digits ≠ []) (hall : digits.all isDigit = true) :
    RefusedFor tooLong? [digits] (Numeral.readNat digits) := by
  have hwhole := isWhole_iff.2 ⟨digits, hne, hall, .inl rfl⟩
  intro e
  rcases readNat_of_digits hall with ⟨hle, n, hn⟩ | ⟨hlt, hn⟩
  · simp [tooLong?, trim_of_isWhole hwhole, hwhole, hn, Nat.not_lt.2 hle]
  · simp [tooLong?, trim_of_isWhole hwhole, hwhole, hn, hlt]

/-- A scalar is refused for itself. -/
theorem refusedFor_coerce (token : Text) : RefusedFor tooLong? [token] (coerce token) := by
  unfold coerce ofTrimmed
  by_cases hw : isWhole (trim token) = true
  · rw [if_pos hw]
    have hread := (refusedFor_readInt hw).map Value.int
    have hsame : [trim token].findSome? tooLong? = [token].findSome? tooLong? := by
      simp [tooLong?, trim_of_isWhole hw]
    intro e
    rw [← hsame]
    exact hread e
  · have hshort : [token].findSome? tooLong? = none := by simp [tooLong?, hw]
    intro e
    rw [hshort, if_neg hw]
    split_ifs <;> simp

/-- A printed parameter is refused for itself. -/
theorem refusedFor_coerceParameter (token : Text) : RefusedFor tooLong? [token] (coerceParameter token) := by
  unfold coerceParameter
  by_cases hnull : trim token = "null".toList
  · have hshort : tooLong? token = none := tooLong?_of_not_whole (by rw [hnull]; decide)
    intro e
    simp [hnull, hshort]
  · rw [if_neg hnull]
    exact refusedFor_coerce token

/-- The scalars of a list of parameters. -/
def Parameters.scalars (text : Text) : List Text := ((splitCommas text).filterMap entry?).map Prod.snd

/-- A list of parameters is refused for its scalars. -/
theorem refusedFor_parameters (text : Text) : RefusedFor tooLong? (Parameters.scalars text) (Parameters.read text) := by
  have hentries : RefusedFor tooLong? (((splitCommas text).filterMap Parameters.entry?).flatMap fun e => [e.2])
      (((splitCommas text).filterMap Parameters.entry?).mapM
        fun e => do return (e.1, ← coerceParameter e.2)) :=
    RefusedFor.mapM fun e _ => (refusedFor_coerceParameter e.2).map fun v => (e.1, v)
  rw [Parameters.scalars, List.map_eq_flatMap]
  exact hentries.map Mapping.ofList

end SpecAtlas
