import Mathlib.Data.List.Basic
import SpecAtlas.Numeral
import SpecAtlas.Proofs.Text.Basic

/-!
# Written numbers

A number is written with the digits of ASCII, and with at least one.
-/

namespace SpecAtlas.Numeral

open Text

/-- A digit of ASCII has the value of its place behind zero. -/
theorem digit?_of_ascii {c : Char} (h : c.isDigit = true) : digit? c = some (c.toNat - '0'.toNat) := by
  simp only [Char.isDigit, Bool.and_eq_true, decide_eq_true_eq, UInt32.le_iff_toNat_le, ge_iff_le] at h
  have hval : c.toNat = c.val.toNat := rfl
  have h0 : '0'.val.toNat = 48 := rfl
  have h9 : '9'.val.toNat = 57 := rfl
  have hlow : ¬ c.toNat < 0x30 := by omega
  have hhigh : c.toNat ≤ 0x39 := by omega
  have hzero : '0'.toNat = 0x30 := rfl
  have hmod : (c.toNat - 0x30) % 10 = c.toNat - 0x30 := Nat.mod_eq_of_lt (by omega)
  rw [digit?, digitRanges, digitIn, if_neg hlow, if_pos hhigh, hmod, hzero]

/-- The digits of ASCII are decimal digits. -/
theorem isDigit_of_ascii {c : Char} (h : c.isDigit = true) : Text.isDigit c = true := by
  rw [Text.isDigit, digit?_of_ascii h]
  rfl

theorem exists_of_digitIn {ranges : List (Nat × Nat)} {n d : Nat} (h : digitIn ranges n = some d) :
    ∃ r ∈ ranges, r.1 ≤ n ∧ n ≤ r.2 := by
  fun_induction digitIn ranges n with
  | case1 => contradiction
  | case2 => contradiction
  | case3 low high rest n hlow hhigh => exact ⟨(low, high), List.mem_cons_self, Nat.not_lt.1 hlow, hhigh⟩
  | case4 low high rest n hlow hhigh ih =>
      obtain ⟨r, hr, hn⟩ := ih h
      exact ⟨r, List.mem_cons_of_mem _ hr, hn⟩

/-- The two tables have no code point in common. -/
theorem digitRanges_apart_blankRanges :
    (digitRanges.all fun d => blankRanges.all fun b => d.2 < b.1 || b.2 < d.1) = true := by
  decide +kernel

/-- A digit is no white space. -/
theorem isBlank_of_isDigit {c : Char} (h : Text.isDigit c = true) : isBlank c = false := by
  rw [← Bool.not_eq_true]
  intro hb
  obtain ⟨b, hbm, hb1, hb2⟩ := exists_of_inRanges hb
  obtain ⟨d, hd⟩ := Option.isSome_iff_exists.1 h
  obtain ⟨r, hrm, hr1, hr2⟩ := exists_of_digitIn hd
  have happart := List.all_eq_true.1 (List.all_eq_true.1 digitRanges_apart_blankRanges r hrm) b hbm
  simp only [Bool.or_eq_true, decide_eq_true_eq] at happart
  omega

theorem ofNat_ne_nil (n : Nat) : ofNat n ≠ [] := Nat.toDigits_ne_nil

/-- A number is written in digits of ASCII. -/
theorem isDigit_of_mem_ofNat {n : Nat} {c : Char} (h : c ∈ ofNat n) : c.isDigit = true :=
  Nat.isDigit_of_mem_toDigits (by decide) (by decide) h

theorem all_isDigit_ofNat (n : Nat) : (ofNat n).all Text.isDigit = true :=
  List.all_eq_true.2 fun _ hc => isDigit_of_ascii (isDigit_of_mem_ofNat hc)

/-- A whole number is written with the digits of its amount. -/
theorem ofInt_eq (n : Int) : ofInt n = ofNat n.natAbs ∨ ofInt n = '-' :: ofNat n.natAbs := by
  cases n with
  | ofNat n => exact .inl rfl
  | negSucc n => exact .inr rfl

/-- A written number is read back. -/
theorem value_ofNat (n : Nat) : value (ofNat n) = n := by
  have hdigits : value (ofNat n) = Nat.ofDigitChars 10 (ofNat n) 0 := by
    rw [value, Nat.ofDigitChars_eq_foldl]
    refine List.foldl_ext _ _ 0 fun sofar c hc => ?_
    rw [digit?_of_ascii (isDigit_of_mem_ofNat hc), Option.getD_some]
  rw [hdigits, ofNat, Nat.ofDigitChars_ten_toDigits]

/-- How many digits a number has. -/
theorem length_ofNat_le_iff {n k : Nat} (hk : 0 < k) : (ofNat n).length ≤ k ↔ n < Nat.pow 10 k :=
  Nat.length_toDigits_le_iff (by decide) hk

end SpecAtlas.Numeral
