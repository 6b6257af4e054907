import Mathlib.Data.List.TakeWhile
import SpecAtlas.Proofs.Text.Basic
import SpecAtlas.Result.IterationName

/-!
# Brackets in names

An opening bracket is closed if a closing one stands behind it, so all are closed if none stands behind the last
closing one. What is closed stays closed in longer text (`closed_append`), and in front of the first bracket that is
not closed all are (`exists_unclosed`).

The brackets of an iteration end at the first closing one. What is read from them has parameters and a number
(`sound_of_takeBracketed?`), and what was written into them is read back (`takeBracketed?_written`).
-/

namespace SpecAtlas.Result

open Text

/-! ## Closed brackets -/

/-- What stands behind the last closing bracket of a text. -/
def behindBrackets (text : Text) : Text := (text.reverse.takeWhile (· != ']')).reverse

/-- What stands behind the closing brackets is part of the text. -/
theorem behindBrackets_subset (text : Text) : behindBrackets text ⊆ text := fun _ hc =>
  List.mem_reverse.1 ((List.takeWhile_sublist _).subset (List.mem_reverse.1 hc))

/-- Text without closing brackets stands behind all of them. -/
theorem behindBrackets_append {back : Text} (h : ']' ∉ back) (front : Text) :
    behindBrackets (front ++ back) = behindBrackets front ++ back := by
  have hpass : ∀ c ∈ back.reverse, (c != ']') = true := bne_of_not_mem (by simpa using h)
  simp [behindBrackets, List.takeWhile_append_of_pos hpass]

/-- Text with a closing bracket has all of them behind it that count. -/
theorem behindBrackets_append_of_mem {back : Text} (h : ']' ∈ back) (front : Text) :
    behindBrackets (front ++ back) = behindBrackets back := by
  obtain ⟨before, behind, rfl⟩ := List.append_of_mem h
  have hreverse (text : Text) : (text ++ (before ++ ']' :: behind)).reverse =
      behind.reverse ++ ']' :: (before.reverse ++ text.reverse) := by simp
  have hfront := hreverse front
  have hnil := hreverse []
  rw [List.nil_append] at hnil
  rw [behindBrackets, behindBrackets, hfront, hnil, takeWhile_append_stop (by decide), takeWhile_append_stop (by decide)]

/-- Behind an opening bracket stands a closing one. -/
theorem mem_of_behindBrackets {front back : Text} (h : '[' ∉ behindBrackets (front ++ '[' :: back)) : ']' ∈ back := by
  by_contra hback
  rw [behindBrackets_append (by simpa using hback)] at h
  simp at h

/-- Brackets are closed behind the first character if they are closed in all the text. -/
theorem closed_tail {text : Text} (h : '[' ∉ behindBrackets text) : '[' ∉ behindBrackets text.tail := by
  cases text with
  | nil => exact h
  | cons c text =>
      by_cases hclosing : ']' ∈ text
      · rwa [← List.singleton_append, behindBrackets_append_of_mem hclosing] at h
      · rw [← List.singleton_append, behindBrackets_append hclosing] at h
        exact fun hm => h (List.mem_append_right _ (behindBrackets_subset text hm))

/-- In front of the first bracket that is not closed, all brackets are. -/
theorem exists_unclosed {text : Text} (h : '[' ∈ behindBrackets text) :
    ∃ front back, text = front ++ '[' :: back ∧ '[' ∉ behindBrackets front ∧ ']' ∉ back := by
  have hopen : ']' ∉ behindBrackets text := by
    intro hm
    have hne := List.mem_takeWhile_imp (List.mem_reverse.1 hm)
    simp at hne
  obtain ⟨lead, hlead, hnone⟩ : ∃ lead, text = lead ++ behindBrackets text ∧ behindBrackets lead = [] := by
    refine ⟨(text.reverse.dropWhile (· != ']')).reverse, ?_, ?_⟩
    · rw [behindBrackets, ← List.reverse_append, List.takeWhile_append_dropWhile, List.reverse_reverse]
    · rw [behindBrackets, List.reverse_reverse, List.reverse_eq_nil_iff, List.takeWhile_eq_nil_iff]
      intro hlength hfirst
      exact List.dropWhile_get_zero_not _ _ hlength hfirst
  obtain ⟨before, back, hparts, hbefore⟩ := List.eq_append_cons_of_mem h
  rw [hparts] at hlead hopen
  refine ⟨lead ++ before, back, by rw [hlead, List.append_assoc], ?_, ?_⟩
  · have hclosing : ']' ∉ before := fun hm => hopen (List.mem_append_left _ hm)
    rwa [behindBrackets_append hclosing, hnone, List.nil_append]
  · exact fun hm => hopen (List.mem_append_right _ (List.mem_cons_of_mem _ hm))

/-- Brackets that are closed in two texts are closed in both together. -/
theorem closed_append {front back : Text} (hfront : '[' ∉ behindBrackets front) (hback : '[' ∉ behindBrackets back) :
    '[' ∉ behindBrackets (front ++ back) := by
  by_cases hclosing : ']' ∈ back
  · rwa [behindBrackets_append_of_mem hclosing]
  · have hall : behindBrackets back = back := behindBrackets_append hclosing []
    rw [hall] at hback
    simp [behindBrackets_append hclosing, hfront, hback]

theorem closed_of_not_mem {text : Text} (h : '[' ∉ text) : '[' ∉ behindBrackets text :=
  fun hm => h (behindBrackets_subset text hm)

/-! ## Reading brackets -/

/-- What holds of the brackets of every iteration name. -/
structure Bracketed.Sound (b : Bracketed) : Prop where
  nonempty : b.parameters ≠ []
  noBracket : ']' ∉ b.parameters
  numbered : b.digits ≠ []
  digits : b.digits.all isDigit = true

theorem eq_of_atLastComma? {inner parameters behind : Text}
    (h : atLastComma? inner = some (parameters, behind)) : inner = parameters ++ ',' :: behind := by
  unfold atLastComma? at h
  rw [List.span_eq_takeWhile_dropWhile] at h
  have hparts := List.takeWhile_append_dropWhile (p := fun c => c != ',') (l := inner.reverse)
  have hcomma := List.head?_dropWhile_not (fun c => c != ',') inner.reverse
  generalize inner.reverse.takeWhile (fun c => c != ',') = last at h hparts
  cases hdrop : inner.reverse.dropWhile (fun c => c != ',') with
  | nil =>
      rw [hdrop] at h
      contradiction
  | cons c before =>
      rw [hdrop] at h hparts hcomma
      obtain rfl : c = ',' := by simpa using hcomma
      simp only [Option.some.injEq, Prod.mk.injEq] at h
      obtain ⟨rfl, rfl⟩ := h
      have hinner := congrArg List.reverse hparts
      rw [List.reverse_reverse] at hinner
      rw [← hinner, List.reverse_append, List.reverse_cons, List.append_assoc, List.singleton_append]

/-- Brackets without a closing one in them that can be read are sound. -/
theorem sound_of_read? {inner : Text} (hinner : ']' ∉ inner) {b : Bracketed} (h : Bracketed.read? inner = some b) :
    b.Sound := by
  unfold Bracketed.read? at h
  obtain ⟨⟨parameters, behind⟩, hcomma, h⟩ := Option.bind_eq_some_iff.1 h
  have hparts := eq_of_atLastComma? hcomma
  dsimp only at h
  split at h
  · split at h
    · contradiction
    · rename_i digits _ hsome
      cases h
      simp only [Bool.or_eq_true, List.isEmpty_iff, Bool.not_eq_true', not_or, Bool.not_eq_false] at hsome
      obtain ⟨⟨hparameters, hdigits⟩, hall⟩ := hsome
      exact ⟨hparameters, fun hm => hinner (hparts ▸ List.mem_append_left _ hm), hdigits, hall⟩
  · contradiction

/-- Brackets that can be read are sound. -/
theorem sound_of_takeBracketed? {text rest : Text} {b : Bracketed} (h : takeBracketed? text = some (b, rest)) :
    b.Sound := by
  unfold takeBracketed? at h
  rw [List.span_eq_takeWhile_dropWhile] at h
  have hinner : ']' ∉ text.takeWhile (fun c => c != ']') := by
    intro hm
    have hne := List.mem_takeWhile_imp hm
    simp at hne
  generalize text.takeWhile (fun c => c != ']') = inner at h hinner
  split at h
  · contradiction
  · rename_i heq
    obtain ⟨rfl, -⟩ := Prod.mk.inj heq
    obtain ⟨b', hread, he⟩ := Option.map_eq_some_iff.1 h
    obtain ⟨rfl, -⟩ := Prod.mk.inj he
    exact sound_of_read? hinner hread

/-- What follows the brackets. -/
theorem eq_of_takeBracketed? {text rest : Text} {b : Bracketed} (h : takeBracketed? text = some (b, rest)) :
    ∃ inner, text = inner ++ ']' :: rest := by
  unfold takeBracketed? at h
  rw [List.span_eq_takeWhile_dropWhile] at h
  have hparts := List.takeWhile_append_dropWhile (p := fun c => c != ']') (l := text)
  have hbracket := List.head?_dropWhile_not (fun c => c != ']') text
  cases hdrop : text.dropWhile (fun c => c != ']') with
  | nil =>
      rw [hdrop] at h
      contradiction
  | cons c behind =>
      rw [hdrop] at h hparts hbracket
      obtain rfl : c = ']' := by simpa using hbracket
      obtain ⟨b', -, he⟩ := Option.map_eq_some_iff.1 h
      obtain ⟨-, rfl⟩ := Prod.mk.inj he
      exact ⟨_, hparts.symm⟩

/-! ## Written brackets -/

theorem atLastComma?_append {behind : Text} (h : ',' ∉ behind) (parameters : Text) :
    atLastComma? (parameters ++ ',' :: behind) = some (parameters, behind) := by
  have hreverse : (parameters ++ ',' :: behind).reverse = behind.reverse ++ ',' :: parameters.reverse := by
    simp
  have hbehind : ∀ c ∈ behind.reverse, (c != ',') = true := bne_of_not_mem (by simpa using h)
  rw [atLastComma?, hreverse, span_append hbehind (by decide)]
  simp

/-- The brackets end at the first closing one. -/
theorem takeBracketed?_append {inner : Text} (h : ']' ∉ inner) (rest : Text) :
    takeBracketed? (inner ++ ']' :: rest) = (Bracketed.read? inner).map (·, rest) := by
  rw [takeBracketed?, span_append (bne_of_not_mem h) (by decide)]

/-- The brackets of a written name are read back, with any digits for the index. -/
theorem takeBracketed?_written {parameters digits : Text} (hne : parameters ≠ []) (hbracket : ']' ∉ parameters)
    (hsome : digits ≠ []) (hdigits : digits.all isDigit = true) (rest : Text) :
    takeBracketed? (parameters ++ ", #".toList ++ digits ++ ']' :: rest) = some (⟨parameters, digits⟩, rest) := by
  have hinner : ']' ∉ parameters ++ ", #".toList ++ digits := by
    have hindex := not_mem_of_all (c := ']') hdigits (by decide)
    simp [hbracket, hindex]
  have hcomma : atLastComma? (parameters ++ ", #".toList ++ digits) = some (parameters, " #".toList ++ digits) := by
    have hbehind : ',' ∉ " #".toList ++ digits := by
      have hindex := not_mem_of_all (c := ',') hdigits (by decide)
      simp [hindex]
    rw [List.append_assoc]
    exact atLastComma?_append hbehind parameters
  have htrim : trimLeft (" #".toList ++ digits) = '#' :: digits := rfl
  have hread : Bracketed.read? (parameters ++ ", #".toList ++ digits) = some ⟨parameters, digits⟩ := by
    rw [Bracketed.read?, hcomma]
    simp only [Option.bind_eq_bind, Option.bind_some, htrim]
    rw [if_neg (by simp [hdigits, hne, hsome])]
  rw [takeBracketed?_append hinner, hread, Option.map_some]

end SpecAtlas.Result
