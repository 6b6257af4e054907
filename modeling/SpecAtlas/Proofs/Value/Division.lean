import SpecAtlas.Proofs.Value.Passing

/-!
# Where a text divides

Whether a separator divides a text depends on what is open in front of it, and on nothing else.

1. Where nothing is open, it divides: the pieces of the text in front of it and the pieces of the text behind
   it are the pieces of both (`splitFrom_append_top`).
2. Where something is open, it does not, and there is one piece less than separators would allow
   (`length_splitFrom_of_open`).
-/

namespace SpecAtlas

open Text

namespace Nesting

theorem after_append (s : Nesting) (front back : Text) : s.after (front ++ back) = (s.after front).after back :=
  List.foldl_append

/-- Where neither a quote nor a bracket is open, nothing is. -/
theorem eq_empty_of_isTop {s : Nesting} (h : s.isTop = true) : s = {} := by
  obtain ⟨quote, closers⟩ := s
  simpa [isTop] using h

/-- Where a character divides, nothing is open behind it either. -/
theorem step_of_separates {isSep : Char → Bool} {s : Nesting} {c : Char} (h : s.separates isSep c = true) :
    s.step c = s := by
  simp only [separates, Bool.and_eq_true, Bool.not_eq_true', Option.isNone_iff_eq_none] at h
  obtain rfl := eq_empty_of_isTop h.1.1.1
  simp [step, h.1.2, h.2]

/-- Characters that open nothing leave nothing open where nothing is. -/
theorem after_of_no_opener {text : Text} (hquote : text.any isQuote = false)
    (hopener : ∀ c ∈ text, closerOf? c = none) : ({} : Nesting).after text = {} := by
  induction text with
  | nil => rfl
  | cons c text ih =>
      rw [List.any_cons, Bool.or_eq_false_iff] at hquote
      have hstep : ({} : Nesting).step c = {} := by simp [step, hquote.1, hopener c List.mem_cons_self]
      show (({} : Nesting).step c).after text = {}
      rw [hstep, ih hquote.2 fun x hx => hopener x (List.mem_cons_of_mem c hx)]

end Nesting

section

variable {sep : Char} {s : Nesting} {front : Text}

theorem splitFrom_of_separates {isSep : Char → Bool} {c : Char} (h : s.separates isSep c = true) (text : Text) :
    splitFrom isSep s (c :: text) = [] :: splitFrom isSep s text := if_pos h

/-- A text without the separator is one piece. -/
theorem splitFrom_of_not_mem {text : Text} (h : sep ∉ text) : splitFrom (· == sep) s text = [text] := by
  induction text generalizing s with
  | nil => rfl
  | cons c text ih =>
      have hc : c ≠ sep := fun he => h (he ▸ List.mem_cons_self)
      have hsep : s.separates (· == sep) c = false := by simp [Nesting.separates, hc]
      rw [splitFrom_cons hsep, ih fun hm => h (List.mem_cons_of_mem c hm)]
      rfl

/-- **A separator divides where nothing is open**, and what follows is divided on its own. -/
theorem splitFrom_append_top (hquote : isQuote sep = false) (hopener : closerOf? sep = none)
    (h : (s.after front).isTop = true) (back : Text) :
    splitFrom (· == sep) s (front ++ sep :: back) = splitFrom (· == sep) s front ++ splitFrom (· == sep) {} back := by
  induction front generalizing s with
  | nil =>
      obtain rfl := Nesting.eq_empty_of_isTop h
      have hsep : ({} : Nesting).separates (· == sep) sep = true := by
        simp [Nesting.separates, Nesting.isTop, hquote, hopener]
      rw [List.nil_append, splitFrom_of_separates hsep]
      rfl
  | cons c front ih =>
      cases hsep : s.separates (· == sep) c with
      | true =>
          have hrest : (s.after front).isTop = true := by rwa [← Nesting.step_of_separates hsep]
          rw [List.cons_append, splitFrom_of_separates hsep, ih hrest, splitFrom_of_separates hsep, List.cons_append]
      | false =>
          have hrest := ih (s := s.step c) h
          obtain ⟨first, more, he⟩ := List.exists_cons_of_ne_nil (splitFrom_ne_nil (· == sep) (s.step c) front)
          rw [List.cons_append, splitFrom_cons hsep, splitFrom_cons hsep, hrest, he]
          rfl

/-- There is at most one piece more than there are separators. -/
theorem length_splitFrom_le (s : Nesting) (text : Text) :
    (splitFrom (· == sep) s text).length ≤ text.count sep + 1 := by
  induction text generalizing s with
  | nil => simp [splitFrom]
  | cons c text ih =>
      cases hsep : s.separates (· == sep) c with
      | true =>
          obtain rfl : c = sep := by simp [Nesting.separates] at hsep; exact hsep.1.1.2
          rw [splitFrom_of_separates hsep, List.length_cons, List.count_cons_self]
          exact Nat.succ_le_succ (ih s)
      | false =>
          rw [splitFrom_cons hsep, List.length_modifyHead]
          exact Nat.le_trans (ih (s.step c)) (Nat.succ_le_succ (List.count_le_count_cons ..))

variable (sep) in
/-- **A separator behind which something is open does not divide**, so there is one piece less. -/
theorem length_splitFrom_of_open (h : (s.after front).isTop = false) (back : Text) :
    (splitFrom (· == sep) s (front ++ sep :: back)).length ≤ front.count sep + back.count sep + 1 := by
  induction front generalizing s with
  | nil =>
      have hsep : s.separates (· == sep) sep = false := by
        rw [Nesting.separates, show s.isTop = false from h]
        rfl
      rw [List.nil_append, splitFrom_cons hsep, List.length_modifyHead, List.count_nil, Nat.zero_add]
      exact length_splitFrom_le _ back
  | cons c front ih =>
      cases hsep : s.separates (· == sep) c with
      | true =>
          obtain rfl : c = sep := by simp [Nesting.separates] at hsep; exact hsep.1.1.2
          have hrest := ih (s := s) (by rwa [← Nesting.step_of_separates hsep])
          rw [List.cons_append, splitFrom_of_separates hsep, List.length_cons, List.count_cons_self]
          omega
      | false =>
          have hrest := ih (s := s.step c) h
          have hcount : front.count sep ≤ (c :: front).count sep := List.count_le_count_cons ..
          rw [List.cons_append, splitFrom_cons hsep, List.length_modifyHead]
          omega

end

end SpecAtlas
