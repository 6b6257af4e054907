import SpecAtlas.Proofs.Text.Mark
import SpecAtlas.Proofs.Value.Division

/-!
# Balanced texts

A balanced text has no quotes, and its brackets fit: each one is closed by one of its own kind, and what stands
between them is balanced again.

1. A balanced text leaves open what was open in front of it and no more (`Balanced.after_eq`).
2. Inside of brackets it goes by in one piece, whatever commas it has (`Balanced.splitFrom_append`), and so does a
   text in brackets anywhere (`Balanced.splitFrom_brackets`).
-/

namespace SpecAtlas

open Text

/-- The brackets that close others. -/
def closingBrackets : List Char := [')', ']', '}']

theorem mem_closingBrackets {opener closer : Char} (h : closerOf? opener = some closer) : closer ∈ closingBrackets := by
  unfold closerOf? at h
  split at h <;> cases h <;> decide

/-- A text without quotes whose brackets are properly nested. -/
inductive Balanced : Text → Prop
  | nil : Balanced []
  | char {c : Char} (quote : isQuote c = false) (opener : closerOf? c = none) (closer : c ∉ closingBrackets) : Balanced [c]
  | append {front back : Text} (hfront : Balanced front) (hback : Balanced back) : Balanced (front ++ back)
  | brackets {opener closer : Char} (fits : closerOf? opener = some closer) {inner : Text} (hinner : Balanced inner) :
      Balanced (opener :: (inner ++ [closer]))

namespace Nesting

/-- No quote is open, and only brackets wait to be closed. -/
structure Bracketed (s : Nesting) : Prop where
  unquoted : s.quote = none
  closing : ∀ c ∈ s.closers, c ∈ closingBrackets

variable {s : Nesting} {opener closer : Char}

theorem bracketed_empty : ({} : Nesting).Bracketed := ⟨rfl, by simp⟩

/-- A character that is no quote and no bracket changes nothing. -/
theorem Bracketed.step_char (hs : s.Bracketed) {c : Char} (hquote : isQuote c = false) (hopener : closerOf? c = none)
    (hcloser : c ∉ closingBrackets) : s.step c = s := by
  obtain ⟨quote, waiting⟩ := s
  obtain rfl : quote = none := hs.unquoted
  cases waiting with
  | nil => simp [step, hquote, hopener]
  | cons closer rest =>
      have hne : c ≠ closer := fun he => hcloser (he ▸ hs.closing closer List.mem_cons_self)
      simp [step, hquote, hopener, hne]

theorem isQuote_of_closerOf? (h : closerOf? opener = some closer) : isQuote opener = false ∧ isQuote closer = false := by
  unfold closerOf? at h
  split at h <;> cases h <;> decide

theorem closerOf?_closer (h : closerOf? opener = some closer) : closerOf? closer = none := by
  unfold closerOf? at h
  split at h <;> cases h <;> rfl

/-- An opening bracket waits for the one that fits. -/
theorem Bracketed.step_opener (hs : s.Bracketed) (h : closerOf? opener = some closer) :
    s.step opener = ⟨none, closer :: s.closers⟩ := by
  obtain ⟨quote, waiting⟩ := s
  obtain rfl : quote = none := hs.unquoted
  simp [step, (isQuote_of_closerOf? h).1, h]

theorem Bracketed.inside (hs : s.Bracketed) (h : closerOf? opener = some closer) :
    Bracketed ⟨none, closer :: s.closers⟩ :=
  ⟨rfl, List.forall_mem_cons.2 ⟨mem_closingBrackets h, hs.closing⟩⟩

/-- A bracket that is waited for is closed. -/
theorem Bracketed.step_closer (hs : s.Bracketed) (h : closerOf? opener = some closer) :
    (⟨none, closer :: s.closers⟩ : Nesting).step closer = s := by
  obtain ⟨quote, waiting⟩ := s
  obtain rfl : quote = none := hs.unquoted
  simp [step, (isQuote_of_closerOf? h).2, closerOf?_closer h]

end Nesting

namespace Balanced

variable {text : Text} {s : Nesting}

/-- **A balanced text leaves open what was open in front of it.** -/
theorem after_eq (h : Balanced text) (hs : s.Bracketed) : s.after text = s := by
  induction h generalizing s with
  | nil => rfl
  | char hquote hopener hcloser => exact hs.step_char hquote hopener hcloser
  | append _ _ ihfront ihback => rw [Nesting.after_append, ihfront hs, ihback hs]
  | @brackets opener closer fits inner _ ih =>
      show ((s.step opener).after (inner ++ [closer])) = s
      rw [hs.step_opener fits, Nesting.after_append, ih (hs.inside fits)]
      exact hs.step_closer fits

section

variable {isSep : Char → Bool}

/-- Where something is open, no character divides. -/
theorem separates_of_open (h : s.closers ≠ []) (c : Char) : s.separates isSep c = false := by
  simp [Nesting.separates, Nesting.isTop, h]

/-- What goes by in brackets goes by with the brackets. -/
theorem splitFrom_append_brackets {opener closer : Char} (fits : closerOf? opener = some closer) {inner : Text}
    (hs : s.Bracketed)
    (hinner : ∀ rest, splitFrom isSep ⟨none, closer :: s.closers⟩ (inner ++ rest) =
      (splitFrom isSep ⟨none, closer :: s.closers⟩ rest).modifyHead (inner ++ ·)) (rest : Text) :
    splitFrom isSep s (opener :: (inner ++ [closer]) ++ rest) =
      (splitFrom isSep s rest).modifyHead (opener :: (inner ++ [closer]) ++ ·) := by
  have hopener : s.separates isSep opener = false := by simp [Nesting.separates, fits]
  have hcloser : (⟨none, closer :: s.closers⟩ : Nesting).separates isSep closer = false :=
    separates_of_open (List.cons_ne_nil _ _) closer
  rw [List.cons_append, splitFrom_cons hopener, hs.step_opener fits, List.append_assoc, hinner, List.singleton_append,
    splitFrom_cons hcloser, hs.step_closer fits, List.modifyHead_modifyHead, List.modifyHead_modifyHead]
  congr 1
  funext piece
  simp

/-- **Inside of brackets a balanced text goes by in one piece.** -/
theorem splitFrom_append (h : Balanced text) (hs : s.Bracketed) (hopen : s.closers ≠ []) (rest : Text) :
    splitFrom isSep s (text ++ rest) = (splitFrom isSep s rest).modifyHead (text ++ ·) := by
  induction h generalizing s rest with
  | nil =>
      obtain ⟨first, more, he⟩ := List.exists_cons_of_ne_nil (splitFrom_ne_nil isSep s rest)
      simp [he]
  | char hquote hopener hcloser =>
      rw [List.singleton_append, splitFrom_cons (separates_of_open hopen _), hs.step_char hquote hopener hcloser]
      rfl
  | append _ _ ihfront ihback =>
      rw [List.append_assoc, ihfront hs hopen, ihback hs hopen, List.modifyHead_modifyHead]
      congr 1
      funext piece
      simp
  | brackets fits _ ih =>
      exact splitFrom_append_brackets fits hs (fun rest => ih (hs.inside fits) (List.cons_ne_nil _ _) rest) rest

/-- A balanced text in brackets is one piece. -/
theorem splitFrom_brackets {opener closer : Char} (fits : closerOf? opener = some closer) (h : Balanced text) :
    splitFrom isSep {} (opener :: (text ++ [closer])) = [opener :: (text ++ [closer])] := by
  have hopen := Nesting.bracketed_empty.inside fits
  have hgo : splitFrom isSep {} (opener :: (text ++ [closer]) ++ []) =
      (splitFrom isSep {} []).modifyHead (opener :: (text ++ [closer]) ++ ·) :=
    splitFrom_append_brackets fits Nesting.bracketed_empty
      (fun rest => h.splitFrom_append hopen (List.cons_ne_nil _ _) rest) []
  rw [List.append_nil] at hgo
  exact hgo.trans (by simp [splitFrom])

end

/-- Neither a quote nor a bracket. -/
def isPlain (c : Char) : Bool := !isQuote c && (closerOf? c).isNone && !closingBrackets.contains c

/-- A text without quotes and brackets is balanced. -/
theorem of_plain (h : text.all isPlain = true) : Balanced text := by
  induction text with
  | nil => exact .nil
  | cons c text ih =>
      rw [List.all_cons, Bool.and_eq_true] at h
      obtain ⟨⟨hquote, hopener⟩, hcloser⟩ : (isQuote c = false ∧ closerOf? c = none) ∧ c ∉ closingBrackets := by
        simpa [isPlain] using h.1
      exact .append (.char hquote hopener hcloser) (ih h.2)

/-- White space is balanced. -/
theorem of_allBlank (h : allBlank text = true) : Balanced text := by
  refine of_plain (List.all_eq_true.2 fun c hc => ?_)
  have hblank : isBlank c = true := List.all_eq_true.1 h c hc
  have hne {x : Char} (hx : isBlank x = false) : c ≠ x := by
    rintro rfl
    rw [hblank] at hx
    contradiction
  have hopener : closerOf? c = none := by
    unfold closerOf?
    split
    · exact absurd rfl (hne (by decide))
    · exact absurd rfl (hne (by decide))
    · exact absurd rfl (hne (by decide))
    · rfl
  have hquote : isQuote c = false := by simp [isQuote, hne (x := '\'') (by decide), hne (x := '"') (by decide)]
  have hcloser : c ∉ closingBrackets := by
    simp [closingBrackets, hne (x := ')') (by decide), hne (x := ']') (by decide), hne (x := '}') (by decide)]
  simp [isPlain, hquote, hopener, hcloser]

/-- There are no quotes in a balanced text. -/
theorem unquoted (h : Balanced text) : text.any isQuote = false := by
  induction h with
  | nil => rfl
  | char hquote => simp [hquote]
  | append _ _ ihfront ihback => rw [List.any_append, ihfront, ihback]; rfl
  | brackets fits _ ih => simp [ih, Nesting.isQuote_of_closerOf? fits]

/-- Balanced texts joined with a balanced text make up a balanced text. -/
theorem joined {sep : Text} (hsep : Balanced sep) {parts : List Text} (h : ∀ part ∈ parts, Balanced part) :
    Balanced (join sep parts) := by
  induction parts with
  | nil => exact .nil
  | cons part rest ih =>
      have hpart := h part List.mem_cons_self
      have hrest := ih fun p hp => h p (List.mem_cons_of_mem part hp)
      cases rest with
      | nil => simpa [join] using hpart
      | cons next rest =>
          rw [join_cons_of_ne_nil _ _ (List.cons_ne_nil _ _)]
          exact (hpart.append hsep).append hrest

end Balanced

end SpecAtlas
