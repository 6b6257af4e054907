import SpecAtlas.Proofs.Numeral
import SpecAtlas.Value.Split

/-!
# Texts that go by in one piece

The scanner of quotes and brackets divides a text at its top-level commas. `Nesting.Passes` says of a text
that nothing in it divides, and that it leaves open what was open in front of it and no more: so it goes
by in one piece, whatever follows.

1. Characters that mean nothing go by (`passes_unmarked`), and so does what stands in quotes
   (`passes_quoted`).
2. What goes by in brackets goes by with the brackets (`passes_brackets`), and in brackets commas go by
   too (`passes_join`).
3. Pieces that go by, joined with commas, come apart again (`splitFrom_join`).
-/

namespace SpecAtlas

open Text

/-! ## Quotes -/

theorem ne_of_isQuote {q c : Char} (hq : isQuote q = true) (hc : isQuote c = false) : q ≠ c := by
  rintro rfl
  rw [hq] at hc
  contradiction

theorem isBlank_of_isQuote {q : Char} (hq : isQuote q = true) : isBlank q = false := by
  simp only [isQuote, Bool.or_eq_true, beq_iff_eq] at hq
  rcases hq with rfl | rfl <;> decide

/-- There are two kinds of quotes. -/
theorem any_isQuote_of_not_mem {text : Text} (hdouble : '"' ∉ text) (hsingle : '\'' ∉ text) :
    text.any isQuote = false := by
  refine List.any_eq_false.2 fun c hc hquote => ?_
  simp only [isQuote, Bool.or_eq_true, beq_iff_eq] at hquote
  rcases hquote with rfl | rfl
  · exact hsingle hc
  · exact hdouble hc

/-! ## Unmarked texts -/

/-- The characters that mean something in a list of parameters. -/
def Parameters.marks : Text := ['\'', '"', '(', '[', '{', ']', ':', ',']

/-- White space is unmarked. -/
theorem unmarked_of_allBlank {blank : Text} (h : allBlank blank = true) : ∀ c ∈ blank, c ∉ Parameters.marks := by
  intro c hc hm
  have hmarks : Parameters.marks.any isBlank = false := by decide
  exact List.any_eq_false.1 hmarks c hm (List.all_eq_true.1 h c hc)

namespace Numeral

/-- Numbers are written without marks. -/
theorem unmarked_ofNat (n : Nat) : ∀ c ∈ ofNat n, c ∉ Parameters.marks := by
  intro c hc hm
  have hmarks : Parameters.marks.any Char.isDigit = false := by decide
  exact List.any_eq_false.1 hmarks c hm (isDigit_of_mem_ofNat hc)

theorem unmarked_ofInt (n : Int) : ∀ c ∈ ofInt n, c ∉ Parameters.marks := by
  intro c hc
  rcases ofInt_eq n with he | he
  · exact unmarked_ofNat _ c (he ▸ hc)
  · rw [he] at hc
    rcases List.mem_cons.1 hc with rfl | hc
    · decide
    · exact unmarked_ofNat _ c hc

end Numeral

/-! ## What goes by -/

theorem splitFrom_cons {isSep : Char → Bool} {s : Nesting} {c : Char} (h : s.separates isSep c = false) (text : Text) :
    splitFrom isSep s (c :: text) = (splitFrom isSep (s.step c) text).modifyHead (c :: ·) := by
  obtain ⟨first, rest, he⟩ := List.exists_cons_of_ne_nil (splitFrom_ne_nil isSep (s.step c) text)
  rw [splitFrom, h, he]
  rfl

namespace Nesting

/-- What is open inside some square brackets. -/
def inBrackets (depth : Nat) : Nesting := { closers := List.replicate depth ']' }

/-- A text that goes by in one piece, and behind which no more and no less is open than in front of it. -/
def Passes (depth : Nat) (text : Text) : Prop :=
  ∀ rest, splitFrom (· == ',') (inBrackets depth) (text ++ rest) =
    (splitFrom (· == ',') (inBrackets depth) rest).modifyHead (text ++ ·)

variable {depth : Nat}

theorem passes_nil : Passes depth [] := by
  intro rest
  rw [List.nil_append]
  cases splitFrom (· == ',') (inBrackets depth) rest <;> rfl

theorem Passes.append {front back : Text} (hfront : Passes depth front) (hback : Passes depth back) :
    Passes depth (front ++ back) := by
  intro rest
  rw [List.append_assoc, hfront, hback, List.modifyHead_modifyHead]
  congr 1
  funext piece
  simp

/-- A character that opens and closes nothing goes by, and a comma does inside brackets. -/
theorem passes_singleton {c : Char} (hquote : isQuote c = false) (hopener : closerOf? c = none) (hcloser : c ≠ ']')
    (hcomma : c ≠ ',' ∨ 0 < depth) : Passes depth [c] := by
  intro rest
  have hstep : (inBrackets depth).step c = inBrackets depth := by
    cases depth <;> simp [step, inBrackets, hquote, hopener, List.replicate_succ, hcloser]
  have hsep : (inBrackets depth).separates (· == ',') c = false := by
    rcases hcomma with hne | hpos
    · simp [separates, hne]
    · simp [separates, isTop, inBrackets, Nat.pos_iff_ne_zero.1 hpos]
  rw [List.singleton_append, splitFrom_cons hsep, hstep]
  rfl

theorem passes_unmarked {text : Text} (h : ∀ c ∈ text, c ∉ Parameters.marks) : Passes depth text := by
  induction text with
  | nil => exact passes_nil
  | cons c text ih =>
      have hc := h c List.mem_cons_self
      simp only [Parameters.marks, List.mem_cons, List.not_mem_nil, or_false, not_or] at hc
      have hquote : isQuote c = false := by simp [isQuote, hc]
      have hopener : closerOf? c = none := by
        unfold closerOf?
        split <;> simp_all
      have hhere : Passes depth [c] := passes_singleton hquote hopener hc.2.2.2.2.2.1 (.inl hc.2.2.2.2.2.2.2)
      exact hhere.append (ih fun x hx => h x (List.mem_cons_of_mem c hx))

theorem passes_space : Passes depth [' '] := passes_singleton rfl rfl (by decide) (.inl (by decide))

theorem passes_comma (hpos : 0 < depth) : Passes depth ", ".toList := by
  have hhere : Passes depth [','] := passes_singleton rfl rfl (by decide) (.inr hpos)
  exact hhere.append passes_space

/-- Square brackets go by if what they hold does. -/
theorem passes_brackets {inner : Text} (h : Passes (depth + 1) inner) : Passes depth ('[' :: (inner ++ [']'])) := by
  intro rest
  have hopen : (inBrackets depth).step '[' = inBrackets (depth + 1) := rfl
  have hclose : (inBrackets (depth + 1)).step ']' = inBrackets depth := rfl
  have hopenSep : (inBrackets depth).separates (· == ',') '[' = false := by simp [separates]
  have hcloseSep : (inBrackets (depth + 1)).separates (· == ',') ']' = false := by simp [separates]
  rw [List.cons_append, splitFrom_cons hopenSep, hopen, List.append_assoc, h, List.singleton_append,
    splitFrom_cons hcloseSep, hclose, List.modifyHead_modifyHead, List.modifyHead_modifyHead]
  congr 1
  funext piece
  simp

/-- What stands in quotes goes by up to the closing quote. -/
theorem splitFrom_inQuotes {q : Char} {text : Text} (h : q ∉ text) (closers : List Char) (rest : Text) :
    splitFrom (· == ',') ⟨some q, closers⟩ (text ++ rest) =
      (splitFrom (· == ',') ⟨some q, closers⟩ rest).modifyHead (text ++ ·) := by
  induction text with
  | nil =>
      rw [List.nil_append]
      cases splitFrom (· == ',') ⟨some q, closers⟩ rest <;> rfl
  | cons c text ih =>
      have hc : c ≠ q := fun he => h (he ▸ List.mem_cons_self)
      have hstep : (⟨some q, closers⟩ : Nesting).step c = ⟨some q, closers⟩ := if_neg hc
      have hsep : (⟨some q, closers⟩ : Nesting).separates (· == ',') c = false := by simp [separates, isTop]
      rw [List.cons_append, splitFrom_cons hsep, hstep, ih fun hm => h (List.mem_cons_of_mem c hm),
        List.modifyHead_modifyHead]
      congr 1

/-- A quoted text goes by, whatever it holds. -/
theorem passes_quoted {q : Char} (hq : isQuote q = true) {text : Text} (h : q ∉ text) :
    Passes depth (q :: (text ++ [q])) := by
  intro rest
  have hopen : (inBrackets depth).step q = ⟨some q, List.replicate depth ']'⟩ := by simp [step, inBrackets, hq]
  have hclose : (⟨some q, List.replicate depth ']'⟩ : Nesting).step q = inBrackets depth := by simp [step, inBrackets]
  have hopenSep : (inBrackets depth).separates (· == ',') q = false := by simp [separates, hq]
  have hcloseSep : (⟨some q, List.replicate depth ']'⟩ : Nesting).separates (· == ',') q = false := by
    simp [separates, hq]
  rw [List.cons_append, splitFrom_cons hopenSep, hopen, List.append_assoc, splitFrom_inQuotes h,
    List.singleton_append, splitFrom_cons hcloseSep, hclose, List.modifyHead_modifyHead, List.modifyHead_modifyHead]
  congr 1
  funext piece
  simp

/-- Inside of brackets a list goes by if its pieces do. -/
theorem passes_join {parts : List Text} (h : ∀ part ∈ parts, Passes (depth + 1) part) :
    Passes (depth + 1) (join [','] parts) := by
  induction parts with
  | nil => exact passes_nil
  | cons part rest ih =>
      have hpart := h part List.mem_cons_self
      have hrest := ih fun p hp => h p (List.mem_cons_of_mem part hp)
      cases rest with
      | nil => simpa [join] using hpart
      | cons next rest =>
          have hcomma : Passes (depth + 1) [','] :=
            passes_singleton rfl rfl (by decide) (.inr (Nat.succ_pos depth))
          rw [join_cons_of_ne_nil _ _ (List.cons_ne_nil _ _)]
          exact (hpart.append hcomma).append hrest

/-- What divides a list is the commas between its pieces. -/
theorem splitFrom_join {parts : List Text} (hne : parts ≠ []) (h : ∀ part ∈ parts, Passes 0 part) :
    splitFrom (· == ',') {} (join [','] parts) = parts := by
  induction parts with
  | nil => contradiction
  | cons part rest ih =>
      have hpart := h part List.mem_cons_self
      cases rest with
      | nil =>
          have honly := hpart []
          rw [List.append_nil] at honly
          have hsingle : join [','] [part] = part := by simp [join]
          rw [hsingle]
          exact honly.trans (by simp [splitFrom])
      | cons next rest =>
          have hrest := ih (List.cons_ne_nil _ _) fun p hp => h p (List.mem_cons_of_mem part hp)
          have hcomma (text : Text) : splitFrom (· == ',') (inBrackets 0) (',' :: text) =
              [] :: splitFrom (· == ',') {} text := rfl
          have hgo := hpart (',' :: join [','] (next :: rest))
          rw [hcomma, hrest] at hgo
          rw [join_cons_of_ne_nil _ _ (List.cons_ne_nil _ _), List.append_assoc, List.singleton_append]
          exact hgo.trans (by simp)

end Nesting

end SpecAtlas
