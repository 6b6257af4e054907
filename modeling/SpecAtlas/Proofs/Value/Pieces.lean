import SpecAtlas.Proofs.Value.Division

/-!
# The pieces of a text

A text is divided at the separators that stand outside of quotes and brackets.

1. Nothing is lost: the pieces joined with the separator are the text (`join_splitTopLevel`).
2. No piece divides any further, and no piece but the last one leaves anything open (`divided_splitFrom`). For a
   separator divides only where nothing is open. So the scan goes on behind it as it begins in front of a text, and
   reads a piece within the text as it reads it alone.
3. Behind a text that leaves nothing open a separator divides, and what follows it is divided on its own
   (`splitTopLevel_append`).
-/

namespace SpecAtlas

open Text

variable {isSep : Char → Bool}

/-! ## Division from any place on -/

/-- No character of a text that begins with `s` open divides it. -/
def Undivided (isSep : Char → Bool) (s : Nesting) (text : Text) : Prop := splitFrom isSep s text = [text]

theorem undivided_nil (s : Nesting) : Undivided isSep s [] := rfl

theorem Undivided.cons {s : Nesting} {c : Char} {text : Text} (hc : s.separates isSep c = false)
    (h : Undivided isSep (s.step c) text) : Undivided isSep s (c :: text) := by
  rw [Undivided, splitFrom_cons hc, h, List.modifyHead_cons]

/-- Pieces that divide no further: the first one begins with `s` open, each of the others with nothing open, and
nothing is open at the end of any but the last. -/
inductive Divided (isSep : Char → Bool) : Nesting → List Text → Prop
  | last {s : Nesting} {piece : Text} (hpiece : Undivided isSep s piece) : Divided isSep s [piece]
  | more {s : Nesting} {piece : Text} {rest : List Text} (hpiece : Undivided isSep s piece)
      (htop : (s.after piece).isTop = true) (hrest : Divided isSep {} rest) : Divided isSep s (piece :: rest)

namespace Divided

variable {parts : List Text}

/-- A character that does not divide belongs to the first piece. -/
theorem cons {s : Nesting} {c : Char} (hc : s.separates isSep c = false) (h : Divided isSep (s.step c) parts) :
    Divided isSep s (parts.modifyHead (c :: ·)) := by
  cases h with
  | last hpiece => exact .last (hpiece.cons hc)
  | more hpiece htop hrest => exact .more (hpiece.cons hc) htop hrest

theorem undivided (h : Divided isSep {} parts) : ∀ piece ∈ parts, Undivided isSep {} piece := by
  induction parts with
  | nil => simp
  | cons piece rest ih =>
      cases h with
      | last hpiece => simpa using hpiece
      | more hpiece _ hrest => exact List.forall_mem_cons.2 ⟨hpiece, ih hrest⟩

theorem isTop_after (h : Divided isSep {} parts) :
    ∀ piece ∈ parts.dropLast, (({} : Nesting).after piece).isTop = true := by
  induction parts with
  | nil => simp
  | cons piece rest ih =>
      cases h with
      | last hpiece => simp
      | more _ htop hrest =>
          cases rest with
          | nil => simp
          | cons next rest => exact List.forall_mem_cons.2 ⟨htop, ih hrest⟩

end Divided

/-- **No piece divides any further**, and none but the last one leaves anything open. -/
theorem divided_splitFrom (s : Nesting) (text : Text) : Divided isSep s (splitFrom isSep s text) := by
  induction text generalizing s with
  | nil => exact .last (undivided_nil s)
  | cons c text ih =>
      cases hc : s.separates isSep c with
      | true =>
          have htop : s.isTop = true := by
            simp only [Nesting.separates, Bool.and_eq_true] at hc
            exact hc.1.1.1
          rw [splitFrom_of_separates hc]
          -- Nothing is open here, so the scan begins anew behind the separator.
          obtain rfl := Nesting.eq_empty_of_isTop htop
          exact .more (undivided_nil _) htop (ih _)
      | false =>
          rw [splitFrom_cons hc]
          exact (ih (s.step c)).cons hc

/-! ## Whole texts -/

theorem splitTopLevel_nil : splitTopLevel isSep [] = [] := rfl

theorem splitTopLevel_of_ne_nil {text : Text} (h : text ≠ []) : splitTopLevel isSep text = splitFrom isSep {} text :=
  if_neg (by simpa using h)

/-- **A division loses nothing.** -/
theorem join_splitTopLevel (sep : Char) (text : Text) : join [sep] (splitTopLevel (· == sep) text) = text := by
  by_cases h : text = []
  · rw [h]
    rfl
  · rw [splitTopLevel_of_ne_nil h, join_splitFrom]

variable (isSep) in
/-- A text has no pieces, or pieces that divide no further. -/
theorem eq_nil_or_divided (text : Text) :
    splitTopLevel isSep text = [] ∨ Divided isSep {} (splitTopLevel isSep text) := by
  by_cases h : text = []
  · exact .inl (h ▸ splitTopLevel_nil)
  · exact .inr (splitTopLevel_of_ne_nil h ▸ divided_splitFrom {} text)

theorem splitTopLevel_piece {text piece : Text} (h : piece ∈ splitTopLevel isSep text) (hne : piece ≠ []) :
    splitTopLevel isSep piece = [piece] := by
  rw [splitTopLevel_of_ne_nil hne]
  cases eq_nil_or_divided isSep text with
  | inl hnil => simp [hnil] at h
  | inr hdivided => exact hdivided.undivided piece h

theorem isTop_after_piece {text piece : Text} (h : piece ∈ (splitTopLevel isSep text).dropLast) :
    (({} : Nesting).after piece).isTop = true := by
  cases eq_nil_or_divided isSep text with
  | inl hnil => simp [hnil] at h
  | inr hdivided => exact hdivided.isTop_after piece h

/-- The pieces of a text, where the empty text counts as one empty piece. -/
def piecesOf (isSep : Char → Bool) (text : Text) : List Text := if text = [] then [[]] else splitTopLevel isSep text

theorem piecesOf_eq (text : Text) : piecesOf isSep text = splitFrom isSep {} text := by
  by_cases h : text = []
  · rw [h]
    rfl
  · rw [piecesOf, if_neg h, splitTopLevel_of_ne_nil h]

/-- Behind a text that leaves nothing open a separator divides. -/
theorem splitTopLevel_append {sep : Char} (hquote : isQuote sep = false) (hopener : closerOf? sep = none) {front : Text}
    (h : (({} : Nesting).after front).isTop = true) (back : Text) :
    splitTopLevel (· == sep) (front ++ sep :: back) = piecesOf (· == sep) front ++ piecesOf (· == sep) back := by
  rw [splitTopLevel_of_ne_nil (by simp), splitFrom_append_top hquote hopener h, piecesOf_eq, piecesOf_eq]

/-- **The pieces of a text are exact.** Joined with the separator they are the text; none of them that is not empty
divides any further, and none but the last one leaves a quote or a bracket open; and if `front` leaves none open, and
the separator opens none itself, the pieces of `front` and `back` with a separator between them are those of `front`
and then those of `back`. -/
theorem splitTopLevel_exact (sep : Char) :
    (∀ text, join [sep] (splitTopLevel (· == sep) text) = text) ∧
    (∀ text, ∀ piece ∈ splitTopLevel (· == sep) text, piece ≠ [] → splitTopLevel (· == sep) piece = [piece]) ∧
    (∀ text, ∀ piece ∈ (splitTopLevel (· == sep) text).dropLast, (({} : Nesting).after piece).isTop = true) ∧
    (isQuote sep = false → closerOf? sep = none → ∀ front back, (({} : Nesting).after front).isTop = true →
      splitTopLevel (· == sep) (front ++ sep :: back) = piecesOf (· == sep) front ++ piecesOf (· == sep) back) :=
  ⟨join_splitTopLevel sep, fun _ _ => splitTopLevel_piece, fun _ _ => isTop_after_piece,
    fun hquote hopener _ back h => splitTopLevel_append hquote hopener h back⟩

/-- Brackets that do not fit, commas in quotes and in brackets, and an open bracket at the end. -/
theorem splitTopLevel_crossed :
    splitTopLevel (· == ',') "f(a, ')', b], c)".toList = ["f(a, ')', b], c)".toList] ∧
      (({} : Nesting).after "f(a, ')', b], c)".toList).isTop = true ∧
      splitTopLevel (· == ',') ("f(a, ')', b], c),]".toList ++ ',' :: "['d, e".toList) =
        ["f(a, ')', b], c)".toList, "]".toList, "['d, e".toList] := by
  obtain ⟨-, hpiece, htop, happend⟩ := splitTopLevel_exact ','
  refine ⟨?_, ?_, ?_⟩
  · exact hpiece "f(a, ')', b], c),]".toList "f(a, ')', b], c)".toList (by decide) (by decide)
  · exact htop "f(a, ')', b], c),]".toList "f(a, ')', b], c)".toList (by decide)
  · rw [happend rfl rfl "f(a, ')', b], c),]".toList "['d, e".toList (by decide)]
    decide

end SpecAtlas
