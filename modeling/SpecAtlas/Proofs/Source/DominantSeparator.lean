import SpecAtlas.Proofs.Source.RowSeparator

/-!
# Rows with a dominant separator

The cells of a row may hold the character that does not divide it: bars in a row that semicolons divide, and
semicolons in a row that bars divide. As long as either form of that character is rarer than the more frequent form of
the dividing one, the row is divided as it was put together, however single and doubled separators are mixed
(`cells_of_dominant`).
-/

namespace SpecAtlas.Source

open Text

/-- The separating character that is not `c`. -/
def rival (c : Char) : Char := if c = '|' then ';' else '|'

/-- The separators are the two forms of either character. -/
theorem mem_separators_iff {c : Char} (hc : isSeparating c) {s : Separator} :
    s ∈ separators ↔ s.char = c ∨ s.char = rival c := by
  obtain ⟨char, isDouble⟩ := s
  rcases hc with rfl | rfl <;> cases isDouble <;> simp [separators, rival, or_comm]

/-- A row is divided at a character if one of its forms is more frequent than both forms of the other character. -/
theorem separator?_of_dominant {row : Text} {c : Char} (hc : isSeparating c) {isDouble : Bool}
    (h : ∀ other, (⟨rival c, other⟩ : Separator).occurrences row < (⟨c, isDouble⟩ : Separator).occurrences row) :
    ∃ s, separator? row = some s ∧ s.char = c := by
  have hmem : (⟨c, isDouble⟩ : Separator) ∈ separators := (mem_separators_iff hc).2 (.inl rfl)
  cases hbest : mostFrequent row separators with
  | none =>
      rw [mostFrequent_eq_none hbest _ hmem] at h
      exact absurd (h false) (Nat.not_lt_zero _)
  | some best =>
      obtain ⟨hs, hn, -⟩ := mostFrequent_eq_some hbest
      refine ⟨best.1, by rw [separator?, hbest]; rfl, ((mem_separators_iff hc).1 hs).resolve_right fun hrival => ?_⟩
      have hmost := le_of_mostFrequent hbest hmem
      have hrarer := h best.1.isDouble
      rw [← hrival, ← hn] at hrarer
      exact absurd hmost (Nat.not_le_of_lt hrarer)

/-- A row of at least two cells. Its separators are made of one character that the cells do not hold, and each is
doubled or not. -/
structure MixedRow where
  char : Char
  separating : isSeparating char
  first : Text
  rest : List (Bool × Text)
  several : rest ≠ []
  cell : ∀ text ∈ first :: rest.map (·.2), IsCell char text

namespace MixedRow

variable (r : MixedRow)

/-- The text of a row. -/
def text : Text := spread r.char r.first r.rest

/-- The cells of a row. -/
def cells : List Text := r.first :: r.rest.map (·.2)

/-- The number of gaps with a single separator, or with a doubled one. -/
def gaps (isDouble : Bool) : Nat := r.rest.countP (·.1 == isDouble)

/-- A separator occurs as often as there are gaps with it. -/
theorem occurrences_text (isDouble : Bool) :
    (⟨r.char, isDouble⟩ : Separator).occurrences r.text = r.gaps isDouble := by
  cases isDouble with
  | false =>
      have hcount := countAlone_spread r.separating r.cell
      simp only [gaps, beq_false]
      exact hcount
  | true =>
      have hcount := occurrences_spread r.separating r.cell
      simp only [gaps, beq_true]
      exact hcount

end MixedRow

/-- **A dominant separator divides a row into its cells**: if either form of the other separating character is rarer in
the row than the more frequent kind of gap, the row comes apart into the cells that it was made of. -/
theorem cells_of_dominant (r : MixedRow)
    (h : ∀ isDouble, (⟨rival r.char, isDouble⟩ : Separator).occurrences r.text < max (r.gaps false) (r.gaps true)) :
    cells r.text = r.cells := by
  -- The more frequent kind of gap tells the form that is dominant.
  have hdominant : ∃ isDouble, ∀ other,
      (⟨rival r.char, other⟩ : Separator).occurrences r.text < (⟨r.char, isDouble⟩ : Separator).occurrences r.text := by
    simp only [r.occurrences_text]
    rcases Nat.le_total (r.gaps false) (r.gaps true) with hle | hle
    · exact ⟨true, fun other => Nat.max_eq_right hle ▸ h other⟩
    · exact ⟨false, fun other => Nat.max_eq_left hle ▸ h other⟩
  obtain ⟨isDouble, hrarer⟩ := hdominant
  obtain ⟨s, hs, hchar⟩ := separator?_of_dominant r.separating hrarer
  rw [cells, hs]
  dsimp only
  rw [filled_split, hchar]
  exact filled_spread r.separating r.cell

/-- Semicolons of both forms divide cells that hold bars of both forms. -/
def mixedBars : MixedRow where
  char := ';'
  separating := isSeparating_semicolon
  first := "a | b".toList
  rest := [(false, "c || d".toList), (true, "e".toList), (true, "\"f g\"".toList)]
  several := List.cons_ne_nil _ _
  cell := by
    intro text htext
    simp only [List.map_cons, List.map_nil, List.mem_cons, List.not_mem_nil, or_false] at htext
    rcases htext with rfl | rfl | rfl | rfl <;> exact ⟨by decide, by decide, by decide⟩

theorem cells_mixedBars :
    mixedBars.text = "a | b ; c || d ;; e ;; \"f g\"".toList ∧
      (∀ isDouble, (⟨rival mixedBars.char, isDouble⟩ : Separator).occurrences mixedBars.text <
        max (mixedBars.gaps false) (mixedBars.gaps true)) ∧
      cells "a | b ; c || d ;; e ;; \"f g\"".toList =
        ["a | b".toList, "c || d".toList, "e".toList, "\"f g\"".toList] := by
  have htext : mixedBars.text = "a | b ; c || d ;; e ;; \"f g\"".toList := rfl
  have hrarer : ∀ isDouble, (⟨rival mixedBars.char, isDouble⟩ : Separator).occurrences mixedBars.text <
      max (mixedBars.gaps false) (mixedBars.gaps true) := by decide +kernel
  have hcells := cells_of_dominant mixedBars hrarer
  rw [htext] at hcells
  exact ⟨htext, hrarer, hcells⟩

end SpecAtlas.Source
