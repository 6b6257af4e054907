import SpecAtlas.Source.WhereBlock
import SpecAtlas.Source.Iteration

/-!
# Where a where-block lies

The span of a where-block lies inside the file: its label is a line of the file that is not above the
heading, and it closes below its label, at the latest behind the last line (`findBlock?_bounds`). The
lines of its body are the lines of the file between the two, each under its own number
(`mem_body`), in order (`pairwise_body`).
-/

namespace SpecAtlas.Source

open Text

/-! ## The span -/

theorem closingLine_bounds (index : Nat) (lines : List Text) :
    index ≤ closingLine index lines ∧ closingLine index lines ≤ index + lines.length := by
  fun_induction closingLine index lines with
  | case1 index => exact ⟨Nat.le_refl _, Nat.le_refl _⟩
  | case2 index line rest hclose => exact ⟨Nat.le_refl _, Nat.le_add_right _ _⟩
  | case3 index line rest hclose ih =>
      rw [List.length_cons]
      omega

/-- The closing line is the first one that is found. -/
theorem closingLine_append {index : Nat} {lines : List Text} (h : ∀ line ∈ lines, isClosing (trim line) = false)
    {closing : Text} (hclosing : isClosing (trim closing) = true) (rest : List Text) :
    closingLine index (lines ++ closing :: rest) = index + lines.length := by
  induction lines generalizing index with
  | nil => exact if_pos hclosing
  | cons line lines ih =>
      have hline : ¬ isClosing (trim line) = true := by simp [h line List.mem_cons_self]
      rw [List.cons_append, closingLine, if_neg hline, ih fun l hl => h l (List.mem_cons_of_mem _ hl),
        List.length_cons]
      omega

/-- The label is one of the lines, and the block closes behind it. -/
theorem seekBlock_bounds {index : Nat} {balance : Int} {opened : Bool} {lines : List Text} {block : BlockSpan}
    (h : seekBlock index balance opened lines = some block) :
    (∃ k line, lines[k]? = some line ∧ block.label = index + k ∧ trim line = whereLabel) ∧
      block.label < block.close ∧ block.close ≤ index + lines.length := by
  fun_induction seekBlock index balance opened lines with
  | case1 => contradiction
  | case2 index balance opened line rest hlabel =>
      cases h
      obtain ⟨hlow, hhigh⟩ := closingLine_bounds (index + 1) rest
      refine ⟨⟨0, line, rfl, rfl, hlabel⟩, hlow, ?_⟩
      rw [List.length_cons]
      show closingLine (index + 1) rest ≤ _
      omega
  | case3 => contradiction
  | case4 index balance opened line rest hlabel opened' balance' hout ih =>
      obtain ⟨⟨k, l, hl, hk, hw⟩, hlt, hle⟩ := ih h
      refine ⟨⟨k + 1, l, hl, by omega, hw⟩, hlt, ?_⟩
      rw [List.length_cons]
      omega

/-- A where-block lies below the heading that it is looked for from, inside the file. -/
theorem findBlock?_bounds {lines : List Text} {start : Nat} {block : BlockSpan}
    (h : findBlock? lines start = some block) :
    start ≤ block.label ∧ (∃ line, lines[block.label]? = some line ∧ trim line = whereLabel) ∧
      block.label < block.close ∧ block.close ≤ lines.length := by
  obtain ⟨⟨k, line, hl, hk, hw⟩, hlt, hle⟩ := seekBlock_bounds h
  rw [List.getElem?_drop] at hl
  rw [List.length_drop] at hle
  obtain ⟨hlength, -⟩ := List.getElem?_eq_some_iff.1 hl
  refine ⟨by omega, ⟨line, ?_, hw⟩, hlt, by omega⟩
  rwa [hk]

/-! ## The body -/

namespace BlockSpan

/-- The line at a place of a body is the line of the file that it has the number of. -/
theorem getElem?_body (block : BlockSpan) (lines : List Text) (k : Nat) :
    (block.body lines)[k]? =
      if k < block.close - (block.label + 1) then
        lines[block.label + 1 + k]?.map (NumberedLine.mk (block.label + 1 + k))
      else none := by
  simp only [body, List.getElem?_map, List.getElem?_zipIdx, List.getElem?_take, List.getElem?_drop]
  split
  · rw [Option.map_map]
    rfl
  · rfl

/-- The lines of a body are lines of the file, strictly between the label and the closing line. -/
theorem mem_body {block : BlockSpan} {lines : List Text} {line : NumberedLine} (h : line ∈ block.body lines) :
    block.label < line.number ∧ line.number < block.close ∧ lines[line.number]? = some line.text := by
  obtain ⟨k, hk⟩ := List.mem_iff_getElem?.1 h
  rw [getElem?_body] at hk
  split at hk
  · obtain ⟨text, hget, rfl⟩ := Option.map_eq_some_iff.1 hk
    refine ⟨?_, ?_, hget⟩
    · show block.label < block.label + 1 + k
      omega
    · show block.label + 1 + k < block.close
      omega
  · contradiction

/-- The lines of a body come in order. -/
theorem pairwise_body (block : BlockSpan) (lines : List Text) :
    (block.body lines).Pairwise fun a b => a.number < b.number := by
  have hnumbers : (((lines.drop (block.label + 1)).take (block.close - (block.label + 1))).zipIdx
      (block.label + 1)).Pairwise fun a b => a.2 < b.2 := by
    rw [← List.pairwise_map (f := Prod.snd) (R := (· < ·)), List.zipIdx_map_snd]
    exact List.pairwise_lt_range' 1
  exact List.pairwise_map.2 hnumbers

end BlockSpan

end SpecAtlas.Source
