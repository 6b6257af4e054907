import SpecAtlas.Source.Statement
import SpecAtlas.Proofs.Source.Comment
import SpecAtlas.Proofs.Source.RowSeparator

/-!
# Rows as they are written

A row of a data table is its cells with gaps between them: a bar or a semicolon, single or doubled, with
a space on either side. The separators of a row are all made of one character, but it may stand single in
one gap and doubled in the next.

The cells hold no character that divides rows. So a written row comes apart into the cells that it was made of
(`cells_text`), and its line is read as that row (`readLine_row`).
-/

namespace SpecAtlas.Source

open Text

/-! ## Written rows -/

/-- The characters that divide rows, or tell a row from other lines. -/
def reserved : List Char := ['|', ';', '<', '=', '/', '*']

/-- A cell of a data table. -/
structure Cell where
  text : Text
  nonempty : text ≠ []
  trimmed : trim text = text
  plain : ∀ c ∈ reserved, c ∉ text

/-- A cell of one character. -/
def Cell.ofChar (c : Char) (h : isBlank c = false ∧ c ∉ reserved) : Cell where
  text := [c]
  nonempty := List.cons_ne_nil c []
  trimmed := trim_of_ends (fun _ hx => Option.some.inj hx ▸ h.1) fun _ hx => Option.some.inj hx ▸ h.1
  plain _ hx hm := h.2 (List.mem_singleton.1 hm ▸ hx)

/-- The text of a row: a cell, and then the other cells, each with what stands in front of it: a separator
made of `c`, doubled or not. -/
def rowText (c : Char) (first : Cell) : List (Bool × Cell) → Text
  | [] => first.text
  | (isDouble, cell) :: rest => first.text ++ (gap ⟨c, isDouble⟩ ++ rowText c cell rest)

/-- A row of at least two cells. Its separators are made of one character, and each is doubled or not. -/
structure WrittenRow where
  char : Char
  separating : isSeparating char
  first : Cell
  rest : List (Bool × Cell)
  several : rest ≠ []

namespace WrittenRow

/-- The text of a row. -/
def text (r : WrittenRow) : Text := rowText r.char r.first r.rest

/-- The cells of a row. -/
def cells (r : WrittenRow) : List Text := r.first.text :: r.rest.map (·.2.text)

end WrittenRow

section

variable {c : Char}

/-- The characters of a row are those of its cells, spaces, and the character of its separators. -/
theorem mem_rowText {first : Cell} {rest : List (Bool × Cell)} {x : Char} (h : x ∈ rowText c first rest) :
    (∃ text ∈ first.text :: rest.map (·.2.text), x ∈ text) ∨ x = ' ' ∨ x = c := by
  induction rest generalizing first with
  | nil => exact .inl ⟨first.text, List.mem_cons_self, h⟩
  | cons next rest ih =>
      obtain ⟨isDouble, cell⟩ := next
      rw [rowText, List.mem_append, List.mem_append] at h
      rcases h with hfirst | hgap | hrest
      · exact .inl ⟨first.text, List.mem_cons_self, hfirst⟩
      · right
        cases isDouble <;> simpa [gap, Separator.text, or_comm, or_left_comm] using hgap
      · rcases ih hrest with ⟨text, htext, hx⟩ | hother
        · exact .inl ⟨text, List.mem_cons_of_mem _ htext, hx⟩
        · exact .inr hother

/-- A written row is not empty, and neither is its first cell. -/
theorem rowText_ne_nil (first : Cell) (rest : List (Bool × Cell)) : rowText c first rest ≠ [] := by
  cases rest with
  | nil => exact first.nonempty
  | cons next rest => exact fun hnil => first.nonempty (List.append_eq_nil_iff.1 hnil).1

/-- A written row has no white space at its ends. -/
theorem trim_rowText (first : Cell) (rest : List (Bool × Cell)) :
    trim (rowText c first rest) = rowText c first rest := by
  have hlast : ∀ x ∈ (rowText c first rest).getLast?, isBlank x = false := by
    induction rest generalizing first with
    | nil => exact getLast?_of_trim first.trimmed
    | cons next rest ih =>
        rw [rowText, ← List.append_assoc, List.getLast?_append_of_ne_nil _ (rowText_ne_nil _ _)]
        exact ih next.2
  have hhead : (rowText c first rest).head? = first.text.head? := by
    cases rest with
    | nil => rfl
    | cons next rest => exact List.head?_append_of_ne_nil _ first.nonempty
  refine trim_of_ends (fun x hx => ?_) hlast
  rw [hhead] at hx
  exact head?_of_trim first.trimmed x hx

theorem rowText_eq_spread (first : Cell) (rest : List (Bool × Cell)) :
    rowText c first rest = spread c first.text (rest.map fun next => (next.1, next.2.text)) := by
  induction rest generalizing first with
  | nil => rfl
  | cons next rest ih => rw [rowText, ih, List.map_cons, spread]

theorem Cell.isCell (cell : Cell) (hc : isSeparating c) : IsCell c cell.text where
  nonempty := cell.nonempty
  trimmed := cell.trimmed
  undivided := cell.plain c (by rcases hc with rfl | rfl <;> decide)

/-- The parts of a written row are its cells. -/
theorem filled_rowText (hc : isSeparating c) (first : Cell) (rest : List (Bool × Cell)) :
    filled (pieces c (rowText c first rest)) = first.text :: rest.map (·.2.text) := by
  have hcells : ∀ text ∈ first.text :: (rest.map fun next => (next.1, next.2.text)).map (·.2), IsCell c text := by
    intro text htext
    rcases List.mem_cons.1 htext with rfl | hrest
    · exact first.isCell hc
    · simp only [List.map_map, List.mem_map] at hrest
      obtain ⟨next, -, rfl⟩ := hrest
      exact next.2.isCell hc
  have hparts := filled_spread hc hcells
  rw [List.map_map] at hparts
  rw [rowText_eq_spread, hparts]
  rfl

end

namespace WrittenRow

variable (r : WrittenRow)

/-- The separators of a row are the only reserved characters in it. -/
theorem eq_char_of_mem_text {x : Char} (hx : x ∈ reserved) (h : x ∈ r.text) : x = r.char := by
  rcases mem_rowText h with ⟨text, htext, hmem⟩ | hspace | hchar
  · have hcell : ∃ cell : Cell, cell.text = text := by
      rcases List.mem_cons.1 htext with he | hrest
      · exact ⟨r.first, he.symm⟩
      · obtain ⟨next, -, he⟩ := List.mem_map.1 hrest
        exact ⟨next.2, he⟩
    obtain ⟨cell, rfl⟩ := hcell
    exact absurd hmem (cell.plain x hx)
  · rw [hspace] at hx
    contradiction
  · exact hchar

theorem char_mem_text : r.char ∈ r.text := by
  obtain ⟨⟨isDouble, cell⟩, rest, hrest⟩ := List.exists_cons_of_ne_nil r.several
  rw [text, hrest, rowText]
  cases isDouble <;> simp [gap, Separator.text]

theorem trim_text : trim r.text = r.text := trim_rowText r.first r.rest

/-- The cells of a written row are those that it was made of. -/
theorem cells_text : Source.cells r.text = r.cells := by
  have honly : ∀ d ∈ r.text, isSeparating d → d = r.char :=
    fun d hd hs => r.eq_char_of_mem_text (by rcases hs with rfl | rfl <;> decide) hd
  obtain ⟨s, hs, hchar⟩ := exists_separator? r.separating r.char_mem_text honly
  rw [Source.cells, hs]
  dsimp only
  rw [filled_split, hchar]
  exact filled_rowText r.separating r.first r.rest

end WrittenRow

/-! ## Lines -/

theorem startsWith_of_not_mem {l : Char} {text : Text} (h : l ∉ text) (lead : Text) :
    startsWith (l :: lead) text = false := by
  cases text with
  | nil => rfl
  | cons c text =>
      have hc : l ≠ c := fun he => h (he ▸ List.mem_cons_self)
      rw [startsWith, after?, if_neg hc]
      rfl

/-- Without an arrow there is no expression. -/
theorem expression?_of_not_mem {text : Text} (h : '<' ∉ text) : expression? text = none := by
  have hleft : '<' ∉ trimLeft text := fun hm => h ((List.dropWhile_sublist _).subset hm)
  have hafter : after? "<<".toList (trimLeft text) = none :=
    Option.not_isSome_iff_eq_none.1 (Bool.eq_false_iff.1 (startsWith_of_not_mem hleft ['<']))
  rw [expression?, hafter]
  rfl

/-- Without an arrow a line is no pipe. -/
theorem noPipe_of_not_mem {text : Text} (h : '<' ∉ text) : (severalPipe? text).or (onePipe? text) = none := by
  have hone : onePipe? text = none := by
    have hrest : '<' ∉ text.dropWhile isWord := fun hm => h ((List.dropWhile_sublist _).subset hm)
    simp only [onePipe?, expression?_of_not_mem hrest, Option.map_none, ite_self]
  have hseveral : severalPipe? text = none := by
    unfold severalPipe?
    split
    · rename_i rest
      split
      · rfl
      · rename_i names behind _ hcut
        have hbehind : '<' ∉ behind := by
          intro hm
          rw [eq_of_cut? hcut] at h
          exact h (List.mem_cons_of_mem _ (List.mem_append_right _ hm))
        rw [expression?_of_not_mem hbehind, Option.map_none]
      · rfl
    · rfl
  rw [hseveral, hone, Option.none_or]

/-- Without an equals sign a line is no assignment. -/
theorem isAssignment_of_not_mem {text : Text} (h : '=' ∉ text) : isAssignment text = false := by
  have hleft : '=' ∉ trimLeft (text.dropWhile isWord) := fun hm =>
    h ((List.dropWhile_sublist _).subset ((List.dropWhile_sublist _).subset hm))
  unfold isAssignment
  split
  · rename_i rest hrest
    exact absurd (hrest ▸ List.mem_cons_self) hleft
  · exact Bool.and_false _

/-- A line that is a written row with blanks around it is read as that row. -/
theorem readLine_row {line : NumberedLine} {r : WrittenRow} (h : trim line.text = r.text) :
    readLine line = .row r.cells := by
  have hnot : ∀ x ∈ reserved, ¬ isSeparating x → x ∉ r.text := by
    intro x hx hother hm
    exact hother (r.eq_char_of_mem_text hx hm ▸ r.separating)
  have hslash : '/' ∉ r.text := hnot _ (by decide) (by simp [isSeparating])
  have hstar : '*' ∉ r.text := hnot _ (by decide) (by simp [isSeparating])
  have harrow : '<' ∉ r.text := hnot _ (by decide) (by simp [isSeparating])
  have hequals : '=' ∉ r.text := hnot _ (by decide) (by simp [isSeparating])
  have hcontent : content line = r.text := by rw [content, h, stripComment_of_unmarked (not_infix_of_not_mem hslash)]
  have hempty : r.text.isEmpty = false := List.isEmpty_eq_false_iff.2 (rowText_ne_nil r.first r.rest)
  have hcomment : isComment r.text = false := by
    have h1 : startsWith "//".toList r.text = false := startsWith_of_not_mem hslash _
    have h2 : startsWith "/*".toList r.text = false := startsWith_of_not_mem hslash _
    have h3 : startsWith "*".toList r.text = false := startsWith_of_not_mem hstar _
    rw [isComment, h1, h2, h3]
    rfl
  have hmark : hasMark "<<".toList r.text = false := by
    have hcut : cut? "<<".toList r.text = none := cut?_of_isClear (by decide) (isClear_of_not_mem harrow)
    rw [hasMark, hcut]
    rfl
  simp only [readLine, hcontent, hempty, hcomment, Bool.or_self, Bool.false_eq_true, if_false,
    noPipe_of_not_mem harrow, hmark, isAssignment_of_not_mem hequals, r.cells_text]

end SpecAtlas.Source
