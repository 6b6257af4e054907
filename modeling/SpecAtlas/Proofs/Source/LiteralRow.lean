import SpecAtlas.Proofs.Source.TextPipe

/-!
# Rows of numbers and quoted texts

A row of literals is whole numbers and quoted texts with a bar and spaces between them. The texts may hold
anything but quotes. No comment begins in them (`LiteralRow.content_line`), but what divides the row is found
without a look at the quotes:

1. The bars between the cells are as many lone bars (`countAlone_bar`), so the row is divided at bars if
   semicolons are rarer, by the rule for the most frequent separator (`separator?_bar_iff`).
2. Divided at bars, the row gives its cells if none of them has a bar in it (`filled_pieces_bar`). Otherwise
   the first cell that has one is cut, and what is left of it is not its text (`coerce_cut`).
3. Divided at semicolons, the row has more than its first cell in its first part, or less (`coerce_long`).

So `LiteralRow.Undivided` says exactly which rows are read as their cells.
-/

namespace SpecAtlas.Source

open Text

/-! ## Cells -/

/-- A cell that is a whole number, or a text in quotes without quotes in it. -/
inductive LiteralCell where
  | whole (isNegative : Bool) (digits : Text) (some : digits ≠ []) (decimal : digits.all isDigit = true)
    (short : digits.length ≤ Numeral.limit)
  | quoted (quote : Quote) (content : Text) (unquoted : content.any isQuote = false)

namespace LiteralCell

/-- A cell as it is written. -/
def text : LiteralCell → Text
  | whole isNegative digits _ _ _ => if isNegative then '-' :: digits else digits
  | quoted quote content _ => quote.mark :: (content ++ [quote.mark])

/-- The value that a cell stands for. -/
def value : LiteralCell → Value
  | whole isNegative digits _ _ _ => .int (if isNegative then -(Numeral.value digits : Int) else Numeral.value digits)
  | quoted _ content _ => .text content

variable (cell : LiteralCell)

theorem not_mem_content {content : Text} (h : content.any isQuote = false) (quote : Quote) : quote.mark ∉ content :=
  fun hm => List.any_eq_false.1 h _ hm quote.isQuote

/-- The text of a number is a whole number. -/
theorem isWhole_whole {isNegative : Bool} {digits : Text} (hsome : digits ≠ []) (hdecimal : digits.all isDigit = true) :
    Literal.isWhole (if isNegative then '-' :: digits else digits) = true :=
  Literal.isWhole_iff.2 ⟨digits, hsome, hdecimal, by cases isNegative <;> simp⟩

theorem trim_text : trim cell.text = cell.text := by
  cases cell with
  | whole isNegative digits hsome hdecimal hshort => exact Literal.trim_of_isWhole (isWhole_whole hsome hdecimal)
  | quoted quote content => exact trim_enclosed (isBlank_of_isQuote quote.isQuote) (isBlank_of_isQuote quote.isQuote) _

theorem text_ne_nil : cell.text ≠ [] := by
  cases cell with
  | whole isNegative digits hsome => cases isNegative <;> simp [text, hsome]
  | quoted quote content => exact List.cons_ne_nil _ _

/-- A cell is read as its value. -/
theorem coerce_text : coerce cell.text = .ok cell.value := by
  cases cell with
  | whole isNegative digits hsome hdecimal hshort =>
      have hwhole : Literal.isWhole (if isNegative then '-' :: digits else digits) = true := isWhole_whole hsome hdecimal
      have hread : Numeral.readNat digits = .ok (Numeral.value digits) := if_pos hshort
      rw [text, coerce, Literal.trim_of_isWhole hwhole, Literal.ofTrimmed, if_pos hwhole]
      cases isNegative with
      | true =>
          rw [if_pos rfl, Numeral.readInt, hread]
          rfl
      | false =>
          rw [if_neg Bool.false_ne_true, Literal.readInt_of_digits hdecimal, hread]
          rfl
  | quoted quote content => exact coerce_quoted quote.isQuote content

/-- No comment begins in a cell. -/
theorem uncommented_text : Uncommented cell.text := by
  cases cell with
  | whole isNegative digits hsome hdecimal hshort =>
      have hquote := any_isQuote_of_not_mem (not_mem_of_all hdecimal (by decide)) (not_mem_of_all hdecimal (by decide))
      have hslash : '/' ∉ digits := not_mem_of_all hdecimal (by decide)
      cases isNegative with
      | true => exact uncommented_of_not_mem (by simp [text, hslash]) (by rw [text, if_pos rfl, List.any_cons, hquote]; rfl)
      | false => exact uncommented_of_not_mem hslash hquote
  | quoted quote content hcontent => exact uncommented_quoted quote.isQuote (not_mem_content hcontent quote)

/-- A cell begins with a digit, a minus sign or a quote. -/
theorem exists_text_eq_cons : ∃ c rest, cell.text = c :: rest ∧ (isDigit c = true ∨ c = '-' ∨ isQuote c = true) := by
  cases cell with
  | whole isNegative digits hsome hdecimal =>
      cases isNegative with
      | true => exact ⟨'-', digits, rfl, .inr (.inl rfl)⟩
      | false =>
          obtain ⟨d, rest, rfl⟩ := List.exists_cons_of_ne_nil hsome
          exact ⟨d, rest, rfl, .inl (List.all_eq_true.1 hdecimal d List.mem_cons_self)⟩
  | quoted quote content => exact ⟨quote.mark, content ++ [quote.mark], rfl, .inr (.inr quote.isQuote)⟩

/-- What is neither a digit nor a sign nor a quote can only stand in a quoted text. -/
theorem exists_of_mem_text {c : Char} (hdigit : isDigit c = false) (hsign : c ≠ '-') (hquote : isQuote c = false)
    (h : c ∈ cell.text) : ∃ quote content unquoted, cell = quoted quote content unquoted ∧ c ∈ content := by
  cases cell with
  | whole isNegative digits hsome hdecimal =>
      have hdigits : c ∉ digits := not_mem_of_all hdecimal hdigit
      cases isNegative <;> simp [text, hdigits, hsign] at h
  | quoted quote content hcontent =>
      have hne : c ≠ quote.mark := fun he => by
        rw [he, quote.isQuote] at hquote
        contradiction
      exact ⟨quote, content, hcontent, rfl, by simpa [text, hne] using h⟩

end LiteralCell

/-! ## Texts -/

/-- Identifiers begin with letters of ASCII or an underscore, and digits have other places. -/
theorem digitRanges_apart_letters : (digitRanges.all fun d => d.2 < 65 || 122 < d.1) = true := by
  decide +kernel

/-- An identifier does not begin with a digit. -/
theorem isDigit_of_isIdentStart {c : Char} (h : isIdentStart c = true) : isDigit c = false := by
  have hletter : 65 ≤ c.toNat ∧ c.toNat ≤ 122 := by
    delta isIdentStart Char.isAlpha Char.isUpper Char.isLower at h
    simp only [Bool.or_eq_true, Bool.and_eq_true, decide_eq_true_eq, beq_iff_eq, UInt32.le_iff_toNat_le, ge_iff_le] at h
    have hval : c.toNat = c.val.toNat := rfl
    have hA : 'A'.val.toNat = 65 := rfl
    have hZ : 'Z'.val.toNat = 90 := rfl
    have ha : 'a'.val.toNat = 97 := rfl
    have hz : 'z'.val.toNat = 122 := rfl
    rcases h with h | rfl
    · omega
    · decide
  rw [← Bool.not_eq_true]
  intro hdigit
  obtain ⟨d, hd⟩ := Option.isSome_iff_exists.1 hdigit
  obtain ⟨r, hr, hlow, hhigh⟩ := Numeral.exists_of_digitIn hd
  have happart := List.all_eq_true.1 digitRanges_apart_letters r hr
  simp only [Bool.or_eq_true, decide_eq_true_eq] at happart
  omega

/-! ## Rows -/

/-- What stands between two cells. -/
def bar : Text := " | ".toList

/-- A row of at least two cells, with white space in front. -/
structure LiteralRow where
  indent : Indent
  first : LiteralCell
  rest : List LiteralCell
  several : rest ≠ []

namespace LiteralRow

/-- The cells of a row. -/
def cells (r : LiteralRow) : List LiteralCell := r.first :: r.rest

/-- The text of a row. -/
def text (r : LiteralRow) : Text := join bar (r.cells.map LiteralCell.text)

/-- The line of a row. -/
def line (r : LiteralRow) : Text := r.indent.text ++ r.text

/-- **When nothing in the quotes divides a row**: no text holds a bar or an arrow, and the row has fewer
doubled semicolons than bars, and not more semicolons that stand alone. -/
structure Undivided (r : LiteralRow) : Prop where
  noArrow : ¬ "<<".toList <:+: r.text
  noBar : ∀ cell ∈ r.cells, '|' ∉ cell.text
  fewDoubled : Text.occurrences ";;".toList r.text < r.rest.length
  fewAlone : countAlone ';' false r.text ≤ r.rest.length

end LiteralRow

/-! ### The bars of a row -/

/-- A row of literals has single bars between its cells. -/
theorem join_bar (first : LiteralCell) (rest : List LiteralCell) :
    join bar ((first :: rest).map LiteralCell.text) = spread '|' first.text (rest.map fun cell => (false, cell.text)) := by
  induction rest generalizing first with
  | nil => simp [join, spread]
  | cons next rest ih =>
      rw [List.map_cons, join_cons_of_ne_nil _ _ (by simp), ih, List.map_cons, spread, List.append_assoc]
      rfl

theorem LiteralCell.isCell {cell : LiteralCell} (h : '|' ∉ cell.text) : IsCell '|' cell.text :=
  ⟨cell.text_ne_nil, cell.trim_text, h⟩

section

variable {first : LiteralCell} {rest : List LiteralCell}

theorem isCell_of_mem (h : ∀ cell ∈ first :: rest, '|' ∉ cell.text) :
    ∀ text ∈ first.text :: (rest.map fun cell => (false, cell.text)).map (·.2), IsCell '|' text := by
  intro text htext
  rcases List.mem_cons.1 htext with rfl | hrest
  · exact LiteralCell.isCell (h first List.mem_cons_self)
  · simp only [List.map_map, List.mem_map] at hrest
    obtain ⟨cell, hcell, rfl⟩ := hrest
    exact LiteralCell.isCell (h cell (List.mem_cons_of_mem first hcell))

/-- Between cells without bars there are as many lone bars as gaps. -/
theorem countAlone_bar (h : ∀ cell ∈ first :: rest, '|' ∉ cell.text) :
    countAlone '|' false (join bar ((first :: rest).map LiteralCell.text)) = rest.length := by
  rw [join_bar, countAlone_spread isSeparating_pipe (isCell_of_mem h), List.countP_map]
  exact congrFun List.countP_true rest

/-- Cells without bars make up no doubled bar. -/
theorem occurrences_doubled_bar (h : ∀ cell ∈ first :: rest, '|' ∉ cell.text) :
    Text.occurrences "||".toList (join bar ((first :: rest).map LiteralCell.text)) = 0 := by
  have hcount := occurrences_spread isSeparating_pipe (isCell_of_mem h)
  rw [List.countP_map] at hcount
  rw [join_bar]
  exact hcount.trans (congrFun List.countP_false rest)

end

/-- **A row in which all bars are lone ones is divided at bars if semicolons are rarer.** -/
theorem separator?_bar_iff {row : Text} (hdoubled : Text.occurrences "||".toList row = 0)
    (halone : 0 < countAlone '|' false row) :
    (∃ s, separator? row = some s ∧ s.char = '|') ↔
      Text.occurrences ";;".toList row < countAlone '|' false row ∧
        countAlone ';' false row ≤ countAlone '|' false row := by
  have hbars : (⟨'|', true⟩ : Separator).occurrences row = 0 := hdoubled
  have hbar : (⟨'|', false⟩ : Separator).occurrences row = countAlone '|' false row := rfl
  have hdoubles : (⟨';', true⟩ : Separator).occurrences row = Text.occurrences ";;".toList row := rfl
  have hsingle : (⟨';', false⟩ : Separator).occurrences row = countAlone ';' false row := rfl
  generalize countAlone '|' false row = bars at *
  generalize Text.occurrences ";;".toList row = doubles at *
  generalize countAlone ';' false row = singles at *
  -- The separators are compared from the last one on, and an earlier one wins a tie.
  have hlast : mostFrequent row [⟨'|', false⟩, ⟨';', false⟩] =
      some (if singles ≤ bars then (⟨'|', false⟩, bars) else (⟨';', false⟩, singles)) := by
    simp only [mostFrequent, hbar, hsingle]
    by_cases hzero : singles = 0
    · simp [hzero, Nat.ne_of_gt halone]
    · simp only [if_neg hzero]
      split <;> rfl
  rw [separator?, separators, mostFrequent_cons (mostFrequent_cons hlast _), hbars, hdoubles]
  simp only [Option.map_some, Option.some.injEq, exists_eq_left']
  by_cases hsingles : singles ≤ bars
  · by_cases hless : bars ≤ doubles
    · have hne : doubles ≠ 0 := by omega
      simp [hsingles, hless, hne]
    · have hne : bars ≠ 0 := by omega
      simp [hsingles, hless, hne, Nat.lt_of_not_le hless]
  · by_cases hless : singles ≤ doubles
    · have hne : doubles ≠ 0 := by omega
      simp [hsingles, hless, hne]
    · have hne : singles ≠ 0 := by omega
      simp [hsingles, hless, hne]

/-! ### Its parts -/

/-- A cell without a bar is the first part of a row that is divided at bars. -/
theorem filled_pieces_cons {cell : LiteralCell} (h : '|' ∉ cell.text) {rest : List LiteralCell} (hrest : rest ≠ [])
    (lead : Text) (hblank : allBlank lead = true) :
    filled (pieces '|' (lead ++ join bar ((cell :: rest).map LiteralCell.text))) =
      cell.text :: filled (pieces '|' ([' '] ++ join bar (rest.map LiteralCell.text))) := by
  obtain ⟨next, others, rfl⟩ := List.exists_cons_of_ne_nil hrest
  rw [join_bar, join_bar]
  exact filled_spread_cons isSeparating_pipe (LiteralCell.isCell h) hblank false _ _

/-- Cells without bars are the parts of a row that is divided at bars. -/
theorem filled_pieces_bar {first : LiteralCell} {rest : List LiteralCell} (h : ∀ cell ∈ first :: rest, '|' ∉ cell.text) :
    filled (pieces '|' (join bar ((first :: rest).map LiteralCell.text))) = (first :: rest).map LiteralCell.text := by
  have hparts := filled_spread isSeparating_pipe (isCell_of_mem h)
  rw [List.map_map] at hparts
  rw [join_bar, hparts]
  rfl

/-- **A cell that is cut is not read as its value.** If a character that divides the row stands in a text, the
first part of the row ends there, in front of the closing quote. -/
theorem coerce_cut {sep : Char} (hsep : isSeparating sep) {cell : LiteralCell} (h : sep ∈ cell.text) (lead : Text)
    (hblank : allBlank lead = true) (back : Text) :
    ∃ part rest, filled (pieces sep (lead ++ (cell.text ++ back))) = part :: rest ∧ coerce part ≠ .ok cell.value := by
  have hother : isDigit sep = false ∧ sep ≠ '-' ∧ isQuote sep = false ∧ isBlank sep = false := by
    rcases hsep with rfl | rfl <;> decide
  obtain ⟨quote, content, hcontent, rfl, hmem⟩ := cell.exists_of_mem_text hother.1 hother.2.1 hother.2.2.1 h
  obtain ⟨front, behind, rfl, hfront⟩ := List.eq_append_cons_of_mem hmem
  have hquote : quote.mark ∉ front ++ sep :: behind := LiteralCell.not_mem_content hcontent quote
  have hmark : sep ≠ quote.mark := fun he => hquote (he ▸ List.mem_append_right _ List.mem_cons_self)
  have hnot : sep ∉ lead ++ quote.mark :: front := by
    simp [not_mem_of_allBlank hblank hother.2.2.2, hmark, hfront]
  have htext : lead ++ (quote.mark :: (front ++ sep :: behind ++ [quote.mark]) ++ back) =
      lead ++ quote.mark :: front ++ sep :: (behind ++ [quote.mark] ++ back) := by simp
  have htrim : trim (lead ++ quote.mark :: front) = quote.mark :: trimRight front := by
    rw [trim_append hblank, trim_cons (isBlank_of_isQuote quote.isQuote)]
  have hopen : quote.mark ∉ trimRight front := fun hm =>
    hquote (List.mem_append_left _ (mem_of_mem_trimRight hm))
  refine ⟨_, _, by rw [LiteralCell.text, htext, pieces_append hnot, filled_cons htrim (List.cons_ne_nil _ _)], ?_⟩
  rw [coerce_quote quote.isQuote (htrim ▸ trim_trim _), if_neg fun hlast => hopen (List.mem_of_getLast? hlast)]
  intro he
  have hcontent : quote.mark :: trimRight front = front ++ sep :: behind := by
    simpa [LiteralCell.value] using he
  exact hquote (hcontent ▸ List.mem_cons_self)

/-- Only a whole number is read as one. -/
theorem isWhole_of_coerce {token : Text} {n : Int} (h : coerce token = .ok (.int n)) :
    Literal.isWhole (trim token) = true := by
  by_contra hwhole
  rw [coerce, Literal.ofTrimmed, if_neg hwhole] at h
  split_ifs at h <;> simp at h

/-- **A cell that is not alone in its part is not read as its value either.** If a row is divided at semicolons of
which none stands in its first cell, the first part of the row goes on behind the bar. -/
theorem coerce_long {cell : LiteralCell} (h : ';' ∉ cell.text) (back : Text) :
    ∃ part rest, filled (pieces ';' (cell.text ++ bar ++ back)) = part :: rest ∧ coerce part ≠ .ok cell.value := by
  obtain ⟨more, parts, hparts⟩ := List.exists_cons_of_ne_nil (pieces_ne_nil ';' back)
  have hfront : ';' ∉ cell.text ++ bar := by simp [h, bar]
  have htrim : trim (cell.text ++ bar ++ more) = cell.text ++ ' ' :: '|' :: trimRight (' ' :: more) := by
    obtain ⟨c, rest, htext⟩ := List.exists_cons_of_ne_nil cell.text_ne_nil
    have hc : isBlank c = false := head?_of_trim cell.trim_text c (by rw [htext]; rfl)
    have hbar : rest ++ bar ++ more = (rest ++ [' ']) ++ '|' :: (' ' :: more) := by simp [bar]
    rw [htext, List.cons_append, List.cons_append, trim_cons hc, hbar, trimRight_append_stop (by decide)]
    simp
  have hne : cell.text ++ ' ' :: '|' :: trimRight (' ' :: more) ≠ [] := by simp
  refine ⟨_, _, by rw [pieces_append_head hfront, hparts, List.modifyHead_cons, filled_cons htrim hne], fun he => ?_⟩
  have htoken : trim (cell.text ++ ' ' :: '|' :: trimRight (' ' :: more)) =
      cell.text ++ ' ' :: '|' :: trimRight (' ' :: more) := htrim ▸ trim_trim _
  cases cell with
  | whole isNegative digits hsome hdecimal hshort =>
      -- A number has no bar in it.
      obtain ⟨own, -, hown, htext⟩ := Literal.isWhole_iff.1 (htoken ▸ isWhole_of_coerce he)
      have hbar : '|' ∈ own ∨ '|' = '-' := by
        rcases htext with htext | htext
        · exact .inl (htext ▸ by simp)
        · have hmem : '|' ∈ '-' :: own := htext ▸ by simp
          exact (List.mem_cons.1 hmem).symm
      rcases hbar with hmem | hsign
      · exact absurd (List.all_eq_true.1 hown _ hmem) (by decide)
      · exact absurd hsign (by decide)
  | quoted quote content hcontent =>
      have hlist : trim (LiteralCell.text (.quoted quote content hcontent) ++ ' ' :: '|' :: trimRight (' ' :: more)) =
          quote.mark :: (content ++ quote.mark :: ' ' :: '|' :: trimRight (' ' :: more)) := by
        rw [htoken]
        simp [LiteralCell.text]
      rw [coerce_quote quote.isQuote hlist] at he
      have hlength := congrArg List.length (Value.text.inj (Except.ok.inj he))
      split at hlength
      · simp at hlength
      · simp at hlength
        omega

/-- The first parts of a row are read as the values of its cells. -/
inductive ReadAs : List LiteralCell → List Text → Prop
  | nil (parts : List Text) : ReadAs [] parts
  | cons {cell : LiteralCell} {part : Text} {cells : List LiteralCell} {parts : List Text}
      (first : coerce part = .ok cell.value) (rest : ReadAs cells parts) : ReadAs (cell :: cells) (part :: parts)

/-- Divided at bars, a row is read as its cells only if none of them has a bar in it. -/
theorem not_mem_of_readAs {cells : List LiteralCell} (lead : Text) (hblank : allBlank lead = true)
    (h : ReadAs cells (filled (pieces '|' (lead ++ join bar (cells.map LiteralCell.text))))) :
    ∀ cell ∈ cells, '|' ∉ cell.text := by
  induction cells generalizing lead with
  | nil => simp
  | cons cell rest ih =>
      have hcell : '|' ∉ cell.text := by
        intro hm
        obtain ⟨back, hback⟩ := join_eq_append bar cell.text (rest.map LiteralCell.text)
        obtain ⟨part, parts, hparts, hcut⟩ := coerce_cut isSeparating_pipe hm lead hblank back
        rw [List.map_cons, hback, hparts] at h
        cases h with
        | cons first rest => exact hcut first
      have hrest : ∀ other ∈ rest, '|' ∉ other.text := by
        rcases List.eq_nil_or_concat rest with rfl | ⟨front, last, hconcat⟩
        · simp
        · rw [filled_pieces_cons hcell (by simp [hconcat]) lead hblank] at h
          cases h with
          | cons first hreads => exact ih [' '] (by decide) hreads
      exact List.forall_mem_cons.2 ⟨hcell, hrest⟩

namespace LiteralRow

variable {r : LiteralRow}

/-- A row without bars in its cells is divided at bars if semicolons are rarer. -/
theorem separator?_text_iff (h : ∀ cell ∈ r.cells, '|' ∉ cell.text) :
    (∃ s, separator? r.text = some s ∧ s.char = '|') ↔
      Text.occurrences ";;".toList r.text < r.rest.length ∧ countAlone ';' false r.text ≤ r.rest.length := by
  have halone : countAlone '|' false r.text = r.rest.length := countAlone_bar h
  have hdoubled : Text.occurrences "||".toList r.text = 0 := occurrences_doubled_bar h
  have hpos : 0 < countAlone '|' false r.text := halone ▸ List.length_pos_iff.2 r.several
  rw [separator?_bar_iff hdoubled hpos, halone]

/-- **An undivided row gives its cells.** -/
theorem Undivided.cells_eq (h : r.Undivided) : Source.cells r.text = r.cells.map LiteralCell.text := by
  obtain ⟨s, hs, hchar⟩ := (separator?_text_iff h.noBar).2 ⟨h.fewDoubled, h.fewAlone⟩
  rw [Source.cells, hs]
  dsimp only
  rw [filled_split, hchar]
  exact filled_pieces_bar h.noBar

/-- **A row whose parts are read as its cells is undivided**, if no arrow stands in it. -/
theorem undivided_of_readAs (harrow : ¬ "<<".toList <:+: r.text) (h : ReadAs r.cells (Source.cells r.text)) :
    r.Undivided := by
  obtain ⟨next, rest, hrest⟩ := List.exists_cons_of_ne_nil r.several
  have htext : r.text = r.first.text ++ bar ++ join bar ((next :: rest).map LiteralCell.text) := by
    rw [text, cells, hrest, List.map_cons, join_cons_of_ne_nil _ _ (by simp)]
  have hmem : '|' ∈ r.text := by simp [htext, bar]
  obtain ⟨s, hs, hsep, -⟩ := exists_separator?_of_mem isSeparating_pipe hmem
  have hparts : Source.cells r.text = filled (pieces s.char r.text) := by
    rw [Source.cells, hs]
    exact filled_split s r.text
  rw [hparts] at h
  rcases hsep with hbar | hsemicolon
  · rw [hbar] at h
    have hnoBar : ∀ cell ∈ r.cells, '|' ∉ cell.text := not_mem_of_readAs [] rfl h
    obtain ⟨hdoubled, hsingle⟩ := (separator?_text_iff hnoBar).1 ⟨s, hs, hbar⟩
    exact ⟨harrow, hnoBar, hdoubled, hsingle⟩
  · -- The first part is not the first cell.
    rw [hsemicolon, htext] at h
    have hwrong : ∃ part parts, filled (pieces ';' (r.first.text ++ bar ++ join bar ((next :: rest).map LiteralCell.text))) =
        part :: parts ∧ coerce part ≠ .ok r.first.value := by
      by_cases hm : ';' ∈ r.first.text
      · rw [List.append_assoc]
        exact coerce_cut isSeparating_semicolon hm [] rfl _
      · exact coerce_long hm _
    obtain ⟨part, parts, hfirst, hne⟩ := hwrong
    rw [hfirst] at h
    cases h with
    | cons first hreads => exact absurd first hne

/-! ### Its line -/

variable (r)

theorem trim_text : trim r.text = r.text := by
  refine trim_join fun part hpart => ?_
  obtain ⟨cell, -, rfl⟩ := List.mem_map.1 hpart
  exact ⟨cell.trim_text, cell.text_ne_nil⟩

/-- The comment marks in the texts begin no comment. -/
theorem content_line (number : Nat) : content ⟨number, r.line⟩ = r.text := by
  have htext : Uncommented r.text := by
    refine uncommented_join (uncommented_of_not_mem (by decide) (by decide)) fun part hpart => ?_
    obtain ⟨cell, -, rfl⟩ := List.mem_map.1 hpart
    exact cell.uncommented_text
  rw [content, line, trim_append r.indent.blank, r.trim_text, htext.stripComment_eq]

/-- A row is no comment, no pipe and no assignment by its first character, and so it is read as its cells, unless an
arrow stands in one of its texts. -/
theorem readLine_line (number : Nat) :
    readLine ⟨number, r.line⟩ = if hasMark "<<".toList r.text then .nothing else .row (Source.cells r.text) := by
  obtain ⟨behind, hbehind⟩ := join_eq_append bar r.first.text (r.rest.map LiteralCell.text)
  obtain ⟨c, rest, hfirst, hc⟩ := r.first.exists_text_eq_cons
  have htext : r.text = c :: (rest ++ behind) := by
    rw [text, cells, List.map_cons, hbehind, hfirst, List.cons_append]
  have hne {x : Char} (hdigit : isDigit x = false) (hsign : x ≠ '-') (hquote : isQuote x = false) : c ≠ x := by
    rintro rfl
    simp [hdigit, hsign, hquote] at hc
  have hstart : isIdentStart c = false := by
    refine Bool.eq_false_iff.2 fun hstart => ?_
    rcases hc with hdigit | rfl | hquote
    · rw [isDigit_of_isIdentStart hstart] at hdigit
      contradiction
    · exact absurd hstart (by decide)
    · rcases Bool.or_eq_true_iff.1 hquote with he | he
      · exact absurd (beq_iff_eq.1 he ▸ hstart) (by decide)
      · exact absurd (beq_iff_eq.1 he ▸ hstart) (by decide)
  have hslash : c ≠ '/' := hne (by decide) (by decide) (by decide)
  have hstar : c ≠ '*' := hne (by decide) (by decide) (by decide)
  have hcomment : isComment r.text = false := by
    simp [htext, isComment, startsWith, after?, hslash.symm, hstar.symm]
  have hempty : r.text.isEmpty = false := by simp [htext]
  have hseveral : severalPipe? r.text = none := by
    unfold severalPipe?
    split
    · rename_i other he
      exact absurd (List.cons.inj (htext.symm.trans he)).1 (hne (by decide) (by decide) (by decide))
    · rfl
  have hone : onePipe? r.text = none := by simp [onePipe?, htext, hstart]
  have hassignment : isAssignment r.text = false := by simp [isAssignment, htext, hstart]
  simp only [readLine, r.content_line, hempty, hcomment, Bool.or_self, Bool.false_eq_true, if_false, hseveral, hone,
    Option.or_none, hassignment, Bool.or_false]

end LiteralRow

end SpecAtlas.Source
