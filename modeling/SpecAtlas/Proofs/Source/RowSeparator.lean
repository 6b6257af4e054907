import SpecAtlas.Source.Row
import SpecAtlas.Proofs.Text.Basic
import SpecAtlas.Proofs.Text.Mark

/-!
# What divides a row

The separator that occurs most often divides a row.

1. It is one that does occur, and none occurs more often (`mostFrequent_eq_some`, `le_of_mostFrequent`).
2. A division at either form of a character leaves the same parts, up to blank ones (`filled_split`).
3. Where the separators between cells are made of one character that the cells do not hold, the cells are the parts
   (`filled_spread`), and each form of the separator occurs as often as it was written (`countAlone_spread`,
   `occurrences_spread`).
-/

namespace SpecAtlas.Source

open Text

/-! ## Parts -/

theorem filled_append (first rest : List Text) : filled (first ++ rest) = filled first ++ filled rest := by
  simp [filled]

theorem filled_blank (rest : List Text) : filled ([] :: rest) = filled rest := by
  simp [filled, trim, trimLeft, trimRight, dropRight]

/-- White space around a part is left out. -/
theorem filled_cons {part cell : Text} (htrim : trim part = cell) (hne : cell ≠ []) (rest : List Text) :
    filled (part :: rest) = cell :: filled rest := by
  simp [filled, htrim, hne]

/-- A doubled separator divides at its single form too, so the parts are those of the single one. -/
theorem filled_split (s : Separator) (row : Text) : filled (s.split row) = filled (pieces s.char row) := by
  obtain ⟨c, isDouble⟩ := s
  cases isDouble with
  | false => rfl
  | true =>
      show filled ((splitText [c, c] row).flatMap (pieces c)) = filled (pieces c row)
      fun_induction splitText [c, c] row with
      | case1 row hnil => contradiction
      | case2 row hnil hcut => rw [List.flatMap_singleton]
      | case3 row hnil before rest hcut ih =>
          have hrow : row = before ++ c :: c :: rest := by simpa using eq_of_cut? hcut
          rw [List.flatMap_cons, filled_append, ih, hrow, pieces_append_cons, filled_append]
          congr 1
          rw [pieces, if_pos rfl, filled_blank]

/-! ## The separator of a row -/

/-- A character that occurs in a text stands alone somewhere, or two of it stand together. -/
theorem alone_or_doubled {c : Char} {text : Text} (h : c ∈ text) :
    0 < countAlone c false text ∨ [c, c] <:+: text := by
  induction text with
  | nil => contradiction
  | cons x rest ih =>
      by_cases hx : x = c
      · subst hx
        by_cases hnext : rest.head? = some x
        · right
          cases rest with
          | nil => contradiction
          | cons y rest =>
              obtain rfl : y = x := Option.some.inj hnext
              exact ⟨[], rest, rfl⟩
        · left
          rw [countAlone, if_pos (by simp [hnext])]
          omega
      · have hrest : c ∈ rest := (List.mem_cons.1 h).resolve_left fun he => hx he.symm
        rcases ih hrest with halone | hinfix
        · left
          have hother : (x == c) = false := by simpa using hx
          rw [countAlone, hother]
          omega
        · exact .inr (List.infix_cons hinfix)

theorem countAlone_of_not_mem {c : Char} {text : Text} (h : c ∉ text) (last : Bool) :
    countAlone c last text = 0 := by
  induction text generalizing last with
  | nil => rfl
  | cons x rest ih =>
      have hx : x ≠ c := fun he => h (he ▸ List.mem_cons_self)
      rw [countAlone, ih fun hm => h (List.mem_cons_of_mem x hm), if_neg (by simp [hx])]

theorem splitText_ne_nil (mark text : Text) : splitText mark text ≠ [] := by
  unfold splitText
  split
  · exact List.cons_ne_nil _ _
  · split
    · exact List.cons_ne_nil _ _
    · exact List.cons_ne_nil _ _

/-- A mark occurs once more than behind its first occurrence. -/
theorem occurrences_of_cut?_some {mark text before rest : Text} (hne : mark ≠ [])
    (hcut : cut? mark text = some (before, rest)) : Text.occurrences mark text = Text.occurrences mark rest + 1 := by
  have hsplit : splitText mark text = before :: splitText mark rest := by
    rw [splitText, dif_neg hne]
    split
    · rename_i hnone
      rw [hcut] at hnone
      contradiction
    · rename_i b r hsome
      rw [hcut] at hsome
      obtain ⟨rfl, rfl⟩ := Prod.mk.inj (Option.some.inj hsome)
      rfl
  have hlength := List.length_pos_iff.2 (splitText_ne_nil mark rest)
  rw [Text.occurrences, Text.occurrences, hsplit, List.length_cons]
  omega

/-- A mark occurs in a text if it is found. -/
theorem occurrences_pos {mark text : Text} (hne : mark ≠ []) (h : mark <:+: text) :
    0 < Text.occurrences mark text := by
  obtain ⟨⟨before, rest⟩, hcut⟩ := Option.isSome_iff_exists.1 (hasMark_of_isInfix h)
  rw [occurrences_of_cut?_some hne hcut]
  exact Nat.succ_pos _

/-- A mark that is not found does not occur. -/
theorem occurrences_of_cut? {mark text : Text} (hne : mark ≠ []) (hcut : cut? mark text = none) :
    Text.occurrences mark text = 0 := by
  show (splitText mark text).length - 1 = 0
  rw [splitText, dif_neg hne]
  split
  · rfl
  · rename_i hsome
    rw [hcut] at hsome
    contradiction

/-- Clear text in front of a text does not count. -/
theorem occurrences_append {mark front : Text} (hne : mark ≠ []) (h : isClear mark front = true) (rest : Text) :
    Text.occurrences mark (front ++ rest) = Text.occurrences mark rest := by
  have hcut := cut?_append h rest
  cases hrest : cut? mark rest with
  | none =>
      rw [hrest] at hcut
      rw [occurrences_of_cut? hne hcut, occurrences_of_cut? hne hrest]
  | some found =>
      rw [hrest] at hcut
      rw [occurrences_of_cut?_some hne hcut, occurrences_of_cut?_some hne hrest]

/-- What stands in front of the first occurrence of a character does not count. -/
theorem countAlone_append {c : Char} {front : Text} (h : c ∉ front) (hne : front ≠ []) (last : Bool) (rest : Text) :
    countAlone c last (front ++ rest) = countAlone c false rest := by
  induction front generalizing last with
  | nil => contradiction
  | cons x front ih =>
      have hx : (x == c) = false := beq_eq_false_iff_ne.2 fun he => h (he ▸ List.mem_cons_self)
      have hfront : countAlone c last (x :: front ++ rest) = countAlone c false (front ++ rest) := by
        rw [List.cons_append, countAlone, hx, if_neg (by simp [beq_eq_false_iff_ne.1 hx]), Nat.zero_add]
      rw [hfront]
      cases front with
      | nil => rfl
      | cons y front => exact ih (fun hm => h (List.mem_cons_of_mem x hm)) (List.cons_ne_nil _ _) false

/-- A separator does not occur where its character does not. -/
theorem Separator.occurrences_of_not_mem {s : Separator} {row : Text} (h : s.char ∉ row) :
    s.occurrences row = 0 := by
  obtain ⟨c, isDouble⟩ := s
  cases isDouble with
  | false => exact countAlone_of_not_mem h false
  | true => exact occurrences_of_cut? (List.cons_ne_nil _ _) (cut?_of_isClear (List.cons_ne_nil _ _) (isClear_of_not_mem h))

/-- The most frequent of some separators is one of them, and it does occur. -/
theorem mostFrequent_eq_some {row : Text} {choice : List Separator} {s : Separator} {n : Nat}
    (h : mostFrequent row choice = some (s, n)) : s ∈ choice ∧ n = s.occurrences row ∧ 0 < n := by
  induction choice generalizing s n with
  | nil => contradiction
  | cons t rest ih =>
      rw [mostFrequent] at h
      cases hrest : mostFrequent row rest with
      | some best =>
          obtain ⟨hmem, hn, hpos⟩ := ih hrest
          rw [hrest] at h
          dsimp only at h
          split at h
          · rename_i hle
            cases h
            exact ⟨List.mem_cons_self, rfl, Nat.lt_of_lt_of_le hpos hle⟩
          · cases h
            exact ⟨List.mem_cons_of_mem t hmem, hn, hpos⟩
      | none =>
          rw [hrest] at h
          dsimp only at h
          split at h
          · contradiction
          · rename_i hzero
            cases h
            exact ⟨List.mem_cons_self, rfl, Nat.pos_of_ne_zero hzero⟩

/-- Without a most frequent separator none occurs. -/
theorem mostFrequent_eq_none {row : Text} {choice : List Separator} (h : mostFrequent row choice = none) :
    ∀ s ∈ choice, s.occurrences row = 0 := by
  induction choice with
  | nil => simp
  | cons t rest ih =>
      rw [mostFrequent] at h
      cases hrest : mostFrequent row rest with
      | some best =>
          rw [hrest] at h
          dsimp only at h
          split at h <;> contradiction
      | none =>
          rw [hrest] at h
          dsimp only at h
          split at h
          · rename_i hzero
            intro s hs
            cases List.mem_cons.1 hs with
            | inl he => rw [he, hzero]
            | inr hm => exact ih hrest s hm
          · contradiction

theorem mostFrequent_cons {row : Text} {best : Separator × Nat} {rest : List Separator}
    (h : mostFrequent row rest = some best) (s : Separator) :
    mostFrequent row (s :: rest) = some (if best.2 ≤ s.occurrences row then (s, s.occurrences row) else best) := by
  rw [mostFrequent, h]
  dsimp only
  split <;> rfl

/-- No separator occurs more often than the most frequent one. -/
theorem le_of_mostFrequent {row : Text} {choice : List Separator} {s : Separator} {n : Nat}
    (h : mostFrequent row choice = some (s, n)) {t : Separator} (ht : t ∈ choice) : t.occurrences row ≤ n := by
  induction choice generalizing s n with
  | nil => contradiction
  | cons u rest ih =>
      cases hrest : mostFrequent row rest with
      | some best =>
          rw [mostFrequent_cons hrest] at h
          split at h
          · rename_i hle
            cases h
            rcases List.mem_cons.1 ht with rfl | hlater
            · exact Nat.le_refl _
            · exact (ih hrest hlater).trans hle
          · rename_i hlt
            cases h
            rcases List.mem_cons.1 ht with rfl | hlater
            · exact Nat.le_of_lt (Nat.lt_of_not_le hlt)
            · exact ih hrest hlater
      | none =>
          rcases List.mem_cons.1 ht with rfl | hlater
          · rw [mostFrequent, hrest] at h
            dsimp only at h
            split at h
            · contradiction
            · cases h
              exact Nat.le_refl _
          · rw [mostFrequent_eq_none hrest t hlater]
            exact Nat.zero_le n

/-- Whether a character can separate cells. -/
def isSeparating (c : Char) : Prop := c = '|' ∨ c = ';'

theorem isSeparating_pipe : isSeparating '|' := .inl rfl

theorem isSeparating_semicolon : isSeparating ';' := .inr rfl

/-- A row in which a separating character occurs is divided. -/
theorem exists_separator?_of_mem {row : Text} {c : Char} (hc : isSeparating c) (hmem : c ∈ row) :
    ∃ s, separator? row = some s ∧ isSeparating s.char ∧ s.char ∈ row := by
  have hboth : ∀ isDouble, (⟨c, isDouble⟩ : Separator) ∈ separators := by
    rcases hc with rfl | rfl <;> decide
  have hchars : ∀ s ∈ separators, isSeparating s.char := by
    intro s hs
    simp only [separators, List.mem_cons, List.not_mem_nil, or_false] at hs
    rcases hs with rfl | rfl | rfl | rfl <;> simp [isSeparating]
  cases hbest : mostFrequent row separators with
  | some best =>
      obtain ⟨hs, hn, hpos⟩ := mostFrequent_eq_some hbest
      refine ⟨best.1, by rw [separator?, hbest]; rfl, hchars _ hs, ?_⟩
      by_contra hnot
      rw [Separator.occurrences_of_not_mem hnot] at hn
      omega
  | none =>
      have hzero := mostFrequent_eq_none hbest
      rcases alone_or_doubled hmem with halone | hinfix
      · exact absurd (hzero _ (hboth false)) (Nat.ne_of_gt halone)
      · exact absurd (hzero _ (hboth true)) (Nat.ne_of_gt (occurrences_pos (List.cons_ne_nil _ _) hinfix))

/-- A row in which one separating character occurs, and not the other one, is divided at that character. -/
theorem exists_separator? {row : Text} {c : Char} (hc : isSeparating c) (hmem : c ∈ row)
    (honly : ∀ d ∈ row, isSeparating d → d = c) : ∃ s, separator? row = some s ∧ s.char = c := by
  obtain ⟨s, hs, hchar, hin⟩ := exists_separator?_of_mem hc hmem
  exact ⟨s, hs, honly _ hin hchar⟩

/-! ## Rows with one separator -/

/-- What stands between two cells. -/
def gap (s : Separator) : Text := ' ' :: (s.text ++ [' '])

/-- A text with other texts behind it, each with a separator made of `c` in front, doubled or not. -/
def spread (c : Char) (first : Text) : List (Bool × Text) → Text
  | [] => first
  | (isDouble, text) :: rest => first ++ (gap ⟨c, isDouble⟩ ++ spread c text rest)

/-- A cell that does not hold the character of the separators: a text that is not blank, without white space at its
ends. -/
structure IsCell (c : Char) (text : Text) : Prop where
  nonempty : text ≠ []
  trimmed : trim text = text
  undivided : c ∉ text

section

variable {c : Char} {first : Text} {rest : List (Bool × Text)}

theorem ne_space_of_isSeparating (hc : isSeparating c) : c ≠ ' ' := by
  rcases hc with rfl | rfl <;> decide

/-- White space does not divide rows. -/
theorem isBlank_of_isSeparating (hc : isSeparating c) : isBlank c = false := by
  rcases hc with rfl | rfl <;> decide

/-- The first part of a row is its first cell, whatever stands behind the separator. -/
theorem filled_spread_cons (hc : isSeparating c) (hfirst : IsCell c first) {lead : Text} (hblank : allBlank lead = true)
    (isDouble : Bool) (text : Text) (rest : List (Bool × Text)) :
    filled (pieces c (lead ++ spread c first ((isDouble, text) :: rest))) =
      first :: filled (pieces c ([' '] ++ spread c text rest)) := by
  have hlead : c ∉ lead := not_mem_of_allBlank hblank (isBlank_of_isSeparating hc)
  have hnot : c ∉ lead ++ first ++ [' '] := by simp [hlead, hfirst.undivided, ne_space_of_isSeparating hc]
  have hcell : trim (lead ++ first ++ [' ']) = first := by
    rw [trim_append_right _ (by decide), trim_append hblank, hfirst.trimmed]
  cases isDouble with
  | false =>
      have hparts : lead ++ spread c first ((false, text) :: rest) =
          lead ++ first ++ [' '] ++ c :: ([' '] ++ spread c text rest) := by
        simp [spread, gap, Separator.text]
      rw [hparts, pieces_append hnot, filled_cons hcell hfirst.nonempty]
  | true =>
      -- A doubled separator leaves an empty part between its two characters.
      have hparts : lead ++ spread c first ((true, text) :: rest) =
          lead ++ first ++ [' '] ++ c :: c :: ([' '] ++ spread c text rest) := by
        simp [spread, gap, Separator.text]
      rw [hparts, pieces_append hnot, filled_cons hcell hfirst.nonempty, pieces, if_pos rfl, filled_blank]

/-- The parts of a row with white space in front are its cells. -/
theorem filled_blank_spread (hc : isSeparating c) (hcells : ∀ text ∈ first :: rest.map (·.2), IsCell c text) {lead : Text}
    (hblank : allBlank lead = true) :
    filled (pieces c (lead ++ spread c first rest)) = first :: rest.map (·.2) := by
  have hfirst := hcells first List.mem_cons_self
  induction rest generalizing first lead with
  | nil =>
      have hlead : c ∉ lead := not_mem_of_allBlank hblank (isBlank_of_isSeparating hc)
      have htrim : trim (lead ++ first) = first := by rw [trim_append hblank, hfirst.trimmed]
      have hnot : c ∉ lead ++ first := by simp [hlead, hfirst.undivided]
      rw [spread, pieces_of_not_mem hnot, filled_cons htrim hfirst.nonempty]
      rfl
  | cons next rest ih =>
      have hrest := fun t ht => hcells t (List.mem_cons_of_mem first ht)
      rw [filled_spread_cons hc hfirst hblank, ih hrest (by decide) (hrest _ List.mem_cons_self)]
      rfl

/-- **The parts of a row are its cells.** -/
theorem filled_spread (hc : isSeparating c) (hcells : ∀ text ∈ first :: rest.map (·.2), IsCell c text) :
    filled (pieces c (spread c first rest)) = first :: rest.map (·.2) := by
  have hempty : allBlank ([] : Text) = true := rfl
  have hparts := filled_blank_spread hc hcells hempty
  rwa [List.nil_append] at hparts

/-- The single separators are those that stand alone. -/
theorem countAlone_spread (hc : isSeparating c) (hcells : ∀ text ∈ first :: rest.map (·.2), IsCell c text) :
    countAlone c false (spread c first rest) = rest.countP (!·.1) := by
  have hspace := ne_space_of_isSeparating hc
  induction rest generalizing first with
  | nil => exact countAlone_of_not_mem (hcells first List.mem_cons_self).undivided false
  | cons next rest ih =>
      obtain ⟨isDouble, text⟩ := next
      have hrest := ih fun t ht => hcells t (List.mem_cons_of_mem first ht)
      have hfirst : c ∉ first ++ [' '] := by simp [(hcells first List.mem_cons_self).undivided, hspace]
      have hback : countAlone c true (' ' :: spread c text rest) = rest.countP (!·.1) := by
        have hblank : c ∉ [' '] := by simpa using hspace
        rw [← hrest]
        exact countAlone_append hblank (List.cons_ne_nil _ _) true _
      cases isDouble with
      | false =>
          have hparts : spread c first ((false, text) :: rest) = (first ++ [' ']) ++ c :: (' ' :: spread c text rest) := by
            simp [spread, gap, Separator.text]
          rw [hparts, countAlone_append hfirst (by simp), countAlone, beq_self_eq_true, hback]
          simp [hspace.symm, Nat.add_comm]
      | true =>
          have hparts : spread c first ((true, text) :: rest) = (first ++ [' ']) ++ c :: c :: (' ' :: spread c text rest) := by
            simp [spread, gap, Separator.text]
          rw [hparts, countAlone_append hfirst (by simp), countAlone, countAlone, beq_self_eq_true, hback]
          simp

/-- The doubled separators are those that are found. -/
theorem occurrences_spread (hc : isSeparating c) (hcells : ∀ text ∈ first :: rest.map (·.2), IsCell c text) :
    Text.occurrences [c, c] (spread c first rest) = rest.countP (·.1) := by
  have hne : [c, c] ≠ [] := List.cons_ne_nil _ _
  have hspace : isClear [c, c] [' '] = true := by rcases hc with rfl | rfl <;> decide
  induction rest generalizing first with
  | nil => exact occurrences_of_cut? hne (cut?_of_isClear hne (isClear_of_not_mem (hcells first List.mem_cons_self).undivided))
  | cons next rest ih =>
      obtain ⟨isDouble, text⟩ := next
      have hfirst : isClear [c, c] first = true := isClear_of_not_mem (hcells first List.mem_cons_self).undivided
      have hrest := ih fun t ht => hcells t (List.mem_cons_of_mem first ht)
      cases isDouble with
      | false =>
          have hparts : spread c first ((false, text) :: rest) = (first ++ [' ', c, ' ']) ++ spread c text rest := by
            simp [spread, gap, Separator.text]
          have hgap : isClear [c, c] [' ', c, ' '] = true := by rcases hc with rfl | rfl <;> decide
          rw [hparts, occurrences_append hne (isClear_append hfirst hgap), hrest]
          simp
      | true =>
          have hparts : spread c first ((true, text) :: rest) =
              (first ++ [' ']) ++ ([c, c] ++ ([' '] ++ spread c text rest)) := by
            simp [spread, gap, Separator.text]
          rw [hparts, occurrences_of_cut?_some hne (cut?_mark (isClear_append hfirst hspace) _),
            occurrences_append hne hspace, hrest]
          simp

end

end SpecAtlas.Source
