import Mathlib.Order.Bounds.Basic
import SpecAtlas.Proofs.Source.Balance
import SpecAtlas.Proofs.Source.WhereBlock

/-!
# The search for a where-block

The search for the where-block of a method walks over the lines from the heading on. This module says where it
ends up without the walk:

1. the label that is found is the first one, unless the method is closed above it (`findBlock?_label_iff`): then
   a line has opened more braces than it closes, and the braces since the heading have balanced out;
2. the block goes down to the next closing line, or to the end of the file (`endsAt_iff`).

The two together are exact (`findBlock?_exact`), and nothing above the heading has a part in them.
-/

namespace SpecAtlas.Source

open Text

/-! ## Closing lines -/

/-- Line number `k` is nothing but a closing brace. -/
def ClosesAt (lines : List Text) (k : Nat) : Prop := ∃ line, lines[k]? = some line ∧ isClosing (trim line) = true

theorem closingLine_le {index k : Nat} {lines : List Text} (h : ClosesAt lines k) :
    closingLine index lines ≤ index + k := by
  obtain ⟨closing, hget, hclosing⟩ := h
  induction lines generalizing index k with
  | nil => simp at hget
  | cons line rest ih =>
      rw [closingLine]
      split
      · omega
      · rename_i hline
        cases k with
        | zero =>
            obtain rfl : line = closing := Option.some.inj hget
            contradiction
        | succ k =>
            have hle : closingLine (index + 1) rest ≤ index + 1 + k := ih hget
            omega

/-- Where a closing line is found, there is one. -/
theorem closesAt_closingLine {index : Nat} {lines : List Text}
    (h : closingLine index lines < index + lines.length) : ClosesAt lines (closingLine index lines - index) := by
  fun_induction closingLine index lines with
  | case1 index => simp at h
  | case2 index line rest hclosing => exact ⟨line, by simp, hclosing⟩
  | case3 index line rest hclosing ih =>
      rw [List.length_cons] at h
      obtain ⟨closing, hget, hc⟩ := ih (by omega)
      have hlow := (closingLine_bounds (index + 1) rest).1
      have hsucc : closingLine (index + 1) rest - index = closingLine (index + 1) rest - (index + 1) + 1 := by omega
      exact ⟨closing, by rw [hsucc, List.getElem?_cons_succ]; exact hget, hc⟩

/-- Line number `k` is closing in the lines below number `n` exactly if line number `n + k` is. -/
theorem closesAt_drop {lines : List Text} {n k : Nat} : ClosesAt (lines.drop n) k ↔ ClosesAt lines (n + k) := by
  simp only [ClosesAt, List.getElem?_drop]

theorem lt_length_of_closesAt {lines : List Text} {k : Nat} (h : ClosesAt lines k) : k < lines.length := by
  obtain ⟨line, hline, -⟩ := h
  exact (List.getElem?_eq_some_iff.1 hline).1

/-- A block whose label is line number `label` ends with number `stop`: the next closing line, or the end of the
file if there is none. -/
def EndsAt (lines : List Text) (label stop : Nat) : Prop :=
  IsLeast {k | label < k ∧ ClosesAt lines k} stop ∨ (∀ k, label < k → ¬ ClosesAt lines k) ∧ stop = lines.length

/-- The end that is found is the end of the block. -/
theorem endsAt_iff {lines : List Text} {label stop : Nat} (hlabel : label < lines.length) :
    EndsAt lines label stop ↔ stop = closingLine (label + 1) (lines.drop (label + 1)) := by
  obtain ⟨hlow, hhigh⟩ := closingLine_bounds (label + 1) (lines.drop (label + 1))
  have hfirst {k : Nat} (hk : label < k) (hcloses : ClosesAt lines k) :
      closingLine (label + 1) (lines.drop (label + 1)) ≤ k := by
    obtain ⟨n, rfl⟩ := Nat.exists_eq_add_of_le (Nat.succ_le_of_lt hk)
    exact closingLine_le (closesAt_drop.2 hcloses)
  have hfound (h : closingLine (label + 1) (lines.drop (label + 1)) < lines.length) :
      ClosesAt lines (closingLine (label + 1) (lines.drop (label + 1))) := by
    have hlength : closingLine (label + 1) (lines.drop (label + 1)) < label + 1 + (lines.drop (label + 1)).length := by
      rw [List.length_drop]
      omega
    have hbelow := closesAt_drop.1 (closesAt_closingLine hlength)
    rwa [Nat.add_sub_cancel' hlow] at hbelow
  rw [List.length_drop] at hhigh
  generalize closingLine (label + 1) (lines.drop (label + 1)) = found at *
  constructor
  · rintro (⟨⟨hlt, hcloses⟩, hleast⟩ | ⟨hnone, rfl⟩)
    · have hle := hfirst hlt hcloses
      have hlength := lt_length_of_closesAt hcloses
      exact Nat.le_antisymm (hleast ⟨hlow, hfound (by omega)⟩) hle
    · by_contra hne
      exact hnone found hlow (hfound (by omega))
  · rintro rfl
    rcases Nat.lt_or_ge stop lines.length with hlt | hge
    · exact .inl ⟨⟨hlow, hfound hlt⟩, fun k hk => hfirst hk.1 hk.2⟩
    · refine .inr ⟨fun k hk hcloses => ?_, by omega⟩
      have hle := hfirst hk hcloses
      have hlength := lt_length_of_closesAt hcloses
      omega

/-! ## The label -/

/-- Line number `k` is the label of a where-block. -/
def LabelAt (lines : List Text) (k : Nat) : Prop := ∃ line, lines[k]? = some line ∧ trim line = whereLabel

/-- The search for a label ends with line number `k`: more braces have been opened than closed in a line, and the
braces have balanced out. `balance` and `opened` are what was known in front of the lines. -/
def SearchEnds (balance : Int) (opened : Bool) (lines : List Text) (k : Nat) : Prop :=
  (opened = true ∨ ∃ line ∈ lines.take (k + 1), 0 < braceDelta line) ∧ balance + balanceOf (lines.take (k + 1)) ≤ 0

section

variable {balance : Int} {opened : Bool} {line : Text} {rest : List Text}

theorem labelAt_zero : LabelAt (line :: rest) 0 ↔ trim line = whereLabel := by simp [LabelAt]

theorem labelAt_succ {k : Nat} : LabelAt (line :: rest) (k + 1) ↔ LabelAt rest k := Iff.rfl

theorem searchEnds_zero : SearchEnds balance opened (line :: rest) 0 ↔
    ((opened || decide (0 < braceDelta line)) && decide (balance + braceDelta line ≤ 0)) = true := by
  simp [SearchEnds]

theorem searchEnds_succ {k : Nat} : SearchEnds balance opened (line :: rest) (k + 1) ↔
    SearchEnds (balance + braceDelta line) (opened || decide (0 < braceDelta line)) rest k := by
  simp [SearchEnds, or_assoc, Int.add_assoc]

end

/-- A search finds the first label, unless it ends above it. -/
theorem seekBlock_label_iff {index : Nat} {balance : Int} {opened : Bool} {lines : List Text} {k : Nat} :
    (∃ block, seekBlock index balance opened lines = some block ∧ block.label = index + k) ↔
      LabelAt lines k ∧ ∀ j < k, ¬ LabelAt lines j ∧ ¬ SearchEnds balance opened lines j := by
  induction lines generalizing index balance opened k with
  | nil => simp [seekBlock, LabelAt]
  | cons line rest ih =>
      rw [seekBlock]
      by_cases hlabel : trim line = whereLabel
      · -- The search stops here, so it finds line number zero.
        rw [if_pos hlabel]
        cases k with
        | zero => simpa [labelAt_zero] using hlabel
        | succ k =>
            constructor
            · rintro ⟨block, hblock, hk⟩
              cases hblock
              simp at hk
            · rintro ⟨-, habove⟩
              exact absurd (labelAt_zero.2 hlabel) (habove 0 (Nat.succ_pos k)).1
      · rw [if_neg hlabel]
        dsimp only
        split
        · rename_i hends
          cases k with
          | zero => simp [labelAt_zero, hlabel]
          | succ k =>
              constructor
              · rintro ⟨block, hblock, -⟩
                contradiction
              · rintro ⟨-, habove⟩
                exact absurd (searchEnds_zero.2 hends) (habove 0 (Nat.succ_pos k)).2
        · rename_i hgoes
          cases k with
          | zero =>
              constructor
              · rintro ⟨block, hblock, hk⟩
                obtain ⟨⟨n, -, -, hn, -⟩, -⟩ := seekBlock_bounds hblock
                omega
              · rintro ⟨hzero, -⟩
                exact absurd (labelAt_zero.1 hzero) hlabel
          | succ k =>
              have hnext : index + (k + 1) = index + 1 + k := by omega
              rw [hnext, ih, labelAt_succ, Nat.forall_lt_succ_left]
              simp only [labelAt_zero, labelAt_succ, searchEnds_zero, searchEnds_succ, hlabel, hgoes,
                not_false_eq_true, Bool.false_eq_true, true_and]

/-- The method with its heading in line `start` is closed with line number `k`: a line since the heading opens more
braces than it closes, and the braces since the heading have balanced out. -/
def ClosedWith (lines : List Text) (start k : Nat) : Prop :=
  (∃ line ∈ linesBetween lines start k, 0 < braceDelta line) ∧ balanceOf (linesBetween lines start k) ≤ 0

/-- The search for the label of a method ends where the method is closed. -/
theorem searchEnds_drop {lines : List Text} {start k : Nat} :
    SearchEnds 0 false (lines.drop start) k ↔ ClosedWith lines start (start + k) := by
  have hbetween : linesBetween lines start (start + k) = (lines.drop start).take (k + 1) := by
    rw [linesBetween, List.drop_take, show start + k + 1 - start = k + 1 by omega]
  simp [SearchEnds, ClosedWith, hbetween]

/-- **The label that is found is the first one, unless the method is closed above it.** -/
theorem findBlock?_label_iff {lines : List Text} {start label : Nat} :
    (∃ block, findBlock? lines start = some block ∧ block.label = label) ↔
      IsLeast {k | start ≤ k ∧ LabelAt lines k} label ∧
        ∀ k, start ≤ k → k < label → ¬ ClosedWith lines start k := by
  have hdrop (j : Nat) : LabelAt (lines.drop start) j ↔ LabelAt lines (start + j) := by
    simp only [LabelAt, List.getElem?_drop]
  constructor
  · rintro ⟨block, hblock, rfl⟩
    obtain ⟨k, hk⟩ := Nat.exists_eq_add_of_le (findBlock?_bounds hblock).1
    obtain ⟨hlabel, habove⟩ := seekBlock_label_iff.1 ⟨block, hblock, hk⟩
    rw [hk]
    refine ⟨⟨⟨Nat.le_add_right _ _, (hdrop k).1 hlabel⟩, fun j hj => ?_⟩, fun j hj hlt => ?_⟩
    · obtain ⟨n, rfl⟩ := Nat.exists_eq_add_of_le hj.1
      by_contra hlt
      exact (habove n (by omega)).1 ((hdrop n).2 hj.2)
    · obtain ⟨n, rfl⟩ := Nat.exists_eq_add_of_le hj
      exact fun hclosed => (habove n (by omega)).2 (searchEnds_drop.2 hclosed)
  · rintro ⟨⟨⟨hle, hlabel⟩, hleast⟩, hopen⟩
    obtain ⟨k, rfl⟩ := Nat.exists_eq_add_of_le hle
    refine seekBlock_label_iff.2 ⟨(hdrop k).2 hlabel, fun j hj => ⟨fun hother => ?_, fun hends => ?_⟩⟩
    · have hfirst := hleast ⟨Nat.le_add_right start j, (hdrop j).1 hother⟩
      omega
    · exact hopen (start + j) (Nat.le_add_right _ _) (by omega) (searchEnds_drop.1 hends)

/-! ## The block -/

theorem close_eq_of_seekBlock {index : Nat} {balance : Int} {opened : Bool} {lines : List Text}
    {block : BlockSpan} (h : seekBlock index balance opened lines = some block) :
    block.close = closingLine (block.label + 1) (lines.drop (block.label + 1 - index)) := by
  fun_induction seekBlock index balance opened lines with
  | case1 => contradiction
  | case2 index balance opened line rest hlabel =>
      cases h
      rw [show index + 1 - index = 1 by omega]
      rfl
  | case3 => contradiction
  | case4 index balance opened line rest hlabel opened' balance' hout ih =>
      obtain ⟨⟨k, -, -, hk, -⟩, -, -⟩ := seekBlock_bounds h
      have hsucc : block.label + 1 - index = block.label + 1 - (index + 1) + 1 := by omega
      rw [hsucc, List.drop_succ_cons]
      exact ih h

/-- A block ends at the first closing line below its label. -/
theorem close_eq_of_findBlock? {lines : List Text} {start : Nat} {block : BlockSpan}
    (h : findBlock? lines start = some block) :
    block.close = closingLine (block.label + 1) (lines.drop (block.label + 1)) := by
  obtain ⟨hlow, -⟩ := findBlock?_bounds h
  have hclose := close_eq_of_seekBlock h
  rwa [List.drop_drop, show start + (block.label + 1 - start) = block.label + 1 by omega] at hclose

/-- **The where-block of a method**, told by its lines: its label is the first one below the heading, the method is
not closed above it, and the block ends with the next closing line or with the file. -/
structure BlockSpan.BelongsTo (block : BlockSpan) (lines : List Text) (start : Nat) : Prop where
  first : IsLeast {k | start ≤ k ∧ LabelAt lines k} block.label
  stillOpen : ∀ k, start ≤ k → k < block.label → ¬ ClosedWith lines start k
  ends : EndsAt lines block.label block.close

/-- A block is found exactly if it belongs to the method. -/
theorem findBlock?_eq_some_iff {lines : List Text} {start : Nat} {block : BlockSpan} :
    findBlock? lines start = some block ↔ block.BelongsTo lines start := by
  constructor
  · intro h
    obtain ⟨-, -, hlt, hle⟩ := findBlock?_bounds h
    obtain ⟨hfirst, hopen⟩ := findBlock?_label_iff.1 ⟨block, h, rfl⟩
    exact ⟨hfirst, hopen, (endsAt_iff (by omega)).2 (close_eq_of_findBlock? h)⟩
  · rintro ⟨hfirst, hopen, hends⟩
    obtain ⟨⟨label, close⟩, hfound, hlabel⟩ := findBlock?_label_iff.2 ⟨hfirst, hopen⟩
    obtain rfl : label = block.label := hlabel
    obtain ⟨-, -, hlt, hle⟩ := findBlock?_bounds hfound
    have hlength : block.label < lines.length := Nat.lt_of_lt_of_le hlt hle
    have hclose : close = block.close :=
      (close_eq_of_findBlock? hfound).trans ((endsAt_iff hlength).1 hends).symm
    rw [hfound, hclose]

/-- **The where-block that is found is exactly the one that belongs to the method**, and none is found if there is
none. It lies inside the file, and the lines above the heading have no part in it. -/
theorem findBlock?_exact (lines : List Text) (start : Nat) :
    (∀ block, findBlock? lines start = some block ↔ block.BelongsTo lines start) ∧
    (findBlock? lines start = none ↔ ¬ ∃ block : BlockSpan, block.BelongsTo lines start) ∧
    (∀ block, findBlock? lines start = some block →
      start ≤ block.label ∧ block.label < block.close ∧ block.close ≤ lines.length) ∧
    ∀ other : List Text, (∀ k, start ≤ k → other[k]? = lines[k]?) →
      findBlock? other start = findBlock? lines start := by
  refine ⟨fun block => findBlock?_eq_some_iff, ?_, fun block h => ?_, fun other h => ?_⟩
  · rw [Option.eq_none_iff_forall_ne_some, not_exists]
    exact forall_congr' fun block => not_congr findBlock?_eq_some_iff
  · obtain ⟨hlow, -, hlt, hle⟩ := findBlock?_bounds h
    exact ⟨hlow, hlt, hle⟩
  · have hdrop : other.drop start = lines.drop start :=
      List.ext_getElem? fun k => by rw [List.getElem?_drop, List.getElem?_drop, h _ (Nat.le_add_right start k)]
    rw [findBlock?, findBlock?, hdrop]

/-- A method with a where-block behind lines that do not balance out, and another file with the same method. -/
def lateLabel : List Text :=
  ["\x7d".toList, "def m()".toList, "\x7b".toList, "  where: // no label".toList, "  where:".toList, "  x << [1]".toList,
    "\x7d // no end".toList]

theorem findBlock?_lateLabel :
    findBlock? lateLabel 1 = some ⟨4, 7⟩ ∧ (1 ≤ 4 ∧ 4 < 7 ∧ 7 ≤ lateLabel.length) ∧
      (BlockSpan.mk 4 7).BelongsTo lateLabel 1 ∧ findBlock? ("\x7b".toList :: lateLabel.tail) 1 = some ⟨4, 7⟩ := by
  have hfound : findBlock? lateLabel 1 = some ⟨4, 7⟩ := by decide
  obtain ⟨hexact, -, hbounds, habove⟩ := findBlock?_exact lateLabel 1
  refine ⟨hfound, hbounds _ hfound, (hexact _).1 hfound, ?_⟩
  rw [habove ("\x7b".toList :: lateLabel.tail) fun k hk => ?_, hfound]
  obtain ⟨n, rfl⟩ := Nat.exists_eq_add_of_le hk
  rw [Nat.add_comm, List.getElem?_cons_succ]
  rfl

end SpecAtlas.Source
