import SpecAtlas.Proofs.Source.BlockSearch
import SpecAtlas.Proofs.Source.Finding
import SpecAtlas.Proofs.Source.HeadingParts

/-!
# The looks ahead

Whether a method is a feature is decided by its heading and by two bounded looks at the lines below it.

1. The look for a label goes over 49 lines and finds a block label unless a closing line comes first
   (`labelWithin_iff`).
2. The look for a brace goes over 4 lines and takes the first line of code, whatever it is (`braceWithin_iff`).
3. The name, the quotes around it and the brace behind it are those that stand in the heading's line
   (`writtenAs_of_read?`).

So the decision can be told from the lines of the file (`rejection?_eq_none_iff`), and lines that neither look
reaches have no part in it (`accepted_exact`).
-/

namespace SpecAtlas.Source

open Text

/-! ## Lines of a kind -/

/-- Line number `k`, without the white space around it, is of a kind. -/
def LineAt (kind : Text → Bool) (lines : List Text) (k : Nat) : Prop :=
  ∃ line, lines[k]? = some line ∧ kind (trim line) = true

/-- Whether a trimmed line is code: neither blank nor a comment. -/
def isCode (line : Text) : Bool := !(line.isEmpty || isComment line)

/-- Whether a trimmed line begins with an opening brace. -/
def beginsBody (line : Text) : Bool := line.head? == some '{'

section

variable {kind : Text → Bool} {lines : List Text}

theorem lineAt_zero {line : Text} {rest : List Text} : LineAt kind (line :: rest) 0 ↔ kind (trim line) = true := by
  simp [LineAt]

theorem lineAt_succ {line : Text} {rest : List Text} {k : Nat} : LineAt kind (line :: rest) (k + 1) ↔ LineAt kind rest k :=
  Iff.rfl

theorem lineAt_drop {n k : Nat} : LineAt kind (lines.drop n) k ↔ LineAt kind lines (n + k) := by
  simp only [LineAt, List.getElem?_drop]

theorem lt_length_of_lineAt {k : Nat} (h : LineAt kind lines k) : k < lines.length := by
  obtain ⟨line, hline, -⟩ := h
  exact (List.getElem?_eq_some_iff.1 hline).1

end

/-! ## The two looks ahead -/

/-- The look for a label finds one that no closing line stands in front of. -/
theorem labelFirst_take_iff {lines : List Text} {reach : Nat} :
    labelFirst (lines.take reach) = true ↔
      ∃ j < reach, LineAt isBlockLabel lines j ∧ ∀ i < j, ¬ LineAt isClosing lines i := by
  induction lines generalizing reach with
  | nil => simp [labelFirst, LineAt]
  | cons line rest ih =>
      cases reach with
      | zero => simp [labelFirst]
      | succ reach =>
          rw [List.take_succ_cons, labelFirst, Nat.exists_lt_succ_left]
          simp only [Nat.forall_lt_succ_left, lineAt_zero, lineAt_succ]
          by_cases hlabel : isBlockLabel (trim line) = true
          · simp [hlabel]
          · by_cases hclosing : isClosing (trim line) = true
            · simp [hlabel, hclosing]
            · simp [hlabel, hclosing, ih]

/-- The look for a brace takes the first line of code. -/
theorem braceFirst_take_iff {lines : List Text} {reach : Nat} :
    braceFirst (lines.take reach) = true ↔
      ∃ j < reach, LineAt isCode lines j ∧ (∀ i < j, ¬ LineAt isCode lines i) ∧ LineAt beginsBody lines j := by
  induction lines generalizing reach with
  | nil => simp [braceFirst, LineAt]
  | cons line rest ih =>
      cases reach with
      | zero => simp [braceFirst]
      | succ reach =>
          rw [List.take_succ_cons, braceFirst, Nat.exists_lt_succ_left]
          simp only [Nat.forall_lt_succ_left, lineAt_zero, lineAt_succ]
          by_cases hcode : ((trim line).isEmpty || isComment (trim line)) = true
          · have hno : isCode (trim line) = false := by simp [isCode, hcode]
            simp [hcode, hno, ih]
          · have hyes : isCode (trim line) = true := by simpa [isCode] using hcode
            rw [if_neg hcode]
            simp [hyes, beginsBody]

/-- A block label stands less than `reach` lines behind line number `index`, and no closing line stands in front of
it. -/
def LabelBehind (lines : List Text) (index reach : Nat) : Prop :=
  ∃ j, index < j ∧ j < min lines.length (index + reach) ∧ LineAt isBlockLabel lines j ∧
    ∀ k, index < k → k < j → ¬ ClosesAt lines k

/-- The first line of code behind line number `index` is at most `reach` lines away, and begins with an opening
brace. -/
def BraceBehind (lines : List Text) (index reach : Nat) : Prop :=
  ∃ j, IsLeast {k | index < k ∧ LineAt isCode lines k} j ∧ j ≤ index + reach ∧ LineAt beginsBody lines j

theorem labelWithin_iff {lines : List Text} {index reach : Nat} :
    labelWithin reach (lines.drop (index + 1)) = true ↔ LabelBehind lines index reach := by
  rw [labelWithin, labelFirst_take_iff]
  simp only [lineAt_drop]
  constructor
  · rintro ⟨j, hj, hlabel, habove⟩
    have hlength := lt_length_of_lineAt hlabel
    refine ⟨index + 1 + j, by omega, by omega, hlabel, fun k hlow hhigh => ?_⟩
    obtain ⟨i, rfl⟩ := Nat.exists_eq_add_of_le (Nat.succ_le_of_lt hlow)
    exact habove i (Nat.lt_of_add_lt_add_left hhigh)
  · rintro ⟨j, hlow, hhigh, hlabel, habove⟩
    obtain ⟨n, rfl⟩ := Nat.exists_eq_add_of_le (Nat.succ_le_of_lt hlow)
    exact ⟨n, by omega, hlabel, fun i hi => habove (index + 1 + i) (by omega) (Nat.add_lt_add_left hi _)⟩

theorem braceWithin_iff {lines : List Text} {index reach : Nat} :
    braceWithin reach (lines.drop (index + 1)) = true ↔ BraceBehind lines index reach := by
  rw [braceWithin, braceFirst_take_iff]
  simp only [lineAt_drop]
  constructor
  · rintro ⟨j, hj, hcode, habove, hbrace⟩
    refine ⟨index + 1 + j, ⟨⟨by omega, hcode⟩, fun k hk => ?_⟩, by omega, hbrace⟩
    obtain ⟨i, rfl⟩ := Nat.exists_eq_add_of_le (Nat.succ_le_of_lt hk.1)
    by_contra hlt
    exact habove i (by omega) hk.2
  · rintro ⟨j, ⟨⟨hlow, hcode⟩, hleast⟩, hhigh, hbrace⟩
    obtain ⟨n, rfl⟩ := Nat.exists_eq_add_of_le (Nat.succ_le_of_lt hlow)
    refine ⟨n, by omega, hcode, fun i hi hother => ?_, hbrace⟩
    have hfirst := hleast ⟨Nat.lt_of_lt_of_le (Nat.lt_succ_self index) (Nat.le_add_right _ i), hother⟩
    omega

/-! ## What is accepted -/

/-- **When a method is a feature**, told by the lines of its file. -/
structure MethodHeading.Accepted (heading : MethodHeading) (lines : List Text) (index : Nat) : Prop where
  notHook : heading.name ∉ lifecycleHooks
  labelled : heading.isQuoted = true ∨ LabelBehind lines index labelReach
  opened : heading.opens = true ∨ BraceBehind lines index braceReach

/-- A method is turned down exactly if it is not accepted. -/
theorem rejection?_eq_none_iff {heading : MethodHeading} {lines : List Text} {index : Nat} :
    rejection? heading (lines.drop (index + 1)) = none ↔ heading.Accepted lines index := by
  have hparts : heading.Accepted lines index ↔ heading.name ∉ lifecycleHooks ∧
      (heading.isQuoted = true ∨ labelWithin labelReach (lines.drop (index + 1)) = true) ∧
      (heading.opens = true ∨ braceWithin braceReach (lines.drop (index + 1)) = true) := by
    rw [labelWithin_iff, braceWithin_iff]
    exact ⟨fun ⟨h1, h2, h3⟩ => ⟨h1, h2, h3⟩, fun ⟨h1, h2, h3⟩ => ⟨h1, h2, h3⟩⟩
  rw [hparts, rejection?]
  generalize labelWithin labelReach (lines.drop (index + 1)) = label
  generalize braceWithin braceReach (lines.drop (index + 1)) = brace
  by_cases hhook : heading.name ∈ lifecycleHooks
  · simp [hhook]
  · cases heading.isQuoted <;> cases label <;> cases heading.opens <;> cases brace <;> simp [hhook]

/-- The lines that are looked at decide. -/
theorem rejection?_congr {heading : MethodHeading} {below other : List Text}
    (hlabel : heading.isQuoted = true ∨ other.take (labelReach - 1) = below.take (labelReach - 1))
    (hbrace : other.take braceReach = below.take braceReach) : rejection? heading other = rejection? heading below := by
  rcases hlabel with hquoted | hlabel
  · have hskip (found : Bool) : (!heading.isQuoted && !found) = false := by simp [hquoted]
    rw [rejection?, rejection?, hskip, hskip, braceWithin, braceWithin, hbrace]
  · rw [rejection?, rejection?, labelWithin, labelWithin, braceWithin, braceWithin, hlabel, hbrace]

/-- Files that agree on some lines agree on what is taken of them. -/
theorem take_drop_congr {lines other : List Text} {first n : Nat}
    (h : ∀ k, first ≤ k → k < first + n → other[k]? = lines[k]?) : (other.drop first).take n = (lines.drop first).take n := by
  refine List.ext_getElem? fun k => ?_
  rw [List.getElem?_take, List.getElem?_take]
  split
  · rw [List.getElem?_drop, List.getElem?_drop, h _ (Nat.le_add_right first k) (by omega)]
  · rfl

/-! ## The decision -/

/-- A method that is accepted becomes a feature under the name of its heading. -/
theorem judge_false_iff {lines : List Text} {index : Nat} {line : Text} (hline : lines[index]? = some line)
    (heading : MethodHeading) :
    judge false lines index heading = .ok (.feature ⟨heading.name, index, .ofLine index line, none⟩ []) ↔
      rejection? heading (lines.drop (index + 1)) = none := by
  rw [judge]
  cases rejection? heading (lines.drop (index + 1)) with
  | some reason => simp
  | none => simp [hline]

/-- **A method is accepted exactly by its bounded looks ahead**, under the name that its heading gives it. So files
that agree on the heading and the lines that are looked at agree on the decision and its reason: 49 lines below the
heading, or 4 if the name is quoted. -/
theorem accepted_exact {lines : List Text} {index : Nat} {line : Text} {heading : MethodHeading}
    (hline : lines[index]? = some line) (hread : MethodHeading.read? (trim line) = some heading) :
    heading.WrittenAs (trim line) ∧
    (rejection? heading (lines.drop (index + 1)) = none ↔ heading.Accepted lines index) ∧
    (judge false lines index heading = .ok (.feature ⟨heading.name, index, .ofLine index line, none⟩ []) ↔
      heading.Accepted lines index) ∧
    (∀ other : List Text, (∀ k, index ≤ k → k ≤ index + 49 → other[k]? = lines[k]?) →
      rejection? heading (other.drop (index + 1)) = rejection? heading (lines.drop (index + 1))) ∧
    (heading.isQuoted = true →
      ∀ other : List Text, (∀ k, index ≤ k → k ≤ index + 4 → other[k]? = lines[k]?) →
        rejection? heading (other.drop (index + 1)) = rejection? heading (lines.drop (index + 1))) := by
  refine ⟨writtenAs_of_read? (trim_trim line) hread, rejection?_eq_none_iff,
    (judge_false_iff hline heading).trans rejection?_eq_none_iff, fun other h => ?_, fun hquoted other h => ?_⟩
  · refine rejection?_congr (.inr (take_drop_congr fun k hlow hhigh => ?_)) (take_drop_congr fun k hlow hhigh => ?_)
    · exact h k (by omega) (by rw [labelReach] at hhigh; omega)
    · exact h k (by omega) (by rw [braceReach] at hhigh; omega)
  · refine rejection?_congr (.inl hquoted) (take_drop_congr fun k hlow hhigh => ?_)
    exact h k (by omega) (by rw [braceReach] at hhigh; omega)

/-- A method without quotes whose body opens behind a comment and a blank line. -/
def openedLater : List Text :=
  ["class A extends Specification \x7b".toList, "  def works()".toList, "  // soon".toList, "".toList, "  \x7b".toList,
    "    expect: 'it works'".toList, "  \x7d".toList]

theorem accepted_openedLater :
    openedLater[1]? = some "  def works()".toList ∧
      MethodHeading.read? (trim "  def works()".toList) = some ⟨"works".toList, false, false⟩ ∧
      MethodHeading.Accepted ⟨"works".toList, false, false⟩ openedLater 1 ∧
      rejection? ⟨"works".toList, false, false⟩ (([] :: openedLater.tail).drop 2) = none := by
  have hline : openedLater[1]? = some "  def works()".toList := rfl
  have hread : MethodHeading.read? (trim "  def works()".toList) = some ⟨"works".toList, false, false⟩ := by decide
  have hdecision : rejection? ⟨"works".toList, false, false⟩ (openedLater.drop 2) = none := by decide
  obtain ⟨-, haccepted, -, hsame, -⟩ := accepted_exact hline hread
  refine ⟨hline, hread, haccepted.1 hdecision, ?_⟩
  rw [hsame ([] :: openedLater.tail) fun k hk _ => ?_, hdecision]
  obtain ⟨n, rfl⟩ := Nat.exists_eq_add_of_le hk
  rw [Nat.add_comm, List.getElem?_cons_succ]
  rfl

end SpecAtlas.Source
