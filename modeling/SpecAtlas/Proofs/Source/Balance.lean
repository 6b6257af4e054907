import Mathlib.Data.Nat.Init
import SpecAtlas.Proofs.Source.Run

/-!
# The balance of a scan

The position of a scan has five fields that change together, but what it says can be read off the
lines themselves. Only the last specification heading and the lines from there on count:

1. the class is open as long as the braces since its heading have not balanced out;
2. while it is open, the balance is the sum of the braces since the heading;
3. otherwise the scan stands where it began.

`Position.Sound` ties the fields to each other: an opened body has a positive balance, and a nested
region is open exactly while the balance is above its floor. Every line keeps it (`sound_advance`),
so every run does (`sound_run`).
-/

namespace SpecAtlas.Source

open Text

/-! ## Braces of several lines -/

/-- The opening braces of lines less the closing ones. -/
def balanceOf : List Text → Int
  | [] => 0
  | line :: rest => braceDelta line + balanceOf rest

/-- Whether an opening brace stands in one of the lines. -/
def hasOpening (lines : List Text) : Bool := lines.any (·.elem '{')

@[simp] theorem balanceOf_nil : balanceOf [] = 0 := rfl

@[simp] theorem balanceOf_cons (line : Text) (rest : List Text) :
    balanceOf (line :: rest) = braceDelta line + balanceOf rest := rfl

theorem balanceOf_append (first rest : List Text) :
    balanceOf (first ++ rest) = balanceOf first + balanceOf rest := by
  induction first with
  | nil => simp
  | cons line first ih => rw [List.cons_append, balanceOf_cons, balanceOf_cons, ih, Int.add_assoc]

theorem hasOpening_append (first rest : List Text) :
    hasOpening (first ++ rest) = (hasOpening first || hasOpening rest) := by
  simp [hasOpening]

/-- The lines from number `d` to number `k`. -/
def linesBetween (lines : List Text) (d k : Nat) : List Text := (lines.take (k + 1)).drop d

theorem linesBetween_self {lines : List Text} {d : Nat} {line : Text} (h : lines[d]? = some line) :
    linesBetween lines d d = [line] := by
  obtain ⟨hd, -⟩ := List.getElem?_eq_some_iff.1 h
  rw [linesBetween, List.take_add_one, h, List.drop_append_of_le_length (by rw [List.length_take]; omega),
    List.drop_of_length_le (by rw [List.length_take]; omega)]
  rfl

theorem linesBetween_succ {lines : List Text} {d k : Nat} {line : Text} (hdk : d ≤ k)
    (h : lines[k + 1]? = some line) : linesBetween lines d (k + 1) = linesBetween lines d k ++ [line] := by
  obtain ⟨hk, -⟩ := List.getElem?_eq_some_iff.1 h
  rw [linesBetween, List.take_add_one, h, List.drop_append_of_le_length (by rw [List.length_take]; omega)]
  rfl

/-- The braces of the lines from `d` to `k` have been opened and have balanced out. -/
def BalancedOut (lines : List Text) (d k : Nat) : Prop :=
  hasOpening (linesBetween lines d k) = true ∧ balanceOf (linesBetween lines d k) ≤ 0

theorem balancedOut_iff {lines : List Text} {d k : Nat} :
    BalancedOut lines d k ↔
      (hasOpening (linesBetween lines d k) && decide (balanceOf (linesBetween lines d k) ≤ 0)) = true := by
  rw [BalancedOut, Bool.and_eq_true_iff, decide_eq_true_eq]

/-- Line number `d` is the last specification heading. -/
structure IsLastClass (lines : List Text) (d : Nat) : Prop where
  declares : ∃ line, lines[d]? = some line ∧ declaresClass line = true
  later : ∀ j line, d < j → lines[j]? = some line → declaresClass line = false

/-- If there is a specification heading, there is a last one. -/
theorem exists_isLastClass {lines : List Text} (h : ∃ line ∈ lines, declaresClass line = true) :
    ∃ d, IsLastClass lines d := by
  induction lines with
  | nil => simp at h
  | cons line rest ih =>
      by_cases hr : ∃ l ∈ rest, declaresClass l = true
      · obtain ⟨d, hd⟩ := ih hr
        refine ⟨d + 1, hd.declares, fun j l hj hl => ?_⟩
        obtain ⟨i, rfl⟩ : ∃ i, j = i + 1 := ⟨j - 1, by omega⟩
        exact hd.later i l (by omega) hl
      · have hline : declaresClass line = true := by
          obtain ⟨l, hl, hc⟩ := h
          cases List.mem_cons.1 hl with
          | inl he => exact he ▸ hc
          | inr hm => exact absurd ⟨l, hm, hc⟩ hr
        refine ⟨0, ⟨line, rfl, hline⟩, fun j l hj hl => ?_⟩
        obtain ⟨i, rfl⟩ : ∃ i, j = i + 1 := ⟨j - 1, by omega⟩
        exact Bool.eq_false_iff.2 fun hc => hr ⟨l, List.mem_of_getElem? hl, hc⟩

namespace Position

/-! ## The invariant -/

/-- What holds of a nested region with a given floor at a given balance: it is open exactly while the
balance is above its floor. -/
structure RegionSound (floor : Option Int) (opened : Bool) (balance : Int) : Prop where
  inside : ∀ f, floor = some f → 1 ≤ f ∧ (opened = true ↔ f < balance)
  outside : floor = none → opened = false

/-- What holds of every position that a scan can reach. -/
structure Sound (p : Position) : Prop where
  /-- Outside of classes a scan stands where it began. -/
  outside : p.inClass = false → p = {}
  opened : p.inClass = true → p.bodyOpened = true → 1 ≤ p.balance
  unopened : p.inClass = true → p.bodyOpened = false → p.balance ≤ 0 ∧ p.nestedFloor = none
  region : RegionSound p.nestedFloor p.nestedOpened p.balance

theorem regionSound_none (balance : Int) : RegionSound none false balance where
  inside _ h := by contradiction
  outside _ := rfl

theorem sound_start : Sound {} where
  outside _ := rfl
  opened h := by contradiction
  unopened h := by contradiction
  region := regionSound_none 0

theorem sound_afterClass (line : Text) : Sound (afterClass line) := by
  unfold afterClass
  cases ho : line.elem '{' with
  | false =>
      have hd := braceDelta_nonpos ho
      exact ⟨by simp, by simp, by simpa using hd, regionSound_none _⟩
  | true =>
      by_cases hd : braceDelta line ≤ 0
      · simpa [hd] using sound_start
      · rw [if_neg (by simpa using hd)]
        exact ⟨by simp, fun _ _ => by show 1 ≤ braceDelta line; omega, by simp, regionSound_none _⟩

/-- A nested region begins only in an opened body, where the balance is positive. -/
theorem regionSound_nestedAt {p : Position} (h : Sound p) (hp : p.inClass = true) (line : Text) :
    RegionSound (p.nestedAt line).1 (p.nestedAt line).2 p.balance := by
  unfold nestedAt
  cases hf : p.nestedFloor with
  | some floor =>
      have hregion := h.region
      rwa [hf] at hregion
  | none =>
      by_cases ht : (p.bodyOpened && isTypeHeading (trim line)) = true
      · have hb : p.bodyOpened = true := (Bool.and_eq_true_iff.1 ht).1
        rw [if_pos ht]
        refine ⟨fun f he => ?_, fun he => by contradiction⟩
        obtain rfl : p.balance = f := Option.some.inj he
        exact ⟨h.opened hp hb, by simp⟩
      · have hregion := h.region
        rw [if_neg ht]
        rwa [hf] at hregion

/-- Without an opened body there is no nested region. -/
theorem nestedAt_unopened {p : Position} (h : Sound p) (hp : p.inClass = true) (hb : p.bodyOpened = false)
    (line : Text) : p.nestedAt line = (none, false) := by
  have hnone := (h.unopened hp hb).2
  have hclosed := h.region.outside hnone
  rw [nestedAt, hnone, hb, hclosed]
  rfl

/-- A line moves the balance and leaves a nested region open, closes it, or opens it. -/
theorem regionSound_nestedAfter {floor : Option Int} {opened : Bool} {balance : Int}
    (h : RegionSound floor opened balance) (line : Text) :
    RegionSound (nestedAfter floor opened (balance + braceDelta line) line).1
      (nestedAfter floor opened (balance + braceDelta line) line).2 (balance + braceDelta line) := by
  unfold nestedAfter
  cases floor with
  | none => exact ⟨fun _ he => by contradiction, fun _ => h.outside rfl⟩
  | some f =>
      obtain ⟨hpos, hiff⟩ := h.inside f rfl
      by_cases hleave : ((opened || line.elem '{') && decide (balance + braceDelta line ≤ f)) = true
      · simp only [hleave, if_true]
        exact regionSound_none _
      · simp only [hleave, Bool.false_eq_true, if_false]
        refine ⟨fun g he => ?_, fun he => by contradiction⟩
        obtain rfl : f = g := Option.some.inj he
        refine ⟨hpos, ?_⟩
        cases hopen : opened || line.elem '{' with
        | true =>
            simp only [hopen, Bool.true_and, decide_eq_true_eq] at hleave
            simp only [true_iff]
            omega
        | false =>
            -- Without an opening brace the balance does not rise above the floor.
            obtain ⟨ho, he⟩ := Bool.or_eq_false_iff.1 hopen
            have hd := braceDelta_nonpos he
            have hle : ¬ f < balance := fun hlt => by
              rw [ho] at hiff
              exact absurd (hiff.2 hlt) (by decide)
            simp only [Bool.false_eq_true, false_iff]
            omega

theorem withinClass_eq (p : Position) (line : Text) :
    p.withinClass line =
      if (p.bodyOpened || line.elem '{') && decide (p.balance + braceDelta line ≤ 0) then {}
      else
        ⟨true, p.bodyOpened || line.elem '{', p.balance + braceDelta line,
          (nestedAfter (p.nestedAt line).1 (p.nestedAt line).2 (p.balance + braceDelta line) line).1,
          (nestedAfter (p.nestedAt line).1 (p.nestedAt line).2 (p.balance + braceDelta line) line).2⟩ := rfl

theorem sound_withinClass {p : Position} (h : Sound p) (hp : p.inClass = true) (line : Text) :
    Sound (p.withinClass line) := by
  rw [withinClass_eq]
  by_cases hclose : ((p.bodyOpened || line.elem '{') && decide (p.balance + braceDelta line ≤ 0)) = true
  · rw [if_pos hclose]
    exact sound_start
  · rw [if_neg hclose]
    refine ⟨by simp, fun _ hopen => ?_, fun _ hopen => ?_,
      regionSound_nestedAfter (regionSound_nestedAt h hp line) line⟩
    · have ho : (p.bodyOpened || line.elem '{') = true := hopen
      rw [ho, Bool.true_and, decide_eq_true_eq] at hclose
      show 1 ≤ p.balance + braceDelta line
      omega
    · obtain ⟨hb, he⟩ := Bool.or_eq_false_iff.1 hopen
      have hd := braceDelta_nonpos he
      have hle := (h.unopened hp hb).1
      refine ⟨by show p.balance + braceDelta line ≤ 0; omega, ?_⟩
      rw [nestedAt_unopened h hp hb]
      rfl

/-- **Step**: a line keeps the invariant, whatever it holds. -/
theorem sound_advance {p : Position} (h : Sound p) (line : Text) : Sound (p.advance line).1 := by
  cases hd : declaresClass line with
  | true =>
      obtain ⟨g, hg⟩ := Option.isSome_iff_exists.1 hd
      rw [advance_of_class p hg]
      exact sound_afterClass line
  | false =>
      cases hp : p.inClass with
      | false => rwa [advance_outside hd hp]
      | true =>
          rw [advance_inside hd hp]
          exact sound_withinClass h hp line

/-- **Run**: so does any number of lines. -/
theorem sound_run {p : Position} (h : Sound p) (lines : List Text) : Sound (p.run lines) := by
  induction lines generalizing p with
  | nil => exact h
  | cons line rest ih => exact ih (sound_advance h line)

/-! ## The closed form -/

/-- What a scan that came from the heading in line `d` has reached behind line `k`. -/
structure OpenSince (lines : List Text) (d k : Nat) (p : Position) : Prop where
  inClass : p.inClass = true
  bodyOpened : p.bodyOpened = hasOpening (linesBetween lines d k)
  balance : p.balance = balanceOf (linesBetween lines d k)
  notYet : ∀ j, d ≤ j → j ≤ k → ¬ BalancedOut lines d j

/-- Behind line `k` the class of the last heading is still open, or it has closed for good. -/
theorem run_since_class {lines : List Text} {d : Nat} (hd : IsLastClass lines d) {k : Nat} (hdk : d ≤ k)
    (hk : k < lines.length) :
    OpenSince lines d k (({} : Position).run (lines.take (k + 1))) ∨
      (({} : Position).run (lines.take (k + 1)) = {} ∧ ∃ j, d ≤ j ∧ j ≤ k ∧ BalancedOut lines d j) := by
  induction k, hdk using Nat.le_induction with
  | base =>
      obtain ⟨line, hline, hc⟩ := hd.declares
      obtain ⟨heading, hh⟩ := Option.isSome_iff_exists.1 hc
      have hopen : hasOpening (linesBetween lines d d) = line.elem '{' := by
        rw [linesBetween_self hline]
        simp [hasOpening]
      have hbalance : balanceOf (linesBetween lines d d) = braceDelta line := by
        rw [linesBetween_self hline]
        simp
      rw [run_take_succ _ hline, advance_of_class _ hh]
      simp only [afterClass, ← hopen, ← hbalance]
      by_cases hout : BalancedOut lines d d
      · right
        exact ⟨if_pos (balancedOut_iff.1 hout), d, Nat.le_refl d, Nat.le_refl d, hout⟩
      · left
        rw [if_neg (mt balancedOut_iff.2 hout)]
        refine ⟨rfl, rfl, rfl, fun j hdj hjd => ?_⟩
        obtain rfl : d = j := Nat.le_antisymm hdj hjd
        exact hout
  | succ k hdk ih =>
      have hline : lines[k + 1]? = some lines[k + 1] := List.getElem?_eq_getElem hk
      generalize lines[k + 1] = line at hline
      have hclass := hd.later (k + 1) line (by omega) hline
      have hopen : hasOpening (linesBetween lines d (k + 1)) =
          (hasOpening (linesBetween lines d k) || line.elem '{') := by
        rw [linesBetween_succ hdk hline, hasOpening_append]
        simp [hasOpening]
      have hbalance : balanceOf (linesBetween lines d (k + 1)) =
          balanceOf (linesBetween lines d k) + braceDelta line := by
        rw [linesBetween_succ hdk hline, balanceOf_append]
        simp
      rw [run_take_succ _ hline]
      rcases ih (by omega) with hopened | ⟨hstart, j, hdj, hjk, hout⟩
      · rw [advance_inside hclass hopened.inClass, withinClass_eq, hopened.bodyOpened, hopened.balance,
          ← hopen, ← hbalance]
        by_cases hout : BalancedOut lines d (k + 1)
        · right
          exact ⟨if_pos (balancedOut_iff.1 hout), k + 1, by omega, Nat.le_refl _, hout⟩
        · left
          rw [if_neg (mt balancedOut_iff.2 hout)]
          refine ⟨rfl, rfl, rfl, fun j hdj hjk => ?_⟩
          cases Nat.lt_or_eq_of_le hjk with
          | inl hlt => exact hopened.notYet j hdj (by omega)
          | inr heq => exact heq ▸ hout
      · right
        rw [hstart, advance_outside hclass rfl]
        exact ⟨rfl, j, hdj, by omega, hout⟩

/-- **The closed form of the scan**: without a specification heading the scan stays where it began.
Otherwise, behind every line `k` from the last heading `d` on, it is in the class exactly if no line up
to `k` has balanced the braces out, its balance is then the sum of the braces since the heading, and
outside of the class it stands where it began. All positions that a scan reaches are sound. -/
theorem run_eq_balance (lines : List Text) :
    ((∀ line ∈ lines, declaresClass line = false) → ({} : Position).run lines = {}) ∧
      ((∃ line ∈ lines, declaresClass line = true) → ∃ d, IsLastClass lines d ∧
        ∀ k, d ≤ k → k < lines.length →
          ((({} : Position).run (lines.take (k + 1))).inClass = true ↔
            ∀ j, d ≤ j → j ≤ k → ¬ BalancedOut lines d j) ∧
          ((({} : Position).run (lines.take (k + 1))).inClass = true →
            (({} : Position).run (lines.take (k + 1))).bodyOpened = hasOpening (linesBetween lines d k) ∧
              (({} : Position).run (lines.take (k + 1))).balance = balanceOf (linesBetween lines d k)) ∧
          ((({} : Position).run (lines.take (k + 1))).inClass = false →
            ({} : Position).run (lines.take (k + 1)) = {})) ∧
      Sound (({} : Position).run lines) := by
  refine ⟨fun hnone => run_outside hnone rfl, fun hsome => ?_, sound_run sound_start lines⟩
  obtain ⟨d, hd⟩ := exists_isLastClass hsome
  refine ⟨d, hd, fun k hdk hk => ?_⟩
  rcases run_since_class hd hdk hk with hopened | ⟨hstart, j, hdj, hjk, hout⟩
  · refine ⟨iff_of_true hopened.inClass hopened.notYet,
      fun _ => ⟨hopened.bodyOpened, hopened.balance⟩, fun hin => ?_⟩
    rw [hopened.inClass] at hin
    contradiction
  · rw [hstart]
    refine ⟨iff_of_false Bool.false_ne_true fun hnever => hnever j hdj hjk hout,
      fun hin => by contradiction, fun _ => rfl⟩

end Position

end SpecAtlas.Source
