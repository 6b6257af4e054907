import Mathlib.Data.List.Infix
import SpecAtlas.Text.Basic

/-!
# Finding a mark in composed text

Where text is put together from parts, `cut?` finds the first occurrence of a mark only where one can
begin. A part in front is *clear* of the mark if no occurrence begins in it, whatever follows: the
mark is not in it, and its end is not how the mark begins. Clear parts put together are clear, and
`cut?` passes over them (`cut?_append`).

A text that was cut off is closed by a character that the mark does not have, such as a line feed:
then it is clear if the mark is not in what is left of it (`isClear_concat`).
-/

namespace SpecAtlas.Text

/-! ## Clear text -/

/-- Whether no occurrence of `mark` begins in a text, whatever follows it. -/
def isClear (mark : Text) : Text → Bool
  | [] => true
  | c :: front => !mark.isPrefixOf (c :: front) && !(c :: front).isPrefixOf mark && isClear mark front

theorem isClear_cons {mark front : Text} {c : Char} :
    isClear mark (c :: front) = true ↔
      ¬ mark <+: c :: front ∧ ¬ c :: front <+: mark ∧ isClear mark front = true := by
  simp only [isClear, Bool.and_eq_true, Bool.not_eq_true', ← Bool.not_eq_true, List.isPrefixOf_iff_prefix,
    and_assoc]

/-- No occurrence begins at the front of a clear text. -/
theorem not_prefix_of_isClear {mark front : Text} {c : Char} (h : isClear mark (c :: front) = true)
    (rest : Text) : ¬ mark <+: c :: (front ++ rest) := by
  intro hp
  obtain ⟨hmark, hfront, -⟩ := isClear_cons.1 h
  rcases List.prefix_or_prefix_of_prefix hp (List.prefix_append (c :: front) rest) with h1 | h2
  · exact hmark h1
  · exact hfront h2

theorem isClear_append {mark front back : Text} (hfront : isClear mark front = true)
    (hback : isClear mark back = true) : isClear mark (front ++ back) = true := by
  induction front with
  | nil => exact hback
  | cons c front ih =>
      obtain ⟨-, hshort, hrest⟩ := isClear_cons.1 hfront
      refine isClear_cons.2 ⟨not_prefix_of_isClear hfront back, fun hp => ?_, ih hrest⟩
      exact hshort ((List.prefix_append (c :: front) back).trans hp)

/-- Text without the first character of a mark is clear of it. -/
theorem isClear_of_not_mem {m : Char} {mark front : Text} (h : m ∉ front) :
    isClear (m :: mark) front = true := by
  induction front with
  | nil => rfl
  | cons c front ih =>
      have hc : m ≠ c := fun he => h (he ▸ List.mem_cons_self)
      refine isClear_cons.2 ⟨fun hp => ?_, fun hp => ?_, ih fun hm => h (List.mem_cons_of_mem c hm)⟩
      · exact hc (List.cons_prefix_cons.1 hp).1
      · exact hc (List.cons_prefix_cons.1 hp).1.symm

/-- Text in which a mark does not occur is clear of it together with a character that the mark does
not have: an occurrence that reaches beyond the text would reach over that character. -/
theorem isClear_concat {mark front : Text} {stop : Char} (hne : mark ≠ []) (hstop : stop ∉ mark)
    (h : ¬ mark <:+: front) : isClear mark (front ++ [stop]) = true := by
  induction front with
  | nil =>
      obtain ⟨m, rest, rfl⟩ := List.exists_cons_of_ne_nil hne
      exact isClear_cons.2
        ⟨fun hp => hstop ((List.cons_prefix_cons.1 hp).1 ▸ List.mem_cons_self),
          fun hp => hstop ((List.cons_prefix_cons.1 hp).1 ▸ List.mem_cons_self), rfl⟩
  | cons c front ih =>
      refine isClear_cons.2 ⟨fun hp => ?_, fun hp => ?_, ih fun hi => h (List.infix_cons hi)⟩
      · have hp' : mark <+: (c :: front) ++ [stop] := hp
        rcases List.prefix_concat_iff.1 hp' with he | hp'
        · exact hstop (he ▸ List.mem_append_right _ List.mem_cons_self)
        · exact h hp'.isInfix
      · exact hstop (hp.subset (List.mem_cons_of_mem c (List.mem_append_right _ List.mem_cons_self)))

/-- The front of two texts lies in the first one or reaches into the second. -/
theorem prefix_append_cases {p front back : Text} (h : p <+: front ++ back) :
    p <+: front ∨ ∃ q, p = front ++ q ∧ q <+: back := by
  rcases List.prefix_or_prefix_of_prefix h (List.prefix_append front back) with hp | ⟨q, rfl⟩
  · exact .inl hp
  · exact .inr ⟨q, rfl, (List.prefix_append_right_inj front).1 h⟩

/-! ## Cutting -/

/-- A character that a lead does not have ends what can be compared with it. -/
theorem after?_append_stop {lead : Text} {stop : Char} (h : stop ∉ lead) (text rest : Text) :
    after? lead (text ++ stop :: rest) = (after? lead text).map (· ++ stop :: rest) := by
  induction lead generalizing text with
  | nil => rfl
  | cons l lead ih =>
      have hl : l ≠ stop := fun he => h (he ▸ List.mem_cons_self)
      have hlead : stop ∉ lead := fun hm => h (List.mem_cons_of_mem l hm)
      cases text with
      | nil => simp [after?, hl]
      | cons c text =>
          by_cases hc : l = c
          · simp [after?, hc, ih hlead]
          · simp [after?, hc]

theorem after?_eq_none {lead text : Text} : after? lead text = none ↔ ¬ lead <+: text := by
  rw [← not_iff_not, not_not, ← ne_eq, Option.ne_none_iff_exists']
  exact exists_congr fun rest => after?_eq_some.trans eq_comm

/-- A cut passes over clear text. -/
theorem cut?_append {mark front : Text} (h : isClear mark front = true) (rest : Text) :
    cut? mark (front ++ rest) = (cut? mark rest).map fun (before, behind) => (front ++ before, behind) := by
  induction front with
  | nil => simp
  | cons c front ih =>
      have hnone : after? mark (c :: (front ++ rest)) = none :=
        after?_eq_none.2 (not_prefix_of_isClear h rest)
      rw [List.cons_append, cut?, hnone, ih (isClear_cons.1 h).2.2]
      simp [Function.comp_def]

/-- A mark behind clear text is where the text is cut. -/
theorem cut?_mark {mark front : Text} (h : isClear mark front = true) (rest : Text) :
    cut? mark (front ++ (mark ++ rest)) = some (front, rest) := by
  have hhere : cut? mark (mark ++ rest) = some ([], rest) := by
    cases htext : mark ++ rest with
    | nil => simp_all [cut?]
    | cons c text => rw [cut?, ← htext, after?_append]
  rw [cut?_append h, hhere]
  simp

/-- A single character is found behind text without it. -/
theorem cut?_char {c : Char} {front : Text} (h : c ∉ front) (rest : Text) :
    cut? [c] (front ++ c :: rest) = some (front, rest) :=
  cut?_mark (isClear_of_not_mem h) rest

/-- Clear text is not cut. -/
theorem cut?_of_isClear {mark front : Text} (hne : mark ≠ []) (h : isClear mark front = true) :
    cut? mark front = none := by
  have hnil : cut? mark [] = none := by simp [cut?, hne]
  have happend := cut?_append h []
  rwa [List.append_nil, hnil] at happend

/-- A mark that is in a text is found. -/
theorem hasMark_of_isInfix {mark text : Text} (h : mark <:+: text) : hasMark mark text = true := by
  induction text with
  | nil => simp [hasMark, cut?, List.infix_nil.1 h]
  | cons c text ih =>
      rw [hasMark, cut?]
      cases hafter : after? mark (c :: text) with
      | some rest => rfl
      | none =>
          have hlater := (List.infix_cons_iff.1 h).resolve_left (after?_eq_none.1 hafter)
          simpa [hasMark] using ih hlater

/-- A mark that is found is in the text. -/
theorem isInfix_of_hasMark {mark text : Text} (h : hasMark mark text = true) : mark <:+: text := by
  obtain ⟨⟨before, rest⟩, hcut⟩ := Option.isSome_iff_exists.1 h
  exact ⟨before, rest, (eq_of_cut? hcut).symm⟩

/-- Text is not cut exactly if the mark is not in it. -/
theorem cut?_eq_none_iff {mark text : Text} : cut? mark text = none ↔ ¬ mark <:+: text := by
  constructor
  · intro hnone hi
    have hmark := hasMark_of_isInfix hi
    rw [hasMark, hnone] at hmark
    contradiction
  · intro h
    rw [Option.eq_none_iff_forall_ne_some]
    intro parts hcut
    exact h (isInfix_of_hasMark (Option.isSome_of_eq_some hcut))

theorem hasMark_eq_false_iff {mark text : Text} : hasMark mark text = false ↔ ¬ mark <:+: text := by
  rw [hasMark, Option.isSome_eq_false_iff, Option.isNone_iff_eq_none, cut?_eq_none_iff]

/-- What follows a text does not change where it is cut. -/
theorem cut?_append_of_some {mark text before rest : Text} (h : cut? mark text = some (before, rest))
    (more : Text) : cut? mark (text ++ more) = some (before, rest ++ more) := by
  induction text generalizing before with
  | nil =>
      rw [cut?] at h
      split at h
      · rename_i hnil
        cases h
        rw [hnil]
        cases more <;> rfl
      · contradiction
  | cons c text ih =>
      rw [cut?] at h
      cases hafter : after? mark (c :: text) with
      | some behind =>
          rw [hafter] at h
          cases h
          have hmore : after? mark (c :: (text ++ more)) = some (rest ++ more) := by
            rw [after?_eq_some, ← List.cons_append, after?_eq_some.1 hafter, List.append_assoc]
          rw [List.cons_append, cut?, hmore]
      | none =>
          rw [hafter] at h
          obtain ⟨⟨b, r⟩, hcut, he⟩ := Option.map_eq_some_iff.1 h
          obtain ⟨rfl, rfl⟩ := Prod.mk.inj he
          cases hmore : after? mark (c :: (text ++ more)) with
          | none => rw [List.cons_append, cut?, hmore, ih hcut]; rfl
          | some behind =>
              -- The mark does not begin at the front, since it is found behind and the text is long enough.
              have hlong : mark.length ≤ (c :: text).length := by
                simp [eq_of_cut? hcut]
                omega
              have hhere : mark <+: c :: (text ++ more) := ⟨behind, (after?_eq_some.1 hmore).symm⟩
              have hfront : mark <+: c :: text :=
                List.prefix_of_prefix_length_le hhere (List.prefix_append (c :: text) more) hlong
              exact absurd hfront (after?_eq_none.1 hafter)

/-- Whether no front of a mark is also its end, other than the whole of it: then no occurrence of the mark
reaches into another one. -/
def isUnbordered (mark : Text) : Bool := mark.inits.all fun q => q.isEmpty || q == mark || !q.isSuffixOf mark

/-- The first occurrence of such a mark is the one that is put behind text without the mark. -/
theorem cut?_unbordered {mark text : Text} (hmark : isUnbordered mark = true) (h : ¬ mark <:+: text) (rest : Text) :
    cut? mark (text ++ (mark ++ rest)) = some (text, rest) := by
  induction text with
  | nil => exact cut?_mark rfl rest
  | cons c text ih =>
      have hnone : after? mark (c :: (text ++ (mark ++ rest))) = none := by
        refine after?_eq_none.2 fun hp => ?_
        have hp' : mark <+: (c :: text) ++ (mark ++ rest) := hp
        rcases prefix_append_cases hp' with hfront | ⟨q, he, hq⟩
        · exact h hfront.isInfix
        · have hshort : q.length < mark.length := by
            rw [he, List.length_append, List.length_cons]
            omega
          have hprefix : q <+: mark :=
            List.prefix_of_prefix_length_le hq (List.prefix_append mark rest) (Nat.le_of_lt hshort)
          have hsuffix : q <:+ mark := ⟨c :: text, he.symm⟩
          have hborder := List.all_eq_true.1 hmark q ((List.mem_inits q mark).2 hprefix)
          simp only [Bool.or_eq_true, List.isEmpty_iff, beq_iff_eq, Bool.not_eq_true', ← Bool.not_eq_true,
            List.isSuffixOf_iff_suffix] at hborder
          rcases hborder with (rfl | rfl) | hother
          · rw [List.append_nil] at he
            exact h (he ▸ List.infix_refl _)
          · omega
          · exact hother hsuffix
      rw [List.cons_append, cut?, hnone, ih fun hi => h (List.infix_cons hi)]
      rfl

/-- A mark is found behind clear text if it is in the rest. -/
theorem hasMark_append {mark front : Text} (h : isClear mark front = true) (rest : Text) :
    hasMark mark (front ++ rest) = hasMark mark rest := by
  rw [hasMark, cut?_append h, Option.isSome_map, hasMark]

/-- A mark is found in front of clear text if it was there before, where a character that the mark does not have
stands between. -/
theorem hasMark_append_stop {mark back : Text} {stop : Char} (hne : mark ≠ []) (hstop : stop ∉ mark)
    (hback : isClear mark back = true) (text : Text) : hasMark mark (text ++ stop :: back) = hasMark mark text := by
  cases hmark : hasMark mark text with
  | true =>
      obtain ⟨⟨before, rest⟩, hcut⟩ := Option.isSome_iff_exists.1 hmark
      rw [hasMark, cut?_append_of_some hcut]
      rfl
  | false =>
      have hclear := isClear_append (isClear_concat hne hstop (hasMark_eq_false_iff.1 hmark)) hback
      rw [List.append_assoc, List.singleton_append] at hclear
      rw [hasMark, cut?_of_isClear hne hclear]
      rfl

/-- A mark is not in text that is clear of it. -/
theorem not_infix_of_isClear {mark text : Text} (hne : mark ≠ []) (h : isClear mark text = true) :
    ¬ mark <:+: text := by
  intro hi
  have hmark := hasMark_of_isInfix hi
  rw [hasMark, cut?_of_isClear hne h] at hmark
  contradiction

/-- A mark behind clear text is not in a front of both that is not all of it. -/
theorem not_infix_of_isPrefix {mark front p : Text} (h : isClear mark front = true)
    (hp : p <+: front ++ mark) (hne : p ≠ front ++ mark) : ¬ mark <:+: p := by
  induction front generalizing p with
  | nil =>
      intro hi
      exact hne (hp.eq_of_length_le hi.length_le)
  | cons c front ih =>
      cases p with
      | nil =>
          intro hi
          rw [List.infix_nil.1 hi] at h
          simp [isClear] at h
      | cons x p =>
          obtain ⟨rfl, htail⟩ := List.cons_prefix_cons.1 hp
          intro hi
          rcases List.infix_cons_iff.1 hi with hhere | hlater
          · exact not_prefix_of_isClear h mark (hhere.trans hp)
          · exact ih (isClear_cons.1 h).2.2 htail (fun he => hne (congrArg (x :: ·) he)) hlater

end SpecAtlas.Text
