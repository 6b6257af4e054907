import SpecAtlas.Proofs.Except

/-!
# What a reading is refused for

A reader goes through items and refuses its input for the first one that it cannot take.
`RefusedFor refusal? items x` says so of a reading `x`: it is refused exactly if one of the items is, and
then with the refusal of the first. This goes from the parts of a reading to the whole
(`RefusedFor.bind`, `RefusedFor.mapM`), so of a reader no more is to be told than the list of its items.
-/

namespace SpecAtlas

variable {ε ε' α β δ δ' : Type}

/-- A reading is refused exactly for the first of some items that is refused. -/
def RefusedFor (refusal? : δ → Option ε) (items : List δ) (x : Except ε α) : Prop :=
  ∀ e, x = .error e ↔ items.findSome? refusal? = some e

namespace RefusedFor

variable {refusal? : δ → Option ε} {s t : List δ} {x : Except ε α}

/-- What has a result was not refused for anything. -/
theorem ok (a : α) : RefusedFor refusal? [] (.ok a) := fun e => by simp

/-- Two steps are refused for what the first one reads and then for what the second one reads. -/
theorem bind {f : α → Except ε β} (hx : RefusedFor refusal? s x)
    (hf : ∀ a, x = .ok a → RefusedFor refusal? t (f a)) : RefusedFor refusal? (s ++ t) (x >>= f) := by
  intro e
  rw [List.findSome?_append, Option.or_eq_some_iff]
  cases hres : x with
  | error e' =>
      have hfirst : s.findSome? refusal? = some e' := (hx e').1 hres
      simp [hfirst, bind_eq_error]
  | ok a =>
      have hnone : s.findSome? refusal? = none := by
        rw [Option.eq_none_iff_forall_ne_some]
        intro e' he'
        rw [(hx e').2 he'] at hres
        contradiction
      have hsecond := hf a hres e
      simp [hnone, ok_bind, hsecond]

/-- A changed result is refused for the same items. -/
theorem map (hx : RefusedFor refusal? s x) (f : α → β) : RefusedFor refusal? s (x.map f) := by
  intro e
  rw [← hx e]
  cases x <;> simp [Except.map]

/-- Refusals that are worded anew, for items that stand in a larger class of items. -/
theorem mapError {refusal'? : δ' → Option ε'} {place : δ → δ'} {reword : ε → ε'} (hx : RefusedFor refusal? s x)
    (h : ∀ d, refusal'? (place d) = (refusal? d).map reword) :
    RefusedFor refusal'? (s.map place) (x.mapError reword) := by
  intro e
  have hfirst : (s.map place).findSome? refusal'? = (s.findSome? refusal?).map reword := by
    rw [List.findSome?_map, List.map_findSome?]
    exact congrArg (s.findSome? ·) (funext h)
  rw [hfirst, Option.map_eq_some_iff, mapError_eq_error]
  exact exists_congr fun d => and_congr (hx d) eq_comm

/-- A list of steps is refused for what its members read, in order. -/
theorem mapM {f : α → Except ε β} {items : α → List δ} {members : List α}
    (h : ∀ a ∈ members, RefusedFor refusal? (items a) (f a)) :
    RefusedFor refusal? (members.flatMap items) (members.mapM f) := by
  induction members with
  | nil => exact ok []
  | cons a rest ih =>
      rw [List.mapM_cons, List.flatMap_cons]
      refine (h a List.mem_cons_self).bind fun b _ => ?_
      rw [← List.append_nil (rest.flatMap items)]
      exact (ih fun x hx => h x (List.mem_cons_of_mem a hx)).bind fun bs _ => ok (b :: bs)

/-- Of a list of steps of which some are left out, the others are refused for what they read, in order. -/
theorem filterMap {f : α → Option (Except ε β)} {items : α → List δ} {members : List α}
    (hnone : ∀ a ∈ members, f a = none → items a = [])
    (hsome : ∀ a ∈ members, ∀ x, f a = some x → RefusedFor refusal? (items a) x) :
    RefusedFor refusal? (members.flatMap items) ((members.filterMap f).mapM id) := by
  induction members with
  | nil => exact ok []
  | cons a rest ih =>
      have hrest := ih (fun b hb => hnone b (List.mem_cons_of_mem a hb)) fun b hb => hsome b (List.mem_cons_of_mem a hb)
      rw [List.flatMap_cons]
      cases ha : f a with
      | none =>
          rw [List.filterMap_cons_none ha, hnone a List.mem_cons_self ha]
          exact hrest
      | some x =>
          rw [List.filterMap_cons_some ha, List.mapM_cons, ← List.append_nil (rest.flatMap items)]
          refine (hsome a List.mem_cons_self x ha).bind fun b _ => ?_
          exact hrest.bind fun bs _ => ok (b :: bs)

/-- What is refused for some items has a result exactly if none of them is refused. -/
theorem exists_ok_iff (hx : RefusedFor refusal? s x) : (∃ a, x = .ok a) ↔ ∀ d ∈ s, refusal? d = none := by
  rw [← List.findSome?_eq_none_iff, Option.eq_none_iff_forall_ne_some]
  cases hres : x with
  | error e =>
      have hfirst := (hx e).1 hres
      simp only [reduceCtorEq, exists_false, false_iff, not_forall]
      exact ⟨e, not_not.2 hfirst⟩
  | ok a =>
      refine iff_of_true ⟨a, rfl⟩ fun e he => ?_
      rw [(hx e).2 he] at hres
      contradiction

end RefusedFor

end SpecAtlas
