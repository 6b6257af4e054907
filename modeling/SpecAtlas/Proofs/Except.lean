import Mathlib.Data.List.Forall2

/-!
# Steps that can be refused

A reader refuses an input by an error and the readers that call it pass the error on. The lemmas of
this module take a result apart into the results of the steps, so that no proof about a reader has to
look at the errors of the readers below it.
-/

namespace SpecAtlas

variable {ε α β : Type}

/-- A step that has a result hands it on. -/
theorem ok_bind (a : α) (f : α → Except ε β) : (.ok a >>= f) = f a := rfl

/-- A result has no error to be worded anew. -/
theorem mapError_ok {ε' : Type} (a : α) (f : ε → ε') : (Except.ok a).mapError f = .ok a := rfl

/-- An error that is worded anew was an error. -/
theorem mapError_eq_error {ε' : Type} {x : Except ε α} {f : ε → ε'} {e : ε'} :
    x.mapError f = .error e ↔ ∃ d, x = .error d ∧ e = f d := by
  cases x <;> simp [Except.mapError, eq_comm]

theorem mapError_eq_ok {ε' : Type} {x : Except ε α} {f : ε → ε'} {a : α} : x.mapError f = .ok a ↔ x = .ok a := by
  cases x <;> simp [Except.mapError]

/-- A changed result is refused for what the result is refused for. -/
theorem map_eq_error {x : Except ε α} {f : α → β} {e : ε} : x.map f = .error e ↔ x = .error e := by
  cases x <;> simp [Except.map]

/-- A step is refused, or it has a result. -/
theorem exists_error_iff {x : Except ε α} : (∃ e, x = .error e) ↔ ¬ ∃ a, x = .ok a := by
  cases x <;> simp

/-- A sequence of two steps has a result exactly if both have one. -/
theorem bind_eq_ok {x : Except ε α} {f : α → Except ε β} {r : β} :
    x >>= f = .ok r ↔ ∃ a, x = .ok a ∧ f a = .ok r := by
  cases x with
  | error e => simp [bind, Except.bind]
  | ok a => simp [bind, Except.bind]

/-- A sequence of two steps is refused if the first one is, or if that has a result and the second one
is. -/
theorem bind_eq_error {x : Except ε α} {f : α → Except ε β} {e : ε} :
    x >>= f = .error e ↔ x = .error e ∨ ∃ a, x = .ok a ∧ f a = .error e := by
  cases x with
  | error e => simp [bind, Except.bind]
  | ok a => simp [bind, Except.bind]

/-- A changed result is the change of a result. -/
theorem map_eq_ok {x : Except ε α} {f : α → β} {r : β} : x.map f = .ok r ↔ ∃ a, x = .ok a ∧ f a = r := by
  cases x with
  | error e => simp [Except.map]
  | ok a => simp [Except.map]

/-- Changes that agree on the result change it alike. -/
theorem map_congr_ok {x : Except ε α} {f g : α → β} (h : ∀ a, x = .ok a → f a = g a) : x.map f = x.map g := by
  cases x with
  | error e => rfl
  | ok a => exact congrArg Except.ok (h a rfl)

/-- What is seen in a result is seen in one that there is. -/
theorem exists_of_map_toOption {x : Except ε α} {f : α → β} {b : β} (h : x.toOption.map f = some b) :
    ∃ a, x = .ok a ∧ f a = b := by
  cases x with
  | error e => contradiction
  | ok a => exact ⟨a, rfl, Option.some.inj h⟩

/-- The results of a list of steps are the results of its members, in order. -/
theorem forall₂_of_mapM {f : α → Except ε β} {items : List α} {results : List β}
    (h : items.mapM f = .ok results) : List.Forall₂ (fun a b => f a = .ok b) items results := by
  induction items generalizing results with
  | nil =>
      rw [List.mapM_nil] at h
      cases h
      exact .nil
  | cons a rest ih =>
      rw [List.mapM_cons] at h
      obtain ⟨b, hb, h⟩ := bind_eq_ok.1 h
      obtain ⟨bs, hbs, h⟩ := bind_eq_ok.1 h
      cases h
      exact .cons hb (ih hbs)

/-- Results of all the members are results of the list. -/
theorem mapM_of_forall₂ {f : α → Except ε β} {items : List α} {results : List β}
    (h : List.Forall₂ (fun a b => f a = .ok b) items results) : items.mapM f = .ok results := by
  induction h with
  | nil => rfl
  | cons hab _ ih =>
      rw [List.mapM_cons, hab, ih]
      rfl

/-- Every result is that of one of the steps. -/
theorem exists_of_mem_right {R : α → β → Prop} {items : List α} {results : List β}
    (h : List.Forall₂ R items results) {b : β} (hb : b ∈ results) : ∃ a ∈ items, R a b := by
  induction h with
  | nil => simp at hb
  | cons hab _ ih =>
      cases List.mem_cons.1 hb with
      | inl he => exact ⟨_, List.mem_cons_self, he ▸ hab⟩
      | inr hr =>
          obtain ⟨a, ha, hR⟩ := ih hr
          exact ⟨a, List.mem_cons_of_mem _ ha, hR⟩

/-- Every step has one of the results. -/
theorem exists_of_mem_left {R : α → β → Prop} {items : List α} {results : List β}
    (h : List.Forall₂ R items results) {a : α} (ha : a ∈ items) : ∃ b ∈ results, R a b :=
  exists_of_mem_right h.flip ha

/-- What can be read off a step as well as off its result is read off both lists alike. -/
theorem map_eq_of_forall₂ {γ : Type} {f : α → γ} {g : β → γ} {items : List α} {results : List β}
    (h : List.Forall₂ (fun a b => g b = f a) items results) : results.map g = items.map f := by
  induction h with
  | nil => rfl
  | cons hab _ ih => rw [List.map_cons, List.map_cons, hab, ih]

/-- Steps that are never refused give the list of their results. -/
theorem mapM_eq_ok {f : α → Except ε β} {g : α → β} {items : List α} (h : ∀ a ∈ items, f a = .ok (g a)) :
    items.mapM f = .ok (items.map g) := by
  induction items with
  | nil => rfl
  | cons a rest ih =>
      rw [List.mapM_cons, h a List.mem_cons_self, ih fun b hb => h b (List.mem_cons_of_mem a hb)]
      rfl

/-- What every step of a run keeps, the run keeps. -/
theorem invariant_of_foldlM {step : β → α → Except ε β} {Inv : β → Prop} {items : List α} {start last : β}
    (hstart : Inv start) (hstep : ∀ a ∈ items, ∀ b c, Inv b → step b a = .ok c → Inv c)
    (hrun : items.foldlM step start = .ok last) : Inv last := by
  induction items generalizing start with
  | nil =>
      cases hrun
      exact hstart
  | cons a rest ih =>
      rw [List.foldlM_cons] at hrun
      obtain ⟨next, hnext, hrest⟩ := bind_eq_ok.1 hrun
      exact ih (hstep a List.mem_cons_self start next hstart hnext)
        (fun b hb => hstep b (List.mem_cons_of_mem a hb)) hrest

/-- Where every member has a counterpart, the list has one. -/
theorem exists_forall₂ {R : α → β → Prop} {items : List α} (h : ∀ a ∈ items, ∃ b, R a b) :
    ∃ results, List.Forall₂ R items results := by
  induction items with
  | nil => exact ⟨[], .nil⟩
  | cons a rest ih =>
      obtain ⟨b, hb⟩ := h a List.mem_cons_self
      obtain ⟨bs, hbs⟩ := ih fun x hx => h x (List.mem_cons_of_mem a hx)
      exact ⟨b :: bs, .cons hb hbs⟩

/-- Steps of which none is refused have results together. -/
theorem exists_mapM_eq_ok {f : α → Except ε β} {items : List α} (h : ∀ a ∈ items, ∃ b, f a = .ok b) :
    ∃ results, items.mapM f = .ok results := by
  obtain ⟨results, hresults⟩ := exists_forall₂ h
  exact ⟨results, mapM_of_forall₂ hresults⟩

/-- Where every member has a result with some members of its own, the list has results, which have the members of
all of them. -/
theorem exists_mapM_mem {γ : Type} {f : α → Except ε β} {M : β → γ → Prop} {R : α → γ → Prop} {items : List α}
    (h : ∀ a ∈ items, ∃ b, f a = .ok b ∧ ∀ c, M b c ↔ R a c) :
    ∃ results, items.mapM f = .ok results ∧ ∀ c, (∃ b ∈ results, M b c) ↔ ∃ a ∈ items, R a c := by
  induction items with
  | nil => exact ⟨[], rfl, by simp⟩
  | cons a rest ih =>
      obtain ⟨b, hb, hmem⟩ := h a List.mem_cons_self
      obtain ⟨bs, hbs, hrest⟩ := ih fun x hx => h x (List.mem_cons_of_mem a hx)
      refine ⟨b :: bs, ?_, fun c => ?_⟩
      · rw [List.mapM_cons, hb, hbs]
        rfl
      · rw [List.exists_mem_cons_iff, List.exists_mem_cons_iff, hmem, hrest]

/-- A change of the results can be made step by step. -/
theorem map_mapM {γ : Type} (f : α → Except ε β) (g : β → γ) (items : List α) :
    (items.mapM f).map (List.map g) = items.mapM fun a => (f a).map g := by
  induction items with
  | nil => rfl
  | cons a rest ih =>
      rw [List.mapM_cons, List.mapM_cons, ← ih]
      cases f a with
      | error e => rfl
      | ok b => cases rest.mapM f <;> rfl

/-- Where inputs and results correspond step by step, they correspond as lists. -/
theorem mapM_map_comm {α' β' : Type} {f : α → Except ε β} {f' : α' → Except ε β'} {move : α → α'} {g : β → β'}
    (h : ∀ a, f' (move a) = (f a).map g) (items : List α) :
    (items.map move).mapM f' = (items.mapM f).map (List.map g) := by
  rw [List.mapM_map, map_mapM]
  exact congrArg (List.mapM · items) (funext h)

end SpecAtlas
