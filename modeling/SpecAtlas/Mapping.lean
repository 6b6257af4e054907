import SpecAtlas.Text.Basic

/-!
# Ordered mappings

A mapping from texts that remembers the order in which its keys arrived. Writing a key that is
present keeps its place and replaces its value; a new key goes to the end.
-/

namespace SpecAtlas

/-- A mapping as the list of its entries, in the order in which the keys arrived. -/
abbrev Mapping (α : Type) := List (Text × α)

namespace Mapping

variable {α : Type}

/-- The value of a key. -/
def get? (m : Mapping α) (key : Text) : Option α :=
  match m with
  | [] => none
  | (k, v) :: rest => if k = key then some v else get? rest key

/-- The mapping with `value` at `key`. -/
def put (m : Mapping α) (key : Text) (value : α) : Mapping α :=
  match m with
  | [] => [(key, value)]
  | (k, v) :: rest => if k = key then (key, value) :: rest else (k, v) :: put rest key value

/-- The mapping that results from writing the entries of a list one after the other. -/
def ofList (entries : List (Text × α)) : Mapping α :=
  entries.foldl (fun m (key, value) => put m key value) []

/-- The keys in the order of their arrival. -/
def keys (m : Mapping α) : List Text := m.map Prod.fst

theorem get?_put_self (m : Mapping α) (key : Text) (value : α) : (put m key value).get? key = some value := by
  induction m with
  | nil => simp [put, get?]
  | cons e rest ih =>
    obtain ⟨k, v⟩ := e
    by_cases h : k = key
    · simp [put, get?, h]
    · simpa [put, get?, h] using ih

theorem get?_put_of_ne (m : Mapping α) {key other : Text} (value : α) (h : other ≠ key) :
    (put m key value).get? other = m.get? other := by
  induction m with
  | nil => simp [put, get?, h.symm]
  | cons e rest ih =>
    obtain ⟨k, v⟩ := e
    by_cases hk : k = key
    · subst hk; simp [put, get?, h.symm]
    · by_cases ho : k = other
      · subst ho; simp [put, get?, h]
      · simpa [put, get?, hk, ho] using ih

/-- A key that is present keeps its place. -/
theorem keys_put_of_mem (m : Mapping α) {key : Text} (value : α) (h : key ∈ m.keys) :
    (put m key value).keys = m.keys := by
  induction m with
  | nil => simp [keys] at h
  | cons e rest ih =>
    obtain ⟨k, v⟩ := e
    by_cases hk : k = key
    · simp [put, keys, hk]
    · have : key ∈ keys rest := by
        simp only [keys, List.map_cons, List.mem_cons] at h
        exact h.resolve_left fun e => hk e.symm
      simpa [put, keys, hk] using ih this

/-- A new key goes to the end. -/
theorem keys_put_of_not_mem (m : Mapping α) {key : Text} (value : α) (h : key ∉ m.keys) :
    (put m key value).keys = m.keys ++ [key] := by
  induction m with
  | nil => simp [put, keys]
  | cons e rest ih =>
    obtain ⟨k, v⟩ := e
    simp only [keys, List.map_cons, List.mem_cons, not_or] at h
    have hk : k ≠ key := fun e => h.1 e.symm
    simpa [put, keys, hk] using ih h.2

end Mapping

end SpecAtlas
