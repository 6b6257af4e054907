import Mathlib.Data.List.Nodup
import SpecAtlas.Mapping

/-!
# Looking up what was written

Of the entries that are written one after the other the last one with a key counts. Entries that all have
different keys make up their mapping as they stand.
-/

namespace SpecAtlas

namespace Mapping

variable {α : Type}

theorem get?_put (m : Mapping α) (key other : Text) (value : α) :
    (put m key value).get? other = if key = other then some value else m.get? other := by
  split
  · rename_i h
    rw [← h, get?_put_self]
  · rename_i h
    exact get?_put_of_ne m value fun he => h he.symm

/-- A key that no entry has leads to nothing. -/
theorem get?_of_not_mem {m : Mapping α} {key : Text} (h : key ∉ m.map Prod.fst) : m.get? key = none := by
  induction m with
  | nil => rfl
  | cons e rest ih =>
      rw [List.map_cons, List.mem_cons, not_or] at h
      rw [get?, if_neg fun he => h.1 he.symm, ih h.2]

/-- What is found at a key is an entry. -/
theorem mem_of_get? {m : Mapping α} {key : Text} {value : α} (h : m.get? key = some value) : (key, value) ∈ m := by
  induction m with
  | nil => contradiction
  | cons e rest ih =>
      rw [get?] at h
      split at h
      · rename_i he
        cases h
        exact he ▸ List.mem_cons_self
      · exact List.mem_cons_of_mem e (ih h)

/-- A new key goes to the end, with its value. -/
theorem put_of_not_mem {m : Mapping α} {key : Text} (value : α) (h : key ∉ m.map Prod.fst) :
    put m key value = m ++ [(key, value)] := by
  induction m with
  | nil => rfl
  | cons e rest ih =>
      obtain ⟨k, v⟩ := e
      rw [List.map_cons, List.mem_cons, not_or] at h
      rw [put, if_neg fun he => h.1 he.symm, ih h.2, List.cons_append]

/-- Writing what is there changes nothing. -/
theorem put_of_get? {m : Mapping α} {key : Text} {value : α} (h : m.get? key = some value) : put m key value = m := by
  induction m with
  | nil => contradiction
  | cons e rest ih =>
      obtain ⟨k, v⟩ := e
      rw [get?] at h
      rw [put]
      split at h
      · rename_i he
        cases h
        rw [if_pos he, he]
      · rename_i hne
        rw [if_neg hne, ih h]

/-- Entries that are written into a mapping come before the ones that it has. -/
theorem get?_foldl_put (entries : List (Text × α)) (m : Mapping α) (key : Text) :
    get? (entries.foldl (fun m (key, value) => put m key value) m) key =
      (get? (ofList entries) key).or (get? m key) := by
  induction entries generalizing m with
  | nil => rfl
  | cons e rest ih =>
      rw [ofList, List.foldl_cons, List.foldl_cons, ih, ih (put [] e.1 e.2), Option.or_assoc, get?_put, get?_put]
      split <;> rfl

/-- The later entries count. -/
theorem get?_ofList_append (front back : List (Text × α)) (key : Text) :
    get? (ofList (front ++ back)) key = (get? (ofList back) key).or (get? (ofList front) key) := by
  rw [ofList, List.foldl_append, get?_foldl_put]
  rfl

theorem get?_ofList_cons (k : Text) (v : α) (rest : List (Text × α)) (key : Text) :
    get? (ofList ((k, v) :: rest)) key = (get? (ofList rest) key).or (if k = key then some v else none) :=
  get?_ofList_append [(k, v)] rest key

/-- A key that was not written has no value. -/
theorem get?_ofList_of_not_mem {entries : List (Text × α)} {key : Text} (h : key ∉ entries.map Prod.fst) :
    get? (ofList entries) key = none := by
  induction entries with
  | nil => rfl
  | cons e rest ih =>
      obtain ⟨k, v⟩ := e
      rw [List.map_cons, List.mem_cons, not_or] at h
      rw [get?_ofList_cons, ih h.2, if_neg fun he => h.1 he.symm]
      rfl

/-- Where every key was written once, it has the value that was written. -/
theorem get?_ofList_of_mem {entries : List (Text × α)} (hn : (entries.map Prod.fst).Nodup) {key : Text} {value : α}
    (h : (key, value) ∈ entries) : get? (ofList entries) key = some value := by
  induction entries with
  | nil => contradiction
  | cons e rest ih =>
      obtain ⟨k, v⟩ := e
      rw [List.map_cons, List.nodup_cons] at hn
      rw [get?_ofList_cons]
      cases h with
      | head => rw [get?_ofList_of_not_mem hn.1, if_pos rfl, Option.none_or]
      | tail _ hrest => rw [ih hn.2 hrest, Option.some_or]

/-- A mapping has no more entries than were written. -/
theorem length_ofList_le (entries : List (Text × α)) : (ofList entries).length ≤ entries.length := by
  have hput (m : Mapping α) (key : Text) (value : α) : (put m key value).length ≤ m.length + 1 := by
    induction m with
    | nil => simp [put]
    | cons e rest ih =>
        rw [put]
        split
        · simp
        · simpa using ih
  have hfold (m : Mapping α) :
      (entries.foldl (fun m (key, value) => put m key value) m).length ≤ m.length + entries.length := by
    induction entries generalizing m with
    | nil => simp
    | cons e rest ih =>
        obtain ⟨k, v⟩ := e
        have hfirst := hput m k v
        have hrest := ih (put m k v)
        show (rest.foldl _ (put m k v)).length ≤ _
        rw [List.length_cons]
        omega
  simpa [ofList] using hfold []

/-- A mapping has no other entries than those that were written. -/
theorem mem_of_mem_ofList {entries : List (Text × α)} {e : Text × α} (h : e ∈ ofList entries) : e ∈ entries := by
  have hput {m : Mapping α} {key : Text} {value : α} (he : e ∈ put m key value) : e ∈ m ∨ e = (key, value) := by
    induction m with
    | nil => exact .inr (List.mem_singleton.1 he)
    | cons first rest ih =>
        rw [put] at he
        split at he
        · exact (List.mem_cons.1 he).symm.imp_left (List.mem_cons_of_mem first)
        · rcases List.mem_cons.1 he with rfl | hrest
          · exact .inl List.mem_cons_self
          · exact (ih hrest).imp_left (List.mem_cons_of_mem first)
  have hfold {m : Mapping α} (he : e ∈ entries.foldl (fun m (key, value) => put m key value) m) :
      e ∈ m ∨ e ∈ entries := by
    clear h
    induction entries generalizing m with
    | nil => exact .inl he
    | cons first rest ih =>
        rcases ih he with hm | hrest
        · exact (hput hm).imp_right fun hfirst => List.mem_cons.2 (.inl hfirst)
        · exact .inr (List.mem_cons_of_mem first hrest)
  exact (hfold h).resolve_left List.not_mem_nil

/-- Entries with different keys are written side by side. -/
theorem foldl_put_of_nodup {entries : List (Text × α)} {m : Mapping α}
    (h : ((m ++ entries).map Prod.fst).Nodup) :
    entries.foldl (fun m (key, value) => put m key value) m = m ++ entries := by
  induction entries generalizing m with
  | nil => rw [List.foldl_nil, List.append_nil]
  | cons e rest ih =>
      obtain ⟨k, v⟩ := e
      have hsplit : m ++ (k, v) :: rest = m ++ [(k, v)] ++ rest := by simp
      have hkeys := h
      rw [List.map_append, List.map_cons, List.nodup_middle, List.nodup_cons, List.mem_append, not_or] at hkeys
      have hput : put m k v = m ++ [(k, v)] := put_of_not_mem v hkeys.1.1
      show List.foldl _ (put m k v) rest = _
      rw [hput, ih (hsplit ▸ h), hsplit]

/-- Entries with different keys are their own mapping. -/
theorem ofList_of_nodup {entries : List (Text × α)} (h : (entries.map Prod.fst).Nodup) : ofList entries = entries :=
  foldl_put_of_nodup (m := []) h

end Mapping

/-- Of each item the first one is left. -/
theorem nodup_eraseDups {α : Type} [BEq α] [LawfulBEq α] (items : List α) : items.eraseDups.Nodup := by
  match items with
  | [] => simp
  | item :: rest =>
      rw [List.eraseDups_cons, List.nodup_cons]
      exact ⟨by simp, nodup_eraseDups _⟩
termination_by items.length
decreasing_by exact Nat.lt_succ_of_le (List.length_filter_le ..)

end SpecAtlas
