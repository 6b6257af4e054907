import SpecAtlas.Proofs.Config.Merge

/-!
# Values at the paths of a merged configuration

A configuration is a tree: its tables lead from key to key, and what is no table ends a path. Laying one tree
over another goes wrong most easily where a table meets a value that is none.

1. A value of the upper tree is kept, whatever stands below it (`isLeaf_mergeValue_of_upper`).
2. A value of the lower tree is kept where the upper tree is silent, and there only (`isLeaf_mergeValue_of_base`).
   The upper tree is not silent at a path on which it has a value that is no table: that one takes the place of the
   whole table below.
3. There are no other values (`isLeaf_of_mergeValue`).

These follow the path. That a second merge changes nothing (`mergeValue_mergeValue`) follows the upper tree.
-/

namespace SpecAtlas.Config

variable {base upper v w : Value} {under entries : Mapping Value} {key : Text} {path : List Text}

/-! ## Trees -/

/-- Whether a value is a table. -/
def isTable : Value → Bool
  | .map _ => true
  | _ => false

theorem eq_map_of_isTable (h : isTable v = true) : ∃ entries, v = .map entries := by
  cases v <;> simp_all [isTable]

theorem ne_map_of_not_isTable (h : isTable v = false) (entries : Mapping Value) : v ≠ .map entries := by
  rintro rfl
  contradiction

/-- The keys of every table in a tree are different. -/
inductive IsTree : Value → Prop
  | leaf {v : Value} (h : isTable v = false) : IsTree v
  | table {entries : Mapping Value} (hkeys : (entries.map Prod.fst).Nodup) (h : ∀ e ∈ entries, IsTree e.2) :
      IsTree (.map entries)

theorem IsTree.nodup (h : IsTree (.map entries)) : (entries.map Prod.fst).Nodup := by
  cases h with
  | leaf h => contradiction
  | table hkeys _ => exact hkeys

theorem IsTree.of_get? (h : IsTree (.map entries)) (hv : Mapping.get? entries key = some v) : IsTree v := by
  cases h with
  | leaf h => contradiction
  | table _ h => exact h _ (Mapping.mem_of_get? hv)

/-- What stands at a path of keys. -/
def at? : List Text → Value → Option Value
  | [], v => some v
  | key :: path, .map entries => (Mapping.get? entries key).bind (at? path)
  | _ :: _, _ => none

/-- A value that is no table stands at a path. -/
def IsLeaf (root : Value) (path : List Text) (v : Value) : Prop := at? path root = some v ∧ isTable v = false

/-- Nothing stands at a path, and no value that is no table stands on the way to it. -/
def IsSilent (root : Value) (path : List Text) : Prop :=
  at? path root = none ∧ ∀ front, front <+: path → front ≠ path → ∀ v, ¬ IsLeaf root front v

theorem isLeaf_nil : IsLeaf w [] v ↔ w = v ∧ isTable v = false := by
  rw [IsLeaf, at?, Option.some_inj]

theorem isLeaf_cons : IsLeaf (.map entries) (key :: path) v ↔
    ∃ w, Mapping.get? entries key = some w ∧ IsLeaf w path v := by
  simp only [IsLeaf, at?, Option.bind_eq_some_iff, ← exists_and_right, and_assoc]

/-- A path does not go on behind a value that is no table. -/
theorem at?_cons_of_not_isTable (h : isTable w = false) (key : Text) (path : List Text) : at? (key :: path) w = none := by
  cases w <;> simp_all [at?, isTable]

theorem not_isLeaf_cons (h : isTable w = false) : ¬ IsLeaf w (key :: path) v := by
  rintro ⟨hat, -⟩
  rw [at?_cons_of_not_isTable h] at hat
  contradiction

theorem not_isSilent_of_not_isTable (h : isTable w = false) : ¬ IsSilent w path := by
  rintro ⟨hat, hway⟩
  cases path with
  | nil => contradiction
  | cons key path => exact hway [] (List.nil_prefix) (by simp) w (isLeaf_nil.2 ⟨rfl, h⟩)

/-- A table is silent behind a key that it does not have. -/
theorem isSilent_of_get?_none (h : Mapping.get? entries key = none) : IsSilent (.map entries) (key :: path) := by
  have hnone (path : List Text) : at? (key :: path) (.map entries) = none := by rw [at?, h, Option.bind_none]
  refine ⟨hnone path, fun front hfront hne v hv => ?_⟩
  cases front with
  | nil => exact ne_map_of_not_isTable (isLeaf_nil.1 hv).2 entries (isLeaf_nil.1 hv).1.symm
  | cons k front =>
      obtain ⟨rfl, -⟩ := List.cons_prefix_cons.1 hfront
      rw [IsLeaf, hnone] at hv
      exact nomatch hv.1

/-- Behind a key that it has a table is as silent as what stands there. -/
theorem isSilent_cons (h : Mapping.get? entries key = some w) :
    IsSilent (.map entries) (key :: path) ↔ IsSilent w path := by
  have hat (path : List Text) : at? (key :: path) (.map entries) = at? path w := by rw [at?, h, Option.bind_some]
  refine and_congr (by rw [hat]) ⟨fun hway front hfront hne v hv => ?_, fun hway front hfront hne v hv => ?_⟩
  · refine hway (key :: front) (List.cons_prefix_cons.2 ⟨rfl, hfront⟩) (by simpa using hne) v ?_
    rwa [IsLeaf, hat]
  · cases front with
    | nil => exact ne_map_of_not_isTable (isLeaf_nil.1 hv).2 entries (isLeaf_nil.1 hv).1.symm
    | cons k front =>
        obtain ⟨rfl, hrest⟩ := List.cons_prefix_cons.1 hfront
        rw [IsLeaf, hat] at hv
        exact hway front hrest (fun he => hne (by rw [he])) v hv

/-! ## Along a path -/

theorem mergeValue_of_not_isTable (h : isTable upper = false) (base : Option Value) : mergeValue base upper = upper := by
  cases upper <;> simp_all [mergeValue, isTable]

/-- A table over anything is a table. -/
theorem isTable_mergeValue (base : Option Value) (upper : Value) : isTable (mergeValue base upper) = isTable upper := by
  cases upper <;> simp only [mergeValue]
  split <;> rfl

/-- Two tables are merged key by key. Otherwise the upper value is taken as it is. -/
theorem mergeValue_cases (base : Option Value) (upper : Value) :
    (∃ under entries, base = some (.map under) ∧ upper = .map entries) ∨ mergeValue base upper = upper := by
  cases htable : isTable upper with
  | false => exact .inr (mergeValue_of_not_isTable htable base)
  | true =>
      obtain ⟨entries, rfl⟩ := eq_map_of_isTable htable
      cases base with
      | none => exact .inr (mergeValue_none _)
      | some below =>
          cases hbelow : isTable below with
          | false => exact .inr (mergeValue_of_not_map (ne_map_of_not_isTable hbelow))
          | true =>
              obtain ⟨under, rfl⟩ := eq_map_of_isTable hbelow
              exact .inl ⟨under, entries, rfl, rfl⟩

/-- A value of the upper tree is kept. -/
theorem isLeaf_mergeValue_of_upper {base : Option Value} (htree : IsTree upper) (h : IsLeaf upper path v) :
    IsLeaf (mergeValue base upper) path v := by
  induction path generalizing base upper with
  | nil =>
      obtain ⟨rfl, hleaf⟩ := isLeaf_nil.1 h
      rwa [mergeValue_of_not_isTable hleaf]
  | cons key path ih =>
      obtain ⟨under, entries, rfl, rfl⟩ | hself := mergeValue_cases base upper
      · obtain ⟨w, hw, hleaf⟩ := isLeaf_cons.1 h
        rw [mergeValue_map]
        refine isLeaf_cons.2 ⟨mergeValue (Mapping.get? under key) w, ?_, ih (htree.of_get? hw) hleaf⟩
        rw [get?_merge htree.nodup, hw]
      · rwa [hself]

/-- Every value comes from one of the trees. -/
theorem isLeaf_of_mergeValue {base : Option Value} (htree : IsTree upper) (h : IsLeaf (mergeValue base upper) path v) :
    IsLeaf upper path v ∨ ∃ below, base = some below ∧ IsLeaf below path v := by
  induction path generalizing base upper with
  | nil =>
      have hleaf := (isLeaf_nil.1 h).2
      rw [← (isLeaf_nil.1 h).1, isTable_mergeValue] at hleaf
      rw [mergeValue_of_not_isTable hleaf] at h
      exact .inl h
  | cons key path ih =>
      obtain ⟨under, entries, rfl, rfl⟩ | hself := mergeValue_cases base upper
      · rw [mergeValue_map] at h
        obtain ⟨m, hm, hleaf⟩ := isLeaf_cons.1 h
        rw [get?_merge htree.nodup] at hm
        cases hw : Mapping.get? entries key with
        | none =>
            rw [hw] at hm
            exact .inr ⟨.map under, rfl, isLeaf_cons.2 ⟨m, hm, hleaf⟩⟩
        | some w =>
            rw [hw] at hm
            cases hm
            obtain hupper | ⟨below, hbelow, hleaf⟩ := ih (htree.of_get? hw) hleaf
            · exact .inl (isLeaf_cons.2 ⟨w, hw, hupper⟩)
            · exact .inr ⟨.map under, rfl, isLeaf_cons.2 ⟨below, hbelow, hleaf⟩⟩
      · rw [hself] at h
        exact .inl h

/-- A value of the lower tree is kept exactly where the upper tree is silent or has the same value. -/
theorem isLeaf_mergeValue_of_base (htree : IsTree upper) (h : IsLeaf base path v) :
    IsLeaf (mergeValue (some base) upper) path v ↔ IsSilent upper path ∨ IsLeaf upper path v := by
  induction path generalizing base upper with
  | nil =>
      obtain ⟨rfl, hleaf⟩ := isLeaf_nil.1 h
      have hsilent : ¬ IsSilent upper [] := fun hs => nomatch hs.1
      rw [mergeValue_of_not_map (ne_map_of_not_isTable hleaf), or_iff_right hsilent]
  | cons key path ih =>
      cases hbelow : isTable base with
      | false => exact absurd h (not_isLeaf_cons hbelow)
      | true =>
          obtain ⟨under, rfl⟩ := eq_map_of_isTable hbelow
          obtain ⟨below, hunder, hleaf⟩ := isLeaf_cons.1 h
          cases htable : isTable upper with
          | false =>
              rw [mergeValue_of_not_isTable htable]
              exact iff_of_false (not_isLeaf_cons htable)
                (not_or.2 ⟨not_isSilent_of_not_isTable htable, not_isLeaf_cons htable⟩)
          | true =>
              obtain ⟨entries, rfl⟩ := eq_map_of_isTable htable
              have hmerged : Mapping.get? (merge under entries) key = _ := get?_merge htree.nodup key
              rw [mergeValue_map]
              cases hw : Mapping.get? entries key with
              | none =>
                  rw [hw] at hmerged
                  exact iff_of_true (isLeaf_cons.2 ⟨below, hmerged.trans hunder, hleaf⟩) (.inl (isSilent_of_get?_none hw))
              | some w =>
                  rw [hw, hunder] at hmerged
                  simpa only [isLeaf_cons, hmerged, hw, isSilent_cons hw, Option.some_inj, exists_eq_left']
                    using ih (htree.of_get? hw) hleaf

/-! ## Merging twice -/

/-- Entries with new keys go behind the others. -/
theorem merge_append (h : ((under ++ entries).map Prod.fst).Nodup) : merge under entries = under ++ entries := by
  induction entries generalizing under with
  | nil => rw [merge, List.append_nil]
  | cons e rest ih =>
      obtain ⟨k, v⟩ := e
      have hsplit : under ++ (k, v) :: rest = under ++ [(k, v)] ++ rest := by simp
      have hkeys := h
      rw [List.map_append, List.map_cons, List.nodup_middle, List.nodup_cons, List.mem_append, not_or] at hkeys
      have hnew : k ∉ under.map Prod.fst := hkeys.1.1
      rw [merge, Mapping.get?_of_not_mem hnew, mergeValue_none, Mapping.put_of_not_mem v hnew, ih (hsplit ▸ h), hsplit]

/-- Entries over nothing. -/
theorem merge_nil_left (h : (entries.map Prod.fst).Nodup) : merge [] entries = entries := by
  have happend : merge [] entries = [] ++ entries := merge_append h
  exact happend

/-- Entries that change nothing when they are laid over what they were laid over once. -/
theorem merge_merge_of_entries (hkeys : (entries.map Prod.fst).Nodup)
    (h : ∀ e ∈ entries, ∀ below, mergeValue (some (mergeValue below e.2)) e.2 = mergeValue below e.2)
    (under : Mapping Value) : merge (merge under entries) entries = merge under entries := by
  induction entries generalizing under with
  | nil => rfl
  | cons e rest ih =>
      obtain ⟨k, v⟩ := e
      rw [List.map_cons, List.nodup_cons] at hkeys
      have hfirst := h (k, v) List.mem_cons_self (Mapping.get? under k)
      have hrest := ih hkeys.2 fun e he => h e (List.mem_cons_of_mem _ he)
      -- The entry is still there when the others have been laid over it.
      have hthere : Mapping.get? (merge (Mapping.put under k (mergeValue (Mapping.get? under k) v)) rest) k =
          some (mergeValue (Mapping.get? under k) v) := by
        rw [get?_merge hkeys.2, Mapping.get?_of_not_mem hkeys.1, Mapping.get?_put_self]
      simp only [merge]
      rw [hthere, hfirst, Mapping.put_of_get? hthere, hrest]

/-- **A second merge changes nothing.** -/
theorem mergeValue_mergeValue (h : IsTree upper) (below : Option Value) :
    mergeValue (some (mergeValue below upper)) upper = mergeValue below upper := by
  induction h generalizing below with
  | leaf h => rw [mergeValue_of_not_isTable h, mergeValue_of_not_isTable h]
  | @table entries hkeys _ ih =>
      have hagain := merge_merge_of_entries hkeys ih
      obtain ⟨under, _, rfl, -⟩ | hself := mergeValue_cases below (.map entries)
      · rw [mergeValue_map, mergeValue_map, hagain]
      · have honto := hagain []
        rw [merge_nil_left hkeys] at honto
        rw [hself, mergeValue_map, honto]

/-- **Merging loses and invents nothing.** The merged configuration has all values of the upper one; it has a value of
the lower one exactly where the upper one is silent or has the same value; and it has no others. Merging a second time
changes nothing, and the empty configuration changes nothing on either side. -/
theorem merge_exact {base upper : Settings} (h : IsTree (.map upper)) :
    (∀ path v, IsLeaf (.map upper) path v → IsLeaf (.map (merge base upper)) path v) ∧
    (∀ path v, IsLeaf (.map base) path v →
      (IsLeaf (.map (merge base upper)) path v ↔ IsSilent (.map upper) path ∨ IsLeaf (.map upper) path v)) ∧
    (∀ path v, IsLeaf (.map (merge base upper)) path v → IsLeaf (.map upper) path v ∨ IsLeaf (.map base) path v) ∧
    merge (merge base upper) upper = merge base upper ∧ merge base [] = base ∧ merge [] upper = upper := by
  have hmap := mergeValue_map base upper
  refine ⟨fun path v hv => ?_, fun path v hv => ?_, fun path v hv => ?_, ?_, by rw [merge], merge_nil_left h.nodup⟩
  · rw [← hmap]
    exact isLeaf_mergeValue_of_upper h hv
  · rw [← hmap]
    exact isLeaf_mergeValue_of_base h hv
  · rw [← hmap] at hv
    obtain hupper | ⟨below, hbelow, hleaf⟩ := isLeaf_of_mergeValue h hv
    · exact .inl hupper
    · cases hbelow
      exact .inr hleaf
  · have hagain := mergeValue_mergeValue h (some (.map base))
    rw [hmap, mergeValue_map] at hagain
    exact Value.map.inj hagain

/-- A configuration with a table, a value, and a table again. -/
def plainBelow : Settings :=
  [("a".toList, .map [("b".toList, .int 1), ("c".toList, .int 2)]), ("d".toList, .int 3),
    ("e".toList, .map [("f".toList, .int 4)])]

/-- Tables where the other configuration has values, and a value where it has a table. -/
def crossedAbove : Settings :=
  [("a".toList, .map [("c".toList, .map [])]), ("d".toList, .map [("g".toList, .int 5)]), ("e".toList, .int 6)]

/-- Where a table meets a value, the upper one is left. -/
theorem merge_crossed :
    IsTree (.map crossedAbove) ∧
    IsLeaf (.map (merge plainBelow crossedAbove)) ["a".toList, "b".toList] (.int 1) ∧
    ¬ IsLeaf (.map (merge plainBelow crossedAbove)) ["a".toList, "c".toList] (.int 2) ∧
    IsLeaf (.map (merge plainBelow crossedAbove)) ["d".toList, "g".toList] (.int 5) ∧
    ¬ IsLeaf (.map (merge plainBelow crossedAbove)) ["e".toList, "f".toList] (.int 4) ∧
    merge (merge plainBelow crossedAbove) crossedAbove = merge plainBelow crossedAbove := by
  have htree : IsTree (.map crossedAbove) := by
    refine .table (by decide) ?_
    simp only [crossedAbove, List.forall_mem_cons, List.not_mem_nil, false_imp_iff, implies_true, and_true]
    refine ⟨.table (by decide) ?_, .table (by decide) ?_, .leaf rfl⟩
    · exact List.forall_mem_singleton.2 (.table (by decide) (by simp))
    · exact List.forall_mem_singleton.2 (.leaf rfl)
  obtain ⟨hupper, hbase, -, hagain, -, -⟩ := @merge_exact plainBelow _ htree
  have hb : IsLeaf (.map plainBelow) ["a".toList, "b".toList] (.int 1) := ⟨rfl, rfl⟩
  have hc : IsLeaf (.map plainBelow) ["a".toList, "c".toList] (.int 2) := ⟨rfl, rfl⟩
  have hf : IsLeaf (.map plainBelow) ["e".toList, "f".toList] (.int 4) := ⟨rfl, rfl⟩
  refine ⟨htree, (hbase _ _ hb).2 (.inl ?_), fun h => ?_, hupper _ _ ⟨rfl, rfl⟩, fun h => ?_, hagain⟩
  · exact (isSilent_cons rfl).2 (isSilent_of_get?_none rfl)
  · obtain hsilent | hleaf := (hbase _ _ hc).1 h
    · exact nomatch hsilent.1
    · exact Value.noConfusion (Option.some.inj hleaf.1)
  · obtain hsilent | hleaf := (hbase _ _ hf).1 h
    · exact not_isSilent_of_not_isTable rfl ((isSilent_cons rfl).1 hsilent)
    · exact nomatch hleaf.1

end SpecAtlas.Config
