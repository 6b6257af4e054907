import SpecAtlas.Config.Environment
import SpecAtlas.Proofs.Config.Merge
import SpecAtlas.Proofs.Text.Mark

/-!
# Entries that the environment sets

A variable sets one entry of one section. If the names of the variables differ in lower case, no two of them
set the same entry: every entry then comes from the variable that sets it, or from below, and the order of the
variables does not matter. The configuration has no result exactly if the value of a variable that sets an
entry cannot be read.
-/

namespace SpecAtlas.Config

open Text Toml

/-! ## Names of variables -/

/-- A character that is neither cased nor ignored ends the search for a cased letter. -/
theorem meetsCased_append {c : Char} (hignorable : isCaseIgnorable c = false) (hcased : isCased c = false)
    (text behind : Text) : meetsCased (text ++ c :: behind) = meetsCased text := by
  induction text with
  | nil => simp [meetsCased, hignorable, hcased]
  | cons d text ih =>
      rw [meetsCased, meetsCased, List.cons_append] at *
      by_cases hd : isCaseIgnorable d = true
      · rw [List.dropWhile_cons_of_pos hd, List.dropWhile_cons_of_pos hd]
        exact ih
      · rw [List.dropWhile_cons_of_neg hd, List.dropWhile_cons_of_neg hd, List.head?_cons, List.head?_cons]

/-- What stands in front of such a character does not matter. -/
theorem lowerBehind_append {c : Char} (hignorable : isCaseIgnorable c = false) (hcased : isCased c = false)
    (before further text : Text) : lowerBehind (before ++ c :: further) text = lowerBehind before text := by
  induction text generalizing before with
  | nil => rfl
  | cons d text ih =>
      have hrest := ih (d :: before)
      rw [List.cons_append] at hrest
      rw [lowerBehind, lowerBehind, hrest, lowerSigma, lowerSigma, meetsCased_append hignorable hcased]

/-- The lead of a variable and what follows it are mapped each by itself. -/
theorem lower_variable (rest : Text) : lower (variableLead ++ rest) = "spockscan_".toList ++ lower rest := by
  have hmark := lowerBehind_append (c := '_') (by decide) (by decide) [] "NACSKCOPS".toList rest
  rw [List.nil_append] at hmark
  rw [lower, lower, ← hmark]
  rfl

/-- The variable of a section and a key. -/
theorem variableTarget?_of_lower {rest name key : Text} (hname : name ≠ []) (hmark : '_' ∉ name) (hkey : key ≠ [])
    (hrest : lower rest = name ++ '_' :: key) : variableTarget? (variableLead ++ rest) = some (name, key) := by
  rw [variableTarget?, after?_append]
  simp [hrest, cut?_char hmark, hname, hkey]

/-- What a variable sets can be seen from its name in lower case. -/
theorem lower_of_variableTarget? {variableName name key : Text}
    (h : variableTarget? variableName = some (name, key)) :
    ∃ rest, variableName = variableLead ++ rest ∧ lower rest = name ++ '_' :: key := by
  obtain ⟨rest, hrest, h⟩ := Option.bind_eq_some_iff.1 h
  obtain ⟨⟨tableName, k⟩, hcut, h⟩ := Option.bind_eq_some_iff.1 h
  dsimp only at h
  split at h
  · contradiction
  · cases h
    exact ⟨rest, after?_eq_some.1 hrest, by simpa using eq_of_cut? hcut⟩

/-- The sections and keys that an environment sets, one for each variable that sets something. -/
def targets (environment : List (Text × Text)) : List (Text × Text) :=
  environment.filterMap fun e => variableTarget? e.1

theorem targets_cons_of_none {e : Text × Text} (h : variableTarget? e.1 = none) (rest : List (Text × Text)) :
    targets (e :: rest) = targets rest := by
  simp [targets, h]

theorem targets_cons_of_some {e target : Text × Text} (h : variableTarget? e.1 = some target)
    (rest : List (Text × Text)) :
    targets (e :: rest) = target :: targets rest := by
  simp [targets, h]

/-- The targets of variables differ if their names differ in lower case. -/
theorem nodup_targets {environment : List (Text × Text)} (h : (environment.map fun e => lower e.1).Nodup) :
    (targets environment).Nodup := by
  rw [List.Nodup, List.pairwise_map] at h
  rw [List.Nodup, targets, List.pairwise_filterMap]
  refine h.imp fun {a b} hne target ha target' hb he => hne ?_
  subst he
  obtain ⟨rest, ha, hrest⟩ := lower_of_variableTarget? ha
  obtain ⟨rest', hb, hrest'⟩ := lower_of_variableTarget? hb
  rw [ha, hb, lower_variable, lower_variable, hrest, hrest']

/-! ## Setting entries -/

/-- A configuration is another one with one more entry, or with another value of an entry. -/
structure Sets (name key : Text) (v : Value) (s t : Settings) : Prop where
  sectioned : IsSectioned t
  sections : ∀ other, (Mapping.get? t other).isSome = true ↔ name = other ∨ (Mapping.get? s other).isSome = true
  entries : ∀ other k, valueAt? t other k = if name = other ∧ key = k then some v else valueAt? s other k

theorem sets_put {s : Settings} (h : IsSectioned s) {name : Text} {entries : Mapping Value}
    (hentries : ∀ key, valueAt? s name key = Mapping.get? entries key) (key : Text) (v : Value) :
    Sets name key v s (Mapping.put s name (.map (Mapping.put entries key v))) := by
  refine ⟨fun other w hw => ?_, fun other => ?_, fun other k => ?_⟩
  · rw [Mapping.get?_put] at hw
    split at hw
    · exact ⟨_, (Option.some.inj hw).symm⟩
    · exact h other w hw
  · rw [Mapping.get?_put]
    split <;> simp [*]
  · rw [valueAt?, Mapping.get?_put]
    by_cases hname : name = other
    · subst hname
      simp only [if_true, true_and, Mapping.get?_put, hentries]
    · simp only [hname, if_false, false_and]
      rfl

/-- A variable sets its entry to its value, if that can be read. -/
theorem applyVariable_of_target {s : Settings} {e : Text × Text} {name key : Text} {entries : Mapping Value}
    (hentries : (Mapping.get? s name).getD (.map []) = .map entries)
    (htarget : variableTarget? e.1 = some (name, key)) :
    applyVariable s e =
      (variableValue e.2).map fun v => Mapping.put s name (.map (Mapping.put entries key v)) := by
  rw [applyVariable, htarget]
  dsimp only
  rw [hentries]
  cases variableValue e.2 <;> rfl

/-- A section that is no table stays as it is. -/
theorem applyVariable_of_not_hasRoom {s : Settings} {e : Text × Text} {name key : Text} (h : ¬ HasRoom s name)
    (htarget : variableTarget? e.1 = some (name, key)) : applyVariable s e = .ok s := by
  rw [applyVariable, htarget]
  dsimp only
  split
  · rename_i entries hget
    exact absurd ⟨entries, hget⟩ h
  · rfl

/-- A section that is written had room. -/
theorem hasRoom_put {s : Settings} {name other : Text} {entries : Mapping Value} (h : HasRoom s name) :
    HasRoom (Mapping.put s name (.map entries)) other ↔ HasRoom s other := by
  rw [HasRoom, HasRoom, Mapping.get?_put]
  by_cases hname : name = other
  · subst hname
    exact iff_of_true ⟨entries, by simp⟩ h
  · rw [if_neg hname]

theorem applyVariable_of_none {s : Settings} {e : Text × Text} (htarget : variableTarget? e.1 = none) :
    applyVariable s e = .ok s := by
  rw [applyVariable, htarget]

/-! ## The whole environment -/

/-- The configuration `t` has the entries that an environment sets, and otherwise those of `s`. -/
structure IsOverridden (environment : List (Text × Text)) (s t : Settings) : Prop where
  sectioned : IsSectioned t
  sections : ∀ name, (Mapping.get? t name).isSome = true ↔
    (∃ e ∈ environment, ∃ key, variableTarget? e.1 = some (name, key)) ∨ (Mapping.get? s name).isSome = true
  set : ∀ e ∈ environment, ∀ name key, variableTarget? e.1 = some (name, key) →
    ∃ v, variableValue e.2 = .ok v ∧ valueAt? t name key = some v
  unset : ∀ name key, (∀ e ∈ environment, variableTarget? e.1 ≠ some (name, key)) →
    valueAt? t name key = valueAt? s name key

/-- The environment overrides a configuration, where no two variables have one target. -/
theorem isOverridden_applyEnvironment {environment : List (Text × Text)} {s t : Settings} (h : IsSectioned s)
    (hnodup : (targets environment).Nodup)
    (hok : applyEnvironment s environment = .ok t) : IsOverridden environment s t := by
  induction environment generalizing s with
  | nil =>
      cases hok
      exact ⟨h, by simp, by simp, fun _ _ _ => rfl⟩
  | cons e rest ih =>
      rw [applyEnvironment, List.foldlM_cons] at hok
      obtain ⟨next, hnext, hrest⟩ := bind_eq_ok.1 hok
      cases htarget : variableTarget? e.1 with
      | none =>
          rw [applyVariable_of_none htarget] at hnext
          cases hnext
          rw [targets_cons_of_none htarget] at hnodup
          obtain ⟨hsectioned, hsections, hset, hunset⟩ := ih h hnodup hrest
          refine ⟨hsectioned, fun name => ?_, ?_, fun name key hne => ?_⟩
          · simp [hsections, htarget]
          · exact List.forall_mem_cons.2 ⟨by simp [htarget], hset⟩
          · exact hunset name key (List.forall_mem_cons.1 hne).2
      | some target =>
          obtain ⟨name, key⟩ := target
          rw [targets_cons_of_some htarget, List.nodup_cons] at hnodup
          obtain ⟨entries, hget⟩ := h.hasRoom name
          rw [applyVariable_of_target hget htarget] at hnext
          obtain ⟨v, hv, rfl⟩ := map_eq_ok.1 hnext
          have hsets := sets_put h (valueAt?_of_getD hget) key v
          obtain ⟨hsectioned, hsections, hothers, hunset⟩ := ih hsets.sectioned hnodup.2 hrest
          have hlast : ∀ e ∈ rest, variableTarget? e.1 ≠ some (name, key) :=
            fun e he heq => hnodup.1 (List.mem_filterMap.2 ⟨e, he, heq⟩)
          refine ⟨hsectioned, fun other => ?_, ?_, fun other k hne => ?_⟩
          · rw [hsections, hsets.sections, List.exists_mem_cons_iff]
            have hfirst : (∃ k, variableTarget? e.1 = some (other, k)) ↔ name = other := by simp [htarget]
            rw [hfirst]
            exact or_left_comm.trans or_assoc.symm
          · refine List.forall_mem_cons.2 ⟨fun other k heq => ?_, hothers⟩
            obtain ⟨rfl, rfl⟩ := Prod.mk.inj (Option.some.inj (htarget.symm.trans heq))
            refine ⟨v, hv, ?_⟩
            rw [hunset name key hlast, hsets.entries, if_pos ⟨rfl, rfl⟩]
          · rw [List.forall_mem_cons] at hne
            have hother : ¬ (name = other ∧ key = k) := fun ⟨hn, hk⟩ => hne.1 (hn ▸ hk ▸ htarget)
            rw [hunset other k hne.2, hsets.entries, if_neg hother]

/-- There is a result exactly if the values of all variables that set something can be read. -/
theorem exists_applyEnvironment_iff {environment : List (Text × Text)} {s : Settings} :
    (∃ t, applyEnvironment s environment = .ok t) ↔
      ∀ e ∈ environment, ∀ name key, variableTarget? e.1 = some (name, key) → HasRoom s name →
        ∃ v, variableValue e.2 = .ok v := by
  induction environment generalizing s with
  | nil => exact ⟨by simp, fun _ => ⟨s, rfl⟩⟩
  | cons e rest ih =>
      have hfirst : (∃ t, applyEnvironment s (e :: rest) = .ok t) ↔
          ∃ next, applyVariable s e = .ok next ∧ ∃ t, applyEnvironment next rest = .ok t := by
        simp only [applyEnvironment, List.foldlM_cons, bind_eq_ok]
        exact exists_comm.trans (exists_congr fun next => exists_and_left)
      rw [hfirst, List.forall_mem_cons]
      cases htarget : variableTarget? e.1 with
      | none =>
          rw [applyVariable_of_none htarget]
          simpa using ih
      | some target =>
          obtain ⟨name, key⟩ := target
          by_cases hroom : HasRoom s name
          · obtain ⟨entries, hget⟩ := hroom
            have hkept (v : Value) (other : Text) :
                HasRoom (Mapping.put s name (.map (Mapping.put entries key v))) other ↔ HasRoom s other :=
              hasRoom_put ⟨entries, hget⟩
            rw [applyVariable_of_target hget htarget]
            cases hv : variableValue e.2 with
            | error err => simpa [Except.map] using fun h => absurd ⟨entries, hget⟩ h
            | ok v => simp [Except.map, ih, hkept]
          · rw [applyVariable_of_not_hasRoom hroom htarget]
            have hskipped : ∀ n k, some (name, key) = some (n, k) → HasRoom s n → ∃ v, variableValue e.2 = .ok v := by
              intro n k he hn
              cases he
              exact absurd hn hroom
            rw [and_iff_right hskipped]
            simpa using ih

/-- The environment is refused for the value of a variable that sets something. -/
theorem exists_applyEnvironment_error_iff {environment : List (Text × Text)} {s : Settings} :
    (∃ err, applyEnvironment s environment = .error err) ↔
      ∃ e ∈ environment, ∃ name key, variableTarget? e.1 = some (name, key) ∧ HasRoom s name ∧
        ∃ err, variableValue e.2 = .error err := by
  rw [exists_error_iff, exists_applyEnvironment_iff]
  simp only [exists_error_iff, not_forall, exists_prop]

/-- It does not matter in which order the variables stand. -/
theorem IsOverridden.sameTables {environment environment' : List (Text × Text)} {s t t' : Settings}
    (h : IsOverridden environment s t) (h' : IsOverridden environment' s t')
    (hmem : ∀ e, e ∈ environment' ↔ e ∈ environment) : SameTables t t' := by
  refine ⟨h.sectioned, h'.sectioned, fun name => ?_, fun name key => ?_⟩
  · rw [Bool.eq_iff_iff, h.sections, h'.sections]
    simp only [hmem]
  · by_cases hset : ∃ e ∈ environment, variableTarget? e.1 = some (name, key)
    · obtain ⟨e, he, htarget⟩ := hset
      obtain ⟨v, hv, hentry⟩ := h.set e he name key htarget
      obtain ⟨v', hv', hentry'⟩ := h'.set e ((hmem e).2 he) name key htarget
      rw [hentry, hentry', Except.ok.inj (hv.symm.trans hv')]
    · have hnone : ∀ e ∈ environment, variableTarget? e.1 ≠ some (name, key) := fun e he heq => hset ⟨e, he, heq⟩
      rw [h.unset name key hnone, h'.unset name key fun e he => hnone e ((hmem e).1 he)]

end SpecAtlas.Config
