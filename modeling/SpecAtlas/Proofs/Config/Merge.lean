import SpecAtlas.Config.Merge
import SpecAtlas.Proofs.Config.Toml.Distinct

/-!
# Entries of a merged configuration

Where all sections are tables, a configuration is known by its sections and their entries. Laying one
configuration over another takes each entry from the upper one, if it has it, and else from the lower one;
an entry of the lower one that is a table itself would be merged further, but no default is.
-/

namespace SpecAtlas.Config

open Toml

/-- The entry of a section. -/
def valueAt? (settings : Settings) (name key : Text) : Option Value :=
  match Mapping.get? settings name with
  | some (.map entries) => Mapping.get? entries key
  | _ => none

theorem valueAt?_of_map {settings : Settings} {name : Text} {entries : Mapping Value}
    (h : Mapping.get? settings name = some (.map entries)) (key : Text) :
    valueAt? settings name key = Mapping.get? entries key := by
  rw [valueAt?, h]

theorem valueAt?_of_none {settings : Settings} {name : Text} (h : Mapping.get? settings name = none) (key : Text) :
    valueAt? settings name key = none := by
  rw [valueAt?, h]

/-- An entry that is found stands in its section. -/
theorem mem_of_valueAt? {settings : Settings} {name key : Text} {v : Value}
    (h : valueAt? settings name key = some v) :
    ∃ entries, (name, .map entries) ∈ settings ∧ (key, v) ∈ entries := by
  rw [valueAt?] at h
  split at h
  · rename_i entries hget
    exact ⟨entries, Mapping.mem_of_get? hget, Mapping.mem_of_get? h⟩
  · contradiction

/-- All sections of a configuration are tables. -/
def IsSectioned (settings : Settings) : Prop :=
  ∀ name v, Mapping.get? settings name = some v → ∃ entries, v = .map entries

/-- A section is a table, or missing and as good as an empty one. -/
def HasRoom (settings : Settings) (name : Text) : Prop :=
  ∃ entries, (Mapping.get? settings name).getD (.map []) = .map entries

theorem IsSectioned.hasRoom {settings : Settings} (h : IsSectioned settings) (name : Text) : HasRoom settings name := by
  cases hget : Mapping.get? settings name with
  | none => exact ⟨[], by rw [hget]; rfl⟩
  | some v =>
      obtain ⟨entries, rfl⟩ := h name v hget
      exact ⟨entries, by rw [hget]; rfl⟩

/-- The entries of such a section. -/
theorem valueAt?_of_getD {settings : Settings} {name : Text} {entries : Mapping Value}
    (h : (Mapping.get? settings name).getD (.map []) = .map entries) (key : Text) :
    valueAt? settings name key = Mapping.get? entries key := by
  cases hget : Mapping.get? settings name with
  | none =>
      rw [hget] at h
      cases h
      exact valueAt?_of_none hget key
  | some v =>
      rw [hget] at h
      cases h
      exact valueAt?_of_map hget key

/-- Two configurations are the same mapping, whatever the order of their sections and entries. -/
structure SameTables (s t : Settings) : Prop where
  left : IsSectioned s
  right : IsSectioned t
  sections : ∀ name, (Mapping.get? s name).isSome = (Mapping.get? t name).isSome
  entries : ∀ name key, valueAt? s name key = valueAt? t name key

/-! ## Values over values -/

@[simp] theorem mergeValue_none (v : Value) : mergeValue none v = v := by cases v <;> simp [mergeValue]

theorem mergeValue_of_not_map {base v : Value} (h : ∀ entries, base ≠ .map entries) :
    mergeValue (some base) v = v := by
  cases v <;> simp only [mergeValue]
  split
  · rename_i under hunder
    exact absurd (Option.some.inj hunder) (h under)
  · rfl

@[simp] theorem mergeValue_map (under entries : Mapping Value) :
    mergeValue (some (.map under)) (.map entries) = .map (merge under entries) := by
  simp [mergeValue]

/-- A key of a merged mapping. -/
theorem get?_merge {base : Mapping Value} {upper : List (Text × Value)} (hupper : (upper.map Prod.fst).Nodup)
    (key : Text) :
    Mapping.get? (merge base upper) key =
      match Mapping.get? upper key with
      | none => Mapping.get? base key
      | some v => some (mergeValue (Mapping.get? base key) v) := by
  induction upper generalizing base with
  | nil => rw [merge, Mapping.get?]
  | cons e rest ih =>
      obtain ⟨k, v⟩ := e
      rw [List.map_cons, List.nodup_cons] at hupper
      rw [merge, ih hupper.2, Mapping.get?, Mapping.get?_put]
      by_cases h : k = key
      · subst h
        simp only [Mapping.get?_of_not_mem hupper.1, if_true]
      · simp only [if_neg h]

/-! ## Sections over sections -/

/-- The sections and entries of a merged configuration, where nothing below has tables inside its sections. -/
theorem merge_sections {base upper : Settings} (hbase : IsSectioned base) (hupper : IsSectioned upper)
    (hplain : ∀ name key v, valueAt? base name key = some v → ∀ entries, v ≠ .map entries)
    (hkeys : (upper.map Prod.fst).Nodup) (hdistinct : ∀ e ∈ upper, HasDistinctKeys e.2) :
    IsSectioned (merge base upper) ∧
      ∀ name key, valueAt? (merge base upper) name key = (valueAt? upper name key).or (valueAt? base name key) := by
  have hnone {name : Text} (h : Mapping.get? upper name = none) :
      Mapping.get? (merge base upper) name = Mapping.get? base name := by rw [get?_merge hkeys, h]
  have hsome {name : Text} {above : Mapping Value} (h : Mapping.get? upper name = some (.map above)) :
      ∃ entries, Mapping.get? (merge base upper) name = some (.map entries) ∧
        ∀ key, Mapping.get? entries key = (Mapping.get? above key).or (valueAt? base name key) := by
    have habove : (above.map Prod.fst).Nodup := hdistinct _ (Mapping.mem_of_get? h) above rfl
    rw [get?_merge hkeys, h]
    cases hunder : Mapping.get? base name with
    | none => exact ⟨above, by simp, fun key => by simp [valueAt?_of_none hunder]⟩
    | some v =>
        obtain ⟨under, rfl⟩ := hbase name v hunder
        refine ⟨merge under above, by simp, fun key => ?_⟩
        have hentry := valueAt?_of_map hunder key
        rw [get?_merge habove, hentry]
        cases hv : Mapping.get? above key with
        | none => rfl
        | some v =>
            cases hw : Mapping.get? under key with
            | none => simp
            | some w =>
                have hw' := hplain name key w (hentry.trans hw)
                simp [mergeValue_of_not_map hw']
  refine ⟨fun name v hv => ?_, fun name key => ?_⟩
  · cases h : Mapping.get? upper name with
    | none => exact hbase name v ((hnone h).symm.trans hv)
    | some w =>
        obtain ⟨above, rfl⟩ := hupper name w h
        obtain ⟨entries, hentries, -⟩ := hsome h
        exact ⟨entries, Option.some.inj (hv.symm.trans hentries)⟩
  · cases h : Mapping.get? upper name with
    | none =>
        rw [valueAt?_of_none h, Option.none_or, valueAt?, valueAt?, hnone h]
    | some w =>
        obtain ⟨above, rfl⟩ := hupper name w h
        obtain ⟨entries, hentries, hkey⟩ := hsome h
        rw [valueAt?_of_map hentries, valueAt?_of_map h, hkey]

end SpecAtlas.Config
