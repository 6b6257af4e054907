import SpecAtlas.Proofs.Result.ReportLine

/-!
# The results of a feature

A result tells its feature by its name alone. The console reader writes this name itself, for the feature that was
asked for. So the results that the console tells of a feature are all results of that feature if its name is given
back by the names of its iterations, and otherwise none of them is (`ofFeature_readConsole_eq`).
-/

namespace SpecAtlas.Result

open Text

/-- A result that a line of the console tells of a feature is shown under a name of this form. -/
theorem exists_displayName {feature line : Text} {result : IterationResult} {status : Status}
    (hline : lineResult? feature line = some (.ok (result, status))) :
    ∃ parameters index, parameters ≠ [] ∧ ']' ∉ parameters ∧
      result.displayName = iterationDisplayName feature parameters index := by
  unfold lineResult? at hline
  obtain ⟨found, hfound, hresult⟩ := Option.map_eq_some_iff.1 hline
  obtain ⟨index, -, hresult⟩ := bind_eq_ok.1 hresult
  obtain ⟨parameters, -, hresult⟩ := bind_eq_ok.1 hresult
  cases hresult
  have hsound := sound_of_line hfound
  exact ⟨found.bracketed.parameters, index, hsound.nonempty, hsound.noBracket, rfl⟩

section

variable {feature text : Text} {results : List IterationResult} {events : List Event}
  (hread : readConsole text feature = .ok (results, events))

include hread

/-- The results that are read for a feature from console output are results of that feature, exactly if its
name is recoverable. -/
theorem featureOf?_readConsole_iff (hne : feature ≠ []) (hline : '\n' ∉ feature) :
    ∀ result ∈ results, featureOf? result.displayName = some feature ↔ Recoverable feature := by
  unfold readConsole at hread
  obtain ⟨found, hfound, hread⟩ := bind_eq_ok.1 hread
  cases hread
  intro result hresult
  obtain ⟨⟨_, status⟩, hmem, rfl⟩ := List.mem_map.1 hresult
  obtain ⟨item, hitem, hok⟩ := exists_of_mem_right (forall₂_of_mapM hfound) hmem
  obtain ⟨line, -, htold⟩ := List.mem_filterMap.1 hitem
  rw [id] at hok
  rw [hok] at htold
  obtain ⟨parameters, index, hp, hbracket, hname⟩ := exists_displayName htold
  rw [hname]
  exact featureOf?_iterationDisplayName_iff hne hline hp hbracket index

/-- **The console tells of the feature alone**, or of no feature at all: the results that are read for a
feature from console output are all results of that feature if its name is recoverable, and otherwise none of
them is. -/
theorem ofFeature_readConsole_eq (hne : feature ≠ []) (hline : '\n' ∉ feature) :
    ofFeature feature results = if Recoverable feature then results else [] := by
  have hresults := featureOf?_readConsole_iff hread hne hline
  by_cases h : Recoverable feature
  · rw [if_pos h]
    exact List.filter_eq_self.2 fun result hm => decide_eq_true ((hresults result hm).2 h)
  · rw [if_neg h]
    exact List.filter_eq_nil_iff.2 fun result hm => by simpa using mt (hresults result hm).1 h

theorem ofFeature_readConsole (h : PlainFeature feature) : ofFeature feature results = results := by
  rw [ofFeature_readConsole_eq hread h.nonempty h.oneLine, if_pos h.closedFeature.recoverable]

end

end SpecAtlas.Result
