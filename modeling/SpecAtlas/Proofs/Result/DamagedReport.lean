import SpecAtlas.Proofs.Result.CutTestcase

/-!
# Damaged reports

What a testcase costs that is cut off anywhere, with the rest of the report on the next line. The
testcases in front of it are read as before. Of the ones behind it:

* If the cut lies outside of the attribute values, all are read as before: behind the start of its tag
  the remains of the testcase make one tag with the first testcase behind, whose attributes count,
  and behind its tag they make a malformed testcase.
* If the cut lies within a value, the value goes on to the quote that opens the name of the first
  testcase behind, so that the name is no name any more, and the outcome of this testcase is lost with
  the name, or goes to the name of the one that was cut off.
-/

namespace SpecAtlas.Result

open Text Markup

/-! ## Reports of iterations -/

/-- A report of iterations with nothing but white space between them. -/
structure WrittenReport.WellFormed (r : WrittenReport) : Prop where
  testcases : ∀ t ∈ r.testcases, t.WellFormed
  gaps : ∀ part ∈ r.parts, allBlank part.1.1 = true
  tail : allBlank r.tail.1 = true

/-- The testcases come to results, one each. -/
def AllResults (ts : List WrittenTestcase) (results : List IterationResult) : Prop :=
  List.Forall₂ (fun t r => t.verdict = .ok (.result r)) ts results

theorem exists_allResults {ts : List WrittenTestcase} (h : ∀ t ∈ ts, t.WellFormed) :
    ∃ results, AllResults ts results := by
  induction ts with
  | nil => exact ⟨[], .nil⟩
  | cons t ts ih =>
      have ht := h t List.mem_cons_self
      obtain ⟨results, hresults⟩ := ih fun x hx => h x (List.mem_cons_of_mem t hx)
      obtain ⟨v, hv⟩ := WrittenTestcase.exists_verdict ht.short
      have htells := WrittenTestcase.tells_of_verdict hv
      rw [if_pos ht.iteration] at htells
      obtain ⟨r, rfl, -⟩ := htells
      exact ⟨r :: results, .cons hv hresults⟩

theorem mapM_of_allResults {ts : List WrittenTestcase} {results : List IterationResult}
    (h : AllResults ts results) : ts.mapM WrittenTestcase.verdict = .ok (results.map .result) :=
  mapM_of_forall₂ (List.forall₂_map_right_iff.2 h)

/-! ## What is read -/

/-- Reading a report gives the results, wherever the report lies. -/
def Yields (content : Text) (results : List IterationResult) : Prop :=
  ∀ source, ∃ events, readReport content source = .ok (results, events)

theorem yields_of_verdicts {content : Text} {verdicts : List Verdict} (h : Verdicts content verdicts) :
    Yields content (verdicts.filterMap Verdict.result?) :=
  fun source => ⟨_, readReport_of_verdicts h source⟩

theorem filterMap_result? (results : List IterationResult) :
    (results.map Verdict.result).filterMap Verdict.result? = results := by
  rw [List.filterMap_map]
  exact List.filterMap_some

/-- A report of iterations gives their results. -/
theorem yields_report {r : WrittenReport} {results : List IterationResult} (h : AllResults r.testcases results) :
    Yields r.text results := by
  have hyields := yields_of_verdicts (verdicts_text (mapM_of_allResults h))
  rwa [filterMap_result?] at hyields

/-- A report of iterations gives their results in front of anything else. -/
theorem yields_append {r : WrittenReport} {results : List IterationResult} (h : AllResults r.testcases results)
    {rest : Text} {verdicts : List Verdict} (hrest : Verdicts rest verdicts) :
    Yields (r.text ++ rest) (results ++ verdicts.filterMap Verdict.result?) := by
  have hyields := yields_of_verdicts (verdicts_report (mapM_of_allResults h) hrest)
  rwa [List.filterMap_append, filterMap_result?] at hyields

/-- Reading a report twice gives the same. -/
theorem yields_unique {content : Text} {results results' : List IterationResult} (h : Yields content results)
    (h' : Yields content results') : results = results' := by
  obtain ⟨_, hread⟩ := h []
  obtain ⟨_, hread'⟩ := h' []
  rw [hread] at hread'
  exact congrArg Prod.fst (Except.ok.inj hread')

/-! ## Cuts within a value -/

/-- Whether a testcase that is cut off ends within an attribute value of its tag. -/
def cutsValue (lead : Text) : Bool := !lead.elem '>' && lead.count '"' % 2 == 1

theorem cutsValue_of_start {lead : Text} (h : lead <+: testcaseStart) : cutsValue lead = false := by
  have hquote : '"' ∉ testcaseStart := by decide
  have hcount : lead.count '"' = 0 := List.count_eq_zero.2 fun hm => hquote (h.subset hm)
  rw [cutsValue, hcount]
  simp

theorem cutsValue_of_mem {lead : Text} (h : '>' ∈ lead) : cutsValue lead = false := by
  rw [cutsValue, List.elem_eq_true_of_mem h]
  rfl

theorem count_start (s : Text) : (testcaseStart ++ s).count '"' = s.count '"' := by
  rw [List.count_append, List.count_eq_zero.2 (by decide), Nat.zero_add]

theorem cutsValue_tag {s : Text} (h : '>' ∉ s) : cutsValue (testcaseStart ++ s) = (s.count '"' % 2 == 1) := by
  have hstart : '>' ∉ testcaseStart := by decide
  have hplain : (testcaseStart ++ s).elem '>' = false := by
    rw [← Bool.not_eq_true, List.elem_iff, List.mem_append, not_or]
    exact ⟨hstart, h⟩
  rw [cutsValue, hplain, count_start]
  rfl

/-! ## What a cut costs -/

/-- A result under the name of another testcase. -/
def IterationResult.rename (r : IterationResult) (name : Text) (info : IterationInfo) : IterationResult :=
  { r with index := info.index, displayName := name, parameters := info.parameters, output := name }

theorem verdictOf_rename {b : WrittenTestcase} {r : IterationResult} (hr : b.verdict = .ok (.result r)) {name : Text}
    {info : IterationInfo} (hinfo : iterationInfo? name = .ok (some info)) :
    verdictOf name (some b.time.meaning) b.content.error = .ok (.result (r.rename name info)) := by
  obtain ⟨info?, -, he⟩ := map_eq_ok.1 hr
  cases info? with
  | none => contradiction
  | some i =>
      cases he
      rw [verdictOf, hinfo]
      rfl

/-- Behind a cut that lies outside of the values, or with no testcase behind it, nothing is lost. -/
theorem verdicts_outside {t : WrittenTestcase} (ht : t.isIteration = true) {lead : Text} (hcut : CutTestcase t lead)
    {after : WrittenReport} (hafter : after.WellFormed) {bs : List IterationResult}
    (hbs : AllResults after.testcases bs) (h : cutsValue lead = false ∨ bs = []) :
    ∃ verdicts, Verdicts (lead ++ '\n' :: after.text) verdicts ∧ verdicts.filterMap Verdict.result? = bs := by
  have hbehind : Verdicts after.text (bs.map .result) := verdicts_text (mapM_of_allResults hbs)
  cases hcut with
  | start hshort hproper =>
      refine ⟨_, ?_, filterMap_result? bs⟩
      have happend := verdicts_append (isClear_start hshort hproper) hbehind
      rwa [List.append_assoc, List.singleton_append] at happend
  | body hopen hp hproper => exact ⟨_, verdicts_cutBody ht hopen hp hproper hbehind, filterMap_result? bs⟩
  | tag hattributes hplain hword =>
      obtain ⟨parts, tail⟩ := after
      cases parts with
      | nil =>
          cases hbs
          have htail : '>' ∉ tail.1 := not_mem_of_allBlank hafter.tail (by decide)
          exact ⟨[], verdicts_cutTag_nil hplain ⟨tail.2, htail⟩, rfl⟩
      | cons part parts =>
          cases hbs with
          | cons hr hrest =>
              have hgap := hafter.gaps part List.mem_cons_self
              have hb := (hafter.testcases part.2 List.mem_cons_self).standard
              cases hattributes with
              | between front hsplit hv =>
                  refine ⟨_, ?_, filterMap_result? _⟩
                  rw [WrittenReport.text_cons]
                  have hne : part.2.attributes ≠ [] := by rw [hb]; exact List.cons_ne_nil _ _
                  refine verdicts_cutTag hplain hword (not_mem_of_allBlank hgap (by decide)) hne
                    (attributes_between hv hgap hb) ?_ (verdicts_text (mapM_of_allResults hrest))
                  rw [Mapping.get?_ofList_append, Mapping.get?_ofList_append, part.2.get?_name, part.2.get?_time]
                  exact hr
              | within front hsplit hv =>
                  rw [cutsValue_tag hplain.2, count_within hv] at h
                  rcases h with h | h
                  · simp at h
                  · contradiction

/-- The attributes in front of a cut within a value of a standard tag. -/
theorem standard_split {name className time : Escaped} {front back : List Attribute} {a : Attribute}
    (h : standardAttributes name className time = front ++ a :: back) :
    (front = [] ∧ a.key = "name".toList) ∨
      (front ≠ [] ∧ a.key ≠ "name".toList ∧
        Mapping.get? (Mapping.ofList (front.map Attribute.entry)) "name".toList = some name.meaning) := by
  have hkeys : "classname".toList ≠ "name".toList ∧ "time".toList ≠ "name".toList := by decide
  unfold standardAttributes at h
  match front, h with
  | [], h =>
      cases h
      exact .inl ⟨rfl, rfl⟩
  | [_], h =>
      cases h
      exact .inr ⟨List.cons_ne_nil _ _, hkeys.1, rfl⟩
  | [_, _], h =>
      cases h
      exact .inr ⟨List.cons_ne_nil _ _, hkeys.2, rfl⟩
  | _ :: _ :: _ :: front, h => simp at h

/-- What is left of the first result behind a cut within a value: nothing if the value is the name, and
else the outcome under the name of the testcase that was cut off. -/
def salvaged (lead name : Text) (info : IterationInfo) (b : IterationResult) : List IterationResult :=
  if lead.count '"' = 1 then [] else [b.rename name info]

/-- A value that is cut off takes the name of the next testcase away. -/
theorem verdicts_cutValue {t : WrittenTestcase} (ht : t.WellFormed) {info : IterationInfo}
    (hinfo : iterationInfo? t.name.meaning = .ok (some info)) {front back : List Attribute} {a : Attribute} {v : Text}
    (hsplit : t.attributes = front ++ a :: back) (hv : v <+: a.value.written) {s : Text}
    (hs : s = front.flatMap Attribute.text ++ ' ' :: (a.key ++ '=' :: '"' :: v)) (hplain : '<' ∉ s ∧ '>' ∉ s)
    (hword : ∀ c ∈ s.head?, isWord c = false) {gap : Text} (hgap : allBlank gap = true) {b : WrittenTestcase}
    (hb : b.WellFormed) {r : IterationResult} (hr : b.verdict = .ok (.result r)) {rest : Text}
    {results : List IterationResult} (hrest : Verdicts rest (results.map .result)) :
    ∃ verdicts, Verdicts (testcaseStart ++ s ++ '\n' :: (gap ++ (b.text ++ rest))) verdicts ∧
      verdicts.filterMap Verdict.result? = salvaged (testcaseStart ++ s) t.name.meaning info r ++ results := by
  have hend : '>' ∉ gap := not_mem_of_allBlank hgap (by decide)
  have hne : b.attributes ≠ [] := by rw [hb.standard]; exact List.cons_ne_nil _ _
  obtain ⟨m, hm⟩ := attributes_within front hv hgap hb
  rw [← hs] at hm
  rw [salvaged, count_start, hs, count_within hv, ← hs]
  rw [ht.standard] at hsplit
  rcases standard_split hsplit with ⟨rfl, hkey⟩ | ⟨hfront, hkey, hname⟩
  · -- The name goes on to the next quote and is no name any more.
    refine ⟨.other :: results.map .result, verdicts_cutTag hplain hword hend hne hm ?_ hrest,
      filterMap_result? results⟩
    have hother : iterationInfo? (m ++ swallowedValue gap) = .ok none := by
      have hlast : m ++ swallowedValue gap = (m ++ '\n' :: (gap ++ "<testcase name".toList)) ++ ['='] := by
        simp only [swallowedValue, List.append_assoc, List.cons_append]
        rfl
      rw [iterationInfo?, hlast, IterationName.read?_of_last (by decide) (by decide)]
    rw [get?_name_within hb.standard, if_pos hkey, Option.getD_some, verdictOf, hother]
    rfl
  · -- The name stands in front of the cut, the outcome behind it.
    have hlong : 2 * front.length + 1 ≠ 1 := by
      have := List.length_pos_iff.2 hfront
      omega
    refine ⟨.result (r.rename t.name.meaning info) :: results.map .result,
      verdicts_cutTag hplain hword hend hne hm ?_ hrest, ?_⟩
    · rw [get?_name_within hb.standard, if_neg hkey, hname, get?_time_within hb.standard]
      exact verdictOf_rename hr hinfo
    · rw [if_neg hlong]
      exact congrArg (_ :: ·) (filterMap_result? results)

/-- Behind a cut within a value the first result is lost or goes to another name. -/
theorem verdicts_within {t : WrittenTestcase} (ht : t.WellFormed) {info : IterationInfo}
    (hinfo : iterationInfo? t.name.meaning = .ok (some info)) {lead : Text} (hcut : CutTestcase t lead)
    {after : WrittenReport} (hafter : after.WellFormed) {b : IterationResult} {bs : List IterationResult}
    (hbs : AllResults after.testcases (b :: bs)) (h : cutsValue lead = true) :
    ∃ verdicts, Verdicts (lead ++ '\n' :: after.text) verdicts ∧
      verdicts.filterMap Verdict.result? = salvaged lead t.name.meaning info b ++ bs := by
  cases hcut with
  | start hshort hproper =>
      rw [cutsValue_of_start hshort] at h
      contradiction
  | @body p hopen hp hproper =>
      have hend : '>' ∈ tagEnd t.content.isClosed ++ p := List.mem_append_left p (by rw [hopen]; decide)
      rw [cutsValue_of_mem (List.mem_append_right _ (List.mem_append_right _ hend))] at h
      contradiction
  | tag hattributes hplain hword =>
      rw [cutsValue_tag hplain.2] at h
      cases hattributes with
      | between front hsplit hv =>
          rw [count_between hv] at h
          simp at h
      | within front hsplit hv =>
          obtain ⟨parts, tail⟩ := after
          cases parts with
          | nil => cases hbs
          | cons part parts =>
              cases hbs with
              | cons hr hrest =>
                  rw [WrittenReport.text_cons]
                  exact verdicts_cutValue ht hinfo hsplit hv rfl hplain hword (hafter.gaps part List.mem_cons_self)
                    (hafter.testcases part.2 List.mem_cons_self) hr (verdicts_text (mapM_of_allResults hrest))

/-- **What a testcase costs that is cut off anywhere.** The results in front of it are read as before.
If it is cut off outside of its attribute values, or if no result stands behind it, the results behind
it are read as before as well, and it has none itself. If it is cut off within a value, the first
result behind it is lost or goes to its name, and the others are read as before. -/
theorem readReport_damaged {before after : WrittenReport} (hbefore : ∀ x ∈ before.testcases, x.WellFormed)
    (hafter : after.WellFormed) {t : WrittenTestcase} (ht : t.WellFormed) {lead : Text} (hlead : lead <+: t.text)
    (hproper : lead ≠ t.text) :
    ∃ as bs info, Yields before.text as ∧ Yields after.text bs ∧
      iterationInfo? t.name.meaning = .ok (some info) ∧
      (cutsValue lead = false ∨ bs = [] → Yields (before.text ++ (lead ++ '\n' :: after.text)) (as ++ bs)) ∧
      (cutsValue lead = true → ∀ b rest, bs = b :: rest →
        Yields (before.text ++ (lead ++ '\n' :: after.text))
          (as ++ (salvaged lead t.name.meaning info b ++ rest))) := by
  obtain ⟨as, has⟩ := exists_allResults hbefore
  obtain ⟨bs, hbs⟩ := exists_allResults hafter.testcases
  obtain ⟨info?, hinfo⟩ := exists_iterationInfo? ht.short
  obtain ⟨info, rfl⟩ := Option.isSome_iff_exists.1 ((isSome_of_iterationInfo? hinfo).trans ht.iteration)
  have hcut := cutTestcase_of_isPrefix hlead hproper
  refine ⟨as, bs, info, yields_report has, yields_report hbs, hinfo, fun h => ?_, fun h b rest hcons => ?_⟩
  · obtain ⟨verdicts, hverdicts, hresults⟩ := verdicts_outside ht.iteration hcut hafter hbs h
    exact hresults ▸ yields_append has hverdicts
  · obtain rfl := hcons
    obtain ⟨verdicts, hverdicts, hresults⟩ := verdicts_within ht hinfo hcut hafter hbs h
    exact hresults ▸ yields_append has hverdicts

/-! ## A report that loses a result -/

theorem wellFormed_standard {name className time : Text} {content : WrittenContent}
    (hiteration : (IterationName.read? name).isSome = true) (hshort : hasShortNumerals name = true) :
    (WrittenTestcase.standard name className time content).WellFormed where
  standard := rfl
  iteration := by rwa [WrittenTestcase.isIteration, WrittenTestcase.standard, Escaped.meaning_escape]
  short := by rwa [WrittenTestcase.standard, Escaped.meaning_escape]

theorem wellFormed_reportOf {ts : List WrittenTestcase} (h : ∀ t ∈ ts, t.WellFormed) : (reportOf ts).WellFormed where
  testcases := by rwa [testcases_reportOf]
  gaps := by
    intro part hpart
    obtain ⟨t, -, rfl⟩ := List.mem_map.1 hpart
    rfl
  tail := rfl

/-- An iteration that is cut off within its name. -/
def cutIteration : WrittenTestcase := passedIteration "max [a: 1, #1]".toList

/-- What is left of it. -/
def cutLead : Text := "<testcase name=\"max [a: 1, ".toList

/-- The report in front of it. -/
def frontReport : WrittenReport := reportOf [passedIteration "max [a: 0, #0]".toList]

/-- The report behind it. -/
def backReport : WrittenReport :=
  reportOf [failedIteration "min [a: 2, #0]".toList "x".toList, passedIteration "sum [a: 3, #0]".toList]

theorem wellFormed_passedIteration {name : Text} (hiteration : (IterationName.read? name).isSome = true)
    (hshort : hasShortNumerals name = true) : (passedIteration name).WellFormed :=
  wellFormed_standard hiteration hshort

theorem wellFormed_frontReport : frontReport.WellFormed :=
  wellFormed_reportOf <|
    List.forall_mem_singleton.2 (wellFormed_passedIteration (by decide +kernel) (by decide +kernel))

theorem wellFormed_backReport : backReport.WellFormed :=
  wellFormed_reportOf <| List.forall_mem_cons.2
    ⟨wellFormed_standard (by decide +kernel) (by decide +kernel),
      List.forall_mem_singleton.2 (wellFormed_passedIteration (by decide +kernel) (by decide +kernel))⟩

theorem wellFormed_cutIteration : cutIteration.WellFormed :=
  wellFormed_passedIteration (by decide +kernel) (by decide +kernel)

theorem cutLead_isPrefix : cutLead <+: cutIteration.text ∧ cutLead ≠ cutIteration.text := by decide +kernel

theorem readReport_damaged_cutLead :
    cutLead <+: cutIteration.text ∧ cutLead ≠ cutIteration.text ∧
      ∃ as bs info, Yields frontReport.text as ∧ Yields backReport.text bs ∧
        iterationInfo? cutIteration.name.meaning = .ok (some info) ∧
        (cutsValue cutLead = false ∨ bs = [] →
          Yields (frontReport.text ++ (cutLead ++ '\n' :: backReport.text)) (as ++ bs)) ∧
        (cutsValue cutLead = true → ∀ b rest, bs = b :: rest →
          Yields (frontReport.text ++ (cutLead ++ '\n' :: backReport.text))
            (as ++ (salvaged cutLead cutIteration.name.meaning info b ++ rest))) :=
  ⟨cutLead_isPrefix.1, cutLead_isPrefix.2,
    readReport_damaged wellFormed_frontReport.testcases wellFormed_backReport wellFormed_cutIteration
      cutLead_isPrefix.1 cutLead_isPrefix.2⟩

/-- A result behind an iteration that is cut off can be lost: whatever is read of the iteration itself,
not all results behind it are there. -/
theorem lost_behind_cutLead :
    cutLead <+: cutIteration.text ∧ cutLead ≠ cutIteration.text ∧
      ∃ as bs, Yields frontReport.text as ∧ Yields backReport.text bs ∧
        ∀ own, ¬ Yields (frontReport.text ++ (cutLead ++ '\n' :: backReport.text)) (as ++ (own ++ bs)) := by
  obtain ⟨as, has⟩ := exists_allResults wellFormed_frontReport.testcases
  obtain ⟨bs, hbs⟩ := exists_allResults wellFormed_backReport.testcases
  refine ⟨cutLead_isPrefix.1, cutLead_isPrefix.2, as, bs, yields_report has, yields_report hbs, fun own h => ?_⟩
  obtain ⟨info?, hinfo⟩ := exists_iterationInfo? wellFormed_cutIteration.short
  obtain ⟨info, rfl⟩ :=
    Option.isSome_iff_exists.1 ((isSome_of_iterationInfo? hinfo).trans wellFormed_cutIteration.iteration)
  have hcut := cutTestcase_of_isPrefix cutLead_isPrefix.1 cutLead_isPrefix.2
  cases bs with
  | nil => cases hbs
  | cons b rest =>
      have hwithin : cutsValue cutLead = true := by decide +kernel
      have hcount : cutLead.count '"' = 1 := by decide +kernel
      obtain ⟨verdicts, hverdicts, hresults⟩ :=
        verdicts_within wellFormed_cutIteration hinfo hcut wellFormed_backReport hbs hwithin
      have hread := yields_unique h (yields_append has hverdicts)
      have hlength := congrArg List.length hread
      rw [hresults, salvaged, if_pos hcount] at hlength
      simp only [List.length_append, List.length_cons, List.length_nil] at hlength
      omega

end SpecAtlas.Result
