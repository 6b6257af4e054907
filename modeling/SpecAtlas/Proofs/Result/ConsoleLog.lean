import SpecAtlas.Proofs.Result.ReportLine

/-!
# Logs of the console are read exactly

A log is made of lines that report an iteration and of noise, which has no closing bracket. Its lines end with
a line feed, and there may be a carriage return in front of that.

`told` is what the lines of a text tell of a feature. It can be taken line by line (`told_join`): the report of
an iteration of the feature tells this iteration (`told_written`), and any other line tells nothing (`told_other`,
`told_of_not_mem`). So the results that are read for a feature are those of its own lines, in order
(`readConsole_log`).
-/

namespace SpecAtlas.Result

open Text

/-! ## Logs -/

/-- A line that reports an iteration of some feature. -/
structure ReportedIteration where
  lead : Text
  feature : Text
  parameters : Text
  digits : Text
  status : Status
  noOpening : '[' ∉ lead
  noClosing : ']' ∉ lead
  named : feature ≠ []
  trimmed : trim feature = feature
  nameMark : '>' ∉ feature
  nameBracket : '[' ∉ feature
  plainParameters : PlainParameters parameters
  someDigits : digits ≠ []
  decimal : digits.all isDigit = true
  short : digits.length ≤ Numeral.limit

namespace ReportedIteration

/-- The text of the line. -/
def text (r : ReportedIteration) : Text := writtenLine r.lead (writtenName r.feature r.parameters r.digits) r.status

/-- What stands behind the opening bracket. -/
def inBrackets (r : ReportedIteration) : Text :=
  r.parameters ++ ", #".toList ++ r.digits ++ ']' :: ' ' :: r.status.text

theorem not_mem_inBrackets (r : ReportedIteration) : '>' ∉ r.inBrackets := by
  have hdigits := not_mem_of_all (c := '>') r.decimal (by decide)
  have hstatus : '>' ∉ r.status.text := by cases r.status <;> decide
  simp [inBrackets, r.plainParameters.noMark, hdigits, hstatus]

/-- The first opening bracket of the line stands behind the name of the feature. -/
theorem text_eq (r : ReportedIteration) :
    r.text = r.lead ++ ([' '] ++ '>' :: (' ' :: (r.feature ++ [' ']) ++ '[' :: r.inBrackets)) := by
  simp [text, writtenLine, writtenName, inBrackets]

end ReportedIteration

/-- A line of a log: noise, or the report of an iteration. -/
inductive LogLine where
  | noise (text : Text) (noClosing : ']' ∉ text)
  | report (r : ReportedIteration)

namespace LogLine

/-- The text of a line. -/
def text : LogLine → Text
  | noise text _ => text
  | report r => r.text

/-- The iteration of a feature that a line reports. -/
def reported (feature : Text) : LogLine → List ReportedIteration
  | noise .. => []
  | report r => if r.feature = feature then [r] else []

end LogLine

/-- What stands behind a line: a carriage return or nothing. -/
def returns (returned : Bool) : Text := if returned then ['\r'] else []

/-- The text of a log; with every line comes whether a carriage return stands behind it. -/
def logText (log : List (LogLine × Bool)) : Text :=
  join ['\n'] (log.map fun (line, returned) => line.text ++ returns returned)

/-- The iterations of a feature that a log reports. -/
def reportedIn (feature : Text) (log : List (LogLine × Bool)) : List ReportedIteration :=
  log.flatMap (·.1.reported feature)

/-! ## The lines of a log -/

/-- What the lines of a text tell of a feature. -/
def told (feature text : Text) : List (Except LongNumeral (IterationResult × Status)) :=
  (lines text).filterMap (lineResult? feature)

theorem told_append (feature first rest : Text) :
    told feature (first ++ '\n' :: rest) = told feature first ++ told feature rest := by
  rw [told, lines, pieces_append_cons, List.filterMap_append]
  rfl

theorem told_singleLine {text : Text} (h : '\n' ∉ text) (feature : Text) :
    told feature text = (lineResult? feature text).toList := by
  rw [told, lines, pieces_of_not_mem h, List.filterMap_cons]
  cases lineResult? feature text <;> rfl

/-- The results for a feature are what the lines tell of it. -/
theorem readConsole_of_told {feature text : Text} {found : List (IterationResult × Status)}
    (h : told feature text = found.map .ok) : ∃ events, readConsole text feature = .ok (found.map Prod.fst, events) := by
  have hfound : ((lines text).filterMap (lineResult? feature)).mapM id = .ok found := by
    rw [← told, h]
    exact mapM_of_forall₂ (List.forall₂_map_left_iff.2 (List.forall₂_same.2 fun _ _ => rfl))
  rw [readConsole, hfound]
  exact ⟨_, rfl⟩

/-- Text without a mark, or without one of the brackets, tells nothing. -/
theorem told_of_not_mem {c : Char} (hc : c ∈ ['>', '[', ']']) {text : Text} (h : c ∉ text) (feature : Text) :
    told feature text = [] := by
  refine List.filterMap_eq_nil_iff.2 fun line hline => ?_
  rw [lineResult?, Option.map_eq_none_iff, Option.eq_none_iff_forall_ne_some]
  intro found hfound
  obtain ⟨hmark, hopening, hclosing⟩ := mem_of_read? hfound
  have hmem : c ∈ dropReturns line := by
    simp only [List.mem_cons, List.not_mem_nil, or_false] at hc
    rcases hc with rfl | rfl | rfl
    · exact hmark
    · exact hopening
    · exact hclosing
  have hsub : dropReturns line ⊆ line := fun x hx =>
    List.mem_reverse.1 ((List.dropWhile_sublist _).subset (List.mem_reverse.1 hx))
  exact h (mem_of_mem_pieces hline (hsub hmem))

/-- Of a lead without a closing bracket only its last line counts. -/
theorem exists_told_lead {lead : Text} (hclosing : ']' ∉ lead) (feature rest : Text) :
    ∃ last, '\n' ∉ last ∧ last ⊆ lead ∧ told feature (lead ++ rest) = told feature (last ++ rest) := by
  by_cases hline : '\n' ∈ lead
  · obtain ⟨last, before, hreverse, hlast⟩ := List.eq_append_cons_of_mem (List.mem_reverse.2 hline)
    have hlead : lead = before.reverse ++ '\n' :: last.reverse := by
      rw [← List.reverse_reverse lead, hreverse]
      simp
    have hbefore : ']' ∉ before.reverse := fun hm => hclosing (hlead ▸ List.mem_append_left _ hm)
    refine ⟨last.reverse, by simpa using hlast, ?_, ?_⟩
    · rw [hlead]
      exact fun c hc => List.mem_append_right _ (List.mem_cons_of_mem _ hc)
    · rw [hlead, List.append_assoc, List.cons_append, told_append, told_of_not_mem (c := ']') (by decide) hbefore,
        List.nil_append]
  · exact ⟨lead, hline, List.Subset.refl lead, rfl⟩

theorem eq_of_mem_returns {returned : Bool} {c : Char} (h : c ∈ returns returned) : c = '\r' := by
  cases returned with
  | false => contradiction
  | true => exact List.mem_singleton.1 h

theorem writtenLine_eq (lead name : Text) (status : Status) :
    writtenLine lead name status = lead ++ ([' '] ++ '>' :: ' ' :: (name ++ ' ' :: status.text)) := by
  simp [writtenLine]

/-- A line ends with its status. -/
theorem getLast?_writtenLine (lead name : Text) (status : Status) :
    ∀ c ∈ (writtenLine lead name status).getLast?, (c == '\r') = false := by
  have hsplit : writtenLine lead name status = lead ++ " > ".toList ++ name ++ [' '] ++ status.text := by
    simp [writtenLine]
  have hne : status.text ≠ [] := by cases status <;> decide
  have hlast : status.text.getLast? ≠ some '\r' := by cases status <;> decide
  rw [hsplit, List.getLast?_append_of_ne_nil _ hne]
  exact fun c hc => beq_eq_false_iff_ne.2 fun he => hlast (he ▸ hc)

/-- Carriage returns do not belong to a line. -/
theorem dropReturns_writtenLine (lead name : Text) (status : Status) (returned : Bool) :
    dropReturns (writtenLine lead name status ++ returns returned) = writtenLine lead name status := by
  have hreturns : ∀ c ∈ returns returned, (c == '\r') = true := fun c hc => beq_iff_eq.2 (eq_of_mem_returns hc)
  rw [dropReturns, dropRight_append hreturns, dropRight_of_getLast (getLast?_writtenLine lead name status)]

theorem not_mem_line {lead feature parameters digits : Text} (hlead : '\n' ∉ lead) (hfeature : '\n' ∉ feature)
    (hparameters : '\n' ∉ parameters) (hdigits : digits.all isDigit = true) (status : Status) (returned : Bool) :
    '\n' ∉ writtenLine lead (writtenName feature parameters digits) status ++ returns returned := by
  have hname := not_mem_writtenName hfeature hparameters hdigits (by decide) (by decide)
  have hstatus : '\n' ∉ status.text := by cases status <;> decide
  have hreturns : '\n' ∉ returns returned := fun hc => absurd (eq_of_mem_returns hc) (by decide)
  simp [writtenLine, hlead, hname, hstatus, hreturns]

section

variable {feature parameters digits lead : Text} (hname : feature ≠ []) (htrim : trim feature = feature)
  (hmark : '>' ∉ feature) (hline : '\n' ∉ feature) (hp : PlainParameters parameters) (hsome : digits ≠ [])
  (hdigits : digits.all isDigit = true) (hlead : ']' ∉ lead)

include hname htrim hmark hline hp hsome hdigits hlead

/-- A written line tells a feature what its last line tells, which is read for the feature. -/
theorem exists_lastLine (status : Status) (returned : Bool) :
    ∃ line, told feature (writtenLine lead (writtenName feature parameters digits) status ++ returns returned) =
        (lineResult? feature line).toList ∧
      ReportLine.read? feature (dropReturns line) = some ⟨⟨parameters, digits⟩, status⟩ := by
  obtain ⟨last, hlast, -, htold⟩ := exists_told_lead hlead feature
    ([' '] ++ '>' :: ' ' :: (writtenName feature parameters digits ++ ' ' :: status.text) ++ returns returned)
  have hread := read?_written hname htrim hmark hp hsome hdigits last status
  rw [← dropReturns_writtenLine last _ status returned] at hread
  have hsingle := not_mem_line hlast hline hp.oneLine hdigits status returned
  refine ⟨_, ?_, hread⟩
  rw [writtenLine_eq, List.append_assoc, htold, ← List.append_assoc, ← writtenLine_eq, told_singleLine hsingle]

/-- **A line that reports an iteration tells it to the reader of its feature**, if the numbers in it are not too
long. -/
theorem told_written (hlength : digits.length ≤ Numeral.limit)
    (hshort : ∀ scalar ∈ Parameters.scalars parameters, Literal.tooLong? scalar = none) (status : Status)
    (returned : Bool) :
    ∃ result, told feature (writtenLine lead (writtenName feature parameters digits) status ++ returns returned) =
        [.ok (result, status)] ∧
      TellsLine feature parameters digits status result := by
  obtain ⟨line, htold, hread⟩ := exists_lastLine hname htrim hmark hline hp hsome hdigits hlead status returned
  obtain ⟨result, hresult, htells⟩ := exists_lineResult? hread hlength hshort
  exact ⟨result, by rw [htold, hresult]; rfl, htells⟩

/-- The console is refused for a line whose index has too many digits. -/
theorem readConsole_longIndex (hlong : Numeral.limit < digits.length) (status : Status) :
    readConsole (writtenLine lead (writtenName feature parameters digits) status) feature =
      .error ⟨digits.length⟩ := by
  obtain ⟨line, htold, hread⟩ := exists_lastLine hname htrim hmark hline hp hsome hdigits hlead status false
  have hline : returns false = [] := rfl
  rw [hline, List.append_nil, lineResult?_longIndex hread hlong] at htold
  rw [readConsole, ← told, htold]
  rfl

end

/-- A report with a line break in the name tells nothing: no part of it has both the mark and the opening
bracket. -/
theorem told_brokenName (r : ReportedIteration) (hline : '\n' ∈ r.feature) (feature : Text) (returned : Bool) :
    told feature (r.text ++ returns returned) = [] := by
  obtain ⟨first, rest, hfeature⟩ := List.append_of_mem hline
  have hbracket := r.nameBracket
  have hname := r.nameMark
  rw [hfeature] at hbracket hname
  have hfront : '[' ∉ r.lead ++ " > ".toList ++ first := by
    simp_all [r.noOpening]
  have hback : '>' ∉ rest ++ [' '] ++ '[' :: r.inBrackets ++ returns returned := by
    have hreturns : '>' ∉ returns returned := fun hc => absurd (eq_of_mem_returns hc) (by decide)
    have hrest : '>' ∉ rest := fun hc => hname (List.mem_append_right first (List.mem_cons_of_mem _ hc))
    simp [hrest, r.not_mem_inBrackets, hreturns]
  have hparts : r.text ++ returns returned =
      r.lead ++ " > ".toList ++ first ++ '\n' :: (rest ++ [' '] ++ '[' :: r.inBrackets ++ returns returned) := by
    simp [r.text_eq, hfeature]
  rw [hparts, told_append, told_of_not_mem (c := '[') (by decide) hfront, told_of_not_mem (c := '>') (by decide) hback]
  rfl

section

variable {feature : Text} (h : PlainFeature feature) (hmark : '>' ∉ feature) (r : ReportedIteration) (returned : Bool)

include h hmark

/-- The report of an iteration of another feature tells nothing. -/
theorem told_other (hother : r.feature ≠ feature) : told feature (r.text ++ returns returned) = [] := by
  by_cases hline : '\n' ∈ r.feature
  · exact told_brokenName r hline feature returned
  · obtain ⟨last, hlast, hsub, htold⟩ := exists_told_lead r.noClosing feature
      ([' '] ++ '>' :: (' ' :: (r.feature ++ [' ']) ++ '[' :: r.inBrackets) ++ returns returned)
    have hfront : '[' ∉ last ++ [' '] := by
      have hopening : '[' ∉ last := fun hm => r.noOpening (hsub hm)
      simp [hopening]
    have hname : '[' ∉ ' ' :: (r.feature ++ [' ']) := by simp [r.nameBracket]
    have hrest : '>' ∉ ' ' :: (r.feature ++ [' ']) ++ '[' :: r.inBrackets := by
      simp [r.nameMark, r.not_mem_inBrackets]
    have htrim : trim (' ' :: (r.feature ++ [' '])) = r.feature := by
      have hsplit : ' ' :: (r.feature ++ [' ']) = [' '] ++ (r.feature ++ [' ']) := rfl
      rw [hsplit, trim_append (by decide), trim_append_right _ (by decide), r.trimmed]
    have hread := read?_foreign h.trimmed h.noBracket hmark hfront hname hrest (htrim.symm ▸ hother)
    have hparts : writtenLine last (writtenName r.feature r.parameters r.digits) r.status =
        last ++ ([' '] ++ '>' :: (' ' :: (r.feature ++ [' ']) ++ '[' :: r.inBrackets)) := by
      simp [writtenLine, writtenName, ReportedIteration.inBrackets]
    have hsingle := not_mem_line hlast hline r.plainParameters.oneLine r.decimal r.status returned
    rw [r.text_eq, List.append_assoc, htold, ← List.append_assoc, ← hparts, told_singleLine hsingle, lineResult?,
      dropReturns_writtenLine, hparts, ← List.append_assoc, hread]
    rfl

/-- What a line of a log tells of the feature is what it reports of it. -/
theorem exists_told_line (line : LogLine)
    (hshort : ∀ r ∈ line.reported feature, ∀ scalar ∈ Parameters.scalars r.parameters, Literal.tooLong? scalar = none) :
    ∃ found : List (IterationResult × Status),
      told feature (line.text ++ returns returned) = found.map .ok ∧
      List.Forall₂ (fun r x => TellsLine feature r.parameters r.digits r.status x.1) (line.reported feature) found := by
  cases line with
  | noise text hnoise =>
      have hnone : ']' ∉ text ++ returns returned := by
        intro hm
        rcases List.mem_append.1 hm with htext | hreturns
        · exact hnoise htext
        · exact absurd (eq_of_mem_returns hreturns) (by decide)
      exact ⟨[], told_of_not_mem (by decide) hnone feature, .nil⟩
  | report r =>
      by_cases hown : r.feature = feature
      · have hreported : (LogLine.report r).reported feature = [r] := if_pos hown
        rw [hreported] at hshort ⊢
        obtain ⟨result, htold, htells⟩ := told_written r.named r.trimmed r.nameMark (hown ▸ h.oneLine)
          r.plainParameters r.someDigits r.decimal r.noClosing r.short (hshort r List.mem_cons_self) r.status returned
        subst hown
        exact ⟨[(result, r.status)], htold, .cons htells .nil⟩
      · have hreported : (LogLine.report r).reported feature = [] := if_neg hown
        rw [hreported]
        exact ⟨[], told_other h hmark r returned hown, .nil⟩

end

/-- What joined lines tell is what they tell one by one. -/
theorem told_join (feature : Text) (texts : List Text) :
    told feature (join ['\n'] texts) = texts.flatMap (told feature) := by
  induction texts with
  | nil => rfl
  | cons first rest ih =>
      cases rest with
      | nil => simp [join]
      | cons next rest =>
          rw [join_cons_of_ne_nil _ _ (List.cons_ne_nil _ _), List.append_assoc, List.singleton_append, told_append, ih]
          rfl

/-- **A log is read exactly**: there is one result for every line that reports an iteration of the feature, in
the order of the lines, and none for any other line. A result has the index, the name, the parameters and the
outcome that its line reports. -/
theorem readConsole_log {feature : Text} (h : PlainFeature feature) (hmark : '>' ∉ feature)
    (log : List (LogLine × Bool))
    (hshort : ∀ r ∈ reportedIn feature log, ∀ scalar ∈ Parameters.scalars r.parameters, Literal.tooLong? scalar = none) :
    ∃ results events, readConsole (logText log) feature = .ok (results, events) ∧
      List.Forall₂ (fun r result => TellsLine feature r.parameters r.digits r.status result)
        (reportedIn feature log) results := by
  have hlines : ∃ found : List (IterationResult × Status), told feature (logText log) = found.map .ok ∧
      List.Forall₂ (fun r x => TellsLine feature r.parameters r.digits r.status x.1) (reportedIn feature log) found := by
    rw [logText, told_join, List.flatMap_map]
    induction log with
    | nil => exact ⟨[], rfl, .nil⟩
    | cons entry rest ih =>
        obtain ⟨first, hfirst, htells⟩ := exists_told_line h hmark entry.2 entry.1 fun r hr =>
          hshort r (List.mem_append_left _ hr)
        obtain ⟨others, hothers, hrest⟩ := ih fun r hr => hshort r (List.mem_append_right _ hr)
        refine ⟨first ++ others, ?_, List.rel_append htells hrest⟩
        rw [List.flatMap_cons, hfirst, hothers, List.map_append]
  obtain ⟨found, htold, htells⟩ := hlines
  obtain ⟨events, hread⟩ := readConsole_of_told htold
  exact ⟨found.map Prod.fst, events, hread, List.forall₂_map_right_iff.2 htells⟩

/-- A log with two features of which the name of one is the end of the other's. -/
def sampleLog : List (LogLine × Bool) :=
  let report (feature parameters digits : Text) (status : Status)
      (hname : feature ≠ [] ∧ trim feature = feature ∧ '>' ∉ feature ∧ '[' ∉ feature)
      (hparameters : PlainParameters parameters)
      (hdigits : digits ≠ [] ∧ digits.all isDigit = true ∧ digits.length ≤ Numeral.limit) : LogLine :=
    .report ⟨"Gradle Test > MathSpec".toList, feature, parameters, digits, status, by decide, by decide,
      hname.1, hname.2.1, hname.2.2.1, hname.2.2.2, hparameters, hdigits.1, hdigits.2.1, hdigits.2.2⟩
  [(.noise "Starting > max [".toList (by decide), false),
    (report "max (a|b)*".toList "a: 1, b: [#2".toList "00".toList .failed (by decide)
      ⟨by decide, by decide, by decide, by decide⟩ (by decide), true),
    (report "the max (a|b)*".toList "a: 3, b: 4".toList "0".toList .passed (by decide)
      ⟨by decide, by decide, by decide, by decide⟩ (by decide), false),
    (report "max (a|b)*".toList "a: -5".toList "1".toList .passed (by decide)
      ⟨by decide, by decide, by decide, by decide⟩ (by decide), false)]

example : logText (sampleLog.take 2) =
    "Starting > max [\nGradle Test > MathSpec > max (a|b)* [a: 1, b: [#2, #00] FAILED\r".toList := by
  decide +kernel

/-- The feature has two results in the sample log: its first iteration failed, and its second one passed. -/
theorem readConsole_sampleLog :
    PlainFeature "max (a|b)*".toList ∧ '>' ∉ "max (a|b)*".toList ∧
    (∀ r ∈ reportedIn "max (a|b)*".toList sampleLog, ∀ scalar ∈ Parameters.scalars r.parameters,
      Literal.tooLong? scalar = none) ∧
    (reportedIn "max (a|b)*".toList sampleLog).map (fun r => (Numeral.value r.digits, r.status)) =
      [(0, .failed), (1, .passed)] ∧
    ∃ results events, readConsole (logText sampleLog) "max (a|b)*".toList = .ok (results, events) ∧
      List.Forall₂ (fun r result => TellsLine "max (a|b)*".toList r.parameters r.digits r.status result)
        (reportedIn "max (a|b)*".toList sampleLog) results := by
  have hname : PlainFeature "max (a|b)*".toList := ⟨by decide, by decide, by decide, by decide⟩
  have hmark : '>' ∉ "max (a|b)*".toList := by decide
  have hshort : ∀ r ∈ reportedIn "max (a|b)*".toList sampleLog, ∀ scalar ∈ Parameters.scalars r.parameters,
      Literal.tooLong? scalar = none := by
    decide
  exact ⟨hname, hmark, hshort, by decide, readConsole_log hname hmark sampleLog hshort⟩

end SpecAtlas.Result
