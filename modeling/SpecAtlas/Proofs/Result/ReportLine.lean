import SpecAtlas.Proofs.Result.IterationName
import SpecAtlas.Proofs.Text.Mark

/-!
# Lines that report an iteration

A line of the console reports an iteration as `<lead> > <feature> [<parameters>, #<index>] <status>`.

1. A line is read only if it has the mark `>` and both brackets (`mem_of_read?`).
2. A written line is read for its feature as what it was written from, whatever stands in front of its last
   mark (`read?_written`), and then it has a result (`exists_lineResult?`).
3. It is read for no other feature: the first opening bracket tells where the name ends (`read?_foreign`).

The name of the feature is compared letter by letter.
-/

namespace SpecAtlas.Result

open Text

/-! ## Written lines -/

/-- Parameters as the console can print them. -/
structure PlainParameters (parameters : Text) : Prop where
  nonempty : parameters ≠ []
  noClosing : ']' ∉ parameters
  noMark : '>' ∉ parameters
  oneLine : '\n' ∉ parameters

/-- A line that reports an iteration. -/
def writtenLine (lead name : Text) (status : Status) : Text :=
  lead ++ " > ".toList ++ name ++ ' ' :: status.text

/-! ## What a line must have -/

/-- Behind a mark stand the name, the brackets and the status. -/
theorem parts_of_afterMark? {feature text : Text} {found : ReportLine} (h : afterMark? feature text = some found) :
    ∃ behind inner after, afterName? feature text = some behind ∧ trimLeft behind = '[' :: inner ∧
      takeBracketed? inner = some (found.bracketed, after) := by
  obtain ⟨behind, hname, hbehind⟩ := Option.bind_eq_some_iff.1 h
  split at hbehind
  · rename_i inner hleft
    obtain ⟨⟨b, after⟩, htake, hstatus⟩ := Option.bind_eq_some_iff.1 hbehind
    obtain ⟨status, -, he⟩ := Option.bind_eq_some_iff.1 hstatus
    cases he
    exact ⟨behind, inner, after, hname, hleft, htake⟩
  · contradiction

/-- A line is read behind one of its marks. -/
theorem mark_of_read? {feature line : Text} {found : ReportLine} (h : ReportLine.read? feature line = some found) :
    ∃ front behind, line = front ++ '>' :: behind ∧ afterMark? feature behind = some found := by
  induction line with
  | nil => contradiction
  | cons c line ih =>
      rw [ReportLine.read?] at h
      rcases Option.or_eq_some_iff.1 h with hlater | ⟨-, hhere⟩
      · obtain ⟨front, behind, rfl, hbehind⟩ := ih hlater
        exact ⟨c :: front, behind, rfl, hbehind⟩
      · split at hhere
        · rename_i hc
          exact ⟨[], line, by rw [hc]; rfl, hhere⟩
        · contradiction

/-- The brackets on a line of the console are sound. -/
theorem sound_of_line {feature line : Text} {found : ReportLine}
    (h : ReportLine.read? feature line = some found) : found.bracketed.Sound := by
  obtain ⟨_, behind, -, hbehind⟩ := mark_of_read? h
  obtain ⟨_, inner, after, -, -, htake⟩ := parts_of_afterMark? hbehind
  exact sound_of_takeBracketed? htake

/-- What follows a name stands behind it, and in front of it is white space only. -/
theorem eq_of_afterName? {name text rest : Text} (h : afterName? name text = some rest) :
    ∃ blank, allBlank blank = true ∧ text = blank ++ (name ++ rest) := by
  induction text with
  | nil => exact ⟨[], rfl, by simpa using after?_eq_some.1 h⟩
  | cons c text ih =>
      rw [afterName?] at h
      split at h
      · rename_i hafter
        cases h
        exact ⟨[], rfl, by simpa using after?_eq_some.1 hafter⟩
      · split at h
        · rename_i hc
          obtain ⟨blank, hblank, he⟩ := ih h
          refine ⟨c :: blank, ?_, by rw [he]; rfl⟩
          rw [allBlank, List.all_cons, hc]
          exact hblank
        · contradiction

/-- Behind a mark stand the name with white space around it, and then the brackets. -/
theorem eq_of_afterMark? {feature text : Text} {found : ReportLine} (h : afterMark? feature text = some found) :
    ∃ front back rest, allBlank front = true ∧ allBlank back = true ∧ ']' ∈ rest ∧
      text = front ++ (feature ++ (back ++ '[' :: rest)) := by
  obtain ⟨behind, inner, after, hname, hleft, htake⟩ := parts_of_afterMark? h
  obtain ⟨front, hfront, rfl⟩ := eq_of_afterName? hname
  obtain ⟨parameters, rfl⟩ := eq_of_takeBracketed? htake
  have hclosing : ']' ∈ parameters ++ ']' :: after := List.mem_append_right parameters List.mem_cons_self
  refine ⟨front, behind.takeWhile isBlank, parameters ++ ']' :: after, hfront, List.all_takeWhile, hclosing, ?_⟩
  rw [← hleft, trimLeft, List.takeWhile_append_dropWhile]

/-- A line that is read has a mark and both brackets. -/
theorem mem_of_read? {feature line : Text} {found : ReportLine} (h : ReportLine.read? feature line = some found) :
    '>' ∈ line ∧ '[' ∈ line ∧ ']' ∈ line := by
  obtain ⟨lead, behind, rfl, hbehind⟩ := mark_of_read? h
  obtain ⟨front, back, rest, -, -, hclosing, rfl⟩ := eq_of_afterMark? hbehind
  simp [hclosing]

/-! ## Lines of the feature -/

theorem status?_text (status : Status) : status? status.text = some status := by
  cases status <;> decide

theorem trimLeft_status (status : Status) : trimLeft (' ' :: status.text) = status.text := by
  cases status <;> rfl

section

variable {feature parameters digits : Text}

/-- Behind the mark of a written line its parts are read back. -/
theorem afterMark?_written (hname : feature ≠ []) (htrim : trim feature = feature) (hp : PlainParameters parameters)
    (hsome : digits ≠ []) (hdigits : digits.all isDigit = true) (status : Status) :
    afterMark? feature (' ' :: (writtenName feature parameters digits ++ ' ' :: status.text)) =
      some ⟨⟨parameters, digits⟩, status⟩ := by
  have hparts : writtenName feature parameters digits ++ ' ' :: status.text =
      feature ++ ' ' :: '[' :: (parameters ++ ", #".toList ++ digits ++ ']' :: ' ' :: status.text) := by
    simp [writtenName]
  have hafter : afterName? feature (' ' :: (feature ++ ' ' :: '[' ::
      (parameters ++ ", #".toList ++ digits ++ ']' :: ' ' :: status.text))) =
      some (' ' :: '[' :: (parameters ++ ", #".toList ++ digits ++ ']' :: ' ' :: status.text)) := by
    obtain ⟨c, rest, rfl⟩ := List.exists_cons_of_ne_nil hname
    have hc : c ≠ ' ' := by
      intro he
      have hfirst := head?_of_trim htrim c rfl
      rw [he] at hfirst
      contradiction
    have hhere : after? (c :: rest) (c :: (rest ++ ' ' :: '[' ::
        (parameters ++ ", #".toList ++ digits ++ ']' :: ' ' :: status.text))) = some _ := after?_append (c :: rest) _
    rw [afterName?, after?, if_neg hc, List.cons_append, afterName?, hhere]
    rfl
  have hleft (text : Text) : trimLeft (' ' :: '[' :: text) = '[' :: text := rfl
  rw [hparts, afterMark?, hafter]
  simp only [Option.bind_eq_bind, Option.bind_some, hleft, takeBracketed?_written hp.nonempty hp.noClosing
    hsome hdigits, trimLeft_status, status?_text]
  rfl

/-- Without a mark nothing is read. -/
theorem read?_of_not_mem {text : Text} (h : '>' ∉ text) : ReportLine.read? feature text = none := by
  rw [Option.eq_none_iff_forall_ne_some]
  exact fun found hfound => h (mem_of_read? hfound).1

/-- What is read behind the last mark counts. -/
theorem read?_append {found : ReportLine} {behind : Text} (hmark : '>' ∉ behind)
    (h : afterMark? feature behind = some found) (front : Text) :
    ReportLine.read? feature (front ++ '>' :: behind) = some found := by
  induction front with
  | nil => rw [List.nil_append, ReportLine.read?, read?_of_not_mem hmark, if_pos rfl, h, Option.none_or]
  | cons c front ih => rw [List.cons_append, ReportLine.read?, ih, Option.some_or]

/-- The characters of a written name that are not in its parts. -/
theorem not_mem_writtenName {c : Char} (hfeature : c ∉ feature) (hparameters : c ∉ parameters)
    (hdigits : digits.all isDigit = true) (hc : isDigit c = false) (hother : c ∉ [' ', '[', ',', '#', ']']) :
    c ∉ writtenName feature parameters digits := by
  have hindex := not_mem_of_all hdigits hc
  simp_all [writtenName]

/-- **A line that reports an iteration is read for its feature**, whatever stands in front of its last
mark. -/
theorem read?_written (hname : feature ≠ []) (htrim : trim feature = feature) (hmark : '>' ∉ feature)
    (hp : PlainParameters parameters) (hsome : digits ≠ []) (hdigits : digits.all isDigit = true) (lead : Text)
    (status : Status) :
    ReportLine.read? feature (writtenLine lead (writtenName feature parameters digits) status) =
      some ⟨⟨parameters, digits⟩, status⟩ := by
  have hbehind : '>' ∉ ' ' :: (writtenName feature parameters digits ++ ' ' :: status.text) := by
    have hwritten := not_mem_writtenName hmark hp.noMark hdigits (by decide) (by decide)
    have hstatus : '>' ∉ status.text := by cases status <;> decide
    simp [hwritten, hstatus]
  have hparts : writtenLine lead (writtenName feature parameters digits) status =
      (lead ++ [' ']) ++ '>' :: ' ' :: (writtenName feature parameters digits ++ ' ' :: status.text) := by
    simp [writtenLine]
  rw [hparts]
  exact read?_append hbehind (afterMark?_written hname htrim hp hsome hdigits status) _

end

/-- A result is what a line reports of an iteration. -/
structure TellsLine (feature parameters digits : Text) (status : Status) (result : IterationResult) : Prop where
  index : result.index = Numeral.value digits
  displayName : result.displayName = iterationDisplayName feature parameters (Numeral.value digits)
  parameters : Parameters.read parameters = .ok result.parameters
  success : result.success = true ↔ status = .passed
  error : result.error.isSome = true ↔ status ≠ .passed

/-- What a line tells of an iteration whose numbers are not too long. -/
theorem exists_lineResult? {feature parameters digits line : Text} {status : Status}
    (hread : ReportLine.read? feature (dropReturns line) = some ⟨⟨parameters, digits⟩, status⟩)
    (hdigits : digits.length ≤ Numeral.limit)
    (hshort : ∀ scalar ∈ Parameters.scalars parameters, Literal.tooLong? scalar = none) :
    ∃ result, lineResult? feature line = some (.ok (result, status)) ∧
      TellsLine feature parameters digits status result := by
  obtain ⟨values, hvalues⟩ := (refusedFor_parameters parameters).exists_ok_iff.2 hshort
  have hindex : Bracketed.index ⟨parameters, digits⟩ = .ok (Numeral.value digits) := if_pos hdigits
  refine ⟨⟨Numeral.value digits, iterationDisplayName feature parameters (Numeral.value digits), values,
    .zero false, trim line, if status = .passed then none else
      some ("Iteration ".toList ++ Numeral.ofNat (Numeral.value digits) ++ ' ' :: status.text)⟩, ?_, ?_⟩
  · rw [lineResult?, hread, Option.map_some]
    dsimp only
    rw [hindex, ok_bind]
    rw [hvalues]
    rfl
  · constructor
    · rfl
    · rfl
    · exact hvalues
    · rw [IterationResult.success]
      by_cases hstatus : status = .passed <;> simp [hstatus]
    · by_cases hstatus : status = .passed <;> simp [hstatus]

/-- A line is refused if its index has too many digits. -/
theorem lineResult?_longIndex {feature line : Text} {found : ReportLine}
    (hread : ReportLine.read? feature (dropReturns line) = some found)
    (hlong : Numeral.limit < found.bracketed.digits.length) :
    lineResult? feature line = some (.error ⟨found.bracketed.digits.length⟩) := by
  have hindex : found.bracketed.index = .error ⟨found.bracketed.digits.length⟩ := if_neg (Nat.not_le.2 hlong)
  rw [lineResult?, hread, Option.map_some]
  dsimp only
  rw [hindex]
  rfl

/-! ## Lines of other features -/

section

variable {feature : Text} (htrim : trim feature = feature) (hbracket : '[' ∉ feature)

include htrim hbracket

/-- The name that is found is all that stands in front of the first opening bracket. -/
theorem trim_of_afterMark? {front rest : Text} (hfront : '[' ∉ front) {found : ReportLine}
    (h : afterMark? feature (front ++ '[' :: rest) = some found) : trim front = feature := by
  obtain ⟨blank, back, rest', hblank, hback, -, he⟩ := eq_of_afterMark? h
  have hother : '[' ∉ blank ++ (feature ++ back) := by
    have h1 := not_mem_of_allBlank hblank (c := '[') (by decide)
    have h2 := not_mem_of_allBlank hback (c := '[') (by decide)
    simp [h1, h2, hbracket]
  have hcut := cut?_char hfront rest
  have hsame : front ++ '[' :: rest = blank ++ (feature ++ back) ++ '[' :: rest' := by simpa using he
  rw [hsame, cut?_char hother] at hcut
  obtain ⟨hname, -⟩ := Prod.mk.inj (Option.some.inj hcut)
  rw [← hname, trim_append hblank, trim_append_right _ hback, htrim]

/-- A line is not read for a feature if another name stands between its last mark and its first opening
bracket. -/
theorem read?_foreign (hmark : '>' ∉ feature) {front name rest : Text} (hfront : '[' ∉ front) (hname : '[' ∉ name)
    (hlast : '>' ∉ name ++ '[' :: rest) (hother : trim name ≠ feature) :
    ReportLine.read? feature (front ++ '>' :: (name ++ '[' :: rest)) = none := by
  induction front with
  | nil =>
      have hnone : afterMark? feature (name ++ '[' :: rest) = none := by
        rw [Option.eq_none_iff_forall_ne_some]
        exact fun found hfound => hother (trim_of_afterMark? htrim hbracket hname hfound)
      rw [List.nil_append, ReportLine.read?, read?_of_not_mem hlast, if_pos rfl, hnone]
      rfl
  | cons c front ih =>
      have hrest : '[' ∉ front := fun hm => hfront (List.mem_cons_of_mem c hm)
      have hnone : afterMark? feature (front ++ '>' :: (name ++ '[' :: rest)) = none := by
        rw [Option.eq_none_iff_forall_ne_some]
        intro found hfound
        -- From an earlier mark the name would have to reach over the last one.
        have hsplit : front ++ '>' :: (name ++ '[' :: rest) = (front ++ '>' :: name) ++ '[' :: rest := by simp
        rw [hsplit] at hfound
        have hnames := trim_of_afterMark? htrim hbracket (by simp [hrest, hname]) hfound
        have hmem : '>' ∈ trim (front ++ '>' :: name) := by
          rw [← List.elem_iff, elem_trim (by decide), List.elem_iff]
          simp
        exact hmark (hnames ▸ hmem)
      rw [List.cons_append, ReportLine.read?, ih hrest, hnone]
      simp

end

end SpecAtlas.Result
