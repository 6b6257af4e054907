import SpecAtlas.Proofs.Result.WrittenReport

/-!
# Captured text in a report

A build tool puts captured output and failure texts into literal sections, `<![CDATA[ … ]]>`, in which no
tag counts for a reader of XML. The reader of reports looks for the tags of testcases and problems in the
text as it stands, so a tag in a section counts for it.

1. A testcase ends at the first `</testcase>` behind its tag, be it in a section (`exists_cut`).
2. What a section holds counts for the testcase up to this end, as if it stood there without the section
   (`body?_found`, `hasProblem_body`). Behind the end it is searched for more testcases
   (`testcases_behind`).
3. The text of a failure is read as it was captured if it has neither the end of its element nor that of the
   testcase in it (`errorIn?_failure`).
-/

namespace SpecAtlas.Result

open Text Markup

/-! ## Elements with literal text -/

/-- What stands in front of the literal text of an element. -/
def sectionLead (name : Text) : Text := '<' :: name ++ ['>'] ++ sectionStart

/-- What stands behind the literal text of an element. -/
def sectionTail (name : Text) : Text := sectionEnd ++ "</".toList ++ name ++ ['>']

/-- An element with literal text. -/
def literalElement (name literal : Text) : Text := sectionLead name ++ (literal ++ sectionTail name)

/-- The name of the element with captured output. -/
def outputName : Text := "system-out".toList

/-- The name of the element that tells a failure. -/
def failureName : Text := "failure".toList

/-- The elements that captured text is put into. -/
def literalNames : List Text := [outputName, failureName]

/-- What stands in a text in front of the end of a testcase. -/
def upToEnd (text : Text) : Text := ((cut? testcaseEnd text).map Prod.fst).getD text

/-- The tag of a testcase that names an iteration, with what is read from it. -/
structure IterationTag where
  inside : Text
  apart : ∀ c ∈ inside.head?, isWord c = false
  unended : '>' ∉ inside
  isOpen : inside.getLast? ≠ some '/'
  attributes : Mapping Text
  read : Markup.attributes inside = .ok attributes
  name : Text
  named : Mapping.get? attributes "name".toList = some name
  info : IterationInfo
  iteration : iterationInfo? name = .ok (some info)

/-- The tag of an iteration as the build tool writes it. -/
def WrittenTestcase.iterationTag (t : WrittenTestcase) {info : IterationInfo}
    (hinfo : iterationInfo? t.name.meaning = .ok (some info)) : IterationTag where
  inside := t.inside
  apart := head?_attributes t.attributes
  unended := not_mem_attributes t.attributes (.inr rfl)
  isOpen := getLast?_attributes t.attributes
  attributes := Mapping.ofList t.entries
  read := attributes_text t.attributes
  name := t.name.meaning
  named := t.get?_name
  info := info
  iteration := hinfo

namespace IterationTag

/-- What stands behind the tag of a testcase that holds one element, with text without tags around it. -/
def behind (front : Gap) (element : Text) (back : Gap) : Text := front.1 ++ (element ++ (back.1 ++ testcaseEnd))

/-- A testcase that holds one element, as it is written. -/
def holding (t : IterationTag) (front : Gap) (element : Text) (back : Gap) : Text :=
  testcaseStart ++ (t.inside ++ (tagEnd false ++ behind front element back))

/-- The same testcase, as it is found in the report. -/
def found (t : IterationTag) (front : Gap) (element : Text) (back : Gap) : Testcase :=
  ⟨⟨t.inside, false⟩, behind front element back⟩

/-- The result of the iteration with a given error. -/
def result (t : IterationTag) (error : Option Text) : IterationResult :=
  ⟨t.info.index, t.name, t.info.parameters, readDuration (Mapping.get? t.attributes "time".toList), t.name, error⟩

theorem isSome_read? (t : IterationTag) : (IterationName.read? t.name).isSome = true := by
  rw [← isSome_of_iterationInfo? t.iteration]
  rfl

end IterationTag

/-- The tags of an element with literal text do not look like the tags of a testcase. -/
theorem isClear_sections : ∀ mark ∈ testcaseMarks, ∀ name ∈ literalNames,
    isClear mark (sectionLead name) = true ∧ isClear mark (sectionTail name) = true := by
  decide

/-! ## Problems in literal text -/

/-- A closing bracket is no word character. -/
theorem atBoundary_append_bracket (text rest : Text) : atBoundary (text ++ ']' :: rest) = atBoundary text := by
  have hbracket : isWord ']' = false := by decide
  cases text <;> simp [atBoundary, hbracket]

theorem problemStart?_append_bracket (text rest : Text) :
    problemStart? (text ++ ']' :: rest) = (problemStart? text).map fun start => (start.1, start.2 ++ ']' :: rest) := by
  have hnames : ∀ name ∈ problemNames, ']' ∉ '<' :: name := by decide
  unfold problemStart?
  generalize problemNames = names at hnames
  induction names with
  | nil => rfl
  | cons name names ih =>
      have hhere := after?_append_stop (hnames name List.mem_cons_self) text rest
      have hlater := ih fun n hn => hnames n (List.mem_cons_of_mem name hn)
      rw [List.findSome?_cons, List.findSome?_cons, hhere, hlater]
      cases after? ('<' :: name) text with
      | none => rfl
      | some behind =>
          simp only [Option.map_some, atBoundary_append_bracket]
          by_cases hboundary : atBoundary behind = true <;> simp [hboundary]

/-- Where a section ends, the problems in it are separate from those behind it. -/
theorem hasProblem_append_bracket (text rest : Text) :
    hasProblem (text ++ ']' :: rest) = (hasProblem text || hasProblem rest) := by
  induction text with
  | nil =>
      have hnone : problemStart? (']' :: rest) = none := problemStart?_of_ne (by decide) rest
      simp [hasProblem, hnone]
  | cons c text ih =>
      have hhere := problemStart?_append_bracket (c :: text) rest
      rw [List.cons_append] at hhere ⊢
      rw [hasProblem, hasProblem, hhere, ih, Option.isSome_map, Bool.or_assoc]

/-- Literal text without the closing tag of its element is passed over as a whole. -/
theorem contentUntil?_append_bracket {name : Text} (hname : ']' ∉ name) {text : Text}
    (h : contentUntil? name text = none) (rest : Text) :
    contentUntil? name (text ++ ']' :: rest) = (contentUntil? name rest).map (text ++ ']' :: ·) := by
  have hlead : ']' ∉ "</".toList ++ name := by simpa using hname
  induction text with
  | nil =>
      have hnone : after? ("</".toList ++ name) (']' :: rest) = none := by simp [after?]
      rw [List.nil_append, contentUntil?, hnone]
      rfl
  | cons c text ih =>
      rw [contentUntil?] at h
      split at h
      · contradiction
      · rename_i hopen
        have hlater := ih (Option.map_eq_none_iff.1 h)
        have hhere := after?_append_stop hlead (c :: text) rest
        -- The bracket is no white space, so a tag that is not closed in front of it is not closed by what follows.
        have hmore (behind : Text) : (after? ("</".toList ++ name) (c :: text ++ ']' :: rest)).map trimLeft ≠
            some ('>' :: behind) := by
          intro he
          rw [hhere, Option.map_map] at he
          obtain ⟨found, hfound, htrim⟩ := Option.map_eq_some_iff.1 he
          rw [Function.comp_apply, trimLeft, dropWhile_append_stop (by decide)] at htrim
          cases hdrop : found.dropWhile isBlank with
          | nil => simp [hdrop] at htrim
          | cons x after =>
              rw [hdrop] at htrim
              obtain rfl : x = '>' := (List.cons.inj htrim).1
              exact hopen after (by rw [hfound, Option.map_some, trimLeft, hdrop])
        rw [List.cons_append] at hmore ⊢
        rw [contentUntil?]
        split
        · exact absurd ‹_› (hmore _)
        · rw [hlater, Option.map_map]
          rfl

/-! ## The end of the testcase -/

theorem upToEnd_of_not_hasMark {text : Text} (h : hasMark testcaseEnd text = false) : upToEnd text = text := by
  rw [upToEnd, cut?_eq_none_iff.2 (hasMark_eq_false_iff.1 h)]
  rfl

section

variable {lead tail : Text} (hlead : isClear testcaseEnd lead = true) (htail : isClear testcaseEnd (']' :: tail) = true)

include hlead htail

/-- A testcase ends behind literal text without the end of a testcase. -/
theorem cut?_of_not_hasMark {text : Text} (h : hasMark testcaseEnd text = false) :
    cut? testcaseEnd (lead ++ (text ++ (']' :: tail ++ testcaseEnd))) = some (lead ++ (text ++ ']' :: tail), []) := by
  have htext : isClear testcaseEnd (text ++ [']']) = true :=
    isClear_concat (by decide) (by decide) (hasMark_eq_false_iff.1 h)
  have hclear := isClear_append hlead (isClear_append htext (isClear_cons.1 htail).2.2)
  have hmark := cut?_mark hclear []
  simpa using hmark

/-- A testcase ends at the first end of a testcase, be it in literal text. -/
theorem exists_cut (text : Text) :
    ∃ rest, cut? testcaseEnd (lead ++ (text ++ (']' :: tail ++ testcaseEnd))) =
      some (lead ++ (upToEnd text ++ if hasMark testcaseEnd text then [] else ']' :: tail), rest) := by
  cases hmark : hasMark testcaseEnd text with
  | false =>
      refine ⟨[], ?_⟩
      rw [upToEnd_of_not_hasMark hmark, if_neg Bool.false_ne_true]
      exact cut?_of_not_hasMark hlead htail hmark
  | true =>
      obtain ⟨⟨before, rest⟩, hcut⟩ := Option.isSome_iff_exists.1 hmark
      have hup : upToEnd text = before := by rw [upToEnd, hcut]; rfl
      refine ⟨rest ++ (']' :: tail ++ testcaseEnd), ?_⟩
      rw [cut?_append hlead, cut?_append_of_some hcut, hup, if_pos rfl, List.append_nil]
      rfl

end

/-! ## A testcase with an element -/

section

variable (t : IterationTag) (front back : Gap)

/-- The testcase is found, and what stands behind its tag is searched for more. -/
theorem testcases_holding (element : Text) :
    testcases (t.holding front element back) =
      t.found front element back :: testcases (IterationTag.behind front element back) := by
  rw [IterationTag.holding, testcases_start, takeTag?_tagEnd t.apart t.unended t.isOpen]
  rfl

variable {name : Text} (hname : name ∈ literalNames) (text : Text)

include hname

/-- More testcases are found in the literal text only, or in what follows from there. -/
theorem testcases_behind :
    testcases (IterationTag.behind front (literalElement name text) back) =
      testcases (text ++ (sectionTail name ++ (back.1 ++ testcaseEnd))) := by
  have hclear : isClear testcaseStart (front.1 ++ sectionLead name) = true :=
    isClear_append (isClear_of_not_mem front.2) (isClear_sections _ (by decide) name hname).1
  have happend := testcases_append hclear (text ++ (sectionTail name ++ (back.1 ++ testcaseEnd)))
  simpa [IterationTag.behind, literalElement] using happend

theorem testcases_behind_eq_nil (h : hasMark testcaseStart text = false) :
    testcases (text ++ (sectionTail name ++ (back.1 ++ testcaseEnd))) = [] := by
  obtain ⟨-, htail⟩ := isClear_sections testcaseStart (by decide) name hname
  obtain ⟨tail, hsection⟩ : ∃ tail, sectionTail name = ']' :: tail := ⟨_, rfl⟩
  rw [hsection] at htail ⊢
  have htext : isClear testcaseStart (text ++ [']']) = true :=
    isClear_concat (by decide) (by decide) (hasMark_eq_false_iff.1 h)
  have hend : isClear testcaseStart (back.1 ++ testcaseEnd) = true :=
    isClear_append (isClear_of_not_mem back.2) (by decide)
  have hclear := isClear_append htext (isClear_append (isClear_cons.1 htail).2.2 hend)
  refine testcases_of_isClear ?_
  simpa using hclear

/-- The body of the testcase: it reaches to the first end of a testcase, and there is none if another testcase
begins before. -/
theorem body?_found :
    (t.found front (literalElement name text) back).body? =
      if hasMark testcaseStart (upToEnd text) then none
      else some (front.1 ++ sectionLead name ++
        (upToEnd text ++ if hasMark testcaseEnd text then [] else sectionTail name ++ back.1)) := by
  have hclear (mark : Text) (hmark : mark ∈ testcaseMarks) : isClear mark (front.1 ++ sectionLead name) = true ∧
      isClear mark (sectionTail name ++ back.1) = true :=
    ⟨isClear_append (isClear_gap hmark front.2) (isClear_sections mark hmark name hname).1,
      isClear_append (isClear_sections mark hmark name hname).2 (isClear_gap hmark back.2)⟩
  obtain ⟨tail, htail⟩ : ∃ tail, sectionTail name ++ back.1 = ']' :: tail := ⟨_, rfl⟩
  obtain ⟨hleadEnd, htailEnd⟩ := hclear testcaseEnd (by decide)
  obtain ⟨hleadStart, htailStart⟩ := hclear testcaseStart (by decide)
  rw [htail] at htailEnd htailStart
  obtain ⟨rest, hcut⟩ := exists_cut hleadEnd htailEnd text
  have hbehind : IterationTag.behind front (literalElement name text) back =
      front.1 ++ sectionLead name ++ (text ++ (']' :: tail ++ testcaseEnd)) := by
    rw [← htail]
    simp [IterationTag.behind, literalElement]
  have hstart : hasMark testcaseStart (front.1 ++ sectionLead name ++
      (upToEnd text ++ if hasMark testcaseEnd text then [] else ']' :: tail)) = hasMark testcaseStart (upToEnd text) := by
    rw [hasMark_append hleadStart]
    split
    · rw [List.append_nil]
    · exact hasMark_append_stop (by decide) (by decide) (isClear_cons.1 htailStart).2.2 _
  rw [htail, Testcase.body?, IterationTag.found, hbehind, hcut]
  dsimp only
  rw [hstart]
  rfl

end

/-- Captured output counts for the problems of a testcase up to where the testcase ends. -/
theorem hasProblem_body (front back : Gap) (text : Text) :
    hasProblem (front.1 ++ sectionLead outputName ++
      (upToEnd text ++ if hasMark testcaseEnd text then [] else sectionTail outputName ++ back.1)) =
      hasProblem (upToEnd text) := by
  have hlead : ∀ name ∈ problemNames, isClear ('<' :: name) (sectionLead outputName) = true := by decide
  have htail : ∀ name ∈ problemNames, isClear ('<' :: name) ("]></".toList ++ outputName ++ ['>']) = true := by decide
  rw [List.append_assoc, hasProblem_append front.2, hasProblem_append_of_isClear hlead]
  split
  · rw [List.append_nil]
  · have hrest : hasProblem ("]></".toList ++ outputName ++ ['>'] ++ back.1) = false := by
      rw [hasProblem_append_of_isClear htail, hasProblem_of_not_mem back.2]
    have happend := hasProblem_append_bracket (upToEnd text) ("]></".toList ++ outputName ++ ['>'] ++ back.1)
    rw [hrest, Bool.or_false] at happend
    exact happend

/-! ## The text of a failure -/

/-- The text of a section is literal. -/
theorem elementText_section {text : Text} (h : hasMark sectionEnd text = false) :
    elementText (sectionStart ++ (text ++ sectionEnd)) = .ok (trim text) := by
  have hempty : isClear sectionStart [] = true := rfl
  have hstart : cut? sectionStart (sectionStart ++ (text ++ sectionEnd)) = some ([], text ++ sectionEnd) :=
    cut?_mark hempty _
  have hend : cut? sectionEnd (text ++ sectionEnd) = some (text, []) := by
    have hcut := cut?_unbordered (by decide) (hasMark_eq_false_iff.1 h) []
    rwa [List.append_nil] at hcut
  have hnil : textPieces [] = [(false, [])] := by
    rw [textPieces]
    rfl
  have hpieces : textPieces (sectionStart ++ (text ++ sectionEnd)) = [(false, []), (true, text), (false, [])] := by
    rw [textPieces]
    split
    · rename_i hnone
      rw [hstart] at hnone
      contradiction
    · rename_i before rest hsome
      rw [hstart] at hsome
      obtain ⟨rfl, rfl⟩ := Prod.mk.inj (Option.some.inj hsome)
      split
      · rename_i hnone
        rw [hend] at hnone
        contradiction
      · rename_i literal behind hsome
        rw [hend] at hsome
        obtain ⟨rfl, rfl⟩ := Prod.mk.inj (Option.some.inj hsome)
        rw [hnil]
  have hnone : unescape [] = .ok [] := unescape_of_not_mem List.not_mem_nil
  rw [elementText, hpieces]
  simp only [List.mapM_cons, List.mapM_nil, if_true, Bool.false_eq_true, if_false, hnone, ok_bind]
  show Except.ok (trim ([[], text, []] : List Text).flatten) = _
  simp

/-- **A captured failure text is read as it was captured**, if neither the end of its element nor the end of its
section is in it. -/
theorem errorIn?_failure {text : Text} (hsection : hasMark sectionEnd text = false)
    (hclosing : contentUntil? failureName text = none) (hblank : trim text ≠ []) (front : Gap) (back : Text) :
    errorIn? (front.1 ++ (literalElement failureName text ++ back)) = .ok (some (some (trim text))) := by
  have hopen : literalElement failureName text ++ back =
      '<' :: failureName ++ ([] ++ (tagEnd false ++ (sectionStart ++ (text ++ (sectionTail failureName ++ back))))) := by
    simp [literalElement, sectionLead, tagEnd]
  have hboundary : atBoundary ([] ++ (tagEnd false ++ (sectionStart ++ (text ++ (sectionTail failureName ++ back))))) = true :=
    rfl
  have hknown : failureName ∈ problemNames := by decide
  have hstart := problemStart?_append hknown hboundary
  rw [← hopen] at hstart
  have hcontent : contentUntil? failureName (sectionStart ++ (text ++ (sectionTail failureName ++ back))) =
      some (sectionStart ++ (text ++ sectionEnd)) := by
    have hclose : contentUntil? failureName ("]></failure>".toList ++ back) = some "]>".toList := by
      rfl
    have hpass := contentUntil?_append_bracket (by decide) hclosing ("]></failure>".toList ++ back)
    rw [hclose] at hpass
    rw [contentUntil?_append_of_isClear (by decide)]
    exact congrArg (Option.map (sectionStart ++ ·)) hpass
  have hhere : Problem.here? (literalElement failureName text ++ back) =
      some ⟨failureName, [], sectionStart ++ (text ++ sectionEnd)⟩ := by
    rw [Problem.here?, hstart]
    simp only [Option.bind_eq_bind, Option.bind_some]
    rw [takeTag?_tagEnd (by simp) (by simp) (by simp) false, Option.bind_some]
    simp [hcontent]
  have hmessage : Problem.message ⟨failureName, [], sectionStart ++ (text ++ sectionEnd)⟩ = .ok (trim text) := by
    rw [Problem.message, elementText_section hsection, ok_bind, if_neg (by simpa using hblank)]
    rfl
  exact errorIn?_of_here? front.2 hhere hmessage

/-- The element of a failure is a problem, whatever stands behind its tag. -/
theorem hasProblem_failure (front : Gap) (rest : Text) : hasProblem (front.1 ++ sectionLead failureName ++ rest) = true := by
  have hknown : failureName ∈ problemNames := by decide
  have hboundary : atBoundary (['>'] ++ sectionStart ++ rest) = true := rfl
  have hstart := problemStart?_append hknown hboundary
  have hlead : sectionLead failureName ++ rest = '<' :: (failureName ++ (['>'] ++ sectionStart ++ rest)) := by
    simp [sectionLead]
  rw [List.cons_append] at hstart
  rw [List.append_assoc, hasProblem_append front.2, hlead, hasProblem, hstart]
  rfl

/-! ## What captured text can do to a result -/

theorem errorIn?_of_no_problem {body : Text} (h : hasProblem body = false) : errorIn? body = .ok (some none) := by
  rw [errorIn?, h, if_neg Bool.false_ne_true]

section

variable (t : IterationTag) (front back : Gap) (text source : Text)

/-- A report of one testcase tells what the testcase comes to, and then what its literal text comes to by itself. -/
theorem readReport_holding_eq_ok {name : Text} (hname : name ∈ literalNames) {results : List IterationResult}
    {events : List Event} :
    readReport (t.holding front (literalElement name text) back) source = .ok (results, events) ↔
      ∃ v inner, (t.found front (literalElement name text) back).verdict = .ok v ∧
        readReport (text ++ (sectionTail name ++ (back.1 ++ testcaseEnd))) source = .ok inner ∧
        results = v.result?.toList ++ inner.1 ∧ events = (v.event? source).toList ++ inner.2 := by
  have hcons {α : Type} (f : Verdict → Option α) (v : Verdict) (vs : List Verdict) :
      (v :: vs).filterMap f = (f v).toList ++ vs.filterMap f := by
    cases h : f v <;> simp [h]
  simp only [readReport, testcases_holding, testcases_behind front back hname text, List.mapM_cons]
  constructor
  · intro h
    obtain ⟨verdicts, hverdicts, h⟩ := bind_eq_ok.1 h
    obtain ⟨v, hv, hverdicts⟩ := bind_eq_ok.1 hverdicts
    obtain ⟨vs, hvs, hverdicts⟩ := bind_eq_ok.1 hverdicts
    cases hverdicts
    cases h
    exact ⟨v, _, hv, by rw [hvs]; rfl, hcons _ v vs, hcons _ v vs⟩
  · rintro ⟨v, inner, hv, hinner, rfl, rfl⟩
    obtain ⟨vs, hvs, hinner⟩ := bind_eq_ok.1 hinner
    cases hinner
    rw [hv, hvs, ← hcons, ← hcons]
    rfl

/-- Literal text without the start of a testcase comes to nothing by itself. -/
theorem readReport_behind {name : Text} (hname : name ∈ literalNames) (h : hasMark testcaseStart text = false) :
    readReport (text ++ (sectionTail name ++ (back.1 ++ testcaseEnd))) source = .ok ([], []) := by
  rw [readReport, testcases_behind_eq_nil back hname text h]
  rfl

/-- A testcase is read with the error in its body. -/
theorem verdict_found {element body : Text} (hbody : (t.found front element back).body? = some body)
    {error : Option Text} (herror : errorIn? body = .ok (some error)) :
    (t.found front element back).verdict = .ok (.result (t.result error)) := by
  have hattributes : attributes (t.found front element back).tag.inside = .ok t.attributes := t.read
  rw [verdict_of_body hattributes hbody herror, t.named, Option.getD_some, verdictOf, t.iteration]
  rfl

/-- A testcase without a body, or with a problem in it, is not read as passed. -/
theorem verdict_found_of_problem {element : Text}
    (h : ∀ body, (t.found front element back).body? = some body → hasProblem body = true) {v : Verdict}
    (hv : (t.found front element back).verdict = .ok v) :
    v = .malformed t.name ∨ ∃ r, v = .result r ∧ r.success = false := by
  have hattributes : attributes (t.found front element back).tag.inside = .ok t.attributes := t.read
  cases hbody : (t.found front element back).body? with
  | none =>
      rw [verdict_of_no_body hattributes t.named t.isSome_read? hbody] at hv
      cases hv
      exact .inl rfl
  | some body => exact verdict_of_problem hattributes t.named t.isSome_read? hbody (h body hbody) hv

/-- When captured output leaves a passed testcase as it is: there is no start of a testcase and no problem in it up
to the first end of a testcase, and it comes to nothing by itself. -/
theorem readReport_output_iff :
    readReport (t.holding front (literalElement outputName text) back) source =
        .ok ([t.result none], [.iterationFound .report t.info.index .passed]) ↔
      hasMark testcaseStart (upToEnd text) = false ∧ hasProblem (upToEnd text) = false ∧
        readReport (text ++ (sectionTail outputName ++ (back.1 ++ testcaseEnd))) source = .ok ([], []) := by
  have hname : outputName ∈ literalNames := by decide
  have hbody := body?_found t front back hname text
  have hproblem := hasProblem_body front back text
  rw [readReport_holding_eq_ok t front back text source hname]
  constructor
  · rintro ⟨v, inner, hv, hinner, hresults, hevents⟩
    -- Whatever the testcase is read as if it is not passed, it is told before all else.
    have hpassed : ¬ ∀ body, (t.found front (literalElement outputName text) back).body? = some body →
        hasProblem body = true := by
      intro hall
      rcases verdict_found_of_problem t front back hall hv with rfl | ⟨r, rfl, hr⟩
      · exact absurd (List.cons.inj hevents).1 (by simp)
      · obtain ⟨rfl, -⟩ := List.cons.inj hresults
        contradiction
    cases hstart : hasMark testcaseStart (upToEnd text) with
    | true => exact absurd (fun body he => by rw [hbody, hstart, if_pos rfl] at he; contradiction) hpassed
    | false =>
        rw [hstart, if_neg Bool.false_ne_true] at hbody
        cases hup : hasProblem (upToEnd text) with
        | true =>
            refine absurd (fun body he => ?_) hpassed
            obtain rfl := Option.some.inj (hbody.symm.trans he)
            rw [hproblem, hup]
        | false =>
            have hresult := verdict_found t front back hbody (errorIn?_of_no_problem (hproblem.trans hup))
            rw [hresult] at hv
            cases hv
            have hnone : inner = ([], []) :=
              Prod.ext (List.cons.inj hresults).2.symm (List.cons.inj hevents).2.symm
            exact ⟨rfl, rfl, hnone ▸ hinner⟩
  · rintro ⟨hstart, hup, hinner⟩
    rw [hstart, if_neg Bool.false_ne_true] at hbody
    have hresult := verdict_found t front back hbody (errorIn?_of_no_problem (hproblem.trans hup))
    exact ⟨_, _, hresult, hinner, rfl, rfl⟩

/-- **What captured text can do to a result.** Captured output leaves a passed testcase as it is exactly if the text
holds nothing that counts in a report. A failed testcase is never read as passed while no testcase starts in its text,
and it is read with the text as it was captured if there is no end of a testcase and no end of the element in
the text. -/
theorem readReport_captured (hsection : hasMark sectionEnd text = false) :
    (readReport (t.holding front (literalElement outputName text) back) source =
        .ok ([t.result none], [.iterationFound .report t.info.index .passed]) ↔
      hasMark testcaseStart (upToEnd text) = false ∧ hasProblem (upToEnd text) = false ∧
        readReport (text ++ (sectionTail outputName ++ (back.1 ++ testcaseEnd))) source = .ok ([], [])) ∧
    (hasMark testcaseStart text = false →
      (∀ results events, readReport (t.holding front (literalElement failureName text) back) source =
        .ok (results, events) → ∀ result ∈ results, result.success = false) ∧
      (hasMark testcaseEnd text = false → contentUntil? failureName text = none → trim text ≠ [] →
        readReport (t.holding front (literalElement failureName text) back) source =
          .ok ([t.result (some (trim text))], [.iterationFound .report t.info.index .failed]))) := by
  have hname : failureName ∈ literalNames := by decide
  refine ⟨readReport_output_iff t front back text source, fun hstart => ⟨fun results events hread => ?_,
    fun hend hclosing hblank => ?_⟩⟩
  · obtain ⟨v, inner, hv, hinner, rfl, -⟩ := (readReport_holding_eq_ok t front back text source hname).1 hread
    rw [readReport_behind back text source hname hstart] at hinner
    cases hinner
    have hall : ∀ body, (t.found front (literalElement failureName text) back).body? = some body →
        hasProblem body = true := by
      intro body he
      rw [body?_found t front back hname text] at he
      split at he
      · contradiction
      · cases he
        exact hasProblem_failure front _
    intro result hresult
    rcases verdict_found_of_problem t front back hall hv with rfl | ⟨r, rfl, hr⟩
    · contradiction
    · obtain rfl : result = r := by simpa [Verdict.result?] using hresult
      exact hr
  · have hbody : (t.found front (literalElement failureName text) back).body? =
        some (front.1 ++ (literalElement failureName text ++ back.1)) := by
      have hup := upToEnd_of_not_hasMark hend
      rw [body?_found t front back hname text, hup, hstart, hend]
      simp [literalElement]
    have herror := errorIn?_failure hsection hclosing hblank front back.1
    have hinner := readReport_behind back text source hname hstart
    exact (readReport_holding_eq_ok t front back text source hname).2
      ⟨_, _, verdict_found t front back hbody herror, hinner, rfl, rfl⟩

end

/-- An iteration whose testcase holds captured text. -/
def capturedTestcase : WrittenTestcase := passedIteration "max [a: 1, #0]".toList

/-- The parts of its name can be read. -/
theorem exists_info_captured : ∃ info, iterationInfo? capturedTestcase.name.meaning = .ok (some info) := by
  have hname : capturedTestcase.name.meaning = "max [a: 1, #0]".toList := Escaped.meaning_escape _
  have hshort : hasShortNumerals "max [a: 1, #0]".toList = true := by decide +kernel
  have hiteration : (IterationName.read? "max [a: 1, #0]".toList).isSome = true := by decide +kernel
  obtain ⟨info?, hinfo⟩ := exists_iterationInfo? hshort
  rw [← isSome_of_iterationInfo? hinfo] at hiteration
  obtain ⟨info, rfl⟩ := Option.isSome_iff_exists.1 hiteration
  exact ⟨info, by rw [hname, hinfo]⟩

/-- No text around an element. -/
def noGap : Gap := ⟨[], List.not_mem_nil⟩

/-- Markup that means nothing in a report is read as it was captured, whatever the outcome. -/
theorem readReport_captured_sample :
    hasMark sectionEnd " 1 <b>2</b> ]".toList = false ∧
      ∃ t : IterationTag, t.inside = capturedTestcase.inside ∧
        readReport (t.holding noGap (literalElement outputName " 1 <b>2</b> ]".toList) noGap) [] =
          .ok ([t.result none], [.iterationFound .report t.info.index .passed]) ∧
        readReport (t.holding noGap (literalElement failureName " 1 <b>2</b> ]".toList) noGap) [] =
          .ok ([t.result (some "1 <b>2</b> ]".toList)], [.iterationFound .report t.info.index .failed]) := by
  obtain ⟨info, hinfo⟩ := exists_info_captured
  have hsection : hasMark sectionEnd " 1 <b>2</b> ]".toList = false := by decide +kernel
  have hstart : hasMark testcaseStart " 1 <b>2</b> ]".toList = false := by decide +kernel
  have houtputName : outputName ∈ literalNames := by decide
  obtain ⟨houtput, hfailure⟩ :=
    readReport_captured (capturedTestcase.iterationTag hinfo) noGap noGap " 1 <b>2</b> ]".toList [] hsection
  have hinner := readReport_behind noGap " 1 <b>2</b> ]".toList [] houtputName hstart
  refine ⟨hsection, capturedTestcase.iterationTag hinfo, rfl, houtput.2 ⟨by decide +kernel, by decide +kernel, hinner⟩, ?_⟩
  exact (hfailure hstart).2 (by decide +kernel) (by decide +kernel) (by decide +kernel)

/-- A tag in captured output makes a passed iteration fail, and one in a failure text drops the failed iteration. -/
theorem captured_tags_count :
    ∃ t : IterationTag, t.inside = capturedTestcase.inside ∧
      hasMark sectionEnd "<failure>boom</failure>".toList = false ∧ hasMark sectionEnd "</testcase>".toList = false ∧
      (readReport (t.holding noGap (literalElement outputName "<failure>boom</failure>".toList) noGap) []).toOption.map
        (fun r => r.1.map IterationResult.success) = some [false] ∧
      (readReport (t.holding noGap (literalElement failureName "</testcase>".toList) noGap) []).toOption.map
        (fun r => r.1.map IterationResult.success) = some [] := by
  obtain ⟨info, hinfo⟩ := exists_info_captured
  have hinside : (capturedTestcase.iterationTag hinfo).inside = capturedTestcase.inside := rfl
  refine ⟨capturedTestcase.iterationTag hinfo, hinside, ?_⟩
  rw [IterationTag.holding, IterationTag.holding, hinside]
  decide +kernel

end SpecAtlas.Result
