import SpecAtlas.Proofs.Markup.CutAttributes
import SpecAtlas.Proofs.Result.WrittenReport

/-!
# Testcases that are cut off

Where a testcase can be cut off, with anything on the next line (`cutTestcase_of_isPrefix`), and what
the reader makes of each case:

* What is left of the start of its tag is passed over (`isClear_start`).
* Behind its tag it is a malformed testcase, and what follows is read as before (`verdicts_cutBody`).
* In its tag, what is left makes one tag with the first testcase behind it, which is read with the
  attributes of both (`verdicts_cutTag`). Those are all the attributes in front of the cut and behind it
  (`attributes_between`), unless the cut lies within a value: this value goes on to the quote that opens
  the name of the next testcase (`attributes_within`).
-/

namespace SpecAtlas.Result

open Text Markup

/-! ## Well-formed testcases -/

/-- An iteration as the build tool writes it. -/
structure WrittenTestcase.WellFormed (t : WrittenTestcase) : Prop where
  standard : t.attributes = standardAttributes t.name t.className t.time
  iteration : t.isIteration = true
  short : hasShortNumerals t.name.meaning = true

/-! ## Where a testcase can be cut off -/

/-- How a testcase that is cut off ends: in the start of its tag, between or within its attributes, or
behind its tag. -/
inductive CutTestcase (t : WrittenTestcase) : Text → Prop where
  | start {lead : Text} (short : lead <+: testcaseStart) (proper : lead ≠ testcaseStart) : CutTestcase t lead
  | tag {s : Text} (attributes : CutAttributes t.attributes s) (plain : '<' ∉ s ∧ '>' ∉ s)
      (apart : ∀ c ∈ s.head?, isWord c = false) : CutTestcase t (testcaseStart ++ s)
  | body {p : Text} (isOpen : t.content.isClosed = false) (front : p <+: t.content.body ++ testcaseEnd)
      (proper : p ≠ t.content.body ++ testcaseEnd) :
      CutTestcase t (testcaseStart ++ (t.inside ++ (tagEnd t.content.isClosed ++ p)))

/-- A testcase is cut off in its tag if what is left of the tag does not reach its end. -/
theorem cutTestcase_tag {t : WrittenTestcase} {s : Text} (slash : Text) (hslash : slash = [] ∨ slash = ['/'])
    (h : s <+: t.inside ++ slash) : CutTestcase t (testcaseStart ++ s) := by
  have hquotes : slash.any isQuote = false := by rcases hslash with rfl | rfl <;> decide
  have hplain {x : Char} (hx : x = '<' ∨ x = '>') : x ∉ s := by
    intro hm
    rcases List.mem_append.1 (h.subset hm) with hinside | htail
    · exact not_mem_attributes t.attributes hx hinside
    · rcases hslash with rfl | rfl <;> rcases hx with rfl | rfl <;> revert htail <;> decide
  refine .tag (cutAttributes_of_isPrefix hquotes h) ⟨hplain (.inl rfl), hplain (.inr rfl)⟩ fun c hc => ?_
  have hhead : c ∈ (t.inside ++ slash).head? := by
    obtain ⟨more, hmore⟩ := h
    rw [← hmore, List.head?_append, Option.mem_def.1 hc]
    rfl
  rw [List.head?_append] at hhead
  cases hinside : t.inside.head? with
  | some x =>
      rw [hinside] at hhead
      obtain rfl : x = c := Option.some.inj hhead
      exact head?_attributes t.attributes x hinside
  | none =>
      rw [hinside] at hhead
      rcases hslash with rfl | rfl
      · contradiction
      · obtain rfl : '/' = c := Option.some.inj hhead
        decide

theorem cutTestcase_of_isPrefix {t : WrittenTestcase} {lead : Text} (h : lead <+: t.text) (hne : lead ≠ t.text) :
    CutTestcase t lead := by
  rcases prefix_append_cases h with hstart | ⟨q, rfl, hq⟩
  · by_cases hwhole : lead = testcaseStart
    · have hnil : CutTestcase t (testcaseStart ++ []) := cutTestcase_tag [] (.inl rfl) List.nil_prefix
      rwa [List.append_nil, ← hwhole] at hnil
    · exact .start hstart hwhole
  · have hproper : q ≠ t.inside ++ (tagEnd t.content.isClosed ++ t.content.behind) := fun he => hne (by rw [he]; rfl)
    cases hclosed : t.content.isClosed with
    | true =>
        have hbehind : t.content.behind = [] := by rw [WrittenContent.behind, hclosed, if_pos rfl]
        have htext : t.inside ++ (tagEnd t.content.isClosed ++ t.content.behind) = (t.inside ++ ['/']) ++ ['>'] := by
          rw [hbehind, hclosed]
          simp [tagEnd]
        rw [htext] at hq hproper
        exact cutTestcase_tag ['/'] (.inr rfl) ((List.prefix_concat_iff.1 hq).resolve_left hproper)
    | false =>
        have hbehind : t.content.behind = t.content.body ++ testcaseEnd := by
          rw [WrittenContent.behind, hclosed, if_neg (by simp)]
        rw [hbehind] at hq hproper
        rcases prefix_append_cases hq with hinside | ⟨r, rfl, hr⟩
        · exact cutTestcase_tag [] (.inl rfl) (by rwa [List.append_nil])
        · cases r with
          | nil => exact cutTestcase_tag [] (.inl rfl) List.prefix_rfl
          | cons c p =>
              rw [hclosed] at hr hproper
              obtain ⟨rfl, hp⟩ := List.cons_prefix_cons.1 hr
              have hbody := CutTestcase.body hclosed hp fun he => hproper (by rw [he]; rfl)
              rwa [hclosed] at hbody

/-! ## Cut off in the start or behind the tag -/

/-- The start of a tag that is cut off is no start. -/
theorem isClear_start {lead : Text} (hshort : lead <+: testcaseStart) (hproper : lead ≠ testcaseStart) :
    isClear testcaseStart (lead ++ ['\n']) = true := by
  refine isClear_concat (by decide) (by decide) fun hi => ?_
  exact hproper (hshort.eq_of_length_le hi.length_le)

/-- A body that is cut off has neither the start nor the end of a testcase. -/
theorem isClear_cutBody {c : WrittenContent} {p : Text} (hp : p <+: c.body ++ testcaseEnd)
    (hproper : p ≠ c.body ++ testcaseEnd) {mark : Text} (hmark : mark ∈ testcaseMarks) :
    isClear mark (p ++ ['\n']) = true := by
  have hends : ∀ mark ∈ testcaseMarks, mark ≠ [] ∧ '\n' ∉ mark := by decide
  refine isClear_concat (hends mark hmark).1 (hends mark hmark).2 fun hi => ?_
  simp only [testcaseMarks, List.mem_cons, List.not_mem_nil, or_false] at hmark
  rcases hmark with rfl | rfl
  · have hclear : isClear testcaseStart (c.body ++ testcaseEnd) = true :=
      isClear_append (isClear_body (by decide) c) (by decide)
    exact not_infix_of_isClear (by decide) hclear (hi.trans hp.isInfix)
  · exact not_infix_of_isPrefix (isClear_body (by decide) c) hp hproper hi

/-- A testcase without an end of its own has no body: behind it there is no end, or another testcase
begins in front of it. -/
theorem body?_cutBody {t : Testcase} {front : Text} {after : WrittenReport} (hopen : t.tag.isClosed = false)
    (hfront : isClear testcaseEnd front = true) (hbehind : t.behind = front ++ after.text) : t.body? = none := by
  have hcut := cut?_append hfront after.text
  rw [← hbehind] at hcut
  have hnone (h : cut? testcaseEnd after.text = none) : t.body? = none := by
    rw [h, Option.map_none] at hcut
    simp [Testcase.body?, hopen, hcut]
  obtain ⟨parts, tail⟩ := after
  cases parts with
  | nil => exact hnone (cut?_of_isClear (by decide) (isClear_of_not_mem tail.2))
  | cons part parts =>
      obtain ⟨more, hmore⟩ : ∃ more,
          WrittenReport.text ⟨part :: parts, tail⟩ = (part.1.1 ++ testcaseStart) ++ more :=
        ⟨part.2.inside ++ (tagEnd part.2.content.isClosed ++ part.2.content.behind) ++
            WrittenReport.text ⟨parts, tail⟩,
          by simp only [WrittenReport.text_cons, WrittenTestcase.text, List.append_assoc]⟩
      have hclear : isClear testcaseEnd (part.1.1 ++ testcaseStart) = true :=
        isClear_append (isClear_of_not_mem part.1.2) (by decide)
      have hcutMore := cut?_append hclear more
      rw [← hmore] at hcutMore
      cases hbody : cut? testcaseEnd more with
      | none => exact hnone (by rw [hcutMore, hbody]; rfl)
      | some body =>
          have hoccurs : testcaseStart <:+: front ++ (part.1.1 ++ testcaseStart ++ body.1) :=
            ⟨front ++ part.1.1, body.1, by simp only [List.append_assoc]⟩
          rw [hcutMore, hbody, Option.map_some, Option.map_some] at hcut
          rw [Testcase.body?, hopen, hcut]
          simp only [hasMark_of_isInfix hoccurs, if_true, Bool.false_eq_true, if_false]

/-- A testcase that is cut off behind its tag is malformed, and the ones behind it are read as before. -/
theorem verdicts_cutBody {t : WrittenTestcase} (ht : t.isIteration = true) (hopen : t.content.isClosed = false)
    {p : Text} (hp : p <+: t.content.body ++ testcaseEnd) (hproper : p ≠ t.content.body ++ testcaseEnd)
    {after : WrittenReport} {verdicts : List Verdict} (h : Verdicts after.text verdicts) :
    Verdicts (testcaseStart ++ (t.inside ++ (tagEnd t.content.isClosed ++ p)) ++ '\n' :: after.text)
      (.malformed t.name.meaning :: verdicts) := by
  have htext : testcaseStart ++ (t.inside ++ (tagEnd t.content.isClosed ++ p)) ++ '\n' :: after.text =
      testcaseStart ++ (t.inside ++ (tagEnd t.content.isClosed ++ ((p ++ ['\n']) ++ after.text))) := by
    simp only [List.append_assoc, List.singleton_append]
  have htag := takeTag?_tagEnd (head?_attributes t.attributes) (not_mem_attributes t.attributes (.inr rfl))
    (getLast?_attributes t.attributes) t.content.isClosed ((p ++ ['\n']) ++ after.text)
  rw [← WrittenTestcase.inside] at htag
  have hbody : Testcase.body? ⟨⟨t.inside, t.content.isClosed⟩, (p ++ ['\n']) ++ after.text⟩ = none :=
    body?_cutBody hopen (isClear_cutBody hp hproper (by decide)) rfl
  have hverdict := verdict_of_no_body (t := ⟨⟨t.inside, t.content.isClosed⟩, (p ++ ['\n']) ++ after.text⟩)
    (attributes_text t.attributes) t.get?_name ht hbody
  rw [htext, Verdicts, testcases_start, htag]
  dsimp only
  rw [testcases_append (isClear_cutBody hp hproper (by decide)), List.mapM_cons, hverdict, ok_bind, h, ok_bind]
  rfl

/-! ## Cut off in the tag -/

/-- What the tag of a testcase that is cut off goes on with: the next line up to the end of the first
tag on it. -/
def swallowed (gap : Text) (b : WrittenTestcase) : Text := '\n' :: (gap ++ (testcaseStart ++ b.inside))

/-- Without another testcase the tag has no end. -/
theorem verdicts_cutTag_nil {s gap : Text} (hs : '<' ∉ s ∧ '>' ∉ s) (hgap : '<' ∉ gap ∧ '>' ∉ gap) :
    Verdicts (testcaseStart ++ s ++ '\n' :: gap) [] := by
  have hplain {x : Char} (hx : x ∉ s) (hx' : x ∉ gap) (hne : x ≠ '\n') : x ∉ s ++ '\n' :: gap := by
    simp [hx, hx', hne]
  have hcut : cut? ['>'] (s ++ '\n' :: gap) = none :=
    cut?_of_isClear (by decide) (isClear_of_not_mem (hplain hs.2 hgap.2 (by decide)))
  have htag : takeTag? (s ++ '\n' :: gap) = none := by
    rw [takeTag?, hcut]
    split <;> rfl
  have hclear : isClear testcaseStart (s ++ '\n' :: gap) = true :=
    isClear_of_not_mem (hplain hs.1 hgap.1 (by decide))
  rw [Verdicts, List.append_assoc, testcases_start, htag]
  dsimp only
  rw [testcases_of_isClear hclear]
  rfl

/-- What is left of the tag makes one tag with the first testcase behind, which is read with the
attributes of both. -/
theorem verdicts_cutTag {s : Text} (hs : '<' ∉ s ∧ '>' ∉ s) (hword : ∀ c ∈ s.head?, isWord c = false)
    {gap : Text} (hgap : '>' ∉ gap) {b : WrittenTestcase} (hb : b.attributes ≠ []) {m : Mapping Text}
    (hm : attributes (s ++ swallowed gap b) = .ok m) {v : Verdict}
    (hv : verdictOf ((Mapping.get? m "name".toList).getD []) (Mapping.get? m "time".toList) b.content.error = .ok v)
    {rest : Text} {verdicts : List Verdict} (h : Verdicts rest verdicts) :
    Verdicts (testcaseStart ++ s ++ '\n' :: (gap ++ (b.text ++ rest))) (v :: verdicts) := by
  have htext : testcaseStart ++ s ++ '\n' :: (gap ++ (b.text ++ rest)) =
      testcaseStart ++ ((s ++ swallowed gap b) ++ (tagEnd b.content.isClosed ++ (b.content.behind ++ rest))) := by
    simp only [swallowed, WrittenTestcase.text, List.append_assoc, List.cons_append]
  have hhead : ∀ c ∈ (s ++ swallowed gap b).head?, isWord c = false := by
    cases s with
    | nil =>
        intro c hc
        obtain rfl : '\n' = c := Option.some.inj hc
        decide
    | cons x s => exact hword
  have hend : '>' ∉ s ++ swallowed gap b := by
    have hinside : '>' ∉ b.inside := not_mem_attributes b.attributes (.inr rfl)
    have hstart : '>' ∉ testcaseStart := by decide
    simp [swallowed, hs.2, hgap, hstart, hinside]
  have hslash : (s ++ swallowed gap b).getLast? ≠ some '/' := by
    have hne : b.inside ≠ [] := by
      obtain ⟨a, as, ha⟩ := List.exists_cons_of_ne_nil hb
      simp [WrittenTestcase.inside, ha, Attribute.text]
    have hlast : s ++ swallowed gap b = (s ++ '\n' :: (gap ++ testcaseStart)) ++ b.inside := by
      simp only [swallowed, List.append_assoc, List.cons_append]
    rw [hlast, List.getLast?_append_of_ne_nil _ hne]
    exact getLast?_attributes b.attributes
  rw [htext]
  exact verdicts_tag hhead hend hslash ((verdict_of_content hm rfl rfl).trans hv) h

/-! ## Attributes of both testcases -/

/-- White space has no quotes. -/
theorem any_isQuote_of_allBlank {gap : Text} (h : allBlank gap = true) : gap.any isQuote = false :=
  any_isQuote_of_not_mem (not_mem_of_allBlank h (by decide)) (not_mem_of_allBlank h (by decide))

/-- The name of the second tag looks like the key of an attribute, but has no value. -/
theorem writtenAttributes_tagName {b : WrittenTestcase}
    (hb : b.attributes = standardAttributes b.name b.className b.time) :
    writtenAttributes ("testcase".toList ++ b.inside) = b.attributes.map Attribute.writtenEntry := by
  have hinside : b.inside = (standardAttributes b.name b.className b.time).flatMap Attribute.text := by
    rw [WrittenTestcase.inside, hb]
  have hdrop : ("estcase".toList ++ b.inside).dropWhile isAttributeChar = b.inside := by
    rw [hinside]
    rfl
  have hvalue : attributeValue? b.inside = none := by
    rw [hinside]
    rfl
  have hwritten := writtenAttributes_attributes b.attributes
  rw [← WrittenTestcase.inside] at hwritten
  change writtenAttributes ('t' :: ("estcase".toList ++ b.inside)) = _
  rw [writtenAttributes_of_no_value (by decide) (by rw [hdrop]; exact hvalue), hdrop, hwritten]

/-- Behind a cut between attributes, the attributes of the next testcase are read behind those in front
of the cut. -/
theorem attributes_between {front : List Attribute} {v : Text} (hv : v.any isQuote = false) {gap : Text}
    (hgap : allBlank gap = true) {b : WrittenTestcase}
    (hb : b.attributes = standardAttributes b.name b.className b.time) :
    attributes (front.flatMap Attribute.text ++ v ++ swallowed gap b) =
      .ok (Mapping.ofList (front.map Attribute.entry ++ b.entries)) := by
  have htext : front.flatMap Attribute.text ++ v ++ swallowed gap b =
      front.flatMap Attribute.text ++ ((v ++ '\n' :: gap) ++ '<' :: ("testcase".toList ++ b.inside)) := by
    simp only [swallowed, List.append_assoc, List.cons_append]
    rfl
  have hplain : (v ++ '\n' :: gap).any isQuote = false := by
    rw [List.any_append, hv, List.any_cons, any_isQuote_of_allBlank hgap]
    decide
  apply attributes_of_written
  rw [htext, writtenAttributes_text, writtenAttributes_append_barrier hplain (by decide), writtenAttributes_tagName hb,
    WrittenTestcase.entries, ← List.map_append, ← List.map_append]
  exact forall₂_entry (front ++ b.attributes)

/-- The rest of a line that a value swallows which is cut off: up to the quote in front of the name of
the next testcase. -/
def swallowedValue (gap : Text) : Text := '\n' :: (gap ++ "<testcase name=".toList)

/-- The value of an attribute that is cut off means something still. -/
theorem exists_unescape_swallowed {e : Escaped} {v : Text} (hv : v <+: e.written) {gap : Text}
    (hgap : allBlank gap = true) : ∃ m, unescape (v ++ swallowedValue gap) = .ok (m ++ swallowedValue gap) := by
  obtain ⟨m, hm⟩ := exists_unescape_of_isPrefix hv
  have hplain : '&' ∉ gap ++ "<testcase name=".toList := by
    rw [List.mem_append, not_or]
    exact ⟨not_mem_of_allBlank hgap (by decide), by decide⟩
  exact ⟨m, unescape_newline hm (unescape_of_not_mem hplain)⟩

/-- What is read of the name of the next testcase once its quote is taken away: nothing. -/
theorem writtenAttributes_name {e : Escaped} (he : (IterationName.read? e.meaning).isSome = true) (rest : Text) :
    writtenAttributes (e.written ++ '"' :: rest) = writtenAttributes rest := by
  obtain ⟨n, hn⟩ := Option.isSome_iff_exists.1 he
  obtain ⟨front, back, hmeaning, hback⟩ := IterationName.ends_of_read? hn
  have hplain : ∀ c ∈ ']' :: back, references c = [] := by
    rcases hback with rfl | rfl
    · exact List.forall_mem_singleton.2 rfl
    · exact List.forall_mem_cons.2 ⟨rfl, List.forall_mem_singleton.2 rfl⟩
  obtain ⟨lead, hwritten⟩ := Escaped.written_of_meaning_append hmeaning hplain
  have hquotes : lead.any isQuote = false := by
    have hlead : lead ⊆ e.written := hwritten ▸ List.subset_append_left _ _
    exact any_isQuote_of_subset hlead
      (any_isQuote_of_not_mem (Escaped.not_mem_written (by decide) e) (Escaped.not_mem_written (by decide) e))
  have hbehind : writtenAttributes (back ++ '"' :: rest) = writtenAttributes rest := by
    rcases hback with rfl | rfl
    · exact writtenAttributes_cons (by decide) rest
    · rw [List.singleton_append, writtenAttributes_cons (by decide), writtenAttributes_cons (by decide)]
  rw [hwritten, List.append_assoc, List.cons_append, writtenAttributes_append_barrier hquotes (by decide), hbehind]

/-- Behind a cut within a value, the name of the next testcase is lost, and its other attributes are
read. -/
theorem attributes_within (front : List Attribute) {a : Attribute} {v : Text} (hv : v <+: a.value.written)
    {gap : Text} (hgap : allBlank gap = true) {b : WrittenTestcase} (hb : b.WellFormed) :
    ∃ m, attributes (front.flatMap Attribute.text ++ ' ' :: (a.key ++ '=' :: '"' :: v) ++ swallowed gap b) =
      .ok (Mapping.ofList (front.map Attribute.entry ++
        (a.key, m ++ swallowedValue gap) :: b.entries.tail)) := by
  obtain ⟨m, hm⟩ := exists_unescape_swallowed hv hgap
  refine ⟨m, ?_⟩
  have hname : b.attributes = ⟨"name".toList, b.name, by decide, by decide⟩ :: b.attributes.tail := by
    rw [hb.standard]
    rfl
  have hstart : testcaseStart ++ ' ' :: ("name".toList ++ ['=']) = "<testcase name=".toList := by decide
  have hinside : testcaseStart ++ b.inside = "<testcase name=".toList ++
      '"' :: (b.name.written ++ '"' :: b.attributes.tail.flatMap Attribute.text) := by
    rw [← hstart, WrittenTestcase.inside, hname, List.flatMap_cons, Attribute.text]
    simp only [List.tail_cons, List.append_assoc, List.cons_append, List.nil_append]
  have htext : front.flatMap Attribute.text ++ ' ' :: (a.key ++ '=' :: '"' :: v) ++ swallowed gap b =
      front.flatMap Attribute.text ++ ' ' :: (a.key ++ '=' :: '"' :: ((v ++ swallowedValue gap) ++
        '"' :: (b.name.written ++ '"' :: b.attributes.tail.flatMap Attribute.text))) := by
    rw [swallowed, hinside]
    simp only [swallowedValue, List.append_assoc, List.cons_append]
  have hquote : '"' ∉ v ++ swallowedValue gap := by
    have hcut : '"' ∉ v := fun hmem => Escaped.not_mem_written (by decide) a.value (hv.subset hmem)
    have hblank : '"' ∉ gap := not_mem_of_allBlank hgap (by decide)
    have hstart : '"' ∉ "<testcase name=".toList := by decide
    simp only [swallowedValue, List.mem_append, List.mem_cons, not_or]
    exact ⟨hcut, by decide, hblank, hstart⟩
  apply attributes_of_written
  rw [htext, writtenAttributes_text, writtenAttributes_quoted a.nonempty (List.all_eq_true.1 a.valid) hquote,
    writtenAttributes_name hb.iteration, writtenAttributes_attributes, WrittenTestcase.entries, ← List.map_tail]
  exact List.rel_append (forall₂_entry front) (.cons ⟨rfl, hm⟩ (forall₂_entry b.attributes.tail))

/-! ## Looking up in the attributes of both -/

/-- The other attributes of a testcase in the order of the build tool. -/
theorem tail_entries {b : WrittenTestcase} (hb : b.attributes = standardAttributes b.name b.className b.time) :
    b.entries.tail = [("classname".toList, b.className.meaning), ("time".toList, b.time.meaning)] := by
  rw [WrittenTestcase.entries, hb]
  rfl

theorem get?_name_within {b : WrittenTestcase} (hb : b.attributes = standardAttributes b.name b.className b.time)
    (front : List (Text × Text)) (key value : Text) :
    Mapping.get? (Mapping.ofList (front ++ (key, value) :: b.entries.tail)) "name".toList =
      if key = "name".toList then some value else Mapping.get? (Mapping.ofList front) "name".toList := by
  have htail : Mapping.get? (Mapping.ofList b.entries.tail) "name".toList = none := by
    have hkeys : "name".toList ∉ (["classname".toList, "time".toList] : List Text) := by decide
    apply Mapping.get?_ofList_of_not_mem
    rw [tail_entries hb]
    exact hkeys
  rw [Mapping.get?_ofList_append, Mapping.get?_ofList_cons, htail, Option.none_or]
  split <;> rfl

theorem get?_time_within {b : WrittenTestcase} (hb : b.attributes = standardAttributes b.name b.className b.time)
    (front : List (Text × Text)) (key value : Text) :
    Mapping.get? (Mapping.ofList (front ++ (key, value) :: b.entries.tail)) "time".toList = some b.time.meaning := by
  have htail : Mapping.get? (Mapping.ofList b.entries.tail) "time".toList = some b.time.meaning := by
    rw [tail_entries hb]
    rfl
  rw [Mapping.get?_ofList_append, Mapping.get?_ofList_cons, htail, Option.some_or, Option.some_or]

end SpecAtlas.Result
