import Mathlib.Data.List.Nodup
import SpecAtlas.Proofs.Markup.Attributes
import SpecAtlas.Proofs.Result.IterationName
import SpecAtlas.Result.Report

/-!
# Written testcases

How a report writes a testcase: a tag with the attributes `name`, `classname` and `time` in any order,
all values escaped, and behind it one of

* nothing, if the tag closes the element at once;
* text;
* a `skipped` element;
* a `failure` or an `error` element with attributes and an escaped text, or closed at once.

Text without the start of a tag may stand around the inner element.

The readers of the parts are followed one by one: the end of a tag (`takeTag?_tagEnd`), the body of
the testcase (`body?_content`), and its error (`errorIn?_body`). A testcase is read with the attributes
that its tag has, whatever else stands in the tag (`verdict_of_content`), since the same reading is
needed where a tag has swallowed the end of another one.
-/

namespace SpecAtlas.Result

open Text Markup

/-! ## Writing -/

/-- Text in which no tag begins. -/
abbrev Gap := { text : Text // '<' ∉ text }

/-- How a tag ends that closes its element at once, or does not. -/
def tagEnd (isClosed : Bool) : Text := if isClosed then "/>".toList else ">".toList

/-- A `failure` or an `error` element. Without a content it is closed at once. -/
structure WrittenProblem where
  name : Text
  attributes : List Attribute
  content : Option Escaped
  known : name ∈ problemNames
  distinct : (attributes.map Attribute.key).Nodup

namespace WrittenProblem

/-- What stands between the name of the tag and its end. -/
def inside (p : WrittenProblem) : Text := p.attributes.flatMap Attribute.text

/-- The tag that closes the element. -/
def closing (p : WrittenProblem) : Text := "</".toList ++ p.name ++ ['>']

/-- What stands behind the tag. -/
def behind (p : WrittenProblem) : Text :=
  match p.content with
  | none => []
  | some content => content.written ++ p.closing

/-- The element as it is written. -/
def text (p : WrittenProblem) : Text :=
  '<' :: p.name ++ (p.inside ++ (tagEnd p.content.isNone ++ p.behind))

/-- The value of the `message` attribute. -/
def messageAttribute (p : WrittenProblem) : Option Text :=
  (p.attributes.find? fun a => a.key = "message".toList).map fun a => a.value.meaning

/-- The error that is told: the text of the element without the white space around it; if that is
empty, the `message` attribute; and without one, the name of the element. -/
def message (p : WrittenProblem) : Text :=
  let text := trim (Escaped.meaning (p.content.getD []))
  if text.isEmpty then p.messageAttribute.getD p.name else text

end WrittenProblem

/-- What a testcase has behind its tag. -/
inductive WrittenContent where
  | closed
  | plain (text : Gap)
  | skipped (front back : Gap)
  | problem (front : Gap) (problem : WrittenProblem) (back : Gap)

namespace WrittenContent

/-- Whether the tag closes the element at once. -/
def isClosed : WrittenContent → Bool
  | closed => true
  | _ => false

/-- What stands between the tag and the end of the element. -/
def body : WrittenContent → Text
  | closed => []
  | plain text => text.1
  | skipped front back => front.1 ++ ("<skipped/>".toList ++ back.1)
  | problem front p back => front.1 ++ (p.text ++ back.1)

/-- What stands behind the tag. -/
def behind (c : WrittenContent) : Text := if c.isClosed then [] else c.body ++ testcaseEnd

/-- The problem that is told. -/
def problem? : WrittenContent → Option WrittenProblem
  | problem _ p _ => some p
  | _ => none

/-- The error that is told. -/
def error (c : WrittenContent) : Option Text := c.problem?.map WrittenProblem.message

end WrittenContent

/-- The attributes of a testcase, in the order in which the build tool writes them. -/
def standardAttributes (name className time : Escaped) : List Attribute :=
  [⟨"name".toList, name, by decide, by decide⟩, ⟨"classname".toList, className, by decide, by decide⟩,
    ⟨"time".toList, time, by decide, by decide⟩]

/-- A testcase as it is written. -/
structure WrittenTestcase where
  name : Escaped
  className : Escaped
  time : Escaped
  attributes : List Attribute
  complete : attributes.Perm (standardAttributes name className time)
  content : WrittenContent

namespace WrittenTestcase

/-- The testcase with the given parts, as the build tool writes it. -/
def standard (name className time : Text) (content : WrittenContent) : WrittenTestcase :=
  ⟨Escaped.escape name, Escaped.escape className, Escaped.escape time, _, .refl _, content⟩

/-- What stands between the name of the tag and its end. -/
def inside (t : WrittenTestcase) : Text := t.attributes.flatMap Attribute.text

/-- The testcase as it is written. -/
def text (t : WrittenTestcase) : Text :=
  testcaseStart ++ (t.inside ++ (tagEnd t.content.isClosed ++ t.content.behind))

end WrittenTestcase

/-! ## Tags -/

/-- Attributes have no character that ends or begins a tag. -/
theorem not_mem_attributes (as : List Attribute) {x : Char} (hx : x = '<' ∨ x = '>') :
    x ∉ as.flatMap Attribute.text := by
  intro hm
  obtain ⟨a, -, ha⟩ := List.mem_flatMap.1 hm
  exact a.not_mem_text hx ha

/-- Attributes begin with white space. -/
theorem head?_attributes (as : List Attribute) : ∀ c ∈ (as.flatMap Attribute.text).head?, isWord c = false := by
  cases as with
  | nil => simp
  | cons a as =>
      intro c hc
      obtain rfl : ' ' = c := Option.some.inj hc
      decide

/-- Attributes do not end in a slash. -/
theorem getLast?_attributes (as : List Attribute) : (as.flatMap Attribute.text).getLast? ≠ some '/' := by
  induction as using List.reverseRecOn with
  | nil => simp
  | append_singleton as a _ =>
      have hlast : as.flatMap Attribute.text ++ a.text =
          (as.flatMap Attribute.text ++ ' ' :: (a.key ++ '=' :: '"' :: a.value.written)) ++ ['"'] := by
        simp [Attribute.text]
      rw [List.flatMap_append, List.flatMap_singleton, hlast, List.getLast?_concat]
      decide

/-- A tag is read up to its end, whatever stands in it. -/
theorem takeTag?_tagEnd {inside : Text} (hword : ∀ c ∈ inside.head?, isWord c = false) (hend : '>' ∉ inside)
    (hslash : inside.getLast? ≠ some '/') (isClosed : Bool) (rest : Text) :
    takeTag? (inside ++ (tagEnd isClosed ++ rest)) = some (⟨inside, isClosed⟩, rest) := by
  have hboundary : atBoundary (inside ++ (tagEnd isClosed ++ rest)) = true := by
    cases inside with
    | nil => cases isClosed <;> rfl
    | cons c inside => simp [atBoundary, hword c rfl]
  rw [takeTag?, if_pos hboundary]
  cases isClosed with
  | false =>
      have hcut : cut? ['>'] (inside ++ (tagEnd false ++ rest)) = some (inside, rest) := cut?_char hend rest
      rw [hcut, Option.map_some]
      dsimp only
      rw [if_neg hslash]
  | true =>
      have hslash' : '>' ∉ inside ++ ['/'] := by simp [hend]
      have htext : inside ++ (tagEnd true ++ rest) = (inside ++ ['/']) ++ '>' :: rest := by
        simp [tagEnd]
      rw [htext, cut?_char hslash', Option.map_some]
      dsimp only
      rw [List.getLast?_concat, if_pos rfl, List.dropLast_concat]

/-! ## Problems -/

/-- A problem begins with a tag. -/
theorem problemStart?_of_ne {c : Char} (h : c ≠ '<') (text : Text) : problemStart? (c :: text) = none := by
  have hc : '<' ≠ c := h.symm
  simp [problemStart?, problemNames, after?, hc]

/-- The start of a written problem is found. -/
theorem problemStart?_append {name : Text} (hname : name ∈ problemNames) {rest : Text}
    (hboundary : atBoundary rest = true) : problemStart? ('<' :: name ++ rest) = some (name, rest) := by
  have hhere : after? ('<' :: name) ('<' :: name ++ rest) = some rest := after?_append ('<' :: name) rest
  have hother : after? ('<' :: "failure".toList) ('<' :: "error".toList ++ rest) = none := rfl
  simp only [problemNames, List.mem_cons, List.not_mem_nil, or_false] at hname
  rcases hname with rfl | rfl
  · rw [problemStart?, problemNames, List.findSome?_cons, hhere]
    dsimp only
    rw [if_pos hboundary]
  · rw [problemStart?, problemNames, List.findSome?_cons, hother, List.findSome?_cons, hhere]
    dsimp only
    rw [if_pos hboundary]

/-- No problem begins at the front of text that is clear of their starts. -/
theorem problemStart?_of_isClear {c : Char} {front : Text} (h : ∀ name ∈ problemNames, isClear ('<' :: name) (c :: front) = true)
    (rest : Text) : problemStart? (c :: (front ++ rest)) = none := by
  refine List.findSome?_eq_none_iff.2 fun name hname => ?_
  rw [after?_eq_none.2 (not_prefix_of_isClear (h name hname) rest)]

/-- No problem begins in text that is clear of their starts. -/
theorem hasProblem_append_of_isClear {front : Text} (h : ∀ name ∈ problemNames, isClear ('<' :: name) front = true)
    (rest : Text) : hasProblem (front ++ rest) = hasProblem rest := by
  induction front with
  | nil => rfl
  | cons c front ih =>
      rw [List.cons_append, hasProblem, problemStart?_of_isClear h,
        ih fun name hname => (isClear_cons.1 (h name hname)).2.2]
      rfl

/-- No problem begins in text without tags. -/
theorem hasProblem_append {front : Text} (h : '<' ∉ front) (rest : Text) :
    hasProblem (front ++ rest) = hasProblem rest :=
  hasProblem_append_of_isClear (fun _ _ => isClear_of_not_mem h) rest

theorem hasProblem_of_not_mem {text : Text} (h : '<' ∉ text) : hasProblem text = false := by
  have happend := hasProblem_append h []
  rwa [List.append_nil] at happend

/-- The search for a problem passes over text without tags. -/
theorem first?_append {front : Text} (h : '<' ∉ front) (rest : Text) :
    Problem.first? (front ++ rest) = Problem.first? rest := by
  induction front with
  | nil => rfl
  | cons c front ih =>
      have hc : c ≠ '<' := fun he => h (he ▸ List.mem_cons_self)
      have hhere : Problem.here? (c :: (front ++ rest)) = none := by
        rw [Problem.here?, problemStart?_of_ne hc]
        rfl
      rw [List.cons_append, Problem.first?, hhere, Option.none_or, ih fun hm => h (List.mem_cons_of_mem c hm)]

/-- The content of an element goes on through text that is clear of the closing tag. -/
theorem contentUntil?_append_of_isClear {name front : Text} (h : isClear ("</".toList ++ name) front = true) (rest : Text) :
    contentUntil? name (front ++ rest) = (contentUntil? name rest).map (front ++ ·) := by
  induction front with
  | nil => simp
  | cons c front ih =>
      have hnone : after? ("</".toList ++ name) (c :: (front ++ rest)) = none :=
        after?_eq_none.2 (not_prefix_of_isClear h rest)
      rw [List.cons_append, contentUntil?, hnone, ih (isClear_cons.1 h).2.2]
      simp [Function.comp_def]

/-- The content of an element has no tag. -/
theorem contentUntil?_append {front : Text} (h : '<' ∉ front) (name rest : Text) :
    contentUntil? name (front ++ rest) = (contentUntil? name rest).map (front ++ ·) :=
  contentUntil?_append_of_isClear (isClear_of_not_mem h) rest

/-- The content ends at the closing tag. -/
theorem contentUntil?_closing (p : WrittenProblem) (rest : Text) :
    contentUntil? p.name (p.closing ++ rest) = some [] := by
  have htext : p.closing ++ rest = ("</".toList ++ p.name) ++ '>' :: rest := by simp [WrittenProblem.closing]
  have hafter : (after? ("</".toList ++ p.name) (p.closing ++ rest)).map trimLeft = some ('>' :: rest) := by
    rw [htext, after?_append, Option.map_some, trimLeft, List.dropWhile_cons_of_neg (by decide)]
  have hcons : p.closing ++ rest = '<' :: ('/' :: p.name ++ '>' :: rest) := by rw [htext]; rfl
  rw [hcons] at hafter ⊢
  rw [contentUntil?, hafter]
  rfl

/-- A written problem is read. -/
theorem here?_text (p : WrittenProblem) (rest : Text) :
    Problem.here? (p.text ++ rest) = some ⟨p.name, p.inside, Escaped.written (p.content.getD [])⟩ := by
  have htag := takeTag?_tagEnd (head?_attributes p.attributes) (not_mem_attributes p.attributes (.inr rfl))
    (getLast?_attributes p.attributes) p.content.isNone (p.behind ++ rest)
  have htext : p.text ++ rest = '<' :: p.name ++ (p.inside ++ (tagEnd p.content.isNone ++ (p.behind ++ rest))) := by
    simp [WrittenProblem.text]
  have hboundary : atBoundary (p.inside ++ (tagEnd p.content.isNone ++ (p.behind ++ rest))) = true := by
    have hsome := congrArg Option.isSome htag
    unfold takeTag? at hsome
    split at hsome
    · assumption
    · contradiction
  rw [htext, Problem.here?, problemStart?_append p.known hboundary]
  simp only [Option.bind_eq_bind, Option.bind_some]
  rw [← WrittenProblem.inside] at htag
  rw [htag, Option.bind_some]
  cases hcontent : p.content with
  | none => rfl
  | some content =>
      have hbehind : p.behind ++ rest = content.written ++ (p.closing ++ rest) := by
        rw [WrittenProblem.behind, hcontent, List.append_assoc]
      have hplain : '<' ∉ content.written := Escaped.not_mem_written (by decide) content
      simp [hbehind, contentUntil?_append hplain, contentUntil?_closing]

/-- The `message` attribute is looked up. -/
theorem get?_message (p : WrittenProblem) :
    Mapping.get? (Mapping.ofList (p.attributes.map Attribute.entry)) "message".toList = p.messageAttribute := by
  have hkeys : (p.attributes.map Attribute.entry).map Prod.fst = p.attributes.map Attribute.key := by
    rw [List.map_map]
    rfl
  unfold WrittenProblem.messageAttribute
  cases hfind : p.attributes.find? fun a => a.key = "message".toList with
  | none =>
      refine Mapping.get?_ofList_of_not_mem ?_
      rw [hkeys]
      intro hm
      obtain ⟨a, ha, hkey⟩ := List.mem_map.1 hm
      exact List.find?_eq_none.1 hfind a ha (decide_eq_true hkey)
  | some a =>
      have hkey : a.key = "message".toList :=
        of_decide_eq_true (List.find?_some (p := fun a : Attribute => a.key = "message".toList) hfind)
      refine Mapping.get?_ofList_of_mem (by rw [hkeys]; exact p.distinct) ?_
      rw [← hkey]
      exact List.mem_map_of_mem (List.mem_of_find?_eq_some hfind)

/-- The error of a written problem is the one that is told. -/
theorem message_written (p : WrittenProblem) :
    Problem.message ⟨p.name, p.inside, Escaped.written (p.content.getD [])⟩ = .ok p.message := by
  rw [Problem.message, elementText_written, ok_bind]
  unfold WrittenProblem.message
  split
  · rename_i hempty
    rw [if_pos hempty, WrittenProblem.inside, attributes_text, ok_bind, get?_message]
    rfl
  · rename_i hempty
    rw [if_neg hempty]
    rfl

/-! ## The error of a testcase -/

/-- The first problem tells the error. -/
theorem errorIn?_of_here? {front text : Text} (hfront : '<' ∉ front) {p : Problem} (hhere : Problem.here? text = some p)
    {message : Text} (hmessage : p.message = .ok message) : errorIn? (front ++ text) = .ok (some (some message)) := by
  cases text with
  | nil => contradiction
  | cons c rest =>
      have hfirst : Problem.first? (c :: rest) = some p := by rw [Problem.first?, hhere, Option.some_or]
      have hstart : hasProblem (c :: rest) = true := by
        rw [hasProblem]
        cases hstart : problemStart? (c :: rest) with
        | none =>
            rw [Problem.here?, hstart] at hhere
            contradiction
        | some start => rfl
      rw [errorIn?, hasProblem_append hfront, first?_append hfront, hstart, if_pos rfl, hfirst]
      dsimp only
      rw [hmessage, ok_bind]
      rfl

/-- **The error is read as it is told.** -/
theorem errorIn?_body (c : WrittenContent) : errorIn? c.body = .ok (some c.error) := by
  cases c with
  | closed => rfl
  | plain text => rw [errorIn?, WrittenContent.body, hasProblem_of_not_mem text.2, if_neg (by simp)]; rfl
  | skipped front back =>
      have hskipped : hasProblem ("<skipped/>".toList ++ back.1) = false := by
        have hrest : '<' ∉ "skipped/>".toList ++ back.1 := by
          rw [List.mem_append, not_or]
          exact ⟨by decide, back.2⟩
        change ((problemStart? ('<' :: ("skipped/>".toList ++ back.1))).isSome ||
          hasProblem ("skipped/>".toList ++ back.1)) = false
        rw [hasProblem_of_not_mem hrest]
        rfl
      rw [errorIn?, WrittenContent.body, hasProblem_append front.2, hskipped, if_neg (by simp)]
      rfl
  | problem front p back => exact errorIn?_of_here? front.2 (here?_text p back.1) (message_written p)

/-! ## The body of a testcase -/

/-- The tags around testcases. -/
def testcaseMarks : List Text := [testcaseStart, testcaseEnd]

theorem isClear_gap {mark : Text} (hmark : mark ∈ testcaseMarks) {text : Text} (h : '<' ∉ text) :
    isClear mark text = true := by
  simp only [testcaseMarks, List.mem_cons, List.not_mem_nil, or_false] at hmark
  rcases hmark with rfl | rfl <;> exact isClear_of_not_mem h

/-- A problem does not look like the tag of a testcase. -/
theorem isClear_problem {mark : Text} (hmark : mark ∈ testcaseMarks) (p : WrittenProblem) :
    isClear mark p.text = true := by
  have hname : ∀ mark ∈ testcaseMarks, ∀ name ∈ problemNames,
      isClear mark ('<' :: name) = true ∧ isClear mark ("</".toList ++ name ++ ['>']) = true := by
    decide
  obtain ⟨hopen, hclose⟩ := hname mark hmark p.name p.known
  have hinside : isClear mark p.inside = true :=
    isClear_gap hmark (not_mem_attributes p.attributes (.inl rfl))
  have htagEnd : isClear mark (tagEnd p.content.isNone) = true := by
    cases p.content.isNone <;> exact isClear_gap hmark (by decide)
  have hbehind : isClear mark p.behind = true := by
    unfold WrittenProblem.behind
    split
    · rfl
    · exact isClear_append (isClear_gap hmark (Escaped.not_mem_written (by decide) _)) hclose
  exact isClear_append hopen (isClear_append hinside (isClear_append htagEnd hbehind))

/-- What a testcase holds does not look like the tag of a testcase. -/
theorem isClear_body {mark : Text} (hmark : mark ∈ testcaseMarks) (c : WrittenContent) :
    isClear mark c.body = true := by
  cases c with
  | closed => rfl
  | plain text => exact isClear_gap hmark text.2
  | skipped front back =>
      have hskipped : ∀ mark ∈ testcaseMarks, isClear mark "<skipped/>".toList = true := by decide
      exact isClear_append (isClear_gap hmark front.2)
        (isClear_append (hskipped mark hmark) (isClear_gap hmark back.2))
  | problem front p back =>
      exact isClear_append (isClear_gap hmark front.2)
        (isClear_append (isClear_problem hmark p) (isClear_gap hmark back.2))

/-- **The body is what stands between the tags**, whatever follows the testcase. -/
theorem body?_content {t : Testcase} {c : WrittenContent} {rest : Text} (hclosed : t.tag.isClosed = c.isClosed)
    (hbehind : t.behind = c.behind ++ rest) : t.body? = some c.body := by
  have hopen (hc : c.isClosed = false) : t.body? = some c.body := by
    have hcut : cut? testcaseEnd t.behind = some (c.body, rest) := by
      rw [hbehind, WrittenContent.behind, hc, if_neg (by simp), List.append_assoc]
      exact cut?_mark (isClear_body (by decide) c) rest
    have hnone : cut? testcaseStart c.body = none :=
      cut?_of_isClear (by decide) (isClear_body (by decide) c)
    simp [Testcase.body?, hclosed, hc, hcut, hasMark, hnone]
  cases c with
  | closed => rw [Testcase.body?, hclosed]; rfl
  | plain text => exact hopen rfl
  | skipped front back => exact hopen rfl
  | problem front p back => exact hopen rfl

/-! ## What a testcase comes to -/

/-- What a testcase with a body comes to. -/
def verdictOf (name : Text) (time error : Option Text) : Except LongNumeral Verdict :=
  (iterationInfo? name).map fun info? =>
    match info? with
    | none => .other
    | some info => .result ⟨info.index, name, info.parameters, readDuration time, name, error⟩

section

variable {t : Testcase} {m : Mapping Text} (hm : attributes t.tag.inside = .ok m)

include hm

/-- A testcase is read with the attributes that its tag has and the error in its body. -/
theorem verdict_of_body {body : Text} (hbody : t.body? = some body) {error : Option Text}
    (herror : errorIn? body = .ok (some error)) :
    t.verdict = verdictOf ((Mapping.get? m "name".toList).getD []) (Mapping.get? m "time".toList) error := by
  rw [Testcase.verdict, hm, ok_bind, verdictOf, iterationInfo?]
  dsimp only
  cases IterationName.read? ((Mapping.get? m "name".toList).getD []) with
  | none => rfl
  | some iteration =>
      dsimp only
      rw [hbody]
      dsimp only
      rw [herror, ok_bind]
      dsimp only
      cases iteration.bracketed.index with
      | error e => rfl
      | ok index => cases Parameters.read iteration.bracketed.parameters <;> rfl

/-- A testcase is read with the attributes that its tag has. -/
theorem verdict_of_content {c : WrittenContent} {rest : Text} (hclosed : t.tag.isClosed = c.isClosed)
    (hbehind : t.behind = c.behind ++ rest) :
    t.verdict = verdictOf ((Mapping.get? m "name".toList).getD []) (Mapping.get? m "time".toList) c.error :=
  verdict_of_body hm (body?_content hclosed hbehind) (errorIn?_body c)

/-- A testcase without a body is malformed. -/
theorem verdict_of_no_body {name : Text} (hname : Mapping.get? m "name".toList = some name)
    (hiteration : (IterationName.read? name).isSome = true) (hbody : t.body? = none) :
    t.verdict = .ok (.malformed name) := by
  obtain ⟨n, hn⟩ := Option.isSome_iff_exists.1 hiteration
  rw [Testcase.verdict, hm, ok_bind, hname, Option.getD_some]
  dsimp only
  rw [hn]
  dsimp only
  rw [hbody]
  rfl

/-- A testcase with a problem in its body is not read as passed. -/
theorem verdict_of_problem {name : Text} (hname : Mapping.get? m "name".toList = some name)
    (hiteration : (IterationName.read? name).isSome = true) {body : Text} (hbody : t.body? = some body)
    (hproblem : hasProblem body = true) {v : Verdict} (hv : t.verdict = .ok v) :
    v = .malformed name ∨ ∃ r, v = .result r ∧ r.success = false := by
  obtain ⟨n, hn⟩ := Option.isSome_iff_exists.1 hiteration
  rw [Testcase.verdict, hm, ok_bind, hname, Option.getD_some] at hv
  dsimp only at hv
  rw [hn] at hv
  dsimp only at hv
  rw [hbody] at hv
  obtain ⟨error?, herror, hv⟩ := bind_eq_ok.1 hv
  rw [errorIn?, if_pos hproblem] at herror
  cases hfirst : Problem.first? body with
  | none =>
      rw [hfirst] at herror
      cases herror
      cases hv
      exact .inl rfl
  | some problem =>
      rw [hfirst] at herror
      obtain ⟨message, -, herror⟩ := bind_eq_ok.1 herror
      cases herror
      obtain ⟨index, -, hv⟩ := bind_eq_ok.1 hv
      obtain ⟨parameters, -, hv⟩ := bind_eq_ok.1 hv
      cases hv
      exact .inr ⟨_, rfl, rfl⟩

end

namespace WrittenTestcase

/-- What a written testcase comes to. -/
def verdict (t : WrittenTestcase) : Except LongNumeral Verdict :=
  verdictOf t.name.meaning (some t.time.meaning) t.content.error

/-- The attributes of a written testcase. -/
def entries (t : WrittenTestcase) : List (Text × Text) := t.attributes.map Attribute.entry

theorem nodup_entries (t : WrittenTestcase) : (t.entries.map Prod.fst).Nodup := by
  have hperm := (t.complete.map Attribute.entry).map Prod.fst
  have hkeys : (["name".toList, "classname".toList, "time".toList] : List Text).Nodup := by decide
  exact hperm.nodup_iff.2 hkeys

/-- The name can be looked up. -/
theorem get?_name (t : WrittenTestcase) :
    Mapping.get? (Mapping.ofList t.entries) "name".toList = some t.name.meaning :=
  Mapping.get?_ofList_of_mem t.nodup_entries
    ((t.complete.map Attribute.entry).mem_iff.2 (by simp [standardAttributes, Attribute.entry]))

/-- The time can be looked up. -/
theorem get?_time (t : WrittenTestcase) :
    Mapping.get? (Mapping.ofList t.entries) "time".toList = some t.time.meaning :=
  Mapping.get?_ofList_of_mem t.nodup_entries
    ((t.complete.map Attribute.entry).mem_iff.2 (by simp [standardAttributes, Attribute.entry]))

/-- **A written testcase comes to what it tells**, whatever follows it. -/
theorem verdict_eq (t : WrittenTestcase) (rest : Text) :
    Testcase.verdict ⟨⟨t.inside, t.content.isClosed⟩, t.content.behind ++ rest⟩ = t.verdict := by
  have hread := verdict_of_content (t := ⟨⟨t.inside, t.content.isClosed⟩, t.content.behind ++ rest⟩)
    (attributes_text t.attributes) rfl rfl
  rw [hread, ← entries, get?_name, get?_time]
  rfl

end WrittenTestcase

end SpecAtlas.Result
