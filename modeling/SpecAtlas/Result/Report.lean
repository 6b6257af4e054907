import SpecAtlas.Markup.Attributes
import SpecAtlas.Result.IterationName
import SpecAtlas.Result.IterationResult
import SpecAtlas.Decimal.Reader

/-!
# Results in reports

A report in XML has a `testcase` element for every executed iteration, under the name of the
iteration. Other testcases are passed over. A testcase with a `failure` or an `error` element failed;
its error is the text of that element, or its `message` attribute if there is no text.

The elements are found by their tags, without reading the document as a whole, so that a damaged
testcase costs no more than itself. A tag ends at its first `>`, wherever that stands.
-/

namespace SpecAtlas.Result

open Text Markup

/-! ## Tags -/

/-- The inside of a tag: what stands behind its name, and whether a slash closes the element at
once. -/
structure Tag where
  inside : Text
  isClosed : Bool
  deriving DecidableEq, Repr

/-- Whether a name ends where `text` begins: no word character follows. -/
def atBoundary (text : Text) : Bool := !(text.take 1).any isWord

/-- Reads a tag from behind its name, and what follows it. -/
def takeTag? (text : Text) : Option (Tag × Text) :=
  if atBoundary text then
    (cut? ['>'] text).map fun (inside, rest) =>
      if inside.getLast? = some '/' then (⟨inside.dropLast, true⟩, rest) else (⟨inside, false⟩, rest)
  else none

theorem length_lt_of_takeTag? {text rest : Text} {tag : Tag} (h : takeTag? text = some (tag, rest)) :
    rest.length < text.length := by
  unfold takeTag? at h
  split at h
  · obtain ⟨⟨inside, r⟩, hc, he⟩ := Option.map_eq_some_iff.1 h
    have hr : r = rest := by
      dsimp only at he
      split at he
      · exact congrArg Prod.snd he
      · exact congrArg Prod.snd he
    exact hr ▸ length_lt_of_cut? (by simp) hc
  · simp at h

/-! ## The element of a problem -/

/-- A `failure` or an `error` element: its name, its attributes as they are written, and its
content. -/
structure Problem where
  name : Text
  inside : Text
  content : Text
  deriving DecidableEq, Repr

/-- The names of the elements that tell a problem. -/
def problemNames : List Text := ["failure".toList, "error".toList]

/-- What follows the start of a problem's tag at the front of a text, with the problem's name. -/
def problemStart? (text : Text) : Option (Text × Text) :=
  problemNames.findSome? fun name =>
    match after? ('<' :: name) text with
    | some rest => if atBoundary rest then some (name, rest) else none
    | none => none

/-- Whether the start of a problem's tag occurs in a text. -/
def hasProblem : Text → Bool
  | [] => false
  | c :: text => (problemStart? (c :: text)).isSome || hasProblem text

/-- The content of an element, up to its closing tag, which may have white space before its end. -/
def contentUntil? (name : Text) : Text → Option Text
  | [] => none
  | c :: text =>
    match (after? ("</".toList ++ name) (c :: text)).map trimLeft with
    | some ('>' :: _) => some []
    | _ => (contentUntil? name text).map (c :: ·)

/-- Reads a problem at the front of a text. -/
def Problem.here? (text : Text) : Option Problem := do
  let (name, rest) ← problemStart? text
  let (tag, rest) ← takeTag? rest
  if tag.isClosed then return ⟨name, tag.inside, []⟩
  else return ⟨name, tag.inside, ← contentUntil? name rest⟩

/-- The first problem in a text that can be read. -/
def Problem.first? : Text → Option Problem
  | [] => none
  | c :: text => (Problem.here? (c :: text)).or (Problem.first? text)

/-- The error text of a problem. -/
def Problem.message (p : Problem) : Except LongNumeral Text := do
  let text ← elementText p.content
  if text.isEmpty then
    return (Mapping.get? (← attributes p.inside) "message".toList).getD p.name
  else return text

/-! ## Testcases -/

/-- A testcase: its tag, and what follows the tag in the report. -/
structure Testcase where
  tag : Tag
  behind : Text

/-- How a testcase begins. -/
def testcaseStart : Text := "<testcase".toList

/-- How a testcase ends. -/
def testcaseEnd : Text := "</testcase>".toList

/-- The testcases of a report, in order. -/
def testcases (content : Text) : List Testcase :=
  match h : cut? testcaseStart content with
  | none => []
  | some (_, rest) =>
    have h1 : rest.length < content.length := length_lt_of_cut? (by decide) h
    match h' : takeTag? rest with
    | some (tag, behind) =>
      have : behind.length < content.length := Nat.lt_trans (length_lt_of_takeTag? h') h1
      ⟨tag, behind⟩ :: testcases behind
    | none => testcases rest
termination_by content.length

/-- The content of a testcase. A testcase that does not end before the next one begins has none. -/
def Testcase.body? (t : Testcase) : Option Text :=
  if t.tag.isClosed then some []
  else
    match cut? testcaseEnd t.behind with
    | some (body, _) => if hasMark testcaseStart body then none else some body
    | none => none

/-- The error of a testcase with a given content: `none` if its problem cannot be read, `some none`
if it has no problem. -/
def errorIn? (body : Text) : Except LongNumeral (Option (Option Text)) :=
  if hasProblem body then
    match Problem.first? body with
    | some problem => do return some (some (← problem.message))
    | none => .ok none
  else .ok (some none)

/-- The seconds that a `time` attribute writes; zero if it writes no number. -/
def readDuration (time : Option Text) : Binary64 :=
  (time.bind Decimal.readFloat?).getD (.zero false)

/-- What a testcase comes to. -/
inductive Verdict where
  /-- The testcase is no iteration. -/
  | other
  /-- The testcase is damaged. -/
  | malformed (name : Text)
  | result (r : IterationResult)

/-- What a testcase comes to. -/
def Testcase.verdict (t : Testcase) : Except LongNumeral Verdict := do
  let attributes ← attributes t.tag.inside
  let name := (Mapping.get? attributes "name".toList).getD []
  match IterationName.read? name with
  | none => return .other
  | some iteration =>
    match t.body? with
    | none => return .malformed name
    | some body =>
      match ← errorIn? body with
      | none => return .malformed name
      | some error =>
        let index ← iteration.bracketed.index
        let parameters ← Parameters.read iteration.bracketed.parameters
        return .result ⟨index, name, parameters,
          readDuration (Mapping.get? attributes "time".toList), name, error⟩

/-- The result of a verdict. -/
def Verdict.result? : Verdict → Option IterationResult
  | result r => some r
  | _ => none

/-- The event of a verdict in the report `source`. -/
def Verdict.event? (source : Text) : Verdict → Option Event
  | other => none
  | malformed name => some (.testcaseMalformed name source)
  | result r => some (.iterationFound .report r.index (if r.success then .passed else .failed))

/-- The results in a report, in order, and the events of reading them. -/
def readReport (content source : Text) : Except LongNumeral (List IterationResult × List Event) := do
  let verdicts ← (testcases content).mapM Testcase.verdict
  return (verdicts.filterMap Verdict.result?, verdicts.filterMap (Verdict.event? source))

end SpecAtlas.Result
