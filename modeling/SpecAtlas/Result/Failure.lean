import SpecAtlas.Text.Basic
import SpecAtlas.Numeral

/-!
# Why a run failed

The output of a failed run is summed up in one line and, if possible, a place in a source file.

* The line is the last diagnostic one: a test reported as `FAILED`, a condition or an assertion that
  does not hold, or an exception of the test framework. Without any, it is the first line that
  mentions an exception, an error or a failure, and without that a standing phrase.
* The place is the last stack frame in a `.groovy` file. Lines count from zero there, as in all
  places that this library names.
-/

namespace SpecAtlas.Result

open Text

/-- A place in a source file. -/
structure FailurePlace where
  file : Text
  line : Int
  deriving DecidableEq, Repr

/-- Why a run failed. -/
structure FailureSummary where
  message : Text
  place : Option FailurePlace
  deriving DecidableEq, Repr

/-- The message where the output names no reason. -/
def unknownFailure : Text := "Test execution failed".toList

/-- Whether one of some marks occurs in a line. -/
def mentions (marks : List String) (line : Text) : Bool := marks.any fun mark => hasMark mark.toList line

/-- Whether a line is diagnostic. -/
def isDiagnostic (line : Text) : Bool :=
  (mentions ["FAILED"] line && mentions ["Test", "Spec"] line)
    || mentions ["Condition not satisfied:", "Assertion failed:"] line
    || mentions ["spock.lang.Specification", "groovy.lang.MissingMethodException"] line

/-- Whether a line mentions a failure without being diagnostic by its form. -/
def isFallback (line : Text) : Bool := mentions ["Exception", "Error", "failed"] line

/-! ## Stack frames -/

/-- The file and the digits of the line number between the parentheses of a stack frame. -/
def framePlace? (inner : Text) : Option (Text × Text) :=
  match inner.reverse.span isDigit with
  | ([], _) => none
  | (digits, rest) =>
    match after? ".groovy:".toList.reverse rest with
    | some (c :: name) => some ((c :: name).reverse ++ ".groovy".toList, digits.reverse)
    | _ => none

/-- The place that the text behind an opening parenthesis names, up to the closing one. -/
def placeBehind? (text : Text) : Option (Text × Text) :=
  match text.span (fun c => c != '(' && c != ')') with
  | (inner, ')' :: _) => framePlace? inner
  | _ => none

/-- The last place in a text; `entered` says that the word `at` and a blank stand before it. -/
def lastPlace? (entered : Bool) : Text → Option (Text × Text)
  | [] => none
  | c :: text =>
    let entersHere := match c, text with
      | 'a', 't' :: b :: _ => isBlank b
      | _, _ => false
    (lastPlace? (entered || entersHere) text).or
      (if c = '(' && entered then placeBehind? text else none)

/-- The place that a stack frame names. -/
def framePlace (line : Text) : Except LongNumeral (Option FailurePlace) :=
  match if hasMark "at ".toList line then lastPlace? false line else none with
  | none => .ok none
  | some (file, digits) => do return some ⟨file, (← Numeral.readNat digits) - 1⟩

/-! ## The summary -/

/-- The last element of a list that `f` maps to something. -/
def lastSome? {α β : Type} (f : α → Option β) (xs : List α) : Option β := (xs.filterMap f).getLast?

/-- The message behind a line: a diagnostic line takes the place of what was found before it. -/
def laterMessage (message line : Text) : Text := if isDiagnostic line then trim line else message

/-- The line that tells why a run failed. While the message is still the standing phrase, no diagnostic
line has been found. -/
def failureMessage (lines : List Text) : Text :=
  let message := lines.foldl laterMessage unknownFailure
  if message = unknownFailure then ((lines.find? isFallback).map trim).getD unknownFailure else message

/-- Sums up the output of a failed run. -/
def summarize (output : Text) : Except LongNumeral FailureSummary := do
  let places ← (lines output).mapM framePlace
  return ⟨failureMessage (lines output), lastSome? id places⟩

end SpecAtlas.Result
