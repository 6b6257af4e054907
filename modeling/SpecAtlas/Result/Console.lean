import SpecAtlas.Result.IterationName
import SpecAtlas.Result.IterationResult

/-!
# Results in console output

The build tool prints a line for every executed iteration:

  `MathSpec > maximum of two numbers [a: 1, b: 3, #0] PASSED`

A line counts for a feature if behind one of its `>` stand the feature's name, letter by letter,
the brackets of an iteration name and a status, with white space allowed between them. The last
`>` that fits is taken. Durations are not printed.
-/

namespace SpecAtlas.Result

open Text

/-- What a line of the console says about an iteration. -/
structure ReportLine where
  bracketed : Bracketed
  status : Status
  deriving DecidableEq, Repr

/-- The status at the front of a text. -/
def status? (text : Text) : Option Status :=
  [Status.passed, .failed, .skipped].find? fun s => startsWith s.text text

/-- What follows a name at the front of a text, white space in front of it left out as needed. -/
def afterName? (name : Text) : Text → Option Text
  | [] => after? name []
  | c :: text =>
    match after? name (c :: text) with
    | some rest => some rest
    | none => if isBlank c then afterName? name text else none

/-- Reads what stands behind a `>`. -/
def afterMark? (feature text : Text) : Option ReportLine := do
  match trimLeft (← afterName? feature text) with
  | '[' :: rest =>
    let (bracketed, rest) ← takeBracketed? rest
    return ⟨bracketed, ← status? (trimLeft rest)⟩
  | _ => none

/-- Reads a line of the console: behind its last `>` that fits. -/
def ReportLine.read? (feature : Text) : Text → Option ReportLine
  | [] => none
  | c :: text =>
    (ReportLine.read? feature text).or (if c = '>' then afterMark? feature text else none)

/-- The name under which an iteration is shown. -/
def iterationDisplayName (feature parameters : Text) (index : Nat) : Text :=
  feature ++ " [".toList ++ parameters ++ ", #".toList ++ Numeral.ofNat index ++ [']']

/-- The result that a line of the console tells, with its status. -/
def lineResult? (feature line : Text) : Option (Except LongNumeral (IterationResult × Status)) :=
  (ReportLine.read? feature (dropReturns line)).map fun found => do
    let index ← found.bracketed.index
    let error := if found.status = .passed then none
      else some ("Iteration ".toList ++ Numeral.ofNat index ++ ' ' :: found.status.text)
    let parameters ← Parameters.read found.bracketed.parameters
    return (⟨index, iterationDisplayName feature found.bracketed.parameters index, parameters,
      .zero false, trim line, error⟩, found.status)

/-- The results of a feature in console output, in order, and the events of reading them. -/
def readConsole (text feature : Text) : Except LongNumeral (List IterationResult × List Event) := do
  let found ← ((lines text).filterMap (lineResult? feature)).mapM id
  let events := found.map fun (result, status) => Event.iterationFound .console result.index status
  return (found.map Prod.fst, events ++ [.consoleRead feature found.length])

end SpecAtlas.Result
