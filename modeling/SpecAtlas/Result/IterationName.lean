import SpecAtlas.Value.Literal

/-!
# Names of iterations

The build tool reports an iteration of a data-driven feature under the name

  `<feature> [<parameters>, #<index>]`

The index stands behind the last comma of the brackets, so parameters may hold commas, and they may
hold opening brackets, but no closing one. The feature is what stands in front of the first opening
bracket that fits, without the white space before it; it holds at least one character and lies on
one line. One line feed may follow the name.
-/

namespace SpecAtlas.Result

open Text

/-- What the brackets of an iteration name hold: the parameters, and the digits of the index. -/
structure Bracketed where
  parameters : Text
  digits : Text
  deriving DecidableEq, Repr

/-- The last comma of a text divides it. -/
def atLastComma? (text : Text) : Option (Text × Text) :=
  match text.reverse.span (· != ',') with
  | (_, []) => none
  | (behind, _ :: before) => some (before.reverse, behind.reverse)

/-- Reads what stands between the brackets. -/
def Bracketed.read? (inner : Text) : Option Bracketed := do
  let (parameters, behind) ← atLastComma? inner
  match trimLeft behind with
  | '#' :: digits =>
    if parameters.isEmpty || digits.isEmpty || !digits.all isDigit then none
    else some ⟨parameters, digits⟩
  | _ => none

/-- Reads the brackets from behind the opening one, and what follows them. -/
def takeBracketed? (text : Text) : Option (Bracketed × Text) :=
  match text.span (· != ']') with
  | (_, []) => none
  | (inner, _ :: rest) => (Bracketed.read? inner).map (·, rest)

/-- The index that the brackets write. -/
def Bracketed.index (b : Bracketed) : Except LongNumeral Nat := Numeral.readNat b.digits

/-- The name of an iteration, as it is reported. -/
structure IterationName where
  feature : Text
  bracketed : Bracketed
  deriving DecidableEq, Repr

namespace IterationName

/-- The feature that reversed text in front of the brackets names: what is left without white space
at its end, but at least one character. -/
def featureBefore? (reversed : Text) : Option Text :=
  let feature :=
    match reversed.dropWhile isBlank with
    | [] => reversed.reverse.take 1
    | kept => kept.reverse
  if feature.isEmpty || feature.elem '\n' then none else some feature

/-- Looks for the brackets; `reversed` is the text in front, last character first. -/
def readFrom? (reversed : Text) : Text → Option IterationName
  | [] => none
  | c :: rest =>
    match if c = '[' && !reversed.isEmpty then takeBracketed? rest else none with
    | some (bracketed, []) => (featureBefore? reversed).map (⟨·, bracketed⟩)
    | some (bracketed, ['\n']) => (featureBefore? reversed).map (⟨·, bracketed⟩)
    | _ => readFrom? (c :: reversed) rest

/-- Reads the name of an iteration. -/
def read? (name : Text) : Option IterationName := readFrom? [] name

end IterationName

/-- A name of an iteration with its index and its parameters. -/
structure IterationInfo where
  feature : Text
  index : Nat
  parameters : Mapping Value

/-- The parts of a reported name; `none` if it is not the name of an iteration. -/
def iterationInfo? (name : Text) : Except LongNumeral (Option IterationInfo) :=
  match IterationName.read? name with
  | none => .ok none
  | some n => do
    let index ← n.bracketed.index
    return some ⟨n.feature, index, ← Parameters.read n.bracketed.parameters⟩

/-- A reported name without its brackets, if it is the name of an iteration. -/
def withoutBrackets (name : Text) : Except LongNumeral Text := do
  return match ← iterationInfo? name with
    | some info => info.feature
    | none => name

/-- The feature that a reported name belongs to. -/
def featureOf? (name : Text) : Option Text := (IterationName.read? name).map (·.feature)

end SpecAtlas.Result
