import SpecAtlas.Source.Heading

/-!
# Where the scan of a file stands

The scan walks over the lines and keeps its position relative to class bodies; `advance` is one
step. No grammar is behind it: braces are counted wherever they stand, also in texts and comments.

* A specification heading begins a new class and resets all counts from that line on, also when
  the class before it has not closed.
* Inside a class body any other type heading begins a nested region, in which no methods are looked
  for until its braces balance out.
* The class ends where its braces balance out.
-/

namespace SpecAtlas.Source

/-- The position of the scan. -/
structure Position where
  /-- The scan is inside the declaration or the body of a specification class. -/
  inClass : Bool := false
  /-- The opening brace of the class body has been seen. -/
  bodyOpened : Bool := false
  /-- Opening braces less closing ones since the class heading. -/
  balance : Int := 0
  /-- The balance in front of the nested region that the scan is in. -/
  nestedFloor : Option Int := none
  /-- The opening brace of the nested region has been seen. -/
  nestedOpened : Bool := false
  deriving DecidableEq, Repr

namespace Position

/-- Whether the scan is inside a nested region. -/
def inNested (p : Position) : Bool := p.nestedFloor.isSome

/-- The position behind a specification heading. -/
def afterClass (line : Text) : Position :=
  let opened := line.elem '{'
  if opened && braceDelta line ≤ 0 then {}
  else { inClass := true, bodyOpened := opened, balance := braceDelta line }

/-- The nested region that a line begins or leaves standing: its floor, and whether its opening
brace has been seen before the line. -/
def nestedAt (p : Position) (line : Text) : Option Int × Bool :=
  match p.nestedFloor with
  | some floor => (some floor, p.nestedOpened)
  | none =>
    if p.bodyOpened && isTypeHeading (Text.trim line) then (some p.balance, false)
    else (none, p.nestedOpened)

/-- The nested region behind a line, if `balance` is reached there: it ends once it has been opened
and the balance is back at its floor. -/
def nestedAfter (floor : Option Int) (opened : Bool) (balance : Int) (line : Text) : Option Int × Bool :=
  match floor with
  | none => (none, opened)
  | some f =>
    let opened := opened || line.elem '{'
    if opened && balance ≤ f then (none, false) else (some f, opened)

/-- The position behind a line of a class that is no specification heading. -/
def withinClass (p : Position) (line : Text) : Position :=
  let balance := p.balance + braceDelta line
  let bodyOpened := p.bodyOpened || line.elem '{'
  if bodyOpened && balance ≤ 0 then {}
  else
    let (floor, opened) := p.nestedAt line
    let (floor, opened) := nestedAfter floor opened balance line
    ⟨true, bodyOpened, balance, floor, opened⟩

/-- One step of the scan: the position behind a line, and the heading that the line reports. -/
def advance (p : Position) (line : Text) : Position × Option Heading :=
  match ClassHeading.read? (Text.trim line) with
  | some heading => (afterClass line, some (.specification heading))
  | none =>
    if p.inClass then
      let method :=
        if (p.nestedAt line).1.isNone then MethodHeading.read? (Text.trim line) else none
      (p.withinClass line, method.map .method)
    else (p, none)

end Position

/-- A heading with the index of its line. -/
structure Located where
  line : Nat
  heading : Heading
  deriving DecidableEq, Repr

/-- The headings that a scan reports from line number `index` on. -/
def headingsFrom (p : Position) (index : Nat) : List Text → List Located
  | [] => []
  | line :: rest =>
    let (next, heading) := p.advance line
    match heading with
    | some heading => ⟨index, heading⟩ :: headingsFrom next (index + 1) rest
    | none => headingsFrom next (index + 1) rest

/-- The headings of a file, in order. -/
def headings (lines : List Text) : List Located := headingsFrom {} 0 lines

end SpecAtlas.Source
