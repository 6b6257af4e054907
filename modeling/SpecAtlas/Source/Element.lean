import SpecAtlas.Source.Heading
import SpecAtlas.Value.Literal

/-!
# Elements of list literals

The right-hand side of a data pipe is a list literal or a range of whole numbers. An element of a
list is again a list, a record of two fields, or a scalar:

* `new Person("Fred", 40)` has the fields `name` and `age`, in this order;
* `new Person(age: 40, name: "Fred")` has the fields that it names;
* a constructor with another number of arguments stands for its own text.

The numbers of a range are listed one by one, so a range can be too long, whatever its bounds.
-/

namespace SpecAtlas.Source

open Text

/-- The text between the square brackets at the ends of a text. -/
def bracketed? (text : Text) : Option Text :=
  match text with
  | '[' :: rest => if rest.getLast? = some ']' then some rest.dropLast else none
  | _ => none

/-- The pieces between the top-level commas of a text that are not blank. -/
def items (text : Text) : List Text := (splitCommas text).filter fun piece => !allBlank piece

/-! ## Records -/

/-- The fields of a record whose arguments have no names. -/
def recordFields : List Text := ["name".toList, "age".toList]

/-- The text between the parentheses of a constructor call. -/
def constructorArguments? (token : Text) : Option Text := do
  let rest ← afterBlank? (← after? "new".toList token)
  if !(rest.take 1).any isDotted then none
  match trimLeft (rest.dropWhile isDotted) with
  | '(' :: rest =>
    if rest.getLast? = some ')' && !rest.dropLast.elem '\n' then some rest.dropLast else none
  | _ => none

/-- The name and the value of a named argument. -/
def namedArgument? (argument : Text) : Option (Text × Text) :=
  match argument with
  | [] => none
  | c :: _ =>
    if isIdentStart c then
      match trimLeft (argument.dropWhile isWord) with
      | ':' :: rest =>
        let value := trimLeft rest
        if value.isEmpty || value.elem '\n' then none else some (argument.takeWhile isWord, value)
      | _ => none
    else none

/-- The record that two arguments make: by their names if both have one, else by their places. -/
def record (arguments : List Text) : Except LongNumeral Value := do
  let named := arguments.filterMap namedArgument?
  let fields := if named.length = arguments.length then named else recordFields.zip arguments
  let entries ← fields.mapM fun (key, token) => do return (key, ← coerce token)
  return .map (Mapping.ofList entries)

/-! ## Lists -/

theorem length_le_of_mem_splitFrom {isSep : Char → Bool} {s : Nesting} {text p : Text}
    (h : p ∈ splitFrom isSep s text) : p.length ≤ text.length := by
  induction text generalizing s p with
  | nil => simp [splitFrom] at h; simp [h]
  | cons c text ih =>
    simp only [splitFrom] at h
    split at h
    · rcases List.mem_cons.1 h with rfl | h
      · simp
      · exact Nat.le_succ_of_le (ih h)
    · split at h
      · simp at h; simp [h]
      · rename_i first rest he
        rcases List.mem_cons.1 h with rfl | h
        · have := ih (s := s.step c) (p := first) (by simp [he])
          simpa using this
        · exact Nat.le_succ_of_le (ih (s := s.step c) (by simp [he, h]))

/-- An item of a text is no longer than the text. -/
theorem length_le_of_mem_items {text piece : Text} (h : piece ∈ items text) : piece.length ≤ text.length := by
  have h := (List.mem_filter.1 h).1
  simp only [splitCommas, splitTopLevel] at h
  split at h
  · simp at h
  · exact length_le_of_mem_splitFrom h

theorem length_trim_le (text : Text) : (trim text).length ≤ text.length := by
  have h1 := (List.dropWhile_sublist isBlank (l := text)).length_le
  have h2 := (List.dropWhile_sublist isBlank (l := (trimLeft text).reverse)).length_le
  simp only [trim, trimRight, dropRight, List.length_reverse, trimLeft] at *
  omega

/-- What stands between brackets is shorter. -/
theorem length_lt_of_bracketed? {text inner : Text} (h : bracketed? text = some inner) :
    inner.length < text.length := by
  unfold bracketed? at h
  split at h
  · split at h
    · simp only [Option.some.injEq] at h
      subst h
      rw [List.length_dropLast, List.length_cons]
      omega
    · simp at h
  · simp at h

/-- The value of an element. -/
def readElement (token : Text) : Except LongNumeral Value :=
  match constructorArguments? (trim token) with
  | some arguments =>
    let arguments := (items arguments).map trim
    if arguments.length = 2 then record arguments else .ok (.text (trim token))
  | none =>
    match h : bracketed? (trim token) with
    | some inner => do return .list (← (items inner).attach.mapM fun ⟨item, hi⟩ =>
        have : item.length < token.length :=
          Nat.lt_of_le_of_lt (length_le_of_mem_items hi)
            (Nat.lt_of_lt_of_le (length_lt_of_bracketed? h) (length_trim_le token))
        readElement item)
    | none => coerce (trim token)
termination_by token.length

/-! ## Pipes -/

/-- A range of whole numbers: its bounds as they are written, and whether it leaves out the upper
one. Parentheses around it may be missing on either side. -/
structure Range where
  low : Text
  high : Text
  isOpen : Bool

/-- Reads a range from a trimmed text. -/
def Range.read? (text : Text) : Option Range := do
  let text := match text with
    | '(' :: rest => trimLeft rest
    | _ => text
  let (low, rest) ← Numeral.takeSigned? text
  let rest ← after? "..".toList (trimLeft rest)
  let (isOpen, rest) := match rest with
    | '<' :: rest => (true, rest)
    | _ => (false, rest)
  let (high, rest) ← Numeral.takeSigned? (trimLeft rest)
  match trimLeft rest with
  | [] => return ⟨low, high, isOpen⟩
  | ')' :: [] => return ⟨low, high, isOpen⟩
  | _ => none

/-- Why the data of a feature are not read. -/
inductive Refusal where
  | longNumeral (e : LongNumeral)
  /-- A range has more elements than a list can have. -/
  | longRange (size : Nat)
  deriving DecidableEq, Repr

/-- The greatest number of elements of a list: as many as there is room for, at eight bytes each, in the
largest block that can be addressed. -/
def Range.limit : Nat := (Nat.pow 2 63 - 1) / 8

/-- The number of elements of a range between two bounds. -/
def Range.size (isOpen : Bool) (low high : Int) : Nat := (if isOpen then high - low else high + 1 - low).toNat

/-- The whole numbers of a range, in ascending order. -/
def Range.values (r : Range) : Except Refusal (List Value) := do
  let low ← (Numeral.readInt r.low).mapError .longNumeral
  let high ← (Numeral.readInt r.high).mapError .longNumeral
  let size := size r.isOpen low high
  if limit < size then .error (.longRange size)
  else return (List.range size).map fun (k : Nat) => Value.int (low + k)

/-- The elements of the right-hand side of a pipe; `none` if it is neither a range nor a list
literal. -/
def elements? (expression : Text) : Option (Except Refusal (List Value)) :=
  match Range.read? (trim expression) with
  | some range => some range.values
  | none =>
    (bracketed? (trim expression)).map fun inner => ((items inner).mapM readElement).mapError .longNumeral

end SpecAtlas.Source
