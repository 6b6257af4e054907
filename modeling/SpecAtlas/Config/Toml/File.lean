import SpecAtlas.Config.Toml.Reader

/-!
# Configuration files

A configuration file begins with entries that stand outside of all tables. Then come its tables, each
with a header, its own entries, and the tables below it that follow at once. `[[…]]` heads one table
of an array, and those that follow with the same header belong to the array too.

Flaws come up in the order of the text, but a table is laid down only when it and all below it have
been read. A flaw in laying down the outermost tables makes the file malformed; one further inside
stays what it is.

Every header takes at least one character, so the length of the text bounds the recursion.
-/

namespace SpecAtlas.Toml

open Text

/-! ## Lines -/

/-- What follows empty lines and comments, from where the next line has something on it. The blanks
in front of a header may hold carriage returns. -/
def skipLines : Nat → Text → Except Flaw Text
  | 0, _ => .error .malformed
  | fuel + 1, text =>
    match text.dropWhile fun c => isSpace c || c == '\r' with
    | '\n' :: rest => skipLines fuel rest
    | '#' :: rest => do skipLines fuel (afterLineEnd (← afterComment rest))
    | '[' :: rest => .ok ('[' :: rest)
    | [] => .ok []
    | _ => .ok (skipSpaces text)

/-- What follows the end of a statement: blanks, perhaps a comment, and a line end. -/
def afterStatement (text : Text) : Except Flaw Text :=
  match text.dropWhile fun c => isSpace c || c == '\r' with
  | [] => .ok []
  | '\n' :: rest => .ok rest
  | '#' :: rest => (afterComment rest).map afterLineEnd
  | _ => .error .malformed

/-- Reads entries up to a header or the end of the text; `put` lays them down. -/
def takeBody (put : Entries → List Text → Value → Except Flaw Entries) : Nat → Entries → Text → Except Flaw (Entries × Text)
  | 0, _, _ => .error .malformed
  | fuel + 1, entries, text => do
    let text ← skipLines (text.length + 1) text
    if text.head?.all (· == '[') then return (entries, text)
    else do
      let ((path, v), rest) ← takeEntry text
      let rest ← afterStatement rest
      takeBody put fuel (← put entries path v) rest

/-! ## Headers -/

/-- The header of a table. -/
structure Header where
  path : List Text
  /-- The table belongs to an array. -/
  element : Bool
  deriving DecidableEq, Repr

/-- Reads the front of a header, up to its closing brackets. -/
def takeHeaderFront (text : Text) : Except Flaw (Header × Text) :=
  match text with
  | '[' :: '[' :: rest => do
    let (path, rest) ← takeKey rest
    return (⟨path, true⟩, rest)
  | _ => do
    let (path, rest) ← takeKey (text.drop 1)
    return (⟨path, false⟩, rest)

/-- Reads a header and the end of its line. What stands in the place of the second closing bracket of
an array's header is taken for it. -/
def takeHeader (text : Text) : Except Flaw (Header × Text) := do
  let (header, rest) ← takeHeaderFront text
  let rest ← orMalformed (after? [']'] rest)
  return (header, ← afterStatement (if header.element then rest.drop 1 else rest))

/-- Whether a path leads to somewhere below another one. -/
def leadsBelow (path above : List Text) : Bool := path ≠ above && path.take above.length = above

/-! ## Tables -/

/-- What belongs to a table inside the table that holds it: its key there, and itself. -/
abbrev Child := Key × Item

/-- A table with the tables on the way to it, which its header implies. `among` says whether the
outermost of these belongs into an array that is being read. -/
def implied (innermost : Item) (among : Bool) : List Text → Item
  | [] => innermost
  | name :: rest => .table true among [(⟨name, false⟩, implied innermost false rest)]

/-- An entry of a table is laid down, and its key looked up. -/
def layEntry (entries : Entries) (path : List Text) (v : Value) : Except Flaw Entries := do
  let entries ← entries.put false path v
  let _ ← (path.head?).mapM (Entries.lookUp entries)
  return entries

/-- A table is laid down in the one above it, and its key looked up. -/
def layTable (entries : Entries) (child : Child) : Except Flaw Entries := do
  let entries ← entries.append false child.1 child.2
  let _ ← entries.lookUp child.1.name
  return entries

mutual

/-- Reads a table that stands below the path `above`. `arrays` are the arrays that are being read,
the innermost first. -/
def takeTable : Nat → List (List Text) → List Text → Text → Except Flaw (Child × Text)
  | 0, _, _, _ => .error .malformed
  | fuel + 1, arrays, above, text => do
    let (header, rest) ← takeHeader text
    let (entries, rest) ← takeBody layEntry (rest.length + 1) [] rest
    let (entries, rest) ← takeBelow fuel arrays header.path entries rest
    entries.check
    let way := header.path.drop above.length
    let key : Key := ⟨(way.head?).getD [], false⟩
    match way.drop 1 with
    | [] =>
      if header.element && arrays.head? ≠ some header.path then do
        let (more, rest) ← takeElements fuel (header.path :: arrays) header.path rest
        return ((key, .tables (entries :: more)), rest)
      else return ((key, .table false header.element entries), rest)
    | inner =>
      let innermost := if header.element then .tables [entries] else .table false false entries
      return ((key, implied innermost (header.element && arrays.contains [key.name]) inner), rest)

/-- Reads the tables that follow and stand below the path of a table, into its entries. -/
def takeBelow : Nat → List (List Text) → List Text → Entries → Text → Except Flaw (Entries × Text)
  | 0, _, _, _, _ => .error .malformed
  | fuel + 1, arrays, path, entries, text => do
    if text.isEmpty then return (entries, text)
    else do
      let (next, _) ← takeHeaderFront text
      if leadsBelow next.path path then do
        let (child, rest) ← takeTable fuel arrays path text
        takeBelow fuel arrays path (← layTable entries child) rest
      else return (entries, text)

/-- Reads the tables that follow and belong to the array at a path. -/
def takeElements : Nat → List (List Text) → List Text → Text → Except Flaw (List Entries × Text)
  | 0, _, _, _ => .error .malformed
  | fuel + 1, arrays, path, text => do
    if text.isEmpty then return ([], text)
    else do
      let (next, _) ← takeHeaderFront text
      if next = ⟨path, true⟩ then do
        let ((_, item), rest) ← takeTable fuel arrays path text
        let (more, rest) ← takeElements fuel arrays path rest
        return (item.entries :: more, rest)
      else return ([], text)

end

/-! ## The whole file -/

/-- A flaw in laying something down outermost makes the file malformed. -/
def outermost {α : Type} (r : Except Flaw α) : Except Flaw α := r.mapError fun _ => .malformed

/-- Reads the tables of a file. -/
def takeTables : Nat → Entries → Text → Except Flaw Entries
  | 0, _, _ => .error .malformed
  | fuel + 1, entries, text => do
    if text.isEmpty then return entries
    else do
      let ((key, item), rest) ← takeTable (text.length + 1) [] [] text
      takeTables fuel (← outermost (entries.append true key item)) rest

/-- The tables of a configuration file. -/
def read (text : Text) : Except Flaw (Mapping Value) := do
  let putOutermost (entries : Entries) (path : List Text) (v : Value) := outermost (entries.put true path v)
  let (entries, rest) ← takeBody putOutermost (text.length + 1) [] text
  let entries ← takeTables (rest.length + 1) entries rest
  Entries.values entries

end SpecAtlas.Toml
