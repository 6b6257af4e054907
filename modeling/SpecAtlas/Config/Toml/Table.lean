import SpecAtlas.Value
import SpecAtlas.Config.Toml.Flaw

/-!
# Tables of a configuration file

A configuration file builds a tree of tables, statement by statement. A table is *implied* if it has
no header of its own, but a table below it has one, or a dotted key leads through it.

A key may come up again only with a table, and what becomes of it depends on the two tables:

* an implied table and one with a header stand side by side, unless dotted keys implied it before;
* two implied tables grow into one, if no other table has come up in between and no dotted key
  implied one of them; else they stand side by side;
* arrays of tables are continued by arrays and by single elements;
* everything else is a repeated key.

Tables that stand side by side under a key count as one table with the entries of all. That table
may have repeated keys itself, which shows when the key is looked up.

Every step goes down into the tables by at least one level, so their depth bounds the recursion.
-/

namespace SpecAtlas.Toml

/-- A key of an entry, and whether a dotted key wrote it that goes on behind it. -/
structure Key where
  name : Text
  dotted : Bool
  deriving DecidableEq, Repr

/-- What stands at a key of a table. -/
inductive Item where
  | value (v : Value)
  /-- A table; `element` says that it belongs into an array. -/
  | table (implied element : Bool) (entries : List (Key × Item))
  | tables (elements : List (List (Key × Item)))

/-- The entries of a table in the order in which they were written. A key may have several. -/
abbrev Entries := List (Key × Item)

/-- The entries of an item that is a table. -/
def Item.entries : Item → Entries
  | table _ _ entries => entries
  | _ => []

/-- Whether an item is a table. -/
def Item.isTable : Item → Bool
  | table .. => true
  | _ => false

mutual

/-- How many levels of tables an item has. -/
def Item.depth : Item → Nat
  | .value _ => 0
  | .table _ _ entries => entriesDepth entries + 1
  | .tables elements => elementsDepth elements + 1

/-- How many levels of tables there are among some entries. -/
def entriesDepth : List (Key × Item) → Nat
  | [] => 0
  | (_, item) :: rest => max item.depth (entriesDepth rest)

/-- How many levels of tables there are in an array. -/
def elementsDepth : List (List (Key × Item)) → Nat
  | [] => 0
  | entries :: rest => max (entriesDepth entries) (elementsDepth rest)

end

namespace Entries

/-! ## Looking up -/

/-- The entries with a key. -/
def named (entries : Entries) (name : Text) : Entries := entries.filter fun e => e.1.name = name

/-- The keys in the order of their first entries. -/
def names (entries : Entries) : List Text := (entries.map fun e => e.1.name).eraseDups

/-- The entries with one more at the end; a key that is present must belong to a table. -/
def add (entries : Entries) (key : Key) (item : Item) : Except Flaw Entries :=
  if (entries.named key.name).getLast?.all fun e => e.2.isTable then .ok (entries ++ [(key, item)])
  else .error (.repeated key.name)

/-- The entries of all tables among some entries. -/
def inner (entries : Entries) : Entries := entries.flatMap fun e => e.2.entries

/-- The one table that tables side by side count as. -/
def joined (found : Entries) : Except Flaw Entries := found.inner.foldlM (fun es e => add es e.1 e.2) []

/-- What stands at a key: nothing, one entry, or several with the table that they count as. -/
def lookUp (entries : Entries) (name : Text) : Except Flaw Entries :=
  let found := entries.named name
  if found.length < 2 then .ok found else (joined found).map fun _ => found

/-! ## Writing -/

/-- The entries with another item in the last entry of a key. -/
def replaceLast (name : Text) (item : Item) : Entries → Entries
  | [] => []
  | e :: rest =>
    if e.1.name = name && (Entries.named rest name).isEmpty then (e.1, item) :: rest
    else e :: replaceLast name item rest

/-- The entries with one entry for a key, in the place of its first one. -/
def replaceAll (key : Key) (item : Item) (entries : Entries) : Entries :=
  let (before, behind) := entries.span fun e => e.1.name ≠ key.name
  before ++ (key, item) :: behind.filter fun e => e.1.name ≠ key.name

/-- The key of the last entry that is a table. -/
def lastTable? (entries : Entries) : Option Text :=
  ((entries.filter fun e => e.2.isTable).getLast?).map fun e => e.1.name

mutual

/-- Writes an item at a key. With `checked`, tables that come to stand side by side are tried out as
one table. -/
def appendWithin : Nat → Bool → Entries → Key → Item → Except Flaw Entries
  | 0, _, _, _, _ => .error .malformed
  | fuel + 1, checked, entries, key, item => do
    match (← lookUp entries key.name).getLast?, item with
    | none, _ => add entries key item
    | some (_, .tables elements), .table _ true inner =>
      return replaceLast key.name (.tables (elements ++ [inner])) entries
    | some (_, .tables elements), .tables more =>
      return replaceLast key.name (.tables (elements ++ more)) entries
    | some (_, .table _ _ under), .table _ true inner => return replaceAll key (.tables [under, inner]) entries
    | some (other, .table true element under), .table true false inner =>
      if key.dotted || other.dotted || lastTable? entries ≠ some key.name then do
        let entries ← add entries key item
        if checked then checkKey fuel entries key.name
        return entries
      else do
        let grown ← growWithin fuel under inner
        return replaceLast key.name (.table true element grown) entries
    | some (other, .table true _ _), .table false false _ =>
      if other.dotted then .error .reopened else add entries key item
    | some (_, .table false _ _), .table true false _ => add entries key item
    | _, _ => .error (.repeated key.name)

/-- A table with the entries of another one. -/
def growWithin : Nat → Entries → Entries → Except Flaw Entries
  | 0, _, _ => .error .malformed
  | fuel + 1, under, inner =>
    inner.foldlM (fun entries e => do
      let entries ← appendWithin fuel true entries e.1 e.2
      let _ ← lookUp entries e.1.name
      return entries) under

/-- Tries out whether tables that stand side by side at a key can be one table. -/
def checkKey : Nat → Entries → Text → Except Flaw Unit
  | 0, _, _ => .error .malformed
  | fuel + 1, entries, name =>
    let found := Entries.named entries name
    if found.length < 2 then .ok ()
    else do
      let trial ← found.inner.foldlM (fun es e => appendWithin fuel false es e.1 e.2) []
      trial.names.forM (checkKey fuel trial)

end

/-- Writes an item at a key. -/
def append (checked : Bool) (entries : Entries) (key : Key) (item : Item) : Except Flaw Entries :=
  appendWithin (2 * (entriesDepth entries + item.depth) + 2) checked entries key item

/-- Tries out whether the tables that stand side by side can be one table, key by key. -/
def check (entries : Entries) : Except Flaw Unit :=
  entries.names.forM (checkKey (2 * entriesDepth entries + 2) entries)

/-- A value below the parts of a dotted key, as an item. -/
def nested (v : Value) : List Text → Item
  | [] => .value v
  | part :: rest => .table true false [(⟨part, !rest.isEmpty⟩, nested v rest)]

/-- Writes a value at a dotted key. -/
def put (checked : Bool) (entries : Entries) (path : List Text) (v : Value) : Except Flaw Entries :=
  match path with
  | [] => .error .malformed
  | [name] => entries.append checked ⟨name, false⟩ (.value v)
  | name :: rest => entries.append true ⟨name, true⟩ (nested v rest)

/-! ## Values -/

mutual

/-- The entries of a table as values. -/
def valuesWithin : Nat → Entries → Except Flaw (Mapping Value)
  | 0, _ => .error .malformed
  | fuel + 1, entries =>
    entries.names.mapM fun name => do
      match Entries.named entries name with
      | [(_, item)] => return (name, ← valueWithin fuel item)
      | found => return (name, .map (← valuesWithin fuel (← joined found)))

/-- An item as a value. -/
def valueWithin : Nat → Item → Except Flaw Value
  | 0, _ => .error .malformed
  | _ + 1, .value v => .ok v
  | fuel + 1, .table _ _ entries => (valuesWithin fuel entries).map .map
  | fuel + 1, .tables elements => do return .list (← elements.mapM fun entries => .map <$> valuesWithin fuel entries)

end

/-- The entries of a table as values. -/
def values (entries : Entries) : Except Flaw (Mapping Value) :=
  valuesWithin (2 * entriesDepth entries + 2) entries

end Entries

end SpecAtlas.Toml
