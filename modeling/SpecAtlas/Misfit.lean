import SpecAtlas.Value.Detail
import SpecAtlas.Value.Kind

/-!
# Misfits

Settings are values of any kind, and what reads one asks for a certain form: a mapping, a list, a
path, a pattern. A misfit says which form was asked for and what was there instead. An option of the
command line may have an empty list for its argument, which does not fit everywhere either.
-/

namespace SpecAtlas

/-- What is wrong with a value that has not the form that is asked for. -/
inductive Misfit where
  /-- A value of another kind in the place of a mapping that is read. -/
  | noTable (kind : Text)
  /-- A value of another kind in the place of a mapping that gets an entry. -/
  | noEntries (kind : Text)
  /-- A list in the place of a mapping that gets an entry. -/
  | listNoEntries
  /-- A value of another kind in the place of a list. -/
  | noList (kind : Text)
  /-- A list or a mapping in the place of a name. -/
  | noName (kind : Text)
  /-- A value of another kind in the place of a path. -/
  | noPath (kind : Text)
  /-- A value in the place of a pattern that counts as nothing. -/
  | noPattern (shown : Text)
  /-- A number or the like in the place of a pattern. -/
  | patternScalar (kind : Text)
  /-- A list in the place of a pattern, with a slash at its front. -/
  | patternListRooted
  /-- A list in the place of a pattern, with a slash further on. -/
  | patternListDivided
  /-- Any other list in the place of a pattern. -/
  | patternList
  /-- A mapping in the place of a pattern. -/
  | patternTable
  /-- A list in the place of a file. -/
  | listNoFile
  /-- A list in the place of a text that is searched for. -/
  | listNoSearch
  deriving DecidableEq, Repr

namespace Misfit

/-- The last part of a kind's name. -/
def shortKind (kind : Text) : Text := ((Text.pieces '.' kind).getLast?).getD kind

/-- A message about an object of a kind. -/
def aboutObject (kind : Text) (what : String) : Text := '\'' :: kind ++ "' object ".toList ++ what.toList

/-- The message for a misfit. -/
def message : Misfit → Text
  | noTable kind => aboutObject kind "has no attribute 'get'"
  | noEntries kind => aboutObject kind "does not support item assignment"
  | listNoEntries => "list indices must be integers or slices, not str".toList
  | noList kind => aboutObject kind "is not iterable"
  | noName kind => "unhashable type: '".toList ++ kind ++ ['\'']
  | noPath kind => "expected str, bytes or os.PathLike object, not ".toList ++ shortKind kind
  | noPattern shown => "Unacceptable pattern: ".toList ++ shown
  | patternScalar kind => aboutObject kind "is not subscriptable"
  | patternListRooted => aboutObject "list".toList "has no attribute 'lstrip'"
  | patternListDivided => aboutObject "list".toList "has no attribute 'split'"
  | patternList => "intern() argument must be str, not list".toList
  | patternTable => ['0']
  | listNoFile => aboutObject "list".toList "has no attribute 'read_text'"
  | listNoSearch => "decoding to str: need a bytes-like object, list found".toList

end Misfit

/-! ## Asking for a form -/

namespace Value

/-- Whether a value is the text of a slash. -/
def isSlash : Value → Bool
  | .text t => t = ['/']
  | _ => false

/-- A value as a mapping that is read. -/
def asTable : Value → Except Misfit (Mapping Value)
  | .map entries => .ok entries
  | v => .error (.noTable v.kind)

/-- A value as a pattern. -/
def asPattern (v : Value) : Except Misfit Text :=
  match v with
  | .text t => .ok t
  | _ =>
    if v.isNothing then .error (.noPattern v.detail)
    else
      match v with
      | .list items =>
        if items.head?.any isSlash then .error .patternListRooted
        else if items.any isSlash then .error .patternListDivided
        else .error .patternList
      | .map _ => .error .patternTable
      | _ => .error (.patternScalar v.kind)

/-- The patterns that a value lists: the items of a list, the characters of a text, the keys of a
mapping. What lists nothing is itself the one pattern that does not fit. -/
def asPatterns (v : Value) : List (Except Misfit Text) :=
  if v.isNothing then []
  else
    match v with
    | .list items => items.map asPattern
    | .text t => t.map fun c => .ok [c]
    | .map entries => entries.map fun (key, _) => .ok key
    | _ => [.error (.noList v.kind)]

/-- A value as a name, if it is one. Scalars that are no texts are allowed where names stand. -/
def asName? : Value → Except Misfit (Option Text)
  | .text t => .ok (some t)
  | .list _ => .error (.noName "list".toList)
  | .map _ => .error (.noName "dict".toList)
  | _ => .ok none

/-- The names that a value lists, in the same way. -/
def asNames (v : Value) : Except Misfit (List Text) :=
  if v.isNothing then .ok []
  else
    match v with
    | .list items => do return (← items.mapM asName?).filterMap id
    | .text t => .ok (t.map fun c => [c])
    | .map entries => .ok (entries.map Prod.fst)
    | _ => .error (.noList v.kind)

/-- A value as a path; what counts as nothing is the empty path. -/
def asPath (v : Value) : Except Misfit Text :=
  if v.isNothing then .ok []
  else
    match v with
    | .text t => .ok t
    | _ => .error (.noPath v.kind)

/-- A mapping with one more entry. -/
def withEntry (v : Value) (key : Text) (entry : Value) : Except Misfit Value :=
  match v with
  | .map entries => .ok (.map (Mapping.put entries key entry))
  | .list _ => .error .listNoEntries
  | _ => .error (.noEntries v.kind)

end Value

end SpecAtlas
