import SpecAtlas.Text.Basic

/-!
# Patterns for names

A pattern for one component of a path. `?` stands for any character and `*` for any run of
characters. `[…]` stands for one character of a set, `[!…]` for one that is not in the set; a
bracket that is never closed stands for itself. Every other character stands for itself, also a
point at the front of a name.

A set lists characters and ranges. Its first character is never the hyphen of a range, and a closing
bracket in that place belongs to the set; a hyphen at the end stands for itself. A range that runs
downwards is empty and drops out; whether a set is negated is seen from what is left.
-/

namespace SpecAtlas.File

/-- One position of a name pattern. -/
inductive NameStep where
  | char (c : Char)
  | any
  | run
  /-- One character in one of the ranges, or in none of them. -/
  | set (negated : Bool) (ranges : List (Char × Char))
  deriving DecidableEq, Repr

/-- A pattern for one component of a path. -/
abbrev NamePattern := List NameStep

namespace NamePattern

/-! ## Sets -/

/-- The parts of the inside of a bracket between the hyphens of its ranges. `lead` characters at the
front cannot be the hyphen of a range. -/
def chunks (fuel lead : Nat) (inside : Text) : List Text :=
  match fuel with
  | 0 => [inside]
  | fuel + 1 =>
    match (inside.drop lead).span (· != '-') with
    | (_, []) => [inside]
    | (before, _ :: rest) =>
      if rest.isEmpty then [inside] else (inside.take lead ++ before) :: chunks fuel 2 rest

/-- The chunks without the ranges that run downwards: there the neighbours grow together. -/
def mergeChunks : List Text → List Text
  | [] => []
  | chunk :: rest =>
    match mergeChunks rest with
    | [] => [chunk]
    | next :: rest =>
      match chunk.getLast?, next.head? with
      | some low, some high =>
        if high < low then (chunk.dropLast ++ next.drop 1) :: rest else chunk :: next :: rest
      | _, _ => chunk :: next :: rest

/-- A character as a range. -/
def single (c : Char) : Char × Char := (c, c)

/-- The ranges that chunks make up: between two neighbours stands a range, everything else is single
characters. A hyphen with nothing in front of it stands for itself. -/
def ranges : List Text → List (Char × Char)
  | [] => []
  | [chunk] => chunk.map single
  | chunk :: next :: rest =>
    match chunk.getLast?, next.head? with
    | some low, some high => chunk.dropLast.map single ++ (low, high) :: ranges (next.drop 1 :: rest)
    | _, _ => single '-' :: ranges (next :: rest)
termination_by chunks => chunks.length

/-- What the inside of a bracket stands for. -/
def bracket (inside : Text) : NameStep :=
  match mergeChunks (chunks inside.length (if inside.head? = some '!' then 2 else 1) inside) with
  | ['!'] :: [] => .any
  | ('!' :: first) :: rest => .set true (ranges (first :: rest))
  | kept => .set false (ranges kept)

/-- How many characters behind an opening bracket cannot close it. -/
def bracketLead : Text → Nat
  | '!' :: ']' :: _ => 2
  | '!' :: _ => 1
  | ']' :: _ => 1
  | _ => 0

/-- The inside of a bracket from behind its opening, and what follows the bracket. -/
def takeBracket? (text : Text) : Option (Text × Text) :=
  let (lead, behind) := (text.take (bracketLead text), text.drop (bracketLead text))
  match behind.dropWhile (· != ']') with
  | [] => none
  | _ :: rest => some (lead ++ behind.takeWhile (· != ']'), rest)

theorem length_lt_of_takeBracket? {text inside rest : Text} (h : takeBracket? text = some (inside, rest)) :
    rest.length < text.length := by
  simp only [takeBracket?] at h
  split at h
  · simp at h
  · rename_i c r hr
    simp only [Option.some.injEq, Prod.mk.injEq] at h
    obtain ⟨-, rfl⟩ := h
    have hd := (List.dropWhile_sublist (· != ']') (l := text.drop (bracketLead text))).length_le
    rw [hr, List.length_drop, List.length_cons] at hd
    omega

/-! ## Patterns -/

/-- The pattern that a text writes. -/
def read (text : Text) : NamePattern :=
  match text with
  | [] => []
  | '*' :: rest => .run :: read rest
  | '?' :: rest => .any :: read rest
  | '[' :: rest =>
    match h : takeBracket? rest with
    | some (inside, behind) =>
      have := Nat.lt_succ_of_lt (length_lt_of_takeBracket? h)
      bracket inside :: read behind
    | none => .char '[' :: read rest
  | c :: rest => .char c :: read rest
termination_by text.length

/-- Whether a position stands for a character; a run does not count here. -/
def NameStep.admits (step : NameStep) (c : Char) : Bool :=
  match step with
  | .char d => c == d
  | .any => true
  | .run => false
  | .set negated ranges => (ranges.any fun (low, high) => low ≤ c && c ≤ high) != negated

/-- Whether a pattern stands for a name. -/
def fits : NamePattern → Text → Bool
  | [], [] => true
  | [], _ :: _ => false
  | .run :: pattern, [] => fits pattern []
  | .run :: pattern, c :: name => fits pattern (c :: name) || fits (.run :: pattern) name
  | _ :: _, [] => false
  | step :: pattern, c :: name => NameStep.admits step c && fits pattern name

end NamePattern

end SpecAtlas.File
