import SpecAtlas.Text.Blank

/-!
# Text

A text is a list of characters, so columns and lengths count code points. This module holds the
cutting and trimming that the readers of this library share:

* `trim` removes white space from both ends;
* `after?` drops a literal lead, `cut?` divides a text at the first place where a mark occurs;
* `pieces` divides at every occurrence of one character, `splitText` at every occurrence of a
  mark, from left to right and without overlap.

Nothing is lost by a division: the parts and the marks between them give back the text.
-/

namespace SpecAtlas

/-- A text: a sequence of Unicode characters. -/
abbrev Text := List Char

namespace Text

/-! ## Trimming -/

/-- A text without the white space at its front. -/
def trimLeft (text : Text) : Text := text.dropWhile isBlank

/-- A text without the characters at its end that satisfy `p`. -/
def dropRight (p : Char → Bool) (text : Text) : Text := (text.reverse.dropWhile p).reverse

/-- A text without the white space at its end. -/
def trimRight (text : Text) : Text := dropRight isBlank text

/-- A text without the white space at its ends. -/
def trim (text : Text) : Text := trimRight (trimLeft text)

/-- Whether a text holds nothing but white space. -/
def allBlank (text : Text) : Bool := text.all isBlank

/-! ## Literal leads and marks -/

/-- What follows `lead` in a text that begins with it. -/
def after? : Text → Text → Option Text
  | [], text => some text
  | _ :: _, [] => none
  | l :: lead, c :: text => if l = c then after? lead text else none

theorem after?_eq_some {lead text rest : Text} : after? lead text = some rest ↔ text = lead ++ rest := by
  fun_induction after? lead text with
  | case1 => simp [eq_comm]
  | case2 => simp
  | case3 l lead text ih => simpa using ih
  | case4 l lead c text h => simp [eq_comm, h]

@[simp] theorem after?_append (lead rest : Text) : after? lead (lead ++ rest) = some rest :=
  after?_eq_some.2 rfl

/-- Whether a text begins with `lead`. -/
def startsWith (lead text : Text) : Bool := (after? lead text).isSome

/-- Whether a text ends with `tail`. -/
def endsWith (tail text : Text) : Bool := (after? tail.reverse text.reverse).isSome

/-- The parts of a text before and after the first occurrence of `mark`. -/
def cut? (mark : Text) : Text → Option (Text × Text)
  | [] => if mark = [] then some ([], []) else none
  | c :: text =>
    match after? mark (c :: text) with
    | some rest => some ([], rest)
    | none => (cut? mark text).map fun (before, rest) => (c :: before, rest)

/-- A division at a mark loses nothing. -/
theorem eq_of_cut? {mark text before rest : Text} (h : cut? mark text = some (before, rest)) :
    text = before ++ mark ++ rest := by
  induction text generalizing before with
  | nil =>
    simp only [cut?] at h
    split at h <;> simp_all
  | cons c text ih =>
    simp only [cut?] at h
    split at h
    · rename_i r hr
      simp only [Option.some.injEq, Prod.mk.injEq] at h
      obtain ⟨rfl, rfl⟩ := h
      simpa using after?_eq_some.1 hr
    · obtain ⟨⟨b, r⟩, hb, he⟩ := Option.map_eq_some_iff.1 h
      simp only [Prod.mk.injEq] at he
      obtain ⟨rfl, rfl⟩ := he
      simp [ih hb]

/-- What stands after a mark that is not empty is shorter than the text. -/
theorem length_lt_of_cut? {mark text before rest : Text} (hm : mark ≠ [])
    (h : cut? mark text = some (before, rest)) : rest.length < text.length := by
  have := List.length_pos_iff.2 hm
  simp [eq_of_cut? h]
  omega

/-- Whether `mark` occurs in a text. -/
def hasMark (mark text : Text) : Bool := (cut? mark text).isSome

/-! ## Dividing at every mark -/

/-- The pieces of a text between the occurrences of one character; there is always one. -/
def pieces (sep : Char) : Text → List Text
  | [] => [[]]
  | c :: text =>
    if c = sep then [] :: pieces sep text
    else
      match pieces sep text with
      | [] => [[c]]
      | first :: rest => (c :: first) :: rest

theorem pieces_ne_nil (sep : Char) (text : Text) : pieces sep text ≠ [] := by
  cases text with
  | nil => simp [pieces]
  | cons c text =>
    simp only [pieces]
    split
    · simp
    · split <;> simp

/-- The lines of a text, as the line feeds divide it. -/
def lines (text : Text) : List Text := pieces '\n' text

/-- The pieces of a text between the occurrences of a mark, found from left to right. An empty mark
divides nothing. -/
def splitText (mark : Text) (text : Text) : List Text :=
  if _hm : mark = [] then [text]
  else
    match _h : cut? mark text with
    | none => [text]
    | some (before, rest) => before :: splitText mark rest
termination_by text.length
decreasing_by exact length_lt_of_cut? ‹_› ‹_›

/-- How often a mark occurs in a text, counted from left to right without overlap. -/
def occurrences (mark text : Text) : Nat := (splitText mark text).length - 1

/-- The occurrences of `c` that have no `c` beside them; `last` says whether a `c` stands just
before the text. -/
def countAlone (c : Char) : Bool → Text → Nat
  | _, [] => 0
  | last, x :: text =>
    (if x = c && !last && text.head? != some c then 1 else 0) + countAlone c (x == c) text

/-- The pieces joined with a separator between them. -/
def join (sep : Text) (parts : List Text) : Text := sep.intercalate parts

theorem join_cons_of_ne_nil (sep first : Text) {rest : List Text} (h : rest ≠ []) :
    join sep (first :: rest) = first ++ sep ++ join sep rest := by
  obtain ⟨next, rest, rfl⟩ := List.exists_cons_of_ne_nil h
  simp [join]

/-- A division at every occurrence of a character loses nothing. -/
theorem join_pieces (sep : Char) (text : Text) : join [sep] (pieces sep text) = text := by
  induction text with
  | nil => simp [pieces, join]
  | cons c text ih =>
    simp only [pieces]
    split
    · rename_i h
      rw [join_cons_of_ne_nil _ _ (pieces_ne_nil sep text), ih, h]
      rfl
    · split
      · rename_i he
        exact absurd he (pieces_ne_nil sep text)
      · rename_i first rest he
        rw [he] at ih
        cases rest with
        | nil => simpa [join] using ih
        | cons next rest => simpa [join] using ih

/-- The words of a text: its longest runs without white space. -/
def words (text : Text) : List Text := (splitWords text).filter (· ≠ [])
where
  /-- The runs between white space, the empty ones included. -/
  splitWords : Text → List Text
    | [] => [[]]
    | c :: text =>
      if isBlank c then [] :: splitWords text
      else
        match splitWords text with
        | [] => [[c]]
        | first :: rest => (c :: first) :: rest

/-! ## Line ends -/

/-- A text with every line end, `\r\n` or a lone `\r`, written as a line feed. -/
def unifyLines : Text → Text
  | [] => []
  | '\r' :: '\n' :: text => '\n' :: unifyLines text
  | '\r' :: text => '\n' :: unifyLines text
  | c :: text => c :: unifyLines text

/-- A line without the carriage returns at its end. -/
def dropReturns (line : Text) : Text := dropRight (· == '\r') line

end Text

end SpecAtlas
