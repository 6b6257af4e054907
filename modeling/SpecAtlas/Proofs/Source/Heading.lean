import Mathlib.Data.List.TakeWhile
import SpecAtlas.Proofs.Source.Run
import SpecAtlas.Proofs.Value.Passing

/-!
# Written headings

`classLine` and `methodLine` write headings the way a formatter would, and the readers of headings
get back what was written:

1. a class line declares its class, whatever words the name is made of (`read?_classLine`);
2. a method line with a quoted name is the heading of that method (`read?_methodLine_quoted`), and no
   heading at all if there is a quote of the other kind in the name (`read?_methodLine_otherQuote`);
3. a method line with a plain name is at most the heading of a method whose name is not quoted
   (`isQuoted_of_methodLine`).

A method line declares no class and no type, and every heading opens one brace more than it closes.
-/

namespace SpecAtlas.Source

open Text

/-! ## What is written -/

/-- The heading line of a specification class. -/
def classLine (isAbstract : Bool) (name : Text) : Text :=
  (if isAbstract then "abstract ".toList else []) ++
    ("class".toList ++ ' ' :: (name ++ ' ' :: "extends Specification \x7b".toList))

/-- The heading line of a method; the name stands in it as it is written. -/
def methodLine (written : Text) : Text := "def".toList ++ ' ' :: (written ++ "() \x7b".toList)

/-- Whether a character may stand in an identifier. -/
def isIdentChar (c : Char) : Bool := isWord c || c == '$'

/-! ## Braces -/

theorem braceDelta_append (first rest : Text) :
    braceDelta (first ++ rest) = braceDelta first + braceDelta rest := by
  unfold braceDelta
  rw [List.count_append, List.count_append]
  omega

/-- Without braces nothing is opened or closed. -/
theorem braceDelta_of_not_mem {text : Text} (ho : '{' ∉ text) (hc : '}' ∉ text) : braceDelta text = 0 := by
  rw [braceDelta, List.count_eq_zero.2 ho, List.count_eq_zero.2 hc]
  rfl

theorem braceDelta_methodLine {written : Text} (ho : '{' ∉ written) (hc : '}' ∉ written) :
    braceDelta (methodLine written) = 1 := by
  have hparts : methodLine written = "def ".toList ++ (written ++ "() \x7b".toList) := rfl
  rw [hparts, braceDelta_append, braceDelta_append, braceDelta_of_not_mem ho hc]
  rfl

/-! ## White space -/

/-- A heading as it is written: no white space in front, and an opening brace at the end. -/
def IsEnclosed (text : Text) : Prop := ∃ first inside, isBlank first = false ∧ text = first :: (inside ++ ['{'])

theorem isEnclosed_classLine (isAbstract : Bool) (name : Text) : IsEnclosed (classLine isAbstract name) := by
  cases isAbstract with
  | true =>
      exact ⟨'a', "bstract class ".toList ++ name ++ " extends Specification ".toList, by decide,
        by simp [classLine]⟩
  | false =>
      exact ⟨'c', "lass ".toList ++ name ++ " extends Specification ".toList, by decide, by simp [classLine]⟩

theorem isEnclosed_methodLine (written : Text) : IsEnclosed (methodLine written) :=
  ⟨'d', "ef ".toList ++ written ++ "() ".toList, by decide, by simp [methodLine]⟩

/-- There is nothing to trim. -/
theorem IsEnclosed.trim_eq {text : Text} (h : IsEnclosed text) : trim text = text := by
  obtain ⟨first, inside, hfirst, rfl⟩ := h
  exact trim_enclosed hfirst (by decide) inside

/-- There are no carriage returns at the end, whatever stands in front. -/
theorem IsEnclosed.dropReturns_eq {text : Text} (h : IsEnclosed text) (front : Text) :
    dropReturns (front ++ text) = front ++ text := by
  obtain ⟨first, inside, -, rfl⟩ := h
  refine dropRight_of_getLast fun c hc => ?_
  rw [← List.cons_append, ← List.append_assoc, List.getLast?_concat] at hc
  obtain rfl : '{' = c := Option.some.inj hc
  decide

/-! ## Class lines -/

theorem classLine_true (name : Text) :
    classLine true name = "abstract".toList ++ ' ' :: classLine false name := rfl

theorem words_classLine (name : Text) :
    words (classLine false name) =
      "class".toList :: words (name ++ ' ' :: "extends Specification \x7b".toList) := by
  have hparts : classLine false name =
      "class".toList ++ ' ' :: (name ++ ' ' :: "extends Specification \x7b".toList) := rfl
  rw [hparts, words_append (by decide) (not_blank_of_any (by decide)) (by decide)]

theorem declaredClass?_classLine {name : Text} (hne : name ≠ []) (hword : name.all isWord = true) :
    declaredClass? (words (classLine false name)) = some name := by
  have hblank : ∀ c ∈ name, isBlank c = false := fun c hc => isBlank_of_isWord (List.all_eq_true.1 hword c hc)
  have hrest : words "extends Specification \x7b".toList =
      ["extends".toList, "Specification".toList, ['{']] := by decide
  have hbase : namesSpecification "Specification".toList = true := by decide
  rw [words_classLine, words_append hne hblank (by decide), hrest]
  simp only [declaredClass?, hword, hbase, decide_true, Bool.and_self, if_true]

/-- A class line declares its class. -/
theorem read?_classLine (isAbstract : Bool) {name : Text} (hne : name ≠ []) (hword : name.all isWord = true) :
    ClassHeading.read? (classLine isAbstract name) = some ⟨name, isAbstract⟩ := by
  have hclass := declaredClass?_classLine hne hword
  cases isAbstract with
  | true =>
      rw [ClassHeading.read?, classLine_true,
        words_append (by decide) (not_blank_of_any (by decide)) (by decide)]
      simp only [if_true, hclass, Option.map_some]
  | false =>
      have hother : "class".toList ≠ "abstract".toList := by decide
      rw [words_classLine] at hclass
      rw [ClassHeading.read?, words_classLine]
      simp only [if_neg hother, hclass, Option.map_some]

/-- A class line opens the body of its class. -/
theorem braceDelta_classLine (isAbstract : Bool) {name : Text} (hword : name.all isWord = true) :
    braceDelta (classLine isAbstract name) = 1 := by
  have ho : '{' ∉ name := fun hm => absurd (List.all_eq_true.1 hword _ hm) (by decide)
  have hc : '}' ∉ name := fun hm => absurd (List.all_eq_true.1 hword _ hm) (by decide)
  have hparts : classLine isAbstract name = (if isAbstract then "abstract ".toList else []) ++
      ("class ".toList ++ (name ++ " extends Specification \x7b".toList)) := rfl
  rw [hparts, braceDelta_append, braceDelta_append, braceDelta_append, braceDelta_of_not_mem ho hc]
  cases isAbstract <;> rfl

/-! ## Method lines -/

theorem words_methodLine (written : Text) :
    words (methodLine written) = "def".toList :: words (written ++ "() \x7b".toList) :=
  words_append (by decide) (not_blank_of_any (by decide)) (by decide) _

/-- A method line declares no specification class. -/
theorem declaresClass_methodLine (written : Text) : ClassHeading.read? (methodLine written) = none := by
  rw [ClassHeading.read?, words_methodLine]
  generalize words (written ++ "() \x7b".toList) = rest
  have hclass : declaredClass? ("def".toList :: rest) = none := by
    match rest with
    | [] | [_] | [_, _] => rfl
    | _ :: _ :: _ :: _ => rfl
  have hother : "def".toList ≠ "abstract".toList := by decide
  simp only [if_neg hother, hclass, Option.map_none]

/-- A method line declares no type. -/
theorem isTypeHeading_methodLine (written : Text) : isTypeHeading (methodLine written) = false := by
  rw [isTypeHeading, words_methodLine]
  cases words (written ++ "() \x7b".toList) with
  | nil => rfl
  | cons name rest => rfl

theorem headingEnd?_parameters : headingEnd? "() \x7b".toList = some true := by decide

theorem after?_methodLine (written : Text) :
    (after? "def".toList (methodLine written)).or (after? "void".toList (methodLine written)) =
      some (' ' :: (written ++ "() \x7b".toList)) := rfl

theorem isQuote_double : isQuote '"' = true := rfl

/-- The name of a method line begins behind one space. -/
theorem afterBlank?_methodLine {c : Char} (hb : isBlank c = false) (rest : Text) :
    afterBlank? (' ' :: (c :: rest ++ "() \x7b".toList)) = some (c :: rest ++ "() \x7b".toList) := by
  show some (trimLeft (c :: rest ++ "() \x7b".toList)) = _
  rw [trimLeft, List.cons_append, List.dropWhile_cons_of_neg (by simp [hb])]

/-- A method line with a quoted name is the heading of that method. -/
theorem read?_methodLine_quoted {q : Char} (hq : isQuote q = true) {name : Text} (hne : name ≠ [])
    (hname : name.any isQuote = false) :
    MethodHeading.read? (methodLine (q :: (name ++ [q]))) = some ⟨name, true, true⟩ := by
  have hkeep : ∀ c ∈ name, (!isQuote c) = true := fun c hc => by simpa using List.any_eq_false.1 hname c hc
  have hspan : (name ++ [q] ++ "() \x7b".toList).span (fun c => !isQuote c) = (name, q :: "() \x7b".toList) := by
    rw [List.append_assoc]
    exact span_append hkeep (by rw [hq]; rfl) _
  have htake : takeQuotedName? (q :: (name ++ [q]) ++ "() \x7b".toList) = some (name, "() \x7b".toList) := by
    rw [List.cons_append, takeQuotedName?, if_pos hq, hspan]
    cases name with
    | nil => exact absurd rfl hne
    | cons c name => exact if_pos rfl
  rw [MethodHeading.read?, after?_methodLine]
  simp only [Option.bind_eq_bind, Option.bind_some, afterBlank?_methodLine (isBlank_of_isQuote hq), htake,
    headingEnd?_parameters]
  rfl

/-- A name in quotes of one kind that has a quote of the other kind in it is not read. -/
theorem takeQuotedName?_otherQuote {q : Char} (hq : isQuote q = true) {name : Text} (hown : q ∉ name)
    (hname : name.any isQuote = true) (rest : Text) : takeQuotedName? (q :: (name ++ q :: rest)) = none := by
  have hstop : (fun c => !isQuote c) q = false := by simp [hq]
  have hspan : (name ++ q :: rest).span (fun c => !isQuote c) =
      (name.takeWhile (fun c => !isQuote c), name.dropWhile (fun c => !isQuote c) ++ q :: rest) := by
    rw [List.span_eq_takeWhile_dropWhile, takeWhile_append_stop hstop, dropWhile_append_stop hstop]
  cases hbehind : name.dropWhile (fun c => !isQuote c) with
  | nil =>
      obtain ⟨o, ho, hquote⟩ := List.any_eq_true.1 hname
      have hnone := List.dropWhile_eq_nil_iff.1 hbehind o ho
      rw [hquote] at hnone
      contradiction
  | cons other behind =>
      have hne : other ≠ q := fun he => hown (he ▸ (List.dropWhile_sublist _).subset (hbehind ▸ List.mem_cons_self))
      rw [takeQuotedName?, if_pos hq, hspan, hbehind]
      cases name.takeWhile (fun c => !isQuote c) with
      | nil => rfl
      | cons c front => exact if_neg hne

/-- A method line is no heading if its name, written in quotes of one kind, has a quote of the other
kind in it. -/
theorem read?_methodLine_otherQuote {q : Char} (hq : isQuote q = true) {name : Text} (hown : q ∉ name)
    (hname : name.any isQuote = true) : MethodHeading.read? (methodLine (q :: (name ++ [q]))) = none := by
  have hparts : q :: (name ++ [q]) ++ "() \x7b".toList = q :: (name ++ q :: "() \x7b".toList) := by simp
  have hbehind := afterBlank?_methodLine (isBlank_of_isQuote hq) (name ++ [q])
  have htake := takeQuotedName?_otherQuote hq hown hname "() \x7b".toList
  have hident : takeIdentifier? (q :: (name ++ q :: "() \x7b".toList)) = none := by
    have hstart : isIdentStart q = false := by
      rcases Bool.or_eq_true_iff.1 hq with he | he <;> rw [beq_iff_eq.1 he] <;> decide
    rw [takeIdentifier?, if_neg (by simp [hstart])]
  rw [hparts] at hbehind
  rw [MethodHeading.read?, after?_methodLine]
  simp only [Option.bind_eq_bind, Option.bind_some, hparts, hbehind, htake, hident, Option.map_none,
    Option.bind_none]

/-- A method line with a name that does not begin with a quote is at most the heading of a method
whose name is not quoted. -/
theorem isQuoted_of_methodLine {c : Char} (hb : isBlank c = false) (hq : isQuote c = false) {rest : Text}
    {heading : MethodHeading} (h : MethodHeading.read? (methodLine (c :: rest)) = some heading) :
    heading.isQuoted = false := by
  have htake : takeQuotedName? (c :: rest ++ "() \x7b".toList) = none := by
    rw [List.cons_append, takeQuotedName?, if_neg (by simp [hq])]
  rw [MethodHeading.read?, after?_methodLine] at h
  simp only [Option.bind_eq_bind, Option.bind_some, afterBlank?_methodLine hb, htake] at h
  obtain ⟨⟨quoted, name, behind⟩, hname, h⟩ := Option.bind_eq_some_iff.1 h
  obtain ⟨⟨name', behind'⟩, -, hpair⟩ := Option.map_eq_some_iff.1 hname
  obtain ⟨opens, -, hheading⟩ := Option.bind_eq_some_iff.1 h
  cases hpair
  cases hheading
  rfl

end SpecAtlas.Source
