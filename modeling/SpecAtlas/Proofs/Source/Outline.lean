import SpecAtlas.Proofs.Source.Balance
import SpecAtlas.Proofs.Source.Finding
import SpecAtlas.Proofs.Source.Heading

/-!
# Outlines of specification files

An outline says what a well-formed file is made of:

1. a file is a sequence of classes; a class is its heading, its members and a closing brace;
2. a member is a heading, a body and a closing brace: a feature with a quoted name, a lifecycle hook, a
   helper method without block labels, or a type of its own;
3. the braces of a body pair up and no line of it declares a specification class; the body of a method
   has no headings of methods or types either.

`fileOf` writes an outline down, and `specificationsFrom` is the tree that a reader has to find in what
is written.
-/

namespace SpecAtlas.Source

open Text

/-! ## Bodies -/

/-- The braces of lines pair up: they never close more than they have opened, and nothing stays
open. -/
structure Paired (lines : List Text) : Prop where
  nonneg : ∀ k, 0 ≤ balanceOf (lines.take k)
  total : balanceOf lines = 0

theorem paired_iff {lines : List Text} :
    Paired lines ↔ (∀ k ≤ lines.length, 0 ≤ balanceOf (lines.take k)) ∧ balanceOf lines = 0 := by
  constructor
  · rintro ⟨hnonneg, htotal⟩
    exact ⟨fun k _ => hnonneg k, htotal⟩
  · rintro ⟨hnonneg, htotal⟩
    refine ⟨fun k => ?_, htotal⟩
    cases Nat.le_total k lines.length with
    | inl hle => exact hnonneg k hle
    | inr hge =>
        rw [List.take_of_length_le hge]
        omega

instance (lines : List Text) : Decidable (Paired lines) := decidable_of_iff' _ paired_iff

/-- The lines of a body. -/
structure Body where
  lines : List Text
  oneLine : ∀ line ∈ lines, '\n' ∉ line
  noClass : ∀ line ∈ lines, declaresClass line = false
  paired : Paired lines

/-- The lines of the body of a method. -/
structure MethodBody extends Body where
  noType : ∀ line ∈ lines, isTypeHeading (trim line) = false
  noMethod : ∀ line ∈ lines, MethodHeading.read? (trim line) = none

/-- The lines of the body of a method that is no feature. -/
structure HelperBody extends MethodBody where
  noLabel : ∀ line ∈ lines, isBlockLabel (trim line) = false

/-! ## Names and headings -/

/-- The white space in front of a member. -/
structure Indent where
  text : Text
  blank : allBlank text = true
  oneLine : '\n' ∉ text

/-- An indent of spaces. -/
def Indent.spaces (n : Nat) : Indent where
  text := List.replicate n ' '
  blank := List.all_eq_true.2 fun c hc => by rw [(List.mem_replicate.1 hc).2]; decide
  oneLine hm := absurd (List.mem_replicate.1 hm).2 (by decide)

/-- A quotation mark. -/
structure Quote where
  mark : Char
  isQuote : isQuote mark = true

/-- Double quotes. -/
def Quote.double : Quote := ⟨'"', isQuote_double⟩

/-- The name of a feature, as it stands between quotes. -/
structure FeatureName where
  text : Text
  nonempty : text ≠ []
  unquoted : text.any isQuote = false
  noOpening : '{' ∉ text
  noClosing : '}' ∉ text
  oneLine : '\n' ∉ text
  notHook : text ∉ lifecycleHooks

/-- The name of a lifecycle hook. -/
structure HookName where
  text : Text
  isHook : text ∈ lifecycleHooks

/-- An identifier. -/
structure Identifier where
  text : Text
  nonempty : text ≠ []
  chars : text.all isIdentChar = true

/-- The name of a specification class. -/
structure ClassName where
  text : Text
  nonempty : text ≠ []
  chars : text.all isWord = true

/-- The heading of a type that is no specification class. -/
structure TypeLine where
  text : Text
  isType : isTypeHeading (trim text) = true
  noClass : declaresClass text = false
  opens : braceDelta text = 1
  oneLine : '\n' ∉ text

/-! ## Members and classes -/

/-- What a member of a class is. -/
inductive MemberKind where
  | feature (quote : Quote) (name : FeatureName) (body : MethodBody)
  | hook (name : HookName) (body : MethodBody)
  | helper (name : Identifier) (body : HelperBody)
  | nested (heading : TypeLine) (body : Body)

/-- The heading of a member, without the white space in front of it. -/
def MemberKind.heading : MemberKind → Text
  | feature quote name _ => methodLine (quote.mark :: (name.text ++ [quote.mark]))
  | hook name _ => methodLine name.text
  | helper name _ => methodLine name.text
  | nested heading _ => heading.text

/-- The body of a member. -/
def MemberKind.body : MemberKind → Body
  | feature _ _ body => body.toBody
  | hook _ body => body.toBody
  | helper _ body => body.toBody
  | nested _ body => body

/-- A member of a class. -/
structure Member where
  indent : Indent
  kind : MemberKind

/-- The heading line of a member. -/
def Member.heading (m : Member) : Text := m.indent.text ++ m.kind.heading

/-- The line that closes a member. -/
def Member.closing (m : Member) : Text := m.indent.text ++ ['}']

/-- The lines of a member. -/
def Member.lines (m : Member) : List Text := m.heading :: (m.kind.body.lines ++ [m.closing])

/-- The outline of a class. -/
structure ClassOutline where
  isAbstract : Bool
  name : ClassName
  members : List Member

/-- The heading line of a class. -/
def ClassOutline.heading (c : ClassOutline) : Text := classLine c.isAbstract c.name.text

/-- The lines of a class. -/
def ClassOutline.lines (c : ClassOutline) : List Text :=
  c.heading :: (c.members.flatMap Member.lines ++ [['}']])

/-- The text of a file with these classes; `fed` says whether a line feed follows the last line. -/
def fileOf (fed : Bool) (classes : List ClassOutline) : Text :=
  join ['\n'] (classes.flatMap ClassOutline.lines ++ if fed then [[]] else [])

/-! ## The tree of an outline -/

/-- The features of a member whose heading has number `line`: one for a feature, none otherwise. -/
def Member.features (line : Nat) (m : Member) : List Feature :=
  match m.kind with
  | .feature _ name _ => [⟨name.text, line, .ofLine line m.heading, none⟩]
  | _ => []

/-- The features of members that begin with line number `line`. -/
def featuresFrom (line : Nat) : List Member → List Feature
  | [] => []
  | m :: rest => m.features line ++ featuresFrom (line + m.lines.length) rest

/-- The specification of a class whose heading has number `line`. -/
def ClassOutline.specification (line : Nat) (c : ClassOutline) : Specification :=
  ⟨c.name.text, line, .ofLine line c.heading, c.isAbstract, featuresFrom (line + 1) c.members⟩

/-- The specifications of classes that begin with line number `line`. -/
def specificationsFrom (line : Nat) : List ClassOutline → List Specification
  | [] => []
  | c :: rest => c.specification line :: specificationsFrom (line + c.lines.length) rest

end SpecAtlas.Source
