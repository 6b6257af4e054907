import SpecAtlas.Proofs.Source.Outline
import SpecAtlas.Proofs.Source.Respaced

/-!
# Where the lines of a list end

The lines of a list literal may end behind its opening bracket, behind the commas between its elements and in front of
its closing bracket, and so may the lines of a list literal among its elements. Lines that say nothing may stand at
each of these places.

1. Joined with spaces, lines that end in a gap have white space there (`Gap.join_append`).
2. Hence a list is laid out over such lines if each of its elements is laid out over its own (`isLaid_list`).
-/

namespace SpecAtlas.Source

open Text

/-! ## Gaps -/

/-- What stands between two pieces of a literal: white space, or the end of a line and lines that say nothing. -/
inductive Gap where
  | blank (indent : Indent)
  | lines (empty : Nat)

namespace Gap

/-- What is left of a gap when the lines are joined. -/
def text : Gap → Text
  | blank indent => indent.text
  | lines empty => List.replicate (empty + 1) ' '

/-- Lines with other lines behind a gap. -/
def append (gap : Gap) : List Text → List Text → List Text
  | [], back => back
  | [last], back =>
    match gap with
    | blank indent => back.modifyHead (last ++ indent.text ++ ·)
    | lines empty => last :: (List.replicate empty [] ++ back)
  | line :: next :: rest, back => line :: gap.append (next :: rest) back

variable (gap : Gap) {front back : List Text}

theorem blank_text : allBlank gap.text = true := by
  cases gap with
  | blank indent => exact indent.blank
  | lines empty => exact (Indent.spaces (empty + 1)).blank

theorem append_ne_nil (h : back ≠ []) : gap.append front back ≠ [] := by
  cases front with
  | nil => exact h
  | cons line rest =>
      cases rest with
      | nil => cases gap <;> simp [append, h]
      | cons next rest => exact List.cons_ne_nil _ _

/-- Empty lines are joined to spaces. -/
theorem join_replicate (empty : Nat) (h : back ≠ []) :
    join [' '] (List.replicate empty [] ++ back) = List.replicate empty ' ' ++ join [' '] back := by
  induction empty with
  | zero => rfl
  | succ n ih =>
      have hsome : List.replicate n [] ++ back ≠ [] := fun hnil => h (List.append_eq_nil_iff.1 hnil).2
      rw [List.replicate_succ, List.cons_append, join_cons_of_ne_nil _ _ hsome, ih]
      rfl

/-- **Joined, lines have white space in the place of a gap.** -/
theorem join_append (hfront : front ≠ []) (hback : back ≠ []) :
    join [' '] (gap.append front back) = join [' '] front ++ gap.text ++ join [' '] back := by
  induction front with
  | nil => contradiction
  | cons line rest ih =>
      cases rest with
      | nil =>
          cases gap with
          | blank indent =>
              obtain ⟨first, others, rfl⟩ := List.exists_cons_of_ne_nil hback
              rw [append, List.modifyHead_cons, join_append_cons]
              simp [join, text]
          | lines empty =>
              have hsome : List.replicate empty [] ++ back ≠ [] := fun hnil => hback (List.append_eq_nil_iff.1 hnil).2
              rw [append, join_cons_of_ne_nil _ _ hsome, join_replicate empty hback, text, List.replicate_succ]
              simp [join]
      | cons next rest =>
          rw [append, join_cons_of_ne_nil _ _ (gap.append_ne_nil hback), ih (List.cons_ne_nil _ _),
            join_cons_of_ne_nil _ _ (List.cons_ne_nil _ _)]
          simp only [List.append_assoc]

end Gap

/-! ## Lists -/

/-- A text is laid out over lines: joined with spaces, they are the text but for white space around the elements of
list literals. -/
structure IsLaid (text : Text) (lines : List Text) : Prop where
  ne_nil : lines ≠ []
  respaced : Respaced text (join [' '] lines)

/-- The lines of the elements of a list: the lines of the first one, those of the others, each with the gap behind the
comma in front of it, and the gap in front of the closing bracket. -/
def elementLines (lines : List Text) : List (Gap × List Text) → Gap → List Text
  | [], closing => closing.append lines [[']']]
  | (gap, next) :: rest, closing =>
    gap.append (Gap.append (.blank (.spaces 0)) lines [[',']]) (elementLines next rest closing)

/-- The lines of a list. -/
def listLines (opening : Gap) (lines : List Text) (rest : List (Gap × List Text)) (closing : Gap) : List Text :=
  opening.append [['[']] (elementLines lines rest closing)

theorem elementLines_ne_nil (lines : List Text) (rest : List (Gap × List Text)) (closing : Gap) :
    elementLines lines rest closing ≠ [] := by
  induction rest generalizing lines with
  | nil => exact closing.append_ne_nil (List.cons_ne_nil _ _)
  | cons x rest ih => exact x.1.append_ne_nil (ih x.2)

section

variable {text : Text} {texts lines : List Text} {rest : List (Gap × List Text)}

/-- Joined, the lines of the elements are the elements with white space around them. -/
theorem exists_parts (hfirst : IsLaid text lines) (hrest : List.Forall₂ (fun text x => IsLaid text x.2) texts rest)
    (front closing : Gap) :
    ∃ parts : List Part, List.Forall₂ (fun text part => Respaced text part.text) (text :: texts) parts ∧
      front.text ++ join [' '] (elementLines lines rest closing) = join [','] (parts.map Part.piece) ++ [']'] := by
  induction hrest generalizing text lines front with
  | nil =>
      refine ⟨[⟨front.text, join [' '] lines, closing.text, front.blank_text, closing.blank_text⟩],
        .cons hfirst.respaced .nil, ?_⟩
      rw [elementLines, closing.join_append hfirst.ne_nil (List.cons_ne_nil _ _)]
      simp [join, Part.piece]
  | @cons next x texts rest hnext _ ih =>
      obtain ⟨parts, hparts, hjoin⟩ := ih hnext x.1
      have hcomma : Gap.append (.blank (.spaces 0)) lines [[',']] ≠ [] := Gap.append_ne_nil _ (List.cons_ne_nil _ _)
      have hsome : parts.map Part.piece ≠ [] := by
        cases hparts
        exact List.cons_ne_nil _ _
      refine ⟨⟨front.text, join [' '] lines, [], front.blank_text, rfl⟩ :: parts, .cons hfirst.respaced hparts, ?_⟩
      rw [elementLines, Gap.join_append _ hcomma (elementLines_ne_nil _ _ _),
        Gap.join_append _ hfirst.ne_nil (List.cons_ne_nil _ _), List.map_cons, join_cons_of_ne_nil _ _ hsome,
        List.append_assoc (_ ++ [',']), ← hjoin]
      simp [join, Part.piece, Gap.text, Indent.spaces]

/-- **A list is laid out over lines that end behind its opening bracket, behind commas between its elements and in
front of its closing bracket**, if its elements are laid out over lines. -/
theorem isLaid_list (hfirst : IsLaid text lines) (hrest : List.Forall₂ (fun text x => IsLaid text x.2) texts rest)
    (opening closing : Gap) :
    IsLaid ('[' :: (join ", ".toList (text :: texts) ++ [']'])) (listLines opening lines rest closing) where
  ne_nil := opening.append_ne_nil (elementLines_ne_nil lines rest closing)
  respaced := by
    obtain ⟨parts, hparts, hjoin⟩ := exists_parts hfirst hrest opening closing
    have hlist : join [' '] (listLines opening lines rest closing) = listOf (parts.map Part.piece) := by
      rw [listLines, opening.join_append (List.cons_ne_nil _ _) (elementLines_ne_nil lines rest closing),
        List.append_assoc, hjoin]
      rfl
    rw [hlist]
    exact respaced_join hparts

/-- In any other text the end of a line stands for one space. -/
theorem isLaid_of_join (hne : lines ≠ []) (hjoin : join [' '] lines = text) (h : Balanced text) : IsLaid text lines where
  ne_nil := hne
  respaced := by
    rw [hjoin]
    exact .same h

end

end SpecAtlas.Source
