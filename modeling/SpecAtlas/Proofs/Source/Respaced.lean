import SpecAtlas.Proofs.Source.Element
import SpecAtlas.Proofs.Source.WrittenRow
import SpecAtlas.Proofs.Value.Balanced

/-!
# White space between elements

How much white space stands between the elements of a list literal makes no difference, nor does it in the list
literals among them. `Respaced` says of two texts that they differ in nothing else.

1. The elements of a list are what its parts hold, part by part (`readItems_append`), without the white space around
   them (`readItems_blank`).
2. A list in a list is one element (`readItems_brackets`).
3. Hence texts that are respaced hold the same elements, by induction on the literal (`Respaced.readItems_eq`).
-/

namespace SpecAtlas.Source

open Text

/-! ## Elements -/

/-- The elements that a text between brackets holds. -/
def readItems (text : Text) : Except LongNumeral (List Value) := (items text).mapM readElement

/-- White space around an element makes no difference. -/
theorem readElement_trim (token : Text) : readElement (trim token) = readElement token := by
  cases hcall : constructorArguments? (trim token) with
  | some arguments =>
      have htrim : constructorArguments? (trim (trim token)) = some arguments := by rw [trim_trim, hcall]
      rw [readElement, htrim, readElement, hcall]
      dsimp only
      rw [trim_trim]
  | none =>
      have htrim : constructorArguments? (trim (trim token)) = none := by rw [trim_trim, hcall]
      cases hinner : bracketed? (trim token) with
      | some inner => rw [readElement_list htrim (by rw [trim_trim, hinner]), readElement_list hcall hinner]
      | none =>
          rw [readElement_scalar htrim (by rw [trim_trim, hinner]), readElement_scalar hcall hinner, trim_trim]

/-- A text is blank if nothing is left of it. -/
theorem trim_eq_nil_iff {text : Text} : trim text = [] ↔ allBlank text = true := by
  constructor
  · intro h
    refine List.all_eq_true.2 fun c hc => ?_
    by_contra hblank
    have hcount := count_trim (Bool.not_eq_true _ ▸ hblank) text
    rw [h, List.count_nil, eq_comm, List.count_eq_zero] at hcount
    exact hcount hc
  · intro h
    have hnone : trim (text ++ []) = trim [] := trim_append h []
    rwa [List.append_nil] at hnone

/-- The elements of a text are its pieces that are not blank. -/
theorem readItems_eq (text : Text) : readItems text = (filled (splitFrom (· == ',') {} text)).mapM readElement := by
  have hpieces : items text = (splitFrom (· == ',') {} text).filter fun piece => !allBlank piece := by
    cases text with
    | nil => rfl
    | cons c text => rfl
  have hfilled (pieces : List Text) : filled pieces = (pieces.filter fun piece => !allBlank piece).map trim := by
    rw [filled, List.filter_map]
    congr 1
    refine List.filter_congr fun piece _ => ?_
    cases hblank : allBlank piece <;> simp [trim_eq_nil_iff, hblank]
  have htrim : readElement ∘ trim = readElement := funext readElement_trim
  rw [readItems, hpieces, hfilled, List.mapM_map, htrim]

/-! ## Parts -/

/-- Text that is put behind another one goes on with its last piece. -/
theorem exists_splitFrom_append (isSep : Char → Bool) (s : Nesting) (text : Text) :
    ∃ front last, ∀ rest, splitFrom isSep s (text ++ rest) =
      front ++ (splitFrom isSep (s.after text) rest).modifyHead (last ++ ·) := by
  induction text generalizing s with
  | nil =>
      refine ⟨[], [], fun rest => ?_⟩
      obtain ⟨first, more, he⟩ := List.exists_cons_of_ne_nil (splitFrom_ne_nil isSep s rest)
      simp [Nesting.after, he]
  | cons c text ih =>
      obtain ⟨front, last, hgo⟩ := ih (s.step c)
      cases hsep : s.separates isSep c with
      | true =>
          rw [Nesting.step_of_separates hsep] at hgo
          refine ⟨[] :: front, last, fun rest => ?_⟩
          have hafter : s.after (c :: text) = s.after text := by
            show (s.step c).after text = _
            rw [Nesting.step_of_separates hsep]
          rw [List.cons_append, splitFrom_of_separates hsep, hgo, hafter, List.cons_append]
      | false =>
          cases front with
          | nil =>
              refine ⟨[], c :: last, fun rest => ?_⟩
              rw [List.cons_append, splitFrom_cons hsep, hgo, List.nil_append, List.nil_append, List.modifyHead_modifyHead]
              rfl
          | cons first front =>
              refine ⟨(c :: first) :: front, last, fun rest => ?_⟩
              rw [List.cons_append, splitFrom_cons hsep, hgo]
              rfl

/-- White space around a text makes no difference to its elements. -/
theorem readItems_blank {front behind : Text} (hfront : allBlank front = true) (hbehind : allBlank behind = true)
    (text : Text) : readItems (front ++ text ++ behind) = readItems text := by
  have hleft (text : Text) : filled (splitFrom (· == ',') {} (front ++ text)) = filled (splitFrom (· == ',') {} text) := by
    have hpasses : Nesting.Passes 0 front := Nesting.passes_unmarked (unmarked_of_allBlank hfront)
    have hgo : splitFrom (· == ',') {} (front ++ text) = (splitFrom (· == ',') {} text).modifyHead (front ++ ·) :=
      hpasses text
    obtain ⟨first, rest, he⟩ := List.exists_cons_of_ne_nil (splitFrom_ne_nil (· == ',') {} text)
    rw [hgo, he, List.modifyHead_cons, filled, filled, List.map_cons, List.map_cons, trim_append hfront]
  have hright : filled (splitFrom (· == ',') {} (text ++ behind)) = filled (splitFrom (· == ',') {} text) := by
    obtain ⟨before, last, hgo⟩ := exists_splitFrom_append (· == ',') {} text
    have hcomma : ',' ∉ behind := not_mem_of_allBlank hbehind (by decide)
    have hshort := hgo []
    rw [List.append_nil] at hshort
    rw [hgo, hshort, splitFrom_of_not_mem hcomma, splitFrom_of_not_mem List.not_mem_nil, filled_append, filled_append]
    simp [filled, trim_append_right last hbehind]
  rw [readItems_eq, readItems_eq, List.append_assoc, hleft, hright]

/-- Behind a balanced part a list goes on with its next elements. -/
theorem readItems_append {part : Text} (h : Balanced part) (back : Text) :
    readItems (part ++ ',' :: back) = (do return (← readItems part) ++ (← readItems back)) := by
  have htop : (({} : Nesting).after part).isTop = true := by rw [h.after_eq Nesting.bracketed_empty]; rfl
  rw [readItems_eq, splitFrom_append_top rfl rfl htop, filled_append, List.mapM_append, readItems_eq, readItems_eq]

/-- Lists whose parts hold the same elements hold the same elements. -/
theorem readItems_join {xs ys : List Text}
    (h : List.Forall₂ (fun x y => Balanced x ∧ Balanced y ∧ readItems x = readItems y) xs ys) :
    readItems (join [','] xs) = readItems (join [','] ys) := by
  induction h with
  | nil => rfl
  | cons hpart hrest ih =>
      obtain ⟨hx, hy, heq⟩ := hpart
      cases hrest with
      | nil => simpa [join] using heq
      | cons hnext hrest =>
          rw [join_cons_of_ne_nil _ _ (List.cons_ne_nil _ _), join_cons_of_ne_nil _ _ (List.cons_ne_nil _ _),
            List.append_assoc, List.append_assoc, List.singleton_append, List.singleton_append, readItems_append hx,
            readItems_append hy, heq, ih]

/-- A list in a list is one element. -/
theorem readItems_brackets {inner : Text} (h : Balanced inner) :
    readItems ('[' :: (inner ++ [']'])) = (readItems inner).map fun values => [.list values] := by
  have htrim : trim ('[' :: (inner ++ [']'])) = '[' :: (inner ++ [']']) := trim_enclosed (by decide) (by decide) inner
  have hfilled : filled ['[' :: (inner ++ [']'])] = ['[' :: (inner ++ [']'])] := filled_cons htrim (List.cons_ne_nil _ _) []
  have hread : readElement ('[' :: (inner ++ [']'])) = (readItems inner).map .list :=
    readElement_list (by rw [htrim]; exact constructorArguments?_cons (by decide) _) (by rw [htrim, bracketed?_brackets])
  rw [readItems_eq, Balanced.splitFrom_brackets rfl h, hfilled, List.mapM_cons, hread]
  cases readItems inner <;> rfl

/-! ## Respaced texts -/

/-- A text with white space around it. -/
structure Part where
  front : Text
  text : Text
  behind : Text
  blankFront : allBlank front = true
  blankBehind : allBlank behind = true

/-- What a part takes up between the commas of a list. -/
def Part.piece (p : Part) : Text := p.front ++ p.text ++ p.behind

/-- The list literal that parts make up. -/
def listOf (pieces : List Text) : Text := '[' :: (join [','] pieces ++ [']'])

/-- Two texts that differ in nothing but the white space around the elements of list literals. -/
inductive Respaced : Text → Text → Prop
  | same {text : Text} (h : Balanced text) : Respaced text text
  | list {elements : List (Part × Part)} (h : ∀ e ∈ elements, Respaced e.1.text e.2.text) :
      Respaced (listOf (elements.map (·.1.piece))) (listOf (elements.map (·.2.piece)))

theorem Part.balanced_piece {p : Part} (h : Balanced p.text) : Balanced p.piece :=
  ((Balanced.of_allBlank p.blankFront).append h).append (Balanced.of_allBlank p.blankBehind)

theorem Part.balanced_join {α : Type} {elements : List α} {part : α → Part} (h : ∀ e ∈ elements, Balanced (part e).text) :
    Balanced (join [','] (elements.map fun e => (part e).piece)) :=
  .joined (.char rfl rfl (by decide)) fun piece hpiece => by
    obtain ⟨e, he, rfl⟩ := List.mem_map.1 hpiece
    exact balanced_piece (h e he)

theorem Part.readItems_piece (p : Part) : readItems p.piece = readItems p.text :=
  readItems_blank p.blankFront p.blankBehind p.text

namespace Respaced

variable {one two : Text}

/-- Respaced texts are balanced. -/
theorem balanced (h : Respaced one two) : Balanced one ∧ Balanced two := by
  induction h with
  | same h => exact ⟨h, h⟩
  | list _ ih =>
      exact ⟨.brackets rfl (Part.balanced_join fun e he => (ih e he).1),
        .brackets rfl (Part.balanced_join fun e he => (ih e he).2)⟩

/-- Lists of respaced elements hold the same elements if each two of them do. -/
theorem readItems_elements {elements : List (Part × Part)} (h : ∀ e ∈ elements, Respaced e.1.text e.2.text)
    (hread : ∀ e ∈ elements, readItems e.1.text = readItems e.2.text) :
    readItems (join [','] (elements.map (·.1.piece))) = readItems (join [','] (elements.map (·.2.piece))) := by
  refine readItems_join ?_
  rw [List.forall₂_map_left_iff, List.forall₂_map_right_iff, List.forall₂_same]
  intro e he
  obtain ⟨hone, htwo⟩ := (h e he).balanced
  refine ⟨Part.balanced_piece hone, Part.balanced_piece htwo, ?_⟩
  rw [Part.readItems_piece, Part.readItems_piece, hread e he]

/-- **Respaced texts hold the same elements.** -/
theorem readItems_eq (h : Respaced one two) : readItems one = readItems two := by
  induction h with
  | same => rfl
  | list h ih =>
      rw [listOf, listOf, readItems_brackets (Part.balanced_join fun e he => (h e he).balanced.1),
        readItems_brackets (Part.balanced_join fun e he => (h e he).balanced.2), readItems_elements h ih]

end Respaced

/-- A text with nothing, or with a space, in front of it. -/
def Part.bare (text : Text) : Part := ⟨[], text, [], rfl, rfl⟩

def Part.spaced (text : Text) : Part := ⟨[' '], text, [], by decide, rfl⟩

theorem Part.piece_bare (text : Text) : (bare text).piece = text := by simp [piece, bare]

theorem Part.piece_spaced (text : Text) : (spaced text).piece = ' ' :: text := by simp [piece, spaced]

/-- **White space may be put around all elements of a list**, and into them where they are lists. -/
theorem respaced_join {texts : List Text} {parts : List Part}
    (h : List.Forall₂ (fun text part => Respaced text part.text) texts parts) :
    Respaced ('[' :: (join ", ".toList texts ++ [']'])) (listOf (parts.map Part.piece)) := by
  -- All parts but the first one stand behind a comma and a space.
  have hpairs {texts : List Text} {parts : List Part}
      (h : List.Forall₂ (fun text part => Respaced text part.text) texts parts) :
      ∃ elements : List (Part × Part), elements.map (·.1.piece) = texts.map (' ' :: ·) ∧
        elements.map (·.2.piece) = parts.map Part.piece ∧ ∀ e ∈ elements, Respaced e.1.text e.2.text := by
    induction h with
    | nil => exact ⟨[], rfl, rfl, by simp⟩
    | @cons text part texts parts hpart _ ih =>
        obtain ⟨elements, hone, htwo, helements⟩ := ih
        have hall : ∀ e ∈ (Part.spaced text, part) :: elements, Respaced e.1.text e.2.text :=
          List.forall_mem_cons.2 ⟨hpart, helements⟩
        exact ⟨_, by rw [List.map_cons, List.map_cons, hone, Part.piece_spaced],
          by rw [List.map_cons, List.map_cons, htwo], hall⟩
  cases h with
  | nil =>
      have hempty : ∀ e ∈ ([] : List (Part × Part)), Respaced e.1.text e.2.text := by simp
      exact .list hempty
  | @cons text part texts parts hpart hrest =>
      obtain ⟨elements, hone, htwo, helements⟩ := hpairs hrest
      have hall : ∀ e ∈ (Part.bare text, part) :: elements, Respaced e.1.text e.2.text :=
        List.forall_mem_cons.2 ⟨hpart, helements⟩
      have hlist := Respaced.list hall
      rwa [List.map_cons, List.map_cons, hone, htwo, Part.piece_bare, listOf, ← join_comma_space] at hlist

end SpecAtlas.Source
