import SpecAtlas.Markup.Attributes
import SpecAtlas.Proofs.Mapping
import SpecAtlas.Proofs.Markup.Escape
import SpecAtlas.Proofs.Value.Passing

/-!
# Written attributes and element text

An attribute is written as its key, an equals sign, and its escaped value in double quotes. Read from
left to right, attributes that are written one after the other come back in order
(`writtenAttributes_text`), and each value as it was meant (`attributes_text`).

Text between attributes may look like the beginning of one. It is passed over if it has no quotes and
ends in a character over which no attribute reaches (`writtenAttributes_append_barrier`).

The escaped text of an element is read as it is meant as well (`elementText_written`).
-/

namespace SpecAtlas.Markup

open Text

/-! ## Attributes -/

/-- An attribute of a tag. -/
structure Attribute where
  key : Text
  value : Escaped
  nonempty : key ≠ []
  valid : key.all isAttributeChar = true

namespace Attribute

/-- The attribute as it is written behind the name of a tag. -/
def text (a : Attribute) : Text := ' ' :: (a.key ++ '=' :: '"' :: (a.value.written ++ ['"']))

/-- The key and the value that is meant. -/
def entry (a : Attribute) : Text × Text := (a.key, a.value.meaning)

/-- The key and the value as it is written. -/
def writtenEntry (a : Attribute) : Text × Text := (a.key, a.value.written)

/-- A tag does not end in an attribute. -/
theorem not_mem_text (a : Attribute) {x : Char} (hx : x = '<' ∨ x = '>') : x ∉ a.text := by
  have hvalue : x ∉ a.value.written := by
    apply Escaped.not_mem_written
    rcases hx with rfl | rfl <;> decide
  have hkey : x ∉ a.key := by
    intro hm
    have hvalid := List.all_eq_true.1 a.valid x hm
    rcases hx with rfl | rfl <;> revert hvalid <;> decide
  rcases hx with rfl | rfl <;> simp [text, hvalue, hkey]

end Attribute

/-! ## Text without quotes -/

/-- A part of text without quotes has none. -/
theorem any_isQuote_of_subset {part text : Text} (hpart : part ⊆ text) (h : text.any isQuote = false) :
    part.any isQuote = false :=
  List.any_eq_false.2 fun c hc => List.any_eq_false.1 h c (hpart hc)

/-! ## Reading an attribute -/

theorem writtenAttributes_cons {c : Char} (h : isAttributeChar c = false) (rest : Text) :
    writtenAttributes (c :: rest) = writtenAttributes rest := by
  rw [writtenAttributes, if_neg (by simp [h])]

/-- A key with a value behind it is an attribute. -/
theorem writtenAttributes_of_value {c : Char} {rest value behind : Text} (hc : isAttributeChar c = true)
    (h : attributeValue? (rest.dropWhile isAttributeChar) = some (value, behind)) :
    writtenAttributes (c :: rest) =
      (c :: rest.takeWhile isAttributeChar, value) :: writtenAttributes behind := by
  rw [writtenAttributes, if_pos hc]
  split
  · rename_i h'
    rw [h] at h'
    cases h'
    rfl
  · rename_i h'
    rw [h] at h'
    contradiction

/-- A key without a value behind it is passed over. -/
theorem writtenAttributes_of_no_value {c : Char} {rest : Text} (hc : isAttributeChar c = true)
    (h : attributeValue? (rest.dropWhile isAttributeChar) = none) :
    writtenAttributes (c :: rest) = writtenAttributes (rest.dropWhile isAttributeChar) := by
  rw [writtenAttributes, if_pos hc]
  split
  · rename_i h'
    rw [h] at h'
    contradiction
  · rfl

/-- A value in double quotes ends at the next one. -/
theorem attributeValue?_quoted {value : Text} (h : '"' ∉ value) (rest : Text) :
    attributeValue? ('=' :: '"' :: (value ++ '"' :: rest)) = some (value, rest) := by
  have hequals : trimLeft ('=' :: '"' :: (value ++ '"' :: rest)) = '=' :: '"' :: (value ++ '"' :: rest) :=
    List.dropWhile_cons_of_neg (by decide)
  have hquote : trimLeft ('"' :: (value ++ '"' :: rest)) = '"' :: (value ++ '"' :: rest) :=
    List.dropWhile_cons_of_neg (by decide)
  simp only [attributeValue?, hequals, hquote]
  exact cut?_char h rest

/-- A key with a value in double quotes is read, whatever follows. -/
theorem writtenAttributes_quoted {key value : Text} (hne : key ≠ []) (hkey : ∀ c ∈ key, isAttributeChar c = true)
    (hvalue : '"' ∉ value) (rest : Text) :
    writtenAttributes (' ' :: (key ++ '=' :: '"' :: (value ++ '"' :: rest))) =
      (key, value) :: writtenAttributes rest := by
  obtain ⟨c, key, rfl⟩ := List.exists_cons_of_ne_nil hne
  have hrest : ∀ x ∈ key, isAttributeChar x = true := fun x hx => hkey x (List.mem_cons_of_mem c hx)
  have hspan := span_append hrest (c := '=') (by decide) ('"' :: (value ++ '"' :: rest))
  rw [List.span_eq_takeWhile_dropWhile, Prod.mk.injEq] at hspan
  rw [writtenAttributes_cons (by decide), List.cons_append,
    writtenAttributes_of_value (hkey c List.mem_cons_self) (by rw [hspan.2]; exact attributeValue?_quoted hvalue rest),
    hspan.1]

theorem writtenAttributes_append (a : Attribute) (rest : Text) :
    writtenAttributes (a.text ++ rest) = a.writtenEntry :: writtenAttributes rest := by
  have htext : a.text ++ rest = ' ' :: (a.key ++ '=' :: '"' :: (a.value.written ++ '"' :: rest)) := by
    simp [Attribute.text]
  have hvalue : '"' ∉ a.value.written := Escaped.not_mem_written (by decide) a.value
  rw [htext]
  exact writtenAttributes_quoted a.nonempty (List.all_eq_true.1 a.valid) hvalue rest

/-- Attributes come back in order. -/
theorem writtenAttributes_text (as : List Attribute) (rest : Text) :
    writtenAttributes (as.flatMap Attribute.text ++ rest) =
      as.map Attribute.writtenEntry ++ writtenAttributes rest := by
  induction as with
  | nil => rfl
  | cons a as ih =>
      rw [List.flatMap_cons, List.append_assoc, writtenAttributes_append, ih]
      rfl

theorem writtenAttributes_attributes (as : List Attribute) :
    writtenAttributes (as.flatMap Attribute.text) = as.map Attribute.writtenEntry := by
  have hwritten := writtenAttributes_text as []
  rwa [List.append_nil, writtenAttributes, List.append_nil] at hwritten

/-- What attributes mean follows from how they are written. -/
theorem attributes_of_written {text : Text} {entries : List (Text × Text)}
    (h : List.Forall₂ (fun w e => w.1 = e.1 ∧ unescape w.2 = .ok e.2) (writtenAttributes text) entries) :
    attributes text = .ok (Mapping.ofList entries) := by
  rw [attributes, mapM_of_forall₂ (h.imp fun w e hwe => ?_)]
  · rfl
  · simp only [hwe.2, hwe.1, ok_bind]
    rfl

/-- What the entries of attributes mean. -/
theorem forall₂_entry (as : List Attribute) :
    List.Forall₂ (fun w e => w.1 = e.1 ∧ unescape w.2 = .ok e.2) (as.map Attribute.writtenEntry)
      (as.map Attribute.entry) := by
  rw [List.forall₂_map_left_iff, List.forall₂_map_right_iff, List.forall₂_same]
  exact fun a _ => ⟨rfl, Escaped.unescape_written a.value⟩

/-- **Attributes are read as they are meant.** -/
theorem attributes_text (as : List Attribute) :
    attributes (as.flatMap Attribute.text) = .ok (Mapping.ofList (as.map Attribute.entry)) := by
  apply attributes_of_written
  rw [writtenAttributes_attributes]
  exact forall₂_entry as

/-! ## Text between attributes -/

/-- Whether no attribute reaches over a character outside of its quotes. -/
def isBarrier (c : Char) : Bool := !(isAttributeChar c || isBlank c || c == '=' || isQuote c)

/-- Text without quotes has no value of an attribute in front of such a character. -/
theorem attributeValue?_append_barrier {front : Text} (hfront : front.any isQuote = false) {x : Char}
    (hx : isBarrier x = true) (rest : Text) : attributeValue? (front ++ x :: rest) = none := by
  simp only [isBarrier, Bool.not_eq_true', Bool.or_eq_false_iff, beq_eq_false_iff_ne] at hx
  obtain ⟨⟨⟨-, hblank⟩, hequals⟩, hquote⟩ := hx
  have htrim (text : Text) : trimLeft (text ++ x :: rest) = trimLeft text ++ x :: rest :=
    dropWhile_append_stop hblank text rest
  have hplain : ∀ c ∈ trimLeft front, isQuote c = false := fun c hc =>
    Bool.eq_false_iff.2 (List.any_eq_false.1 hfront c ((List.dropWhile_sublist isBlank).subset hc))
  rw [attributeValue?, htrim]
  cases hf : trimLeft front with
  | nil =>
      split
      · rename_i he
        exact absurd (List.cons.inj he).1 hequals
      · rfl
  | cons c behind =>
      split
      · rename_i he
        obtain ⟨rfl, rfl⟩ := List.cons.inj he
        rw [List.append_eq, htrim]
        cases hb : trimLeft behind with
        | nil => exact if_neg (by simp [hquote])
        | cons q tail =>
            have hmem : q ∈ trimLeft front := by
              have hq : q ∈ trimLeft behind := hb ▸ List.mem_cons_self
              rw [hf]
              exact List.mem_cons_of_mem _ ((List.dropWhile_sublist isBlank).subset hq)
            exact if_neg (by simp [hplain q hmem])
      · rfl

/-- Text without quotes is passed over up to such a character. -/
theorem writtenAttributes_append_barrier {front : Text} (hfront : front.any isQuote = false) {x : Char}
    (hx : isBarrier x = true) (rest : Text) : writtenAttributes (front ++ x :: rest) = writtenAttributes rest := by
  have hstop : isAttributeChar x = false := by
    simp only [isBarrier, Bool.not_eq_true', Bool.or_eq_false_iff] at hx
    exact hx.1.1.1
  induction hn : front.length using Nat.strong_induction_on generalizing front with
  | h n ih =>
      cases front with
      | nil => exact writtenAttributes_cons hstop rest
      | cons c front =>
          rw [List.any_cons, Bool.or_eq_false_iff] at hfront
          rw [List.length_cons] at hn
          by_cases hc : isAttributeChar c
          · have hdrop : (front ++ x :: rest).dropWhile isAttributeChar =
                front.dropWhile isAttributeChar ++ x :: rest := dropWhile_append_stop hstop front rest
            have hplain : (front.dropWhile isAttributeChar).any isQuote = false :=
              any_isQuote_of_subset (List.dropWhile_sublist _).subset hfront.2
            have hvalue := attributeValue?_append_barrier hplain hx rest
            have hshort := (List.dropWhile_sublist isAttributeChar (l := front)).length_le
            rw [List.cons_append, writtenAttributes_of_no_value hc (by rw [hdrop]; exact hvalue), hdrop]
            exact ih _ (by omega) hplain rfl
          · rw [List.cons_append, writtenAttributes_cons (by simpa using hc)]
            exact ih _ (by omega) hfront.2 rfl

/-! ## Element text -/

/-- **The text of an element is read as it is meant**, trimmed: it has no literal sections, since those
begin with a tag. -/
theorem elementText_written (e : Escaped) : elementText e.written = .ok (trim e.meaning) := by
  have hclear : isClear sectionStart e.written = true :=
    isClear_of_not_mem (Escaped.not_mem_written (by decide) e)
  have hpieces : textPieces e.written = [(false, e.written)] := by
    rw [textPieces]
    split
    · rfl
    · rename_i h
      rw [cut?_of_isClear (by decide) hclear] at h
      contradiction
  have hmeaning := Escaped.unescape_written e
  rw [elementText, hpieces]
  simp only [List.mapM_cons, List.mapM_nil, Bool.false_eq_true, if_false, hmeaning, ok_bind]
  simp [pure, Except.pure, bind, Except.bind]

end SpecAtlas.Markup
