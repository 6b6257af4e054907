import SpecAtlas.Proofs.Value.PrintedParameters

/-!
# What a display name shows

A hash sign before a letter or an underscore begins a placeholder, and the placeholder goes on as long as word
characters follow. So a name is either without placeholders, or it is a *template*: a text, and behind it
placeholders with texts between them.

1. The reader passes over a text without placeholders (`fill_append`). The hash sign of the placeholder behind
   the text does not turn the end of the text into a placeholder.
2. It takes the whole key of a placeholder at once (`fill_placeholder`), since the text behind the key does not
   go on with a word character, and does not look at the value again that it leaves there.
3. So it fills a template part by part (`fill_text`).

Each name has one of the two forms (`exists_template`), so `displayName_exact` tells all display names.
-/

namespace SpecAtlas

namespace DisplayName

open Text

variable {values : Mapping Value} {name front rest key : Text} {c : Char}

/-! ## Texts without placeholders -/

/-- No hash sign of a text stands before a letter or an underscore. -/
def Unhashed (text : Text) : Prop := ∀ front c behind, text = front ++ '#' :: c :: behind → isIdentStart c = false

theorem atPlaceholder_eq_true :
    atPlaceholder name = true ↔ ∃ c behind, name = '#' :: c :: behind ∧ isIdentStart c = true := by
  unfold atPlaceholder
  split
  · simp
  · rename_i hne
    refine ⟨nofun, ?_⟩
    rintro ⟨c, behind, rfl, -⟩
    exact absurd rfl (hne c behind)

theorem unhashed_nil : Unhashed [] := by
  intro front c behind h
  simp at h

theorem unhashed_cons : Unhashed (c :: name) ↔ atPlaceholder (c :: name) = false ∧ Unhashed name := by
  constructor
  · intro h
    refine ⟨Bool.eq_false_iff.2 fun hat => ?_, fun front d behind he => h (c :: front) d behind (by rw [he]; rfl)⟩
    obtain ⟨d, behind, he, hd⟩ := atPlaceholder_eq_true.1 hat
    rw [h [] d behind he] at hd
    contradiction
  · rintro ⟨hat, hname⟩ front d behind he
    cases front with
    | nil =>
        rw [← Bool.not_eq_true]
        exact fun hd => Bool.eq_false_iff.1 hat (atPlaceholder_eq_true.2 ⟨d, behind, he, hd⟩)
    | cons x front => exact hname front d behind (List.cons.inj he).2

/-- The search for a placeholder finds one if there is one. -/
theorem hasPlaceholder_eq_false_iff : hasPlaceholder name = false ↔ Unhashed name := by
  induction name with
  | nil => exact iff_of_true rfl unhashed_nil
  | cons c name ih => rw [hasPlaceholder, Bool.or_eq_false_iff, ih, unhashed_cons]

theorem hasPlaceholder_append (h : hasPlaceholder rest = true) (front : Text) : hasPlaceholder (front ++ rest) = true := by
  induction front with
  | nil => exact h
  | cons c front ih => rw [List.cons_append, hasPlaceholder, ih, Bool.or_true]

/-! ## The parts of a template -/

/-- A placeholder, with the text between it and the next one. -/
structure Placeholder where
  key : Text
  behind : Text
  start : (key.take 1).any isIdentStart = true
  word : key.all isWord = true
  /-- The key ends here. -/
  ends : ∀ c ∈ behind.head?, isWord c = false
  unhashed : Unhashed behind

/-- A name with placeholders. -/
structure Template where
  lead : Text
  parts : List Placeholder
  unhashed : Unhashed lead
  nonempty : parts ≠ []

namespace Placeholder

/-- A placeholder as it is written, with the text behind it. -/
def text (p : Placeholder) : Text := '#' :: p.key ++ p.behind

/-- A placeholder with the value of its variable in its place; without such a variable it stays. -/
def filled (values : Mapping Value) (p : Placeholder) : Text :=
  ((Mapping.get? values p.key).map Value.print).getD ('#' :: p.key) ++ p.behind

theorem atPlaceholder_text (p : Placeholder) (rest : Text) : atPlaceholder (p.text ++ rest) = true := by
  obtain ⟨key, behind, start, -, -, -⟩ := p
  cases key with
  | nil => simp at start
  | cons c key => simpa [text, atPlaceholder] using start

end Placeholder

/-- Placeholders with the texts behind them, as they are written. -/
def written (parts : List Placeholder) : Text := parts.flatMap Placeholder.text

namespace Template

/-- The name that a template writes. -/
def text (t : Template) : Text := t.lead ++ written t.parts

/-- The name with all values in their places. -/
def filled (values : Mapping Value) (t : Template) : Text := t.lead ++ t.parts.flatMap (Placeholder.filled values)

end Template

/-! ## Filling -/

theorem replacement_eq : replacement values key = ((Mapping.get? values key).map Value.print).getD ('#' :: key) := by
  unfold replacement
  cases Mapping.get? values key <;> rfl

/-- Text without placeholders stays as it is. -/
theorem fill_append (hfront : Unhashed front) (hrest : ∀ c ∈ rest.head?, isIdentStart c = false) :
    fill values (front ++ rest) = front ++ fill values rest := by
  induction front with
  | nil => rfl
  | cons c front ih =>
      obtain ⟨hat, hfront⟩ := unhashed_cons.1 hfront
      -- Behind a hash sign at the end of the text comes what follows the text.
      have hhere : atPlaceholder (c :: (front ++ rest)) = false := by
        rw [Bool.eq_false_iff] at hat ⊢
        intro hnow
        obtain ⟨d, behind, he, hd⟩ := atPlaceholder_eq_true.1 hnow
        obtain ⟨rfl, hnext⟩ := List.cons.inj he
        cases front with
        | nil =>
            rw [hrest d (List.head?_eq_some_iff.2 ⟨behind, hnext⟩)] at hd
            contradiction
        | cons x front =>
            rw [← (List.cons.inj hnext).1] at hd
            exact hat (atPlaceholder_eq_true.2 ⟨x, front, rfl, hd⟩)
      rw [List.cons_append, fill, if_neg (Bool.eq_false_iff.1 hhere), ih hfront, List.cons_append]

theorem head?_written (parts : List Placeholder) : ∀ c ∈ (written parts).head?, c = '#' := by
  cases parts <;> simp [written, Placeholder.text, eq_comm]

theorem isIdentStart_written (parts : List Placeholder) : ∀ c ∈ (written parts).head?, isIdentStart c = false := by
  intro c hc
  rw [head?_written parts c hc]
  decide

/-- A key is taken as a whole. -/
theorem fill_placeholder (p : Placeholder) (parts : List Placeholder) :
    fill values (p.text ++ written parts) = p.filled values ++ fill values (written parts) := by
  have hwords : ∀ c ∈ p.key, isWord c = true := List.all_eq_true.1 p.word
  -- What follows the key does not go on with a word character: neither the text behind it nor a hash sign.
  have hstop : ∀ c ∈ (p.behind ++ written parts).head?, isWord c = false := by
    intro c hc
    rw [List.head?_append] at hc
    cases hbehind : p.behind.head? with
    | none =>
        rw [hbehind, Option.none_or] at hc
        rw [head?_written parts c hc]
        decide
    | some d =>
        rw [hbehind, Option.some_or] at hc
        exact p.ends c (hbehind.trans hc)
  have hat := p.atPlaceholder_text (written parts)
  have hcons : p.text ++ written parts = '#' :: (p.key ++ (p.behind ++ written parts)) := by
    simp [Placeholder.text]
  rw [hcons] at hat ⊢
  rw [fill, if_pos hat, List.takeWhile_append_of_pos hwords, List.dropWhile_append_of_pos hwords,
    takeWhile_of_head? hstop, dropWhile_of_head? hstop, List.append_nil, fill_append p.unhashed (isIdentStart_written parts),
    replacement_eq, Placeholder.filled, List.append_assoc]

/-- **All placeholders are filled at once.** -/
theorem fill_text (t : Template) : fill values t.text = t.filled values := by
  have hparts (parts : List Placeholder) : fill values (written parts) = parts.flatMap (Placeholder.filled values) := by
    induction parts with
    | nil => simp [written, fill]
    | cons p parts ih => rw [written, List.flatMap_cons, ← written, fill_placeholder, ih, List.flatMap_cons]
  rw [Template.text, fill_append t.unhashed (isIdentStart_written t.parts), hparts, Template.filled]

theorem hasPlaceholder_text (t : Template) : hasPlaceholder t.text = true := by
  obtain ⟨p, parts, hparts⟩ := List.exists_cons_of_ne_nil t.nonempty
  refine hasPlaceholder_append ?_ t.lead
  have hat := p.atPlaceholder_text (written parts)
  rw [hparts, written, List.flatMap_cons, ← written]
  obtain ⟨c, rest, hcons⟩ := List.exists_cons_of_ne_nil (l := p.text ++ written parts) (by simp [Placeholder.text])
  rw [hcons] at hat ⊢
  rw [hasPlaceholder, hat, Bool.true_or]

/-! ## All names -/

theorem atPlaceholder_append (h : atPlaceholder front = true) (rest : Text) : atPlaceholder (front ++ rest) = true := by
  obtain ⟨c, behind, rfl, hc⟩ := atPlaceholder_eq_true.1 h
  exact atPlaceholder_eq_true.2 ⟨c, behind ++ rest, rfl, hc⟩

/-- A placeholder in front of what has one of the two forms. -/
theorem exists_template_cons (hstart : (key.take 1).any isIdentStart = true) (hword : key.all isWord = true)
    (hends : ∀ c ∈ rest.head?, isWord c = false) (h : Unhashed rest ∨ ∃ t : Template, t.text = rest) :
    ∃ t : Template, t.text = '#' :: key ++ rest := by
  obtain hrest | ⟨t, rfl⟩ := h
  · refine ⟨⟨[], [⟨key, rest, hstart, hword, hends, hrest⟩], unhashed_nil, List.cons_ne_nil _ _⟩, ?_⟩
    simp [Template.text, written, Placeholder.text]
  · have hlead : ∀ c ∈ t.lead.head?, isWord c = false := by
      intro c hc
      refine hends c ?_
      rw [Template.text, List.head?_append, hc, Option.some_or]
      exact rfl
    refine ⟨⟨[], ⟨key, t.lead, hstart, hword, hlead, t.unhashed⟩ :: t.parts, unhashed_nil, List.cons_ne_nil _ _⟩, ?_⟩
    simp [Template.text, written, Placeholder.text]

/-- Every name is without placeholders, or a template writes it. -/
theorem exists_template (name : Text) : Unhashed name ∨ ∃ t : Template, t.text = name := by
  induction name using fill.induct with
  | case1 => exact .inl unhashed_nil
  | case2 c name hat ih =>
      obtain ⟨x, behind, he, hx⟩ := atPlaceholder_eq_true.1 hat
      obtain ⟨rfl, rfl⟩ := List.cons.inj he
      have hstart : (((x :: behind).takeWhile isWord).take 1).any isIdentStart = true := by
        simp [isWord_of_isIdentStart hx, hx]
      have hends : ∀ c ∈ ((x :: behind).dropWhile isWord).head?, isWord c = false := by
        intro c hc
        have hnot := List.head?_dropWhile_not isWord (x :: behind)
        rwa [hc] at hnot
      have htemplate := exists_template_cons hstart List.all_takeWhile hends ih
      rw [List.cons_append, List.takeWhile_append_dropWhile] at htemplate
      exact .inr htemplate
  | case3 c name hat ih =>
      obtain hname | ⟨t, rfl⟩ := ih
      · exact .inl (unhashed_cons.2 ⟨Bool.eq_false_iff.2 hat, hname⟩)
      · have hlead : atPlaceholder (c :: t.lead) = false :=
          Bool.eq_false_iff.2 fun h => hat (atPlaceholder_append h (written t.parts))
        exact .inr ⟨⟨c :: t.lead, t.parts, unhashed_cons.2 ⟨hlead, t.unhashed⟩, t.nonempty⟩, rfl⟩

/-- **What a display name shows.** In a name with placeholders every one that names a variable gives way to the
value, all at once, and nothing else changes: a placeholder without a variable stays, and what looks like one in a
value is left alone. Behind a name without placeholders all entries are shown, in order. There are no other names. -/
theorem displayName_exact (values : Mapping Value) :
    (∀ t : Template, displayName t.text values = t.filled values) ∧
    (∀ name, Unhashed name → displayName name values =
      name ++ " [".toList ++ join ", ".toList (values.map fun e => e.1 ++ ": ".toList ++ e.2.print) ++ [']']) ∧
    ∀ name, Unhashed name ∨ ∃ t : Template, t.text = name := by
  refine ⟨fun t => ?_, fun name hname => ?_, exists_template⟩
  · rw [displayName, if_pos (hasPlaceholder_text t), fill_text]
  · have hnone := hasPlaceholder_eq_false_iff.2 hname
    rw [displayName, if_neg (Bool.eq_false_iff.1 hnone), printEntries_eq_join]
    rfl

/-- A name in which one key begins another one, hash signs stand side by side, and a variable is missing. -/
def crowded : Template where
  lead := []
  parts :=
    [⟨"a".toList, " of ".toList, by decide, by decide, by rintro c ⟨⟩; decide, hasPlaceholder_eq_false_iff.1 (by decide)⟩,
      ⟨"ab".toList, ", #".toList, by decide, by decide, by rintro c ⟨⟩; decide, hasPlaceholder_eq_false_iff.1 (by decide)⟩,
      ⟨"c".toList, ".max() and ".toList, by decide, by decide, by rintro c ⟨⟩; decide,
        hasPlaceholder_eq_false_iff.1 (by decide)⟩,
      ⟨"d".toList, [], by decide, by decide, nofun, unhashed_nil⟩]
  unhashed := unhashed_nil
  nonempty := List.cons_ne_nil _ _

/-- Data for this name; a value looks like a placeholder. -/
def crowdedValues : Mapping Value :=
  [("a".toList, .text "#ab".toList), ("ab".toList, .int 1), ("c".toList, .list [.int 1, .text "x".toList])]

theorem displayName_crowded :
    displayName "#a of #ab, ##c.max() and #d".toList crowdedValues = "#ab of 1, #[1, x].max() and #d".toList ∧
      displayName "a # of 1#".toList crowdedValues = "a # of 1# [a: #ab, ab: 1, c: [1, x]]".toList := by
  obtain ⟨hfilled, hlisted, -⟩ := displayName_exact crowdedValues
  have hname : Unhashed "a # of 1#".toList := hasPlaceholder_eq_false_iff.1 (by decide)
  constructor
  · have htext : crowded.text = "#a of #ab, ##c.max() and #d".toList := by decide
    rw [← htext, hfilled]
    decide
  · rw [hlisted _ hname]
    decide

end DisplayName

end SpecAtlas
