import SpecAtlas.Proofs.Text.Basic
import SpecAtlas.Proofs.Value.Passing
import SpecAtlas.Source.Row

/-!
# Comments behind a text

The search for a comment goes over a text once and keeps in mind which quote is open (`beforeComment?_cons`).
`openQuote` is the quote that is open where it stops: at the comment, or else at the end of the text.

1. A comment that has been found stays found, whatever stands behind it (`beforeComment?_append_of_some`), and
   otherwise the search goes on behind the text with the quote that is open there (`beforeComment?_append`).
2. So there is nothing left to be stripped from a stripped text (`stripComment_stripComment`), and where no quote is
   open a comment that is written behind a text makes no difference to it (`stripComment_trim_comment`).
-/

namespace SpecAtlas.Source

open Text

/-! ## One character -/

/-- The quote that is open behind a character. -/
def quoteBehind (quote : Option Char) (c : Char) : Option Char :=
  match quote with
  | some q => if c = q then none else some q
  | none => if isQuote c then some c else none

/-- Whether a comment begins at a character, by what stands behind it. -/
def beginsComment (quote : Option Char) (c : Char) (text : Text) : Bool :=
  quote.isNone && c = '/' && text.head? == some '/'

/-- The quote that is open where the search for a comment stops, at the comment or at the end of the text. -/
def openQuote (quote : Option Char) : Text → Option Char
  | [] => quote
  | c :: text => if beginsComment quote c text then none else openQuote (quoteBehind quote c) text

section

variable {quote : Option Char} {text before rest : Text}

/-- A comment begins at a character, or the search goes on behind it. -/
theorem beforeComment?_cons (quote : Option Char) (c : Char) (text : Text) :
    beforeComment? quote (c :: text) =
      if beginsComment quote c text then some [] else (beforeComment? (quoteBehind quote c) text).map (c :: ·) := by
  cases quote with
  | some q => simp [beforeComment?, beginsComment, quoteBehind]
  | none =>
      by_cases hquote : isQuote c
      · have hslash : c ≠ '/' := by
          rintro rfl
          contradiction
        simp [beforeComment?, beginsComment, quoteBehind, hquote, hslash]
      · simp [beforeComment?, beginsComment, quoteBehind, hquote]

/-- What stands behind a text has no say in where a comment begins in it, unless slashes meet at its end. -/
theorem beginsComment_append {c : Char} (h : text = [] → c ≠ '/' ∨ rest.head? ≠ some '/') :
    beginsComment quote c (text ++ rest) = beginsComment quote c text := by
  cases text with
  | nil => rcases h rfl with hc | hrest <;> simp [beginsComment, *]
  | cons d text => rfl

theorem beginsComment_nil (c : Char) : beginsComment quote c [] = false := by simp [beginsComment]

/-! ## What stands behind -/

/-- **Behind a text without a comment the search goes on**, with the quote that is open there. -/
theorem beforeComment?_append (hnone : beforeComment? quote text = none)
    (hapart : text.getLast? ≠ some '/' ∨ rest.head? ≠ some '/') :
    beforeComment? quote (text ++ rest) = (beforeComment? (openQuote quote text) rest).map (text ++ ·) := by
  induction text generalizing quote with
  | nil => simp [openQuote]
  | cons c text ih =>
      rw [beforeComment?_cons] at hnone
      split at hnone
      · contradiction
      · rename_i hbegins
        have hlast : text.getLast? ≠ some '/' ∨ rest.head? ≠ some '/' := by
          cases text with
          | nil => exact .inl (by simp)
          | cons d text => simpa using hapart
        have hhere : text = [] → c ≠ '/' ∨ rest.head? ≠ some '/' := by
          rintro rfl
          simpa using hapart
        rw [List.cons_append, beforeComment?_cons, beginsComment_append hhere, if_neg hbegins, openQuote,
          if_neg hbegins, ih (Option.map_eq_none_iff.1 hnone) hlast, Option.map_map]
        rfl

/-- **A comment that has been found stays found**, whatever stands behind it. -/
theorem beforeComment?_append_of_some (h : beforeComment? quote text = some before) (rest : Text) :
    beforeComment? quote (text ++ rest) = some before := by
  induction text generalizing quote before with
  | nil => contradiction
  | cons c text ih =>
      have hsome : text ≠ [] := by
        rintro rfl
        rw [beforeComment?_cons, beginsComment_nil] at h
        contradiction
      rw [beforeComment?_cons] at h
      rw [List.cons_append, beforeComment?_cons, beginsComment_append fun hnil => absurd hnil hsome]
      split at h
      · rename_i hbegins
        rw [if_pos hbegins, h]
      · rename_i hbegins
        obtain ⟨front, hfront, rfl⟩ := Option.map_eq_some_iff.1 h
        rw [if_neg hbegins, ih hfront, Option.map_some]

/-- Behind what is kept stands the comment, and in what is kept there is none. -/
theorem beforeComment?_eq_some (h : beforeComment? quote text = some before) :
    (∃ comment, text = before ++ '/' :: '/' :: comment) ∧ beforeComment? quote before = none := by
  induction text generalizing quote before with
  | nil => contradiction
  | cons c text ih =>
      rw [beforeComment?_cons] at h
      split at h
      · rename_i hbegins
        obtain rfl := Option.some.inj h
        have hslashes : c = '/' ∧ text.head? = some '/' := by simp_all [beginsComment]
        obtain ⟨comment, rfl⟩ := List.head?_eq_some_iff.1 hslashes.2
        exact ⟨⟨comment, by rw [hslashes.1]; rfl⟩, rfl⟩
      · rename_i hbegins
        obtain ⟨front, hfront, rfl⟩ := Option.map_eq_some_iff.1 h
        obtain ⟨⟨comment, rfl⟩, hnone⟩ := ih hfront
        have hhere : ¬ beginsComment quote c front = true := by
          cases front with
          | nil => simp [beginsComment_nil]
          | cons d front => exact hbegins
        exact ⟨⟨comment, rfl⟩, by rw [beforeComment?_cons, if_neg hhere, hnone, Option.map_none]⟩

/-- **There is nothing left to be stripped from a stripped text.** -/
theorem stripComment_stripComment (text : Text) : stripComment (stripComment text) = stripComment text := by
  cases hcomment : beforeComment? none text with
  | none => simp [stripComment, hcomment]
  | some before =>
      have hstrip : stripComment text = trimRight before := by rw [stripComment, hcomment]
      have hnone := (beforeComment?_eq_some hcomment).2
      -- A comment in the trimmed text would have been found in front of the white space that is trimmed.
      obtain ⟨gap, -, hgap⟩ := exists_append_blank before
      have hkept : beforeComment? none (trimRight before) = none := by
        cases hfront : beforeComment? none (trimRight before) with
        | none => rfl
        | some front =>
            have hfound := beforeComment?_append_of_some hfront gap
            rw [← hgap, hnone] at hfound
            contradiction
      rw [hstrip, stripComment, hkept]

/-! ## Texts without a comment -/

/-- Without a comment mark there is no comment, whatever quote is open. -/
theorem beforeComment?_of_unmarked (h : ¬ "//".toList <:+: text) (quote : Option Char) :
    beforeComment? quote text = none := by
  cases hcomment : beforeComment? quote text with
  | none => rfl
  | some before =>
      obtain ⟨comment, rfl⟩ := (beforeComment?_eq_some hcomment).1
      exact absurd ⟨before, comment, by simp⟩ h

theorem stripComment_of_unmarked (h : ¬ "//".toList <:+: text) : stripComment text = text := by
  rw [stripComment, beforeComment?_of_unmarked h]

theorem not_infix_of_not_mem (h : '/' ∉ text) : ¬ "//".toList <:+: text :=
  fun hmark => h (hmark.subset List.mem_cons_self)

/-- Without quotes none is open. -/
theorem openQuote_of_unquoted (h : text.any isQuote = false) : openQuote none text = none := by
  induction text with
  | nil => rfl
  | cons c text ih =>
      rw [List.any_cons, Bool.or_eq_false_iff] at h
      have hbehind : quoteBehind none c = none := by simp [quoteBehind, h.1]
      rw [openQuote, hbehind, ih h.2, ite_self]

/-- A text in which no comment begins and behind which no quote is open. -/
def Uncommented (text : Text) : Prop :=
  ∀ rest, beforeComment? none (text ++ rest) = (beforeComment? none rest).map (text ++ ·)

theorem Uncommented.append {front back : Text} (hfront : Uncommented front) (hback : Uncommented back) :
    Uncommented (front ++ back) := by
  intro rest
  rw [List.append_assoc, hfront, hback, Option.map_map]
  congr 1
  funext before
  simp

theorem uncommented_of_not_mem {text : Text} (hslash : '/' ∉ text) (hquote : text.any isQuote = false) :
    Uncommented text := by
  intro rest
  have hnone := beforeComment?_of_unmarked (not_infix_of_not_mem hslash) none
  have hlast : text.getLast? ≠ some '/' := fun hl => hslash (List.mem_of_getLast? hl)
  rw [beforeComment?_append hnone (.inl hlast), openQuote_of_unquoted hquote]

/-- White space does not begin a comment. -/
theorem uncommented_blank {blank : Text} (h : allBlank blank = true) : Uncommented blank := by
  have hnot {c : Char} (hc : isBlank c = false) : c ∉ blank := not_mem_of_allBlank h hc
  exact uncommented_of_not_mem (hnot (by decide)) (any_isQuote_of_not_mem (hnot (by decide)) (hnot (by decide)))

/-- In quotes nothing begins a comment. -/
theorem beforeComment?_inQuotes {q : Char} {text : Text} (h : q ∉ text) (rest : Text) :
    beforeComment? (some q) (text ++ q :: rest) = (beforeComment? none rest).map (text ++ q :: ·) := by
  induction text with
  | nil => simp [beforeComment?]
  | cons c text ih =>
      have hc : c ≠ q := fun he => h (he ▸ List.mem_cons_self)
      rw [List.cons_append, beforeComment?, if_neg hc, ih fun hm => h (List.mem_cons_of_mem c hm), Option.map_map]
      rfl

theorem uncommented_quoted {q : Char} (hq : isQuote q = true) {text : Text} (h : q ∉ text) :
    Uncommented (q :: (text ++ [q])) := by
  intro rest
  rw [List.cons_append, List.append_assoc, List.singleton_append, beforeComment?, if_pos hq,
    beforeComment?_inQuotes h, Option.map_map]
  congr 1
  funext before
  simp

theorem uncommented_join {sep : Text} (hsep : Uncommented sep) {parts : List Text} (h : ∀ part ∈ parts, Uncommented part) :
    Uncommented (join sep parts) := by
  induction parts with
  | nil => exact uncommented_of_not_mem List.not_mem_nil rfl
  | cons part rest ih =>
      have hpart := h part List.mem_cons_self
      have hrest := ih fun p hp => h p (List.mem_cons_of_mem part hp)
      cases rest with
      | nil => simpa [join] using hpart
      | cons next rest =>
          rw [join_cons_of_ne_nil _ _ (List.cons_ne_nil _ _)]
          exact (hpart.append hsep).append hrest

/-- There is no comment to be stripped. -/
theorem Uncommented.stripComment_eq {text : Text} (h : Uncommented text) : stripComment text = text := by
  have hnone := h []
  rw [List.append_nil, beforeComment?, Option.map_none] at hnone
  rw [stripComment, hnone]

/-! ## A comment behind a text -/

/-- A comment behind a trimmed text is stripped, and the white space in front of it. -/
theorem stripComment_comment {blank : Text} (htrim : trim text = text) (hclosed : openQuote none text = none)
    (hblank : allBlank blank = true) (hapart : blank ≠ [] ∨ text.getLast? ≠ some '/') (comment : Text) :
    stripComment (text ++ (blank ++ '/' :: '/' :: comment)) = stripComment text := by
  cases hcomment : beforeComment? none text with
  | some before => rw [stripComment, stripComment, hcomment, beforeComment?_append_of_some hcomment]
  | none =>
      have hhere : beforeComment? none ('/' :: '/' :: comment) = some [] := by simp [beforeComment?, isQuote]
      have hends : text.getLast? ≠ some '/' ∨ (blank ++ '/' :: '/' :: comment).head? ≠ some '/' := by
        refine hapart.symm.imp_right fun hne => ?_
        rw [List.head?_append_of_ne_nil _ hne]
        exact fun hhead => not_mem_of_allBlank hblank (by decide) (List.mem_of_head? hhead)
      have hkept : trimRight (text ++ blank) = text :=
        (dropRight_append (List.all_eq_true.1 hblank) text).trans (trimRight_of_trim htrim)
      rw [stripComment, beforeComment?_append hcomment hends, hclosed, uncommented_blank hblank, hhere, stripComment,
        hcomment]
      simpa using hkept

/-- Trimmed, a text with a comment behind it is the trimmed text with that comment behind it. -/
theorem exists_trim_comment (text comment : Text) (hlast : text.getLast? ≠ some '/') :
    ∃ blank, allBlank blank = true ∧ (blank ≠ [] ∨ (trim text).getLast? ≠ some '/') ∧
      trim (text ++ '/' :: '/' :: comment) = trim text ++ (blank ++ '/' :: '/' :: trimRight comment) := by
  obtain ⟨front, back, hfront, hback, htext⟩ := exists_trim_append text
  cases hcore : trim text with
  | nil =>
      -- All of the text is white space in front of the comment.
      rw [hcore, List.nil_append] at htext
      have hblank : allBlank text = true := by
        rw [htext, allBlank, List.all_append, Bool.and_eq_true]
        exact ⟨hfront, hback⟩
      refine ⟨[], rfl, .inr (by simp), ?_⟩
      rw [trim_append hblank, trim_cons (by decide)]
      exact congrArg _ (trimRight_append_stop (by decide) [] comment)
  | cons c rest =>
      have hc : isBlank c = false := head?_of_trim (trim_trim text) c (by rw [hcore]; rfl)
      rw [hcore] at htext
      have hends : back ≠ [] ∨ (c :: rest).getLast? ≠ some '/' := by
        rcases eq_or_ne back [] with rfl | hne
        · rw [htext, List.append_nil, List.getLast?_append_of_ne_nil _ (List.cons_ne_nil c rest)] at hlast
          exact .inr hlast
        · exact .inl hne
      have hparts : text ++ '/' :: '/' :: comment = front ++ (c :: (rest ++ (back ++ ['/']) ++ '/' :: comment)) := by
        simp [htext]
      have hright : trimRight (rest ++ (back ++ ['/']) ++ '/' :: comment) =
          rest ++ (back ++ ['/']) ++ '/' :: trimRight comment := trimRight_append_stop (by decide) _ comment
      refine ⟨back, hback, hends, ?_⟩
      rw [hparts, trim_append hfront, trim_cons hc, hright]
      simp

/-- **A comment makes no difference where no quote is open.** -/
theorem stripComment_trim_comment (hlast : text.getLast? ≠ some '/') (hclosed : openQuote none (trim text) = none)
    (comment : Text) : stripComment (trim (text ++ '/' :: '/' :: comment)) = stripComment (trim text) := by
  obtain ⟨blank, hblank, hapart, htrim⟩ := exists_trim_comment text comment hlast
  rw [htrim, stripComment_comment (trim_trim text) hclosed hblank hapart]

end

end SpecAtlas.Source
