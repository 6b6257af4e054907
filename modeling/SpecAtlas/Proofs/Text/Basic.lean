import Mathlib.Data.List.Basic
import Mathlib.Data.List.TakeDrop
import SpecAtlas.Text.Basic
import SpecAtlas.Text.Word

/-!
# Cutting texts apart

What trimming keeps, and how texts that were put together from lines or from words come apart
again:

* trimming takes away white space only, so the count of any other character stays;
* `lines` undoes the joining of lines, `words` undoes the joining of words by white space;
* a word character is no white space.
-/

namespace SpecAtlas.Text

/-! ## Trimming -/

/-- Dropping characters from the front keeps the count of a character that is not dropped. -/
theorem count_dropWhile {p : Char → Bool} {c : Char} (h : p c = false) (text : Text) :
    (text.dropWhile p).count c = text.count c := by
  induction text with
  | nil => rfl
  | cons x text ih =>
      by_cases hx : p x
      · have hne : x ≠ c := by
          intro he
          rw [he, h] at hx
          contradiction
        rw [List.dropWhile_cons_of_pos hx, ih, List.count_cons_of_ne hne]
      · rw [List.dropWhile_cons_of_neg hx]

/-- Trimming keeps the count of every character that is no white space. -/
theorem count_trim {c : Char} (h : isBlank c = false) (text : Text) : (trim text).count c = text.count c := by
  unfold trim trimRight dropRight trimLeft
  rw [List.count_reverse, count_dropWhile h, List.count_reverse, count_dropWhile h]

/-- Trimming keeps the characters that are no white space. -/
theorem elem_trim {c : Char} (h : isBlank c = false) (text : Text) : (trim text).elem c = text.elem c := by
  have hmem : c ∈ trim text ↔ c ∈ text := by
    rw [← List.count_pos_iff, count_trim h, List.count_pos_iff]
  rw [Bool.eq_iff_iff, List.elem_iff, List.elem_iff, hmem]

theorem dropRight_cons (p : Char → Bool) (c : Char) (text : Text) :
    dropRight p (c :: text) = if (dropRight p text).isEmpty && p c then [] else c :: dropRight p text := by
  unfold dropRight
  rw [List.reverse_cons, List.dropWhile_append, List.isEmpty_reverse]
  by_cases he : (text.reverse.dropWhile p).isEmpty = true
  · rw [if_pos he, he, Bool.true_and]
    by_cases hc : p c = true
    · rw [List.dropWhile_cons_of_pos hc, if_pos hc]
      rfl
    · rw [List.dropWhile_cons_of_neg hc, if_neg hc, List.isEmpty_iff.1 he]
      rfl
  · rw [if_neg he, Bool.eq_false_iff.2 he, Bool.false_and, if_neg Bool.false_ne_true, List.reverse_append]
    rfl

/-- The two ends of a text are trimmed independently. -/
theorem dropWhile_dropRight (p : Char → Bool) (text : Text) :
    (dropRight p text).dropWhile p = dropRight p (text.dropWhile p) := by
  induction text with
  | nil => rfl
  | cons c text ih =>
      rw [dropRight_cons]
      by_cases hc : p c
      · rw [List.dropWhile_cons_of_pos hc, ← ih]
        by_cases he : (dropRight p text).isEmpty
        · rw [if_pos (by rw [he, hc]; rfl), List.isEmpty_iff.1 he, List.dropWhile_nil]
        · simp only [he, Bool.false_and, Bool.false_eq_true, if_false, List.dropWhile_cons_of_pos hc]
      · simp only [hc, Bool.and_false, Bool.false_eq_true, if_false,
          List.dropWhile_cons_of_neg, not_false_eq_true, dropRight_cons]

/-- A text that does not end with such a character stays as it is. -/
theorem dropRight_of_getLast {p : Char → Bool} {text : Text} (h : ∀ c ∈ text.getLast?, p c = false) :
    dropRight p text = text := by
  unfold dropRight
  cases hr : text.reverse with
  | nil => simp_all
  | cons c rest =>
      have hlast : text.getLast? = some c := by rw [← List.head?_reverse, hr]; rfl
      rw [List.dropWhile_cons_of_neg (by simp [h c hlast]), ← hr, List.reverse_reverse]

/-- A text without white space at its ends stays as it is. -/
theorem trim_of_ends {text : Text} (hf : ∀ c ∈ text.head?, isBlank c = false)
    (hl : ∀ c ∈ text.getLast?, isBlank c = false) : trim text = text := by
  have hleft : trimLeft text = text := by
    cases text with
    | nil => rfl
    | cons c rest => exact List.dropWhile_cons_of_neg (by simp [hf c rfl])
  rw [trim, hleft, trimRight, dropRight_of_getLast hl]

/-- Characters that are dropped make no difference to what stands in front of them. -/
theorem dropRight_append {p : Char → Bool} {tail : Text} (h : ∀ c ∈ tail, p c = true) (text : Text) :
    dropRight p (text ++ tail) = dropRight p text := by
  have hreverse : ∀ c ∈ tail.reverse, p c = true := fun c hc => h c (List.mem_reverse.1 hc)
  rw [dropRight, List.reverse_append, List.dropWhile_append_of_pos hreverse]
  rfl

theorem trimRight_append_space (text : Text) : trimRight (text ++ [' ']) = trimRight text :=
  dropRight_append (List.forall_mem_singleton.2 rfl) text

/-- A text between two characters that are no white space stays as it is. -/
theorem trim_enclosed {first last : Char} (hf : isBlank first = false) (hl : isBlank last = false)
    (text : Text) : trim (first :: (text ++ [last])) = first :: (text ++ [last]) := by
  refine trim_of_ends (fun c hc => ?_) fun c hc => ?_
  · obtain rfl : first = c := Option.some.inj hc
    exact hf
  · rw [← List.cons_append, List.getLast?_concat] at hc
    obtain rfl : last = c := Option.some.inj hc
    exact hl

theorem dropWhile_dropWhile (p : Char → Bool) (text : Text) :
    (text.dropWhile p).dropWhile p = text.dropWhile p := by
  induction text with
  | nil => rfl
  | cons c text ih =>
      by_cases hc : p c
      · rw [List.dropWhile_cons_of_pos hc, ih]
      · rw [List.dropWhile_cons_of_neg hc, List.dropWhile_cons_of_neg hc]

/-- A trimmed text has no white space at its end. -/
theorem trimRight_of_trim {text : Text} (h : trim text = text) : trimRight text = text := by
  have hreverse : text.reverse = (trimLeft text).reverse.dropWhile isBlank := by
    conv => lhs; rw [← h]
    rw [trim, trimRight, dropRight, List.reverse_reverse]
  rw [trimRight, dropRight, hreverse, dropWhile_dropWhile, ← hreverse, List.reverse_reverse]

/-- White space in front of a text is trimmed. -/
theorem trim_append {blank : Text} (h : allBlank blank = true) (text : Text) :
    trim (blank ++ text) = trim text := by
  rw [trim, trimLeft, List.dropWhile_append_of_pos (List.all_eq_true.1 h)]
  rfl

/-- It makes no difference which end is trimmed first. -/
theorem trim_eq_trimLeft (text : Text) : trim text = trimLeft (trimRight text) :=
  (dropWhile_dropRight isBlank text).symm

/-- Trimming leaves nothing to be trimmed. -/
theorem trim_trim (text : Text) : trim (trim text) = trim text := by
  have hleft (t : Text) : trimLeft (trimLeft t) = trimLeft t := dropWhile_dropWhile isBlank t
  have hright (t : Text) : trimRight (trimRight t) = trimRight t := by
    simp only [trimRight, dropRight, List.reverse_reverse, dropWhile_dropWhile]
  calc trim (trim text) = trimRight (trimLeft (trimLeft (trimRight text))) := by rw [trim_eq_trimLeft text]; rfl
    _ = trimRight (trim text) := by rw [hleft, trim_eq_trimLeft]
    _ = trim text := hright (trimLeft text)

/-- White space behind a text is trimmed. -/
theorem trim_append_right (text : Text) {blank : Text} (h : allBlank blank = true) :
    trim (text ++ blank) = trim text := by
  rw [trim_eq_trimLeft, trimRight, dropRight_append (List.all_eq_true.1 h), trim_eq_trimLeft]
  rfl

/-- A trimmed text has no white space at its front. -/
theorem head?_of_trim {text : Text} (h : trim text = text) : ∀ c ∈ text.head?, isBlank c = false := by
  intro c hc
  rw [← h, trim_eq_trimLeft, trimLeft] at hc
  have hfirst := List.head?_dropWhile_not isBlank (trimRight text)
  rw [Option.mem_def.1 hc] at hfirst
  simpa using hfirst

/-- A trimmed text has no white space at its end. -/
theorem getLast?_of_trim {text : Text} (h : trim text = text) : ∀ c ∈ text.getLast?, isBlank c = false := by
  intro c hc
  have hkeep := congrArg List.reverse (trimRight_of_trim h)
  rw [trimRight, dropRight, List.reverse_reverse] at hkeep
  rw [← List.head?_reverse, ← hkeep] at hc
  have hlast := List.head?_dropWhile_not isBlank text.reverse
  rw [Option.mem_def.1 hc] at hlast
  simpa using hlast

/-- White space in front of a text, and the text without it. -/
theorem exists_blank_append (text : Text) : ∃ blank, allBlank blank = true ∧ text = blank ++ trimLeft text :=
  ⟨text.takeWhile isBlank, List.all_takeWhile, (List.takeWhile_append_dropWhile).symm⟩

/-- A text without the white space behind it, and that white space. -/
theorem exists_append_blank (text : Text) : ∃ blank, allBlank blank = true ∧ text = trimRight text ++ blank := by
  obtain ⟨blank, hblank, hreverse⟩ := exists_blank_append text.reverse
  refine ⟨blank.reverse, by rw [allBlank, List.all_reverse]; exact hblank, ?_⟩
  have htext := congrArg List.reverse hreverse
  rwa [List.reverse_reverse, List.reverse_append] at htext

/-- A text is what is left of it when it is trimmed, with white space around. -/
theorem exists_trim_append (text : Text) :
    ∃ front back, allBlank front = true ∧ allBlank back = true ∧ text = front ++ (trim text ++ back) := by
  obtain ⟨front, hfront, htext⟩ := exists_blank_append text
  obtain ⟨back, hback, hleft⟩ := exists_append_blank (trimLeft text)
  exact ⟨front, back, hfront, hback, by rw [trim, ← hleft, ← htext]⟩

/-- Carriage returns at the end of a line are white space, and trimming takes them away. -/
theorem trim_dropReturns (line : Text) : trim (dropReturns line) = trim line := by
  have hright (text : Text) : trimRight (dropReturns text) = trimRight text := by
    simp only [trimRight, dropReturns, dropRight, List.reverse_reverse]
    congr 1
    generalize text.reverse = reversed
    induction reversed with
    | nil => rfl
    | cons c rest ih =>
        by_cases hc : c = '\r'
        · subst hc
          rw [List.dropWhile_cons_of_pos rfl, List.dropWhile_cons_of_pos (by decide), ih]
        · rw [List.dropWhile_cons_of_neg (by simpa using hc)]
  rw [trim_eq_trimLeft, hright, ← trim_eq_trimLeft]

/-- A text of characters of one kind has no others. -/
theorem not_mem_of_all {kind : Char → Bool} {text : Text} (h : text.all kind = true) {c : Char} (hc : kind c = false) :
    c ∉ text := by
  intro hm
  rw [List.all_eq_true.1 h c hm] at hc
  contradiction

/-- White space has no other characters. -/
theorem not_mem_of_allBlank {blank : Text} (h : allBlank blank = true) {c : Char} (hc : isBlank c = false) :
    c ∉ blank := not_mem_of_all h hc

/-! ## The longest lead -/

/-- A character that is not in a text differs from all that are. -/
theorem bne_of_not_mem {c : Char} {text : Text} (h : c ∉ text) : ∀ x ∈ text, (x != c) = true := by
  intro x hx
  have hne : x ≠ c := fun he => h (he ▸ hx)
  simpa using hne

/-- Where a text can be divided into characters that satisfy `p` and one that does not, `span` finds
that place. -/
theorem span_append {p : Char → Bool} {front : Text} (hfront : ∀ c ∈ front, p c = true) {c : Char}
    (hc : p c = false) (rest : Text) : (front ++ c :: rest).span p = (front, c :: rest) := by
  have hstop : ¬ p c = true := by rw [hc]; decide
  rw [List.span_eq_takeWhile_dropWhile, List.takeWhile_append_of_pos hfront,
    List.dropWhile_append_of_pos hfront, List.takeWhile_cons_of_neg hstop, List.dropWhile_cons_of_neg hstop, List.append_nil]

/-- A character that does not satisfy `p` ends the longest lead that does. -/
theorem takeWhile_append_stop {p : Char → Bool} {stop : Char} (h : p stop = false) (front rest : Text) :
    (front ++ stop :: rest).takeWhile p = front.takeWhile p := by
  induction front with
  | nil => simp [h]
  | cons c front ih => simp only [List.cons_append, List.takeWhile_cons, ih]

/-- What is dropped lies in front of the first character that does not satisfy `p`. -/
theorem dropWhile_append_stop {p : Char → Bool} {stop : Char} (h : p stop = false) (front rest : Text) :
    (front ++ stop :: rest).dropWhile p = front.dropWhile p ++ stop :: rest := by
  induction front with
  | nil => simp [h]
  | cons c front ih =>
      by_cases hc : p c
      · simp only [List.cons_append, List.dropWhile_cons_of_pos hc, ih]
      · simp only [List.cons_append, List.dropWhile_cons_of_neg hc]

/-- Nothing is taken from a text that does not begin with a character of the kind. -/
theorem takeWhile_of_head? {p : Char → Bool} {text : Text} (h : ∀ c ∈ text.head?, p c = false) :
    text.takeWhile p = [] := by
  cases text with
  | nil => rfl
  | cons c text => simp [h c rfl]

theorem dropWhile_of_head? {p : Char → Bool} {text : Text} (h : ∀ c ∈ text.head?, p c = false) :
    text.dropWhile p = text := by
  cases text with
  | nil => rfl
  | cons c text => simp [h c rfl]

theorem mem_of_mem_trimRight {c : Char} {text : Text} (h : c ∈ trimRight text) : c ∈ text :=
  List.mem_reverse.1 ((List.dropWhile_sublist isBlank).subset (List.mem_reverse.1 h))

/-- White space is only taken away behind the last character that is none. -/
theorem trimRight_append_stop {stop : Char} (h : isBlank stop = false) (front back : Text) :
    trimRight (front ++ stop :: back) = front ++ stop :: trimRight back := by
  have hreverse : (front ++ stop :: back).reverse = back.reverse ++ stop :: front.reverse := by simp
  rw [trimRight, dropRight, hreverse, dropWhile_append_stop h]
  simp [trimRight, dropRight]

theorem trim_cons {c : Char} (h : isBlank c = false) (text : Text) : trim (c :: text) = c :: trimRight text := by
  have hleft : trimLeft (c :: text) = c :: text := List.dropWhile_cons_of_neg (by simp [h])
  rw [trim, hleft]
  exact trimRight_append_stop h [] text

/-! ## Lines -/

theorem pieces_of_not_mem {sep : Char} {text : Text} (h : sep ∉ text) : pieces sep text = [text] := by
  induction text with
  | nil => rfl
  | cons c text ih =>
      have hc : c ≠ sep := fun he => h (he ▸ List.mem_cons_self)
      rw [pieces, if_neg hc, ih fun hm => h (List.mem_cons_of_mem c hm)]

/-- A text comes apart at each of its separators. -/
theorem pieces_append_cons (sep : Char) (first rest : Text) :
    pieces sep (first ++ sep :: rest) = pieces sep first ++ pieces sep rest := by
  induction first with
  | nil => simp [pieces]
  | cons c first ih =>
      rw [List.cons_append, pieces, pieces, ih]
      split
      · rfl
      · obtain ⟨piece, others, h⟩ := List.exists_cons_of_ne_nil (pieces_ne_nil sep first)
        rw [h]
        rfl

theorem pieces_append {sep : Char} {first : Text} (h : sep ∉ first) (rest : Text) :
    pieces sep (first ++ sep :: rest) = first :: pieces sep rest := by
  rw [pieces_append_cons, pieces_of_not_mem h]
  rfl

/-- What stands in front of the first separator goes to the first part. -/
theorem pieces_append_head {sep : Char} {front : Text} (h : sep ∉ front) (back : Text) :
    pieces sep (front ++ back) = (pieces sep back).modifyHead (front ++ ·) := by
  obtain ⟨first, rest, hback⟩ := List.exists_cons_of_ne_nil (pieces_ne_nil sep back)
  induction front with
  | nil => simp [hback]
  | cons c front ih =>
      have hc : c ≠ sep := fun he => h (he ▸ List.mem_cons_self)
      rw [List.cons_append, pieces, if_neg hc, ih fun hm => h (List.mem_cons_of_mem c hm), hback]
      rfl

/-- A piece has characters of the text only. -/
theorem mem_of_mem_pieces {sep : Char} {text piece : Text} (h : piece ∈ pieces sep text) {c : Char}
    (hc : c ∈ piece) : c ∈ text := by
  induction text generalizing piece with
  | nil =>
      rw [List.mem_singleton.1 h] at hc
      exact hc
  | cons x text ih =>
      rw [pieces] at h
      split at h
      · rcases List.mem_cons.1 h with rfl | hrest
        · contradiction
        · exact List.mem_cons_of_mem x (ih hrest hc)
      · obtain ⟨first, rest, he⟩ := List.exists_cons_of_ne_nil (pieces_ne_nil sep text)
        rw [he] at h ih
        rcases List.mem_cons.1 h with rfl | hrest
        · rcases List.mem_cons.1 hc with rfl | hc
          · exact List.mem_cons_self
          · exact List.mem_cons_of_mem x (ih List.mem_cons_self hc)
        · exact List.mem_cons_of_mem x (ih (List.mem_cons_of_mem first hrest) hc)

/-- There is no separator in a piece. -/
theorem not_mem_of_mem_pieces {sep : Char} {text piece : Text} (h : piece ∈ pieces sep text) : sep ∉ piece := by
  induction text generalizing piece with
  | nil =>
      rw [List.mem_singleton.1 h]
      exact List.not_mem_nil
  | cons c text ih =>
      rw [pieces] at h
      split at h
      · rcases List.mem_cons.1 h with rfl | hrest
        · exact List.not_mem_nil
        · exact ih hrest
      · rename_i hc
        obtain ⟨first, rest, he⟩ := List.exists_cons_of_ne_nil (pieces_ne_nil sep text)
        rw [he] at h ih
        rcases List.mem_cons.1 h with rfl | hrest
        · intro hm
          rcases List.mem_cons.1 hm with hsep | hm
          · exact hc hsep.symm
          · exact ih List.mem_cons_self hm
        · exact ih (List.mem_cons_of_mem first hrest)

/-- Lines that are joined come apart again. -/
theorem lines_join {texts : List Text} (hne : texts ≠ []) (h : ∀ line ∈ texts, '\n' ∉ line) :
    lines (join ['\n'] texts) = texts := by
  induction texts with
  | nil => exact absurd rfl hne
  | cons first rest ih =>
      have hf := h first List.mem_cons_self
      cases rest with
      | nil => simpa [join, lines] using pieces_of_not_mem hf
      | cons next rest =>
          have hrest := ih (List.cons_ne_nil _ _) fun line hl => h line (List.mem_cons_of_mem _ hl)
          rw [join_cons_of_ne_nil _ _ (List.cons_ne_nil _ _), List.append_assoc, List.singleton_append,
            lines, pieces_append hf, ← lines, hrest]

/-- The line with a number that a list of lines has. -/
theorem getD_of_getElem? {lines : List Text} {k : Nat} {line : Text} (h : lines[k]? = some line) :
    lines.getD k [] = line := by
  rw [List.getD_eq_getElem?_getD, h, Option.getD_some]

/-! ## Joined texts -/

/-- What stands in front of the first of joined texts stands in front of all of them. -/
theorem join_append_cons (sep lead first : Text) (rest : List Text) :
    join sep ((lead ++ first) :: rest) = lead ++ join sep (first :: rest) := by
  cases rest with
  | nil => simp [join]
  | cons next rest =>
      rw [join_cons_of_ne_nil _ _ (List.cons_ne_nil _ _), join_cons_of_ne_nil _ _ (List.cons_ne_nil _ _)]
      simp only [List.append_assoc]

/-- A list with a comma and a space between its members has the spaces in front of the members. -/
theorem join_comma_space (first : Text) (rest : List Text) :
    join ", ".toList (first :: rest) = join [','] (first :: rest.map (' ' :: ·)) := by
  induction rest generalizing first with
  | nil => simp [join]
  | cons next rest ih =>
      have hspace (text : Text) (texts : List Text) :
          join [','] ((' ' :: text) :: texts) = ' ' :: join [','] (text :: texts) :=
        join_append_cons [','] [' '] text texts
      rw [join_cons_of_ne_nil _ _ (List.cons_ne_nil _ _), ih, List.map_cons,
        join_cons_of_ne_nil _ _ (List.cons_ne_nil _ _), hspace, List.append_assoc, List.append_assoc]
      rfl

/-- A join begins with the first text. -/
theorem join_eq_append (sep first : Text) (rest : List Text) : ∃ behind, join sep (first :: rest) = first ++ behind := by
  cases rest with
  | nil => exact ⟨[], by simp [join]⟩
  | cons next rest => exact ⟨_, by rw [join_cons_of_ne_nil _ _ (List.cons_ne_nil _ _), List.append_assoc]⟩

/-- Texts without white space at their ends are joined to such a text. -/
theorem trim_join {sep : Text} {parts : List Text} (h : ∀ part ∈ parts, trim part = part ∧ part ≠ []) :
    trim (join sep parts) = join sep parts := by
  have hlast : ∀ c ∈ (join sep parts).getLast?, isBlank c = false := by
    induction parts with
    | nil => simp [join]
    | cons part rest ih =>
        have hrest := ih fun p hp => h p (List.mem_cons_of_mem part hp)
        cases rest with
        | nil => simpa [join] using getLast?_of_trim (h part List.mem_cons_self).1
        | cons next rest =>
            obtain ⟨behind, hbehind⟩ := join_eq_append sep next rest
            have hnext := (h next (List.mem_cons_of_mem part List.mem_cons_self)).2
            have hne : join sep (next :: rest) ≠ [] := fun hnil => hnext (List.append_eq_nil_iff.1 (hbehind ▸ hnil)).1
            rwa [join_cons_of_ne_nil _ _ (List.cons_ne_nil _ _), List.getLast?_append_of_ne_nil _ hne]
  refine trim_of_ends (fun c hc => ?_) hlast
  cases parts with
  | nil => contradiction
  | cons part rest =>
      obtain ⟨htrim, hne⟩ := h part List.mem_cons_self
      obtain ⟨behind, hbehind⟩ := join_eq_append sep part rest
      rw [hbehind, List.head?_append_of_ne_nil _ hne] at hc
      exact head?_of_trim htrim c hc

/-- Two joins are joined like their parts. -/
theorem join_append (sep : Text) {front back : List Text} (hfront : front ≠ []) (hback : back ≠ []) :
    join sep (front ++ back) = join sep front ++ sep ++ join sep back := by
  induction front with
  | nil => contradiction
  | cons part rest ih =>
      cases rest with
      | nil =>
          rw [List.singleton_append, join_cons_of_ne_nil _ _ hback]
          simp [join]
      | cons next rest =>
          rw [List.cons_append, join_cons_of_ne_nil _ _ (by simp), ih (List.cons_ne_nil _ _),
            join_cons_of_ne_nil _ _ (List.cons_ne_nil _ _)]
          simp

/-- A joined text has only characters of its parts and of what stands between them. -/
theorem not_mem_join {c : Char} {sep : Text} (hsep : c ∉ sep) {parts : List Text} (h : ∀ part ∈ parts, c ∉ part) :
    c ∉ join sep parts := by
  induction parts with
  | nil => simp [join]
  | cons part rest ih =>
      have hpart := h part List.mem_cons_self
      have hrest := ih fun p hp => h p (List.mem_cons_of_mem part hp)
      cases rest with
      | nil => simpa [join] using hpart
      | cons next rest =>
          rw [join_cons_of_ne_nil _ _ (List.cons_ne_nil _ _), List.mem_append, List.mem_append]
          rintro ((hm | hm) | hm)
          · exact hpart hm
          · exact hsep hm
          · exact hrest hm

theorem splitWords_append {word : Text} (h : ∀ c ∈ word, isBlank c = false) {b : Char}
    (hb : isBlank b = true) (rest : Text) :
    words.splitWords (word ++ b :: rest) = word :: words.splitWords rest := by
  induction word with
  | nil => simp [words.splitWords, hb]
  | cons c word ih =>
      rw [List.cons_append, words.splitWords, if_neg (by simp [h c List.mem_cons_self]),
        ih fun x hx => h x (List.mem_cons_of_mem c hx)]

/-- Whether a text is free of white space can be computed. -/
theorem not_blank_of_any {word : Text} (h : word.any isBlank = false) : ∀ c ∈ word, isBlank c = false := by
  intro c hc
  have hne := List.any_eq_false.1 h c hc
  simpa using hne

/-- A word ends at the first white space. -/
theorem words_append {word : Text} (hne : word ≠ []) (h : ∀ c ∈ word, isBlank c = false) {b : Char}
    (hb : isBlank b = true) (rest : Text) : words (word ++ b :: rest) = word :: words rest := by
  simp [words, splitWords_append h hb, hne]

/-! ## Word characters -/

theorem exists_of_inRanges {ranges : List (Nat × Nat)} {n : Nat} (h : inRanges ranges n = true) :
    ∃ r ∈ ranges, r.1 ≤ n ∧ n ≤ r.2 := by
  fun_induction inRanges ranges n with
  | case1 => simp at h
  | case2 => simp at h
  | case3 low high rest n hlow ih =>
      rw [Bool.or_eq_true, decide_eq_true_eq] at h
      cases h with
      | inl hle => exact ⟨(low, high), List.mem_cons_self, Nat.not_lt.1 hlow, hle⟩
      | inr hrest =>
          obtain ⟨r, hr, hn⟩ := ih hrest
          exact ⟨r, List.mem_cons_of_mem _ hr, hn⟩

/-- The two tables have no code point in common. -/
theorem wordRanges_apart_blankRanges :
    (wordRanges.all fun w => blankRanges.all fun b => w.2 < b.1 || b.2 < w.1) = true := by
  decide +kernel

/-- The word characters of ASCII are letters, digits and the underscore. -/
theorem toNat_of_isAsciiWord {c : Char} (h : isAsciiWord c = true) : 48 ≤ c.toNat ∧ c.toNat ≤ 122 := by
  delta isAsciiWord Char.isAlphanum Char.isAlpha Char.isUpper Char.isLower Char.isDigit at h
  simp only [Bool.or_eq_true, Bool.and_eq_true, decide_eq_true_eq, beq_iff_eq, UInt32.le_iff_toNat_le,
    ge_iff_le] at h
  have hval : c.toNat = c.val.toNat := rfl
  have hA : 'A'.val.toNat = 65 := rfl
  have hZ : 'Z'.val.toNat = 90 := rfl
  have ha : 'a'.val.toNat = 97 := rfl
  have hz : 'z'.val.toNat = 122 := rfl
  have h0 : '0'.val.toNat = 48 := rfl
  have h9 : '9'.val.toNat = 57 := rfl
  rcases h with h | rfl
  · omega
  · decide

theorem isAsciiWord_of_isIdentStart {c : Char} (h : isIdentStart c = true) : isAsciiWord c = true := by
  simp only [isIdentStart, isAsciiWord, Char.isAlphanum, Bool.or_eq_true] at h ⊢
  exact h.imp_left .inl

/-- What begins an identifier also goes on with it. -/
theorem isWord_of_isIdentStart {c : Char} (h : isIdentStart c = true) : isWord c = true := by
  have hword := isAsciiWord_of_isIdentStart h
  have hascii : c.toNat < 0x80 := by
    have hrange := toNat_of_isAsciiWord hword
    omega
  rw [isWord, if_pos hascii, hword]

/-- A word character is no white space. -/
theorem isBlank_of_isWord {c : Char} (h : isWord c = true) : isBlank c = false := by
  rw [← Bool.not_eq_true]
  intro hb
  obtain ⟨b, hbm, hb1, hb2⟩ := exists_of_inRanges hb
  unfold isWord at h
  split at h
  · rename_i hlt
    obtain ⟨h1, h2⟩ := toNat_of_isAsciiWord h
    have happart : ∀ b ∈ blankRanges, b.2 < 48 ∨ 122 < b.1 := by decide
    have := happart b hbm
    omega
  · obtain ⟨w, hwm, hw1, hw2⟩ := exists_of_inRanges h
    have happart := List.all_eq_true.1 (List.all_eq_true.1 wordRanges_apart_blankRanges w hwm) b hbm
    simp only [Bool.or_eq_true, decide_eq_true_eq] at happart
    omega

end SpecAtlas.Text
