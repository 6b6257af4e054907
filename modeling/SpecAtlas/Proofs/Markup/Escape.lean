import SpecAtlas.Markup.CharacterReference
import SpecAtlas.Proofs.Except
import SpecAtlas.Proofs.Text.Basic
import SpecAtlas.Proofs.Text.Mark

/-!
# Escaped text

Whoever writes markup writes the five characters `&`, `<`, `>`, `"` and `'` by references, of which
each has several, and all others as they are. An `Escaped` text is such a writing, together with what
it means; every text has one (`meaning_escape`).

* An escaped text has none of the characters that end a value or begin a tag (`not_mem_written`).
* `unescape` gives back what it means (`unescape_written`).
* Of an escaped text that is cut off, even within a reference, `unescape` still makes a text
  (`exists_unescape_of_isPrefix`), and no reference reaches over the end of a line
  (`unescape_newline`).
-/

namespace SpecAtlas.Markup

open Text

/-! ## References to the special characters -/

/-- What stands behind the ampersand where a special character is written by a reference: its name,
or its number in decimal or hexadecimal digits. -/
def references : Char → List Text
  | '&' => ["amp;".toList, "#38;".toList, "#x26;".toList]
  | '<' => ["lt;".toList, "#60;".toList, "#x3c;".toList]
  | '>' => ["gt;".toList, "#62;".toList, "#x3e;".toList]
  | '"' => ["quot;".toList, "#34;".toList, "#x22;".toList]
  | '\'' => ["apos;".toList, "#39;".toList, "#x27;".toList]
  | _ => []

/-- The characters that are written by references. -/
def special : List Char := ['&', '<', '>', '"', '\'']

theorem mem_special {c : Char} {reference : Text} (h : reference ∈ references c) : c ∈ special := by
  unfold references at h
  split at h
  case h_6 => contradiction
  all_goals decide

/-- A reference to a special character stands for it, whatever follows. -/
theorem reference?_append {c : Char} {reference : Text} (h : reference ∈ references c) (rest : Text) :
    reference? (reference ++ rest) = some (.ok [c], reference.length) := by
  unfold references at h
  split at h
  case h_6 => contradiction
  all_goals
    simp only [List.mem_cons, List.not_mem_nil, or_false] at h
    rcases h with rfl | rfl | rfl <;> rfl

/-- The writings of a character. -/
def forms (c : Char) : List Text :=
  if references c = [] then [[c]] else (references c).map ('&' :: ·)

theorem forms_ne_nil (c : Char) : forms c ≠ [] := by
  unfold forms
  split <;> simp_all

/-- A character is written as it is, or by one of its references. -/
theorem form_cases {c : Char} {form : Text} (h : form ∈ forms c) :
    (form = [c] ∧ references c = []) ∨ ∃ reference ∈ references c, form = '&' :: reference := by
  unfold forms at h
  split at h
  · rename_i hplain
    exact .inl ⟨List.mem_singleton.1 h, hplain⟩
  · obtain ⟨reference, hmem, rfl⟩ := List.mem_map.1 h
    exact .inr ⟨reference, hmem, rfl⟩

/-- The characters that no writing has. -/
def structural : List Char := ['<', '>', '"', '\'']

theorem not_mem_form {c x : Char} {form : Text} (h : form ∈ forms c) (hx : x ∈ structural) : x ∉ form := by
  rcases form_cases h with ⟨rfl, hplain⟩ | ⟨reference, hmem, rfl⟩
  · intro hm
    obtain rfl := List.mem_singleton.1 hm
    have hspecial : (structural.all fun x => references x ≠ []) = true := by decide
    exact of_decide_eq_true (List.all_eq_true.1 hspecial x hx) hplain
  · have hall : (special.all fun c => (references c).all fun reference =>
        structural.all fun x => x ∉ '&' :: reference) = true := by decide
    have hc := List.all_eq_true.1 (List.all_eq_true.1 hall c (mem_special hmem)) reference hmem
    exact of_decide_eq_true (List.all_eq_true.1 hc x hx)

/-- A writing has at most six characters. -/
theorem length_form_le {c : Char} {form : Text} (h : form ∈ forms c) : form.length ≤ 6 := by
  rcases form_cases h with ⟨rfl, -⟩ | ⟨reference, hmem, rfl⟩
  · simp
  · have hall : (special.all fun c => (references c).all fun reference => ('&' :: reference).length ≤ 6) = true := by
      decide
    exact of_decide_eq_true (List.all_eq_true.1 (List.all_eq_true.1 hall c (mem_special hmem)) reference hmem)

/-- A character is read from each of its writings, whatever follows. -/
theorem unescape_form {c : Char} {form : Text} (h : form ∈ forms c) (rest : Text) :
    unescape (form ++ rest) = (unescape rest).map (c :: ·) := by
  rcases form_cases h with ⟨rfl, hplain⟩ | ⟨reference, hmem, rfl⟩
  · have hc : c ≠ '&' := by
      rintro rfl
      contradiction
    rw [List.singleton_append, unescape, if_neg hc]
  · rw [List.cons_append, unescape, if_pos rfl, reference?_append hmem rest]
    dsimp only
    rw [List.drop_left, ok_bind]
    rfl

/-! ## Escaped text -/

/-- A character and how it is written. -/
structure Glyph where
  char : Char
  form : Text
  valid : form ∈ forms char

/-- An escaped text. -/
abbrev Escaped := List Glyph

namespace Escaped

/-- The text that is meant. -/
def meaning (e : Escaped) : Text := e.map Glyph.char

/-- The text as it is written. -/
def written (e : Escaped) : Text := e.flatMap Glyph.form

theorem written_cons (g : Glyph) (e : Escaped) : written (g :: e) = g.form ++ written e := rfl

theorem not_mem_written {x : Char} (hx : x ∈ structural) (e : Escaped) : x ∉ e.written := by
  intro hm
  obtain ⟨g, -, hg⟩ := List.mem_flatMap.1 hm
  exact not_mem_form g.valid hx hg

/-- An escaped text is read, whatever follows. -/
theorem unescape_append (e : Escaped) (rest : Text) :
    unescape (e.written ++ rest) = (unescape rest).map (e.meaning ++ ·) := by
  induction e with
  | nil => cases h : unescape rest <;> simp [written, meaning, h, Except.map]
  | cons g e ih =>
      rw [written_cons, List.append_assoc, unescape_form g.valid, ih]
      cases unescape rest <;> rfl

/-- **Escaping is undone**: what is read is what was meant. -/
theorem unescape_written (e : Escaped) : unescape e.written = .ok e.meaning := by
  have happend := unescape_append e []
  rw [List.append_nil, unescape] at happend
  simpa [Except.map] using happend

/-- An escaped text whose meaning ends in a character that is written as it is ends in that
character. -/
theorem written_of_meaning_append {e : Escaped} {front back : Text} (h : e.meaning = front ++ back)
    (hback : ∀ c ∈ back, references c = []) : ∃ lead, e.written = lead ++ back := by
  obtain ⟨e₁, e₂, rfl, -, hmeaning⟩ := List.map_eq_append_iff.1 h
  have hplain : written e₂ = back := by
    clear h
    induction e₂ generalizing back with
    | nil => exact hmeaning
    | cons g e ih =>
        obtain rfl := hmeaning
        have hform := g.valid
        rw [forms, if_pos (hback g.char List.mem_cons_self), List.mem_singleton] at hform
        have hrest := ih (fun c hc => hback c (List.mem_cons_of_mem _ hc)) rfl
        rw [written_cons, hform, hrest]
        rfl
  refine ⟨written e₁, ?_⟩
  rw [← hplain, written, List.flatMap_append]
  rfl

/-- The writing of a text by names. -/
def escape (text : Text) : Escaped :=
  text.map fun c => ⟨c, (forms c).head (forms_ne_nil c), List.head_mem _⟩

/-- Every text can be written. -/
theorem meaning_escape (text : Text) : (escape text).meaning = text := by
  simp [meaning, escape, Function.comp_def]

end Escaped

/-! ## Text that is cut off -/

/-- The longest lead is no longer than the text. -/
theorem length_takeWhile_le (p : Char → Bool) (text : Text) : (text.takeWhile p).length ≤ text.length :=
  (List.takeWhile_sublist p).length_le

/-- A semicolon is there only if there is text. -/
theorem length_semicolon_le (text : Text) : (semicolon text).length ≤ text.length := by
  unfold semicolon
  split
  · cases text with
    | nil => contradiction
    | cons c rest => simp
  · simp

/-- A reference lies in the text that it is read from, and is refused only if that text is long. -/
theorem reference?_bounds {text : Text} {meaning : Except LongNumeral Text} {size : Nat}
    (h : reference? text = some (meaning, size)) :
    size ≤ text.length ∧ (text.length ≤ Numeral.limit → ∃ m, meaning = .ok m) := by
  unfold reference? at h
  split at h
  · rename_i x rest
    dsimp only at h
    split at h
    · split at h
      · simp only [Option.some.injEq, Prod.mk.injEq] at h
        obtain ⟨rfl, rfl⟩ := h
        have hdigits := length_takeWhile_le (fun c => (hexDigit? c).isSome) rest
        have hsemicolon := length_semicolon_le (rest.drop (rest.takeWhile fun c => (hexDigit? c).isSome).length)
        rw [List.length_drop] at hsemicolon
        refine ⟨?_, fun _ => ⟨_, rfl⟩⟩
        simp only [List.length_cons]
        omega
      · contradiction
    · simp only [Option.some.injEq, Prod.mk.injEq] at h
      obtain ⟨rfl, rfl⟩ := h
      have hdigits := length_takeWhile_le Char.isDigit (x :: rest)
      have hsemicolon := length_semicolon_le ((x :: rest).drop ((x :: rest).takeWhile Char.isDigit).length)
      rw [List.length_drop] at hsemicolon
      simp only [List.length_cons] at hdigits hsemicolon ⊢
      refine ⟨by omega, fun hshort => ?_⟩
      rw [Numeral.readNat, if_pos (by omega)]
      exact ⟨_, rfl⟩
  · dsimp only at h
    split at h
    · contradiction
    · simp only [Option.some.injEq, Prod.mk.injEq] at h
      obtain ⟨rfl, rfl⟩ := h
      have hrun := length_takeWhile_le isNameChar (text.take 32)
      have htake := List.length_take_le' 32 text
      have hsemicolon := length_semicolon_le (text.drop ((text.take 32).takeWhile isNameChar).length)
      rw [List.length_drop] at hsemicolon
      refine ⟨?_, fun _ => ⟨_, rfl⟩⟩
      rw [List.length_append]
      omega

/-- A text that is not long is read. -/
theorem exists_unescape_of_length {text : Text} (h : text.length ≤ Numeral.limit) :
    ∃ m, unescape text = .ok m := by
  fun_induction unescape text with
  | case1 => exact ⟨[], rfl⟩
  | case2 rest meaning size href ih =>
      obtain ⟨hsize, hok⟩ := reference?_bounds href
      rw [List.length_cons] at h
      obtain ⟨m, rfl⟩ := hok (by omega)
      obtain ⟨m', hm'⟩ := ih (by rw [List.length_drop]; omega)
      exact ⟨m ++ m', by rw [ok_bind, hm']; rfl⟩
  | case3 rest href ih =>
      obtain ⟨m, hm⟩ := ih (by rw [List.length_cons] at h; omega)
      exact ⟨_, by rw [hm]; rfl⟩
  | case4 c rest hc ih =>
      obtain ⟨m, hm⟩ := ih (by rw [List.length_cons] at h; omega)
      exact ⟨_, by rw [hm]; rfl⟩

/-- Of an escaped text that is cut off, whole characters are left and the front of one writing. -/
theorem exists_unescape_of_isPrefix {e : Escaped} {p : Text} (h : p <+: e.written) :
    ∃ m, unescape p = .ok m := by
  induction e generalizing p with
  | nil =>
      rw [List.prefix_nil.1 h]
      exact exists_unescape_of_length (by decide)
  | cons g e ih =>
      rcases prefix_append_cases h with hform | ⟨q, rfl, hq⟩
      · refine exists_unescape_of_length ?_
        calc p.length
          _ ≤ g.form.length := hform.length_le
          _ ≤ 6 := length_form_le g.valid
          _ ≤ Numeral.limit := by decide
      · obtain ⟨m, hm⟩ := ih hq
        exact ⟨g.char :: m, by rw [unescape_form g.valid, hm]; rfl⟩

/-! ## The end of a line -/

/-- The end of a line ends a lead of bounded length. -/
theorem takeWhile_take_append_stop {p : Char → Bool} {stop : Char} (h : p stop = false) (size : Nat)
    (front rest : Text) :
    ((front ++ stop :: rest).take size).takeWhile p = (front.take size).takeWhile p := by
  rw [List.take_append]
  cases size - front.length with
  | zero => rw [List.take_zero, List.append_nil]
  | succ n => rw [List.take_succ_cons, takeWhile_append_stop h]

theorem semicolon_newline {front : Text} {size : Nat} (h : size ≤ front.length) (rest : Text) :
    semicolon ((front ++ '\n' :: rest).drop size) = semicolon (front.drop size) := by
  rw [List.drop_append_of_le_length h]
  cases front.drop size <;> rfl

/-- A reference by number does not reach over the end of a line. -/
theorem reference?_number_newline (x : Char) (front rest : Text) :
    reference? ('#' :: x :: (front ++ '\n' :: rest)) = reference? ('#' :: x :: front) := by
  have hdecimal : (x :: (front ++ '\n' :: rest)).takeWhile Char.isDigit = (x :: front).takeWhile Char.isDigit :=
    takeWhile_append_stop (by decide) (x :: front) rest
  have hhex : (front ++ '\n' :: rest).takeWhile (fun c => (hexDigit? c).isSome) =
      front.takeWhile fun c => (hexDigit? c).isSome :=
    takeWhile_append_stop (by decide) front rest
  have hsemicolon := semicolon_newline (length_takeWhile_le Char.isDigit (x :: front)) rest
  rw [List.cons_append] at hsemicolon
  simp only [reference?, hdecimal, hhex, hsemicolon, semicolon_newline (length_takeWhile_le _ front) rest]

/-- What is read behind an ampersand that begins no reference by number. -/
theorem reference?_name {text : Text} (h : text.head? ≠ some '#') :
    reference? text =
      let run := (text.take 32).takeWhile isNameChar
      if run.isEmpty then none
      else
        let name := run ++ semicolon (text.drop run.length)
        some (.ok (ofFront name name.length), name.length) := by
  unfold reference?
  split
  · exact absurd rfl h
  · rfl

/-- A reference by name does not reach over the end of a line. -/
theorem reference?_name_newline {front : Text} (h : front.head? ≠ some '#') (rest : Text) :
    reference? (front ++ '\n' :: rest) = reference? front := by
  have hhead : (front ++ '\n' :: rest).head? ≠ some '#' := by
    cases front with
    | nil => simp
    | cons c front => exact h
  have hrun : ((front.take 32).takeWhile isNameChar).length ≤ front.length :=
    (length_takeWhile_le _ _).trans (List.length_take_le' 32 front)
  rw [reference?_name hhead, reference?_name h, takeWhile_take_append_stop (by decide)]
  dsimp only
  rw [semicolon_newline hrun]

/-- No reference reaches over the end of a line. -/
theorem reference?_newline (front rest : Text) : reference? (front ++ '\n' :: rest) = reference? front := by
  by_cases h : front.head? = some '#'
  · obtain ⟨front, rfl⟩ := List.head?_eq_some_iff.1 h
    cases front with
    | nil => rfl
    | cons x front => exact reference?_number_newline x front rest
  · exact reference?_name_newline h rest

/-- The lines of a text are read one by one. -/
theorem unescape_newline {front rest meant meantRest : Text} (hfront : unescape front = .ok meant)
    (hrest : unescape rest = .ok meantRest) :
    unescape (front ++ '\n' :: rest) = .ok (meant ++ '\n' :: meantRest) := by
  fun_induction unescape front generalizing meant with
  | case1 =>
      cases hfront
      rw [List.nil_append, unescape, if_neg (by decide), hrest]
      rfl
  | case2 front meaning size href ih =>
      obtain ⟨m, rfl, hthen⟩ := bind_eq_ok.1 hfront
      obtain ⟨m', hm', hthen⟩ := bind_eq_ok.1 hthen
      cases hthen
      rw [List.cons_append, unescape, if_pos rfl, reference?_newline, href]
      dsimp only
      rw [List.drop_append_of_le_length (reference?_bounds href).1, ok_bind, ih hm', ok_bind, List.append_assoc]
      rfl
  | case3 front href ih =>
      obtain ⟨m, hm, rfl⟩ := map_eq_ok.1 hfront
      rw [List.cons_append, unescape, if_pos rfl, reference?_newline, href]
      dsimp only
      rw [ih hm]
      rfl
  | case4 c front hc ih =>
      obtain ⟨m, hm, rfl⟩ := map_eq_ok.1 hfront
      rw [List.cons_append, unescape, if_neg hc, ih hm]
      rfl

/-- A text without ampersands stands for itself. -/
theorem unescape_of_not_mem {text : Text} (h : '&' ∉ text) : unescape text = .ok text := by
  induction text with
  | nil => rw [unescape]
  | cons c text ih =>
      have hc : c ≠ '&' := fun he => h (he ▸ List.mem_cons_self)
      rw [unescape, if_neg hc, ih fun hm => h (List.mem_cons_of_mem c hm)]
      rfl

end SpecAtlas.Markup
