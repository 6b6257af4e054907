import SpecAtlas.Proofs.Value.LongNumeral
import SpecAtlas.Proofs.Value.Passing
import SpecAtlas.Source.Element

/-!
# Literals are read as they are written

`WrittenAs` says how a value may be written: whole numbers with decimal digits, texts between two
quotes that do not occur in them, lists in square brackets with any white space around their elements.

1. The scanner of quotes and brackets passes over a literal (`WrittenAs.passes`), so the elements of a list
   come apart at the list's own commas (`items_join`).
2. No literal is taken for another kind of element, whatever its texts look like: by its first character
   alone it is no constructor call, no range and no number (`constructorArguments?_cons`,
   `takeSigned?_cons`).
3. Hence reading undoes writing, by induction on the literal (`readElement_of_writtenAs`).
-/

namespace SpecAtlas.Source

open Text

/-! ## Kinds of elements -/

section

variable {token inner : Text}

/-- What stands in brackets is read as a list of its items. -/
theorem readElement_list (hcall : constructorArguments? (trim token) = none)
    (hinner : bracketed? (trim token) = some inner) :
    readElement token = ((items inner).mapM readElement).map .list := by
  have hattach : (items inner).attach.mapM (fun item => readElement item.1) = (items inner).mapM readElement := by
    rw [List.mapM_subtype fun _ _ => rfl, List.unattach_attach]
  rw [readElement, hcall]
  dsimp only
  split
  · rename_i other hother
    obtain rfl : other = inner := Option.some.inj (hother.symm.trans hinner)
    exact congrArg (Except.map Value.list) hattach
  · rename_i hnone
    rw [hinner] at hnone
    contradiction

/-- What is no constructor call and no list is read as a scalar. -/
theorem readElement_scalar (hcall : constructorArguments? (trim token) = none)
    (hinner : bracketed? (trim token) = none) : readElement token = coerce (trim token) := by
  rw [readElement, hcall]
  dsimp only
  split
  · rename_i other hother
    rw [hinner] at hother
    contradiction
  · rfl

end

/-- A constructor call begins with its keyword. -/
theorem constructorArguments?_cons {c : Char} (hc : c ≠ 'n') (rest : Text) :
    constructorArguments? (c :: rest) = none := by
  have hnew : after? "new".toList (c :: rest) = none := if_neg hc.symm
  rw [constructorArguments?, hnew]
  rfl

/-- Brackets hold what stands between them. -/
theorem bracketed?_brackets (inner : Text) : bracketed? ('[' :: (inner ++ [']'])) = some inner := by
  simp [bracketed?]

theorem bracketed?_cons {c : Char} (hc : c ≠ '[') (rest : Text) : bracketed? (c :: rest) = none := by
  unfold bracketed?
  split
  · rename_i he
    exact absurd (List.cons.inj he).1 hc
  · rfl

/-- A number begins with a digit or a sign. -/
theorem takeSigned?_cons {c : Char} (hsign : c ≠ '-') (hdigit : isDigit c = false) (rest : Text) :
    Numeral.takeSigned? (c :: rest) = none := by
  have hspan : (c :: rest).span isDigit = ([], c :: rest) := by
    rw [List.span_eq_takeWhile_dropWhile, List.takeWhile_cons_of_neg (by simp [hdigit]),
      List.dropWhile_cons_of_neg (by simp [hdigit])]
  unfold Numeral.takeSigned?
  split
  · rename_i he
    exact absurd (List.cons.inj he).1 hsign
  · rw [Numeral.takeDigits?, hspan]

/-- Pieces that go by, and of which none is blank, are the items of the list that they make up. -/
theorem items_join {parts : List Text} (hpasses : ∀ part ∈ parts, Nesting.Passes 0 part)
    (hblank : ∀ part ∈ parts, allBlank part = false) : items (join [','] parts) = parts := by
  cases parts with
  | nil => rfl
  | cons part rest =>
      have hsome : join [','] (part :: rest) ≠ [] := by
        intro hnil
        have hpart := hblank part List.mem_cons_self
        cases rest with
        | nil => simp_all [join, allBlank]
        | cons next rest => simp [join_cons_of_ne_nil] at hnil
      have hkeep : (part :: rest).filter (fun piece => !allBlank piece) = part :: rest :=
        List.filter_eq_self.2 fun piece hp => by simp [hblank piece hp]
      rw [items, splitCommas, splitTopLevel, if_neg (by simpa using hsome),
        Nesting.splitFrom_join (List.cons_ne_nil _ _) hpasses, hkeep]

/-! ## Written literals -/

/-- A value in a list, with the text that writes it and the white space around it. -/
structure Placed where
  value : Value
  front : Text
  text : Text
  behind : Text
  blankFront : allBlank front = true
  blankBehind : allBlank behind = true

/-- What a value takes up between the commas of a list. -/
def Placed.piece (e : Placed) : Text := e.front ++ e.text ++ e.behind

/-- White space around a text that goes by makes no difference. -/
theorem Placed.passes_piece {e : Placed} {depth : Nat} (h : Nesting.Passes depth e.text) : Nesting.Passes depth e.piece := by
  have hfront : Nesting.Passes depth e.front := Nesting.passes_unmarked (unmarked_of_allBlank e.blankFront)
  have hbehind : Nesting.Passes depth e.behind := Nesting.passes_unmarked (unmarked_of_allBlank e.blankBehind)
  exact (hfront.append h).append hbehind

/-- A text that writes a value. -/
inductive WrittenAs : Value → Text → Prop
  | null : WrittenAs .null "null".toList
  | bool (b : Bool) : WrittenAs (.bool b) (if b then "true".toList else "false".toList)
  | int {n : Int} (h : (Numeral.ofNat n.natAbs).length ≤ Numeral.limit) : WrittenAs (.int n) (Numeral.ofInt n)
  | text {q : Char} (hq : isQuote q = true) {t : Text} (h : q ∉ t) : WrittenAs (.text t) (q :: (t ++ [q]))
  | list {elements : List Placed} (h : ∀ e ∈ elements, WrittenAs e.value e.text) :
      WrittenAs (.list (elements.map Placed.value)) ('[' :: (join [','] (elements.map Placed.piece) ++ [']']))

namespace WrittenAs

variable {v : Value} {text : Text}

/-- **The scanner passes over a literal**, whatever brackets it stands in. -/
theorem passes (h : WrittenAs v text) : ∀ depth, Nesting.Passes depth text := by
  induction h with
  | null => exact fun depth => Nesting.passes_unmarked (by simp [Parameters.marks])
  | bool b => exact fun depth => Nesting.passes_unmarked (by cases b <;> simp [Parameters.marks])
  | int h => exact fun depth => Nesting.passes_unmarked (Numeral.unmarked_ofInt _)
  | text hq h => exact fun depth => Nesting.passes_quoted hq h
  | list h ih =>
      intro depth
      refine Nesting.passes_brackets (Nesting.passes_join fun piece hpiece => ?_)
      obtain ⟨e, he, rfl⟩ := List.mem_map.1 hpiece
      exact Placed.passes_piece (ih e he (depth + 1))

theorem ne_nil (h : WrittenAs v text) : text ≠ [] := by
  cases h with
  | null => decide
  | bool b => cases b <;> decide
  | @int n h =>
      have hsome := Numeral.ofNat_ne_nil n.natAbs
      rcases Numeral.ofInt_eq n with he | he <;> simp [he, hsome]
  | text hq h => exact List.cons_ne_nil _ _
  | list h => exact List.cons_ne_nil _ _

/-- There is no white space at the ends of a literal. -/
theorem trim_eq (h : WrittenAs v text) : trim text = text := by
  cases h with
  | null => decide
  | bool b => cases b <;> decide
  | int h => exact Literal.trim_of_isWhole (Literal.isWhole_ofInt _).1
  | text hq h => exact trim_enclosed (isBlank_of_isQuote hq) (isBlank_of_isQuote hq) _
  | list h => exact trim_enclosed (by decide) (by decide) _

end WrittenAs

theorem Placed.trim_piece {e : Placed} (h : WrittenAs e.value e.text) : trim e.piece = e.text := by
  rw [piece, trim_append_right _ e.blankBehind, trim_append e.blankFront, h.trim_eq]

theorem Placed.allBlank_piece {e : Placed} (h : WrittenAs e.value e.text) : allBlank e.piece = false := by
  refine Bool.eq_false_iff.2 fun hblank => h.ne_nil ?_
  have hnone : trim (e.piece ++ []) = trim [] := trim_append hblank []
  rw [List.append_nil, Placed.trim_piece h] at hnone
  exact hnone

/-! ## Reading -/

/-- The items of a written list are read as its elements if each of them is. -/
theorem mapM_items {elements : List Placed} (h : ∀ e ∈ elements, WrittenAs e.value e.text)
    (hread : ∀ e ∈ elements, readElement e.piece = .ok e.value) :
    (items (join [','] (elements.map Placed.piece))).mapM readElement = .ok (elements.map Placed.value) := by
  have hitems : items (join [','] (elements.map Placed.piece)) = elements.map Placed.piece := by
    refine items_join (fun piece hpiece => ?_) fun piece hpiece => ?_
    · obtain ⟨e, he, rfl⟩ := List.mem_map.1 hpiece
      exact Placed.passes_piece ((h e he).passes 0)
    · obtain ⟨e, he, rfl⟩ := List.mem_map.1 hpiece
      exact Placed.allBlank_piece (h e he)
  rw [hitems, List.mapM_map]
  exact mapM_eq_ok hread

/-- **What begins with a quote is unquoted exactly if it ends with the same quote**, whatever stands between. -/
theorem coerce_quote {token rest : Text} {q : Char} (hq : isQuote q = true) (h : trim token = q :: rest) :
    coerce token = .ok (.text (if rest.getLast? = some q then rest.dropLast else q :: rest)) := by
  have hdigit : isDigit q = false := by
    rcases Bool.or_eq_true_iff.1 hq with he | he <;> rw [beq_iff_eq.1 he] <;> decide
  have hsigned := takeSigned?_cons (ne_of_isQuote hq rfl : q ≠ '-') hdigit rest
  have htrue : q ≠ 't' := ne_of_isQuote hq rfl
  have hfalse : q ≠ 'f' := ne_of_isQuote hq rfl
  have hnull : q ≠ 'n' := ne_of_isQuote hq rfl
  rw [coerce, h, Literal.ofTrimmed, Literal.isWhole, Literal.isFixed, hsigned]
  by_cases hlast : rest.getLast? = some q <;> simp [htrue, hfalse, hnull, Literal.unquote?, hq, hlast]

/-- A text between quotes is read as it stands, whatever it looks like. -/
theorem coerce_quoted {q : Char} (hq : isQuote q = true) (t : Text) : coerce (q :: (t ++ [q])) = .ok (.text t) := by
  have htrim := trim_enclosed (isBlank_of_isQuote hq) (isBlank_of_isQuote hq) t
  rw [coerce_quote hq htrim, if_pos (by simp), List.dropLast_concat]

/-- A written number is read back. -/
theorem coerce_ofInt {n : Int} (h : (Numeral.ofNat n.natAbs).length ≤ Numeral.limit) :
    coerce (Numeral.ofInt n) = .ok (.int n) := by
  have hwhole := (Literal.isWhole_ofInt n).1
  rw [coerce, Literal.trim_of_isWhole hwhole, Literal.ofTrimmed, if_pos hwhole, Literal.readInt_ofInt h]
  rfl

/-- A literal that by its first character is neither a constructor call nor a list is a scalar. -/
theorem readElement_cons {token rest : Text} {c : Char} (ht : trim token = c :: rest) (hcall : c ≠ 'n') (hlist : c ≠ '[') :
    readElement token = coerce (c :: rest) := by
  rw [readElement_scalar (ht ▸ constructorArguments?_cons hcall rest) (ht ▸ bracketed?_cons hlist rest), ht]

/-- A number begins with a digit or a sign. -/
theorem exists_ofInt_eq_cons (n : Int) : ∃ c rest, Numeral.ofInt n = c :: rest ∧ c ≠ 'n' ∧ c ≠ '[' := by
  obtain ⟨d, rest, hd⟩ := List.exists_cons_of_ne_nil (Numeral.ofNat_ne_nil n.natAbs)
  have hdigit : d.isDigit = true := Numeral.isDigit_of_mem_ofNat (hd ▸ List.mem_cons_self)
  rcases Numeral.ofInt_eq n with he | he
  · refine ⟨d, rest, he.trans hd, ?_, ?_⟩ <;> rintro rfl <;> contradiction
  · exact ⟨'-', _, he, by decide, by decide⟩

/-- **Reading undoes writing**, with white space around the literal too. -/
theorem readElement_of_writtenAs {v : Value} {text : Text} (h : WrittenAs v text) :
    ∀ token, trim token = text → readElement token = .ok v := by
  induction h with
  | null =>
      intro token ht
      rw [readElement_scalar (by rw [ht]; decide) (by rw [ht]; decide), ht]
      rfl
  | bool b =>
      intro token ht
      cases b <;> rw [readElement_scalar (by rw [ht]; decide) (by rw [ht]; decide), ht] <;> rfl
  | @int n hshort =>
      intro token ht
      obtain ⟨c, rest, he, hcall, hlist⟩ := exists_ofInt_eq_cons n
      rw [readElement_cons (ht.trans he) hcall hlist, ← he, coerce_ofInt hshort]
  | @text q hq t h =>
      intro token ht
      rw [readElement_cons ht (ne_of_isQuote hq rfl) (ne_of_isQuote hq rfl), coerce_quoted hq]
  | @list elements h ih =>
      intro token ht
      have hcall := constructorArguments?_cons (by decide : '[' ≠ 'n') (join [','] (elements.map Placed.piece) ++ [']'])
      have hinner := bracketed?_brackets (join [','] (elements.map Placed.piece))
      have hread := mapM_items h fun e he => ih e he e.piece (Placed.trim_piece (h e he))
      rw [readElement_list (ht ▸ hcall) (ht ▸ hinner), hread]
      rfl

/-- A list is no range. -/
theorem rangeRead?_bracket (rest : Text) : Range.read? ('[' :: rest) = none := by
  have hnone : Numeral.takeSigned? ('[' :: rest) = none := takeSigned?_cons (by decide) (by decide) rest
  simp [Range.read?, hnone]

/-- The right-hand side of a pipe that is a written list has the elements of the list. -/
theorem elements?_of_writtenAs {values : List Value} {text : Text} (h : WrittenAs (.list values) text) :
    elements? text = some (.ok values) := by
  cases h with
  | @list elements h =>
      have hread := mapM_items h fun e he => readElement_of_writtenAs (h e he) e.piece (Placed.trim_piece (h e he))
      rw [elements?, trim_enclosed (by decide) (by decide), rangeRead?_bracket, bracketed?_brackets]
      dsimp only
      rw [Option.map_some, hread, mapError_ok]

/-- **Literal reading inverts literal writing**: the text of a literal is read as the value that it writes, and
the text of a list as a list of exactly its elements, in order. -/
theorem read_written {v : Value} {text : Text} (h : WrittenAs v text) :
    readElement text = .ok v ∧ ∀ values, v = .list values → elements? text = some (.ok values) := by
  refine ⟨readElement_of_writtenAs h text h.trim_eq, fun values hv => ?_⟩
  subst hv
  exact elements?_of_writtenAs h

/-- Texts that look like a range, a constructor call and a part of a list stay texts. -/
theorem read_mixedList :
    let values : List Value :=
      [.int (-20), .text "1..2".toList, .list [.text "it's, [new A(1, 2)".toList, .list [], .bool true], .null]
    WrittenAs (.list values) "[-20, '1..2' , [\"it's, [new A(1, 2)\",[],  true], null ]".toList ∧
      readElement "[-20, '1..2' , [\"it's, [new A(1, 2)\",[],  true], null ]".toList = .ok (.list values) ∧
      elements? "[-20, '1..2' , [\"it's, [new A(1, 2)\",[],  true], null ]".toList = some (.ok values) := by
  intro values
  have hnested : WrittenAs (.list [.text "it's, [new A(1, 2)".toList, .list [], .bool true])
      "[\"it's, [new A(1, 2)\",[],  true]".toList := by
    refine @WrittenAs.list [⟨.text "it's, [new A(1, 2)".toList, [], "\"it's, [new A(1, 2)\"".toList, [], rfl, rfl⟩,
      ⟨.list [], [], "[]".toList, [], rfl, rfl⟩, ⟨.bool true, "  ".toList, "true".toList, [], by decide, rfl⟩] ?_
    simp only [List.forall_mem_cons]
    exact ⟨@WrittenAs.text '"' rfl "it's, [new A(1, 2)".toList (by decide), @WrittenAs.list [] (by simp),
      WrittenAs.bool true, by simp⟩
  have hwritten : WrittenAs (.list values) "[-20, '1..2' , [\"it's, [new A(1, 2)\",[],  true], null ]".toList := by
    refine @WrittenAs.list [⟨.int (-20), [], "-20".toList, [], rfl, rfl⟩,
      ⟨.text "1..2".toList, [' '], "'1..2'".toList, [' '], by decide, by decide⟩,
      ⟨.list [.text "it's, [new A(1, 2)".toList, .list [], .bool true], [' '],
        "[\"it's, [new A(1, 2)\",[],  true]".toList, [], by decide, rfl⟩,
      ⟨.null, [' '], "null".toList, [' '], by decide, by decide⟩] ?_
    simp only [List.forall_mem_cons]
    exact ⟨@WrittenAs.int (-20) (by decide), @WrittenAs.text '\'' rfl "1..2".toList (by decide), hnested,
      WrittenAs.null, by simp⟩
  have hread := read_written hwritten
  exact ⟨hwritten, hread.1, hread.2 values rfl⟩

end SpecAtlas.Source
