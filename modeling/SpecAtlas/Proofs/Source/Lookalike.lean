import SpecAtlas.Proofs.Source.Element

/-!
# Compound expressions that look like literals

An expression may begin with a list and end with one, such as `[1] + [2]`, or begin and end with a quoted
text, and be no literal at all. Whether it is one literal is a matter of where its first bracket or quote is
closed: `isOneList` and `IsOneText` say so of a trimmed text.

The readers look at the two ends only. What begins with a bracket is taken for a list exactly if it ends with
one (`elements?_bracket`), what begins with a quote is unquoted exactly if it ends with the same quote
(`coerce_quote`). So a compound expression is told from a literal exactly if it does not end the way it begins
(`readAsOne_iff`), and a sum of two literals always does.
-/

namespace SpecAtlas.Source

open Text

/-! ## One literal -/

/-- What stands behind the bracket that closes the outermost of `depth + 1` open square brackets. Brackets
count outside quotes only; `quote` is the quote that is open. -/
def behindClosing? (quote : Option Char) (depth : Nat) : Text → Option Text
  | [] => none
  | c :: text =>
    match quote with
    | some q => behindClosing? (if c = q then none else some q) depth text
    | none =>
      if isQuote c then behindClosing? (some c) depth text
      else if c = '[' then behindClosing? none (depth + 1) text
      else if c = ']' then
        match depth with
        | 0 => some text
        | depth + 1 => behindClosing? none depth text
      else behindClosing? none depth text

/-- Whether a text is one list literal: its first bracket is closed by its last character. -/
def isOneList (token : Text) : Bool :=
  match token with
  | '[' :: rest => behindClosing? none 0 rest == some []
  | _ => false

/-- A quote occurs in a text, and not behind a backslash. -/
def HasBareQuote (q : Char) (text : Text) : Prop :=
  ∃ front back, text = front ++ q :: back ∧ front.getLast? ≠ some '\\'

/-- A text is one quoted text: no bare quote of the kind around it stands between its ends. -/
def IsOneText (token : Text) : Prop :=
  ∃ q inner, isQuote q = true ∧ token = q :: (inner ++ [q]) ∧ ¬ HasBareQuote q inner

/-- What follows the closing bracket makes no difference to where it is found. -/
theorem behindClosing?_append {quote : Option Char} {depth : Nat} {text rest : Text}
    (h : behindClosing? quote depth text = some rest) (more : Text) :
    behindClosing? quote depth (text ++ more) = some (rest ++ more) := by
  fun_induction behindClosing? quote depth text with
  | case1 => contradiction
  | case2 depth c text q ih => simpa [behindClosing?] using ih h
  | case3 depth c text hquote ih => simpa [behindClosing?, hquote] using ih h
  | case4 depth text hquote ih => simpa [behindClosing?, hquote] using ih h
  | case5 text hquote hopen =>
      cases h
      simp [behindClosing?, hquote]
  | case6 text depth hquote hopen ih => simpa [behindClosing?, hquote] using ih h
  | case7 depth c text hquote hopen hclose ih => simpa [behindClosing?, hquote, hopen, hclose] using ih h

/-- A list with something behind it is not one list. -/
theorem isOneList_append {token more : Text} (h : isOneList token = true) (hmore : more ≠ []) :
    isOneList (token ++ more) = false := by
  unfold isOneList at h
  split at h
  · rename_i rest
    have hbehind := behindClosing?_append (beq_iff_eq.1 h) more
    simpa [isOneList, hbehind] using hmore
  · contradiction

/-- A list begins and ends with its brackets. -/
theorem exists_of_isOneList {token : Text} (h : isOneList token = true) : ∃ inner, token = '[' :: (inner ++ [']']) := by
  have hlast {quote : Option Char} {depth : Nat} {text : Text} (h : behindClosing? quote depth text = some []) :
      ∃ inner, text = inner ++ [']'] := by
    fun_induction behindClosing? quote depth text with
    | case1 => contradiction
    | case5 => exact ⟨[], by simpa using h⟩
    | case2 _ c _ _ ih | case3 _ c _ _ ih | case6 _ _ c _ ih | case7 _ c _ _ _ _ ih | case4 _ c _ ih =>
        obtain ⟨inner, rfl⟩ := ih h
        exact ⟨_ :: inner, rfl⟩
  unfold isOneList at h
  split at h
  · obtain ⟨inner, rfl⟩ := hlast (beq_iff_eq.1 h)
    exact ⟨inner, rfl⟩
  · contradiction

/-! ## What the readers look at -/

/-- **What begins with a bracket is taken for a list exactly if it ends with one**, whatever stands between. -/
theorem elements?_bracket {expression rest : Text} (h : trim expression = '[' :: rest) :
    elements? expression =
      if rest.getLast? = some ']' then some (((items rest.dropLast).mapM readElement).mapError .longNumeral) else none := by
  rw [elements?, h, rangeRead?_bracket]
  dsimp only
  rw [bracketed?]
  split <;> rfl

/-! ## Compound expressions -/

/-- An expression is told from a literal: if it begins with a bracket and is not one list, it is unreadable, and
if it begins with a quote and is not one text, it keeps its raw text. -/
structure ReadAsOne (expression : Text) : Prop where
  list : (trim expression).head? = some '[' → isOneList (trim expression) = false → elements? expression = none
  text : ∀ q, isQuote q = true → (trim expression).head? = some q → ¬ IsOneText (trim expression) →
    coerce expression = .ok (.text (trim expression))

/-- A text that begins and ends like a literal and is none. -/
inductive Lookalike : Text → Prop
  | list {inner : Text} (h : isOneList ('[' :: (inner ++ [']'])) = false) : Lookalike ('[' :: (inner ++ [']']))
  | text {q : Char} (hq : isQuote q = true) {inner : Text} (h : HasBareQuote q inner) :
      Lookalike (q :: (inner ++ [q]))

theorem readAsOne_of_not_lookalike {expression : Text} (h : ¬ Lookalike (trim expression)) : ReadAsOne expression where
  list hhead hmany := by
    obtain ⟨rest, htrim⟩ := List.head?_eq_some_iff.1 hhead
    rw [elements?_bracket htrim, if_neg]
    intro hlast
    obtain ⟨inner, rfl⟩ := List.getLast?_eq_some_iff.1 hlast
    rw [htrim] at h hmany
    exact h (.list hmany)
  text q hq hhead hmany := by
    obtain ⟨rest, htrim⟩ := List.head?_eq_some_iff.1 hhead
    rw [coerce_quote hq htrim, if_neg, htrim]
    intro hlast
    obtain ⟨inner, rfl⟩ := List.getLast?_eq_some_iff.1 hlast
    rw [htrim] at h hmany
    exact hmany ⟨q, inner, hq, rfl, fun hbare => h (.text hq hbare)⟩

theorem not_readAsOne_of_lookalike {expression : Text} (h : Lookalike (trim expression)) : ¬ ReadAsOne expression := by
  intro hread
  generalize htrim : trim expression = token at h
  cases h with
  | @list inner hmany =>
      have hnone := hread.list (by rw [htrim]; rfl) (htrim ▸ hmany)
      rw [elements?_bracket htrim, if_pos (by simp)] at hnone
      contradiction
  | @text q hq inner hbare =>
      have hmany : ¬ IsOneText (trim expression) := by
        rintro ⟨q', inner', -, he, hnone⟩
        obtain ⟨rfl, hinner⟩ := List.cons.inj (htrim.symm.trans he)
        obtain rfl := List.append_cancel_right hinner
        exact hnone hbare
      have hraw := hread.text q hq (by rw [htrim]; rfl) hmany
      rw [coerce_quote hq htrim, if_pos (by simp), htrim] at hraw
      have hlength := congrArg List.length (Value.text.inj (Except.ok.inj hraw))
      simp only [List.dropLast_concat, List.length_cons, List.length_append, List.length_nil] at hlength
      omega

/-- A list that something else follows up to another bracket looks like a list. -/
theorem lookalike_sum {front op back : Text} (hfront : isOneList front = true) (hback : isOneList back = true) :
    Lookalike (trim (front ++ op ++ back)) := by
  have hmany : isOneList (front ++ op ++ back) = false := by
    rw [List.append_assoc]
    refine isOneList_append hfront fun hnil => ?_
    rw [(List.append_eq_nil_iff.1 hnil).2] at hback
    contradiction
  obtain ⟨first, rfl⟩ := exists_of_isOneList hfront
  obtain ⟨last, rfl⟩ := exists_of_isOneList hback
  have hends : '[' :: (first ++ [']']) ++ op ++ '[' :: (last ++ [']']) =
      '[' :: (first ++ ']' :: (op ++ '[' :: last) ++ [']']) := by simp
  rw [hends] at hmany ⊢
  rw [trim_enclosed (by decide) (by decide)]
  exact .list hmany

/-- A quoted text that something else follows up to the same quote looks like a text. -/
theorem lookalike_texts {q : Char} (hq : isQuote q = true) {first : Text} (hfirst : first.getLast? ≠ some '\\')
    (op last : Text) : Lookalike (trim (q :: (first ++ q :: (op ++ q :: (last ++ [q]))))) := by
  have hends : q :: (first ++ q :: (op ++ q :: (last ++ [q]))) = q :: (first ++ q :: (op ++ q :: last) ++ [q]) := by simp
  rw [hends, trim_enclosed (isBlank_of_isQuote hq) (isBlank_of_isQuote hq)]
  exact .text hq ⟨first, op ++ q :: last, rfl, hfirst⟩

/-- Two list literals with an operator between them, or two texts in the same quotes. -/
inductive IsSum : Text → Prop
  | lists {front back : Text} (op : Text) (hfront : isOneList front = true) (hback : isOneList back = true) :
      IsSum (front ++ op ++ back)
  | texts {q : Char} (hq : isQuote q = true) {first : Text} (hfirst : first.getLast? ≠ some '\\') (op last : Text) :
      IsSum (q :: (first ++ q :: (op ++ q :: (last ++ [q]))))

theorem IsSum.lookalike {expression : Text} (h : IsSum expression) : Lookalike (trim expression) := by
  cases h with
  | lists op hfront hback => exact lookalike_sum hfront hback
  | texts hq hfirst op last => exact lookalike_texts hq hfirst op last

/-- **A compound expression is told from a literal exactly if it does not end the way it begins.** So no sum of
two list literals is unreadable, and no sum of two quoted texts keeps its raw text. -/
theorem readAsOne_iff (expression : Text) :
    (ReadAsOne expression ↔ ¬ Lookalike (trim expression)) ∧ (IsSum expression → ¬ ReadAsOne expression) :=
  ⟨⟨fun hread hlook => not_readAsOne_of_lookalike hlook hread, readAsOne_of_not_lookalike⟩,
    fun hsum => not_readAsOne_of_lookalike hsum.lookalike⟩

/-- A list with brackets in its texts is told from the sums of two lists and of two texts. -/
theorem readAsOne_nestedList :
    ReadAsOne " [1, ['a]', 2]] ".toList ∧
      (IsSum "[1] + [2]".toList ∧ ¬ ReadAsOne "[1] + [2]".toList) ∧
      (IsSum "'a' + 'b'".toList ∧ ¬ ReadAsOne "'a' + 'b'".toList) := by
  have hlists : IsSum ("[1]".toList ++ " + ".toList ++ "[2]".toList) := .lists _ (by decide) (by decide)
  have htexts : IsSum ('\'' :: (['a'] ++ '\'' :: (" + ".toList ++ '\'' :: (['b'] ++ ['\''])))) :=
    .texts rfl (by decide) _ _
  refine ⟨(readAsOne_iff _).1.2 fun hlook => ?_, ⟨hlists, (readAsOne_iff _).2 hlists⟩,
    htexts, (readAsOne_iff _).2 htexts⟩
  have htrim : trim " [1, ['a]', 2]] ".toList = '[' :: ("1, ['a]', 2]".toList ++ [']']) := by decide
  rw [htrim] at hlook
  generalize htoken : '[' :: ("1, ['a]', 2]".toList ++ [']']) = token at hlook
  cases hlook with
  | list hmany =>
      rw [← htoken] at hmany
      exact absurd hmany (by decide)
  | text hq hbare =>
      obtain ⟨rfl, -⟩ := List.cons.inj htoken
      contradiction

/-- The sum of two lists is taken for a list with one text, and the sum of two texts for a text. -/
theorem sums_taken_for_literals :
    (isOneList "[1]".toList = true ∧ isOneList "[2]".toList = true ∧
      elements? "[1] + [2]".toList = some (.ok [.text "1] + [2".toList])) ∧
    (¬ IsOneText "'a' + 'b'".toList ∧ coerce "'a' + 'b'".toList = .ok (.text "a' + 'b".toList)) := by
  have hitems : items "1] + [2".toList = ["1] + [2".toList] := by decide
  have htoken : trim "1] + [2".toList = '1' :: "] + [2".toList := by decide
  have hread : readElement "1] + [2".toList = .ok (.text "1] + [2".toList) :=
    (readElement_cons htoken (by decide) (by decide)).trans rfl
  refine ⟨⟨by decide, by decide, ?_⟩, ?_, coerce_quoted rfl "a' + 'b".toList⟩
  · have htrim : trim "[1] + [2]".toList = '[' :: "1] + [2]".toList := by decide
    rw [elements?_bracket htrim, if_pos (by decide)]
    show some (((items "1] + [2".toList).mapM readElement).mapError _) = _
    rw [hitems, List.mapM_cons, hread]
    rfl
  · rintro ⟨q, inner, -, he, hnone⟩
    obtain ⟨rfl, hinner⟩ := List.cons.inj he
    have hinner : "a' + 'b".toList ++ ['\''] = inner ++ ['\''] := hinner
    obtain rfl := List.append_cancel_right hinner
    exact hnone ⟨['a'], " + 'b".toList, rfl, by decide⟩

end SpecAtlas.Source
