import SpecAtlas.Proofs.Source.Heading

/-!
# The parts of a method heading

A heading that is read off a line stands in it: a keyword, white space, the name, and behind the name at most a
parameter list and an opening brace.

1. The name is what stands between the first two quotes, or the longest identifier behind the white space
   (`takeQuotedName?_eq_some`, `takeIdentifier?_eq_some`).
2. What may stand behind it has a brace as its last character exactly if the heading opens the body (`opens_iff`).

`MethodHeading.WrittenAs` is the two together (`writtenAs_of_read?`).
-/

namespace SpecAtlas.Source

open Text

/-! ## Ends of texts -/

/-- A character that a text does not have is not its last one, whatever stands in front. -/
theorem getLast?_ne_of_not_mem {c : Char} {back : Text} (hne : back ≠ []) (h : c ∉ back) (front : Text) :
    (front ++ back).getLast? ≠ some c := by
  rw [List.getLast?_append_of_ne_nil _ hne]
  exact fun hlast => h (List.mem_of_getLast? hlast)

/-! ## Behind the name -/

/-- A parameter list that is left out stands in parentheses. -/
theorem dropParameters_cases (text : Text) :
    dropParameters text = text ∨ ∃ front, text = front ++ ')' :: dropParameters text := by
  unfold dropParameters
  split
  · split
    · rename_i rest inside after hcut
      exact .inr ⟨'(' :: inside, by simp [eq_of_cut? hcut]⟩
    · exact .inl rfl
  · exact .inl rfl

/-- Behind a name that opens the body the last character is a brace, white space apart. -/
theorem headingEnd?_eq_true {text : Text} (h : headingEnd? text = some true) :
    ∃ front blank, allBlank blank = true ∧ text = front ++ '{' :: blank := by
  have hrest : ∃ rest, allBlank rest = true ∧ trimLeft (dropParameters (trimLeft text)) = '{' :: rest := by
    unfold headingEnd? at h
    split at h
    · rename_i rest hrest
      split at h
      · rename_i hblank
        exact ⟨rest, hblank, hrest⟩
      · contradiction
    · contradiction
    · contradiction
  obtain ⟨rest, hblank, hrest⟩ := hrest
  obtain ⟨lead, -, htext⟩ := exists_blank_append text
  obtain ⟨gap, -, hgap⟩ := exists_blank_append (dropParameters (trimLeft text))
  rw [hrest] at hgap
  rcases dropParameters_cases (trimLeft text) with hnone | ⟨front, hsome⟩
  · rw [← hnone, hgap] at htext
    exact ⟨lead ++ gap, rest, hblank, by rw [htext, List.append_assoc]⟩
  · rw [hsome, hgap] at htext
    exact ⟨lead ++ front ++ ')' :: gap, rest, hblank, by rw [htext]; simp⟩

/-- Behind a name that does not open the body no brace is the last character. -/
theorem headingEnd?_eq_false {text : Text} (h : headingEnd? text = some false) (hne : text ≠ []) :
    ∃ front back, back ≠ [] ∧ '{' ∉ back ∧ text = front ++ back := by
  have hrest : trimLeft (dropParameters (trimLeft text)) = [] := by
    unfold headingEnd? at h
    split at h
    · split at h <;> cases h
    · assumption
    · contradiction
  obtain ⟨lead, hlead, htext⟩ := exists_blank_append text
  obtain ⟨gap, hgap, hbehind⟩ := exists_blank_append (dropParameters (trimLeft text))
  rw [hrest, List.append_nil] at hbehind
  rcases dropParameters_cases (trimLeft text) with hnone | ⟨front, hsome⟩
  · rw [← hnone, hbehind] at htext
    refine ⟨[], text, hne, ?_, rfl⟩
    rw [htext, List.mem_append, not_or]
    exact ⟨not_mem_of_allBlank hlead (by decide), not_mem_of_allBlank hgap (by decide)⟩
  · rw [hsome, hbehind] at htext
    refine ⟨lead ++ front, ')' :: gap, List.cons_ne_nil _ _, ?_, by rw [htext, List.append_assoc]⟩
    simp [not_mem_of_allBlank hgap (c := '{') (by decide)]

/-- A heading opens the body exactly if its last character is a brace. -/
theorem opens_iff {front behind : Text} {opens : Bool} (htrim : trim (front ++ behind) = front ++ behind)
    (hfront : front.getLast? ≠ some '{') (h : headingEnd? behind = some opens) :
    opens = true ↔ (front ++ behind).getLast? = some '{' := by
  cases opens with
  | true =>
      obtain ⟨inside, blank, hblank, rfl⟩ := headingEnd?_eq_true h
      -- A trimmed line has no white space behind the brace.
      have hnone : blank = [] := by
        rcases List.eq_nil_or_concat blank with hnil | ⟨init, last, rfl⟩
        · exact hnil
        · have hlast : (front ++ (inside ++ '{' :: init.concat last)).getLast? = some last := by
            rw [List.concat_eq_append, ← List.cons_append, ← List.append_assoc, ← List.append_assoc, List.getLast?_concat]
          have hkeep := getLast?_of_trim htrim last hlast
          rw [List.all_eq_true.1 hblank last (by simp)] at hkeep
          contradiction
      simp [hnone, ← List.append_assoc]
  | false =>
      refine iff_of_false Bool.false_ne_true ?_
      by_cases hne : behind = []
      · rwa [hne, List.append_nil]
      · obtain ⟨inside, back, hback, hnot, rfl⟩ := headingEnd?_eq_false h hne
        rw [← List.append_assoc]
        exact getLast?_ne_of_not_mem hback hnot _

/-! ## The name -/

/-- A quoted name is what stands between two equal quotes. -/
theorem takeQuotedName?_eq_some {text name behind : Text} (h : takeQuotedName? text = some (name, behind)) :
    ∃ q, isQuote q = true ∧ name ≠ [] ∧ name.any isQuote = false ∧ text = q :: name ++ q :: behind := by
  unfold takeQuotedName? at h
  split at h
  · contradiction
  · rename_i q rest
    split at h
    · rename_i hq
      split at h
      · contradiction
      · contradiction
      · rename_i inside closing after hne hspan
        split at h
        · rename_i hclosing
          obtain ⟨rfl, rfl⟩ := Prod.mk.inj (Option.some.inj h)
          rw [List.span_eq_takeWhile_dropWhile] at hspan
          obtain ⟨hinside, hbehind⟩ := Prod.mk.inj hspan
          refine ⟨q, hq, hne, ?_, ?_⟩
          · rw [← hinside, ← Bool.not_eq_true, List.any_eq_true]
            rintro ⟨c, hc, hquote⟩
            have hother := List.mem_takeWhile_imp hc
            rw [hquote] at hother
            contradiction
          · rw [List.cons_append, ← hclosing, ← hbehind, ← hinside, List.takeWhile_append_dropWhile]
        · contradiction
    · contradiction

/-- A plain name is the longest identifier at the front. -/
theorem takeIdentifier?_eq_some {text name behind : Text} (h : takeIdentifier? text = some (name, behind)) :
    (name.take 1).any isIdentStart = true ∧ name.all isAsciiWord = true ∧ (behind.take 1).any isAsciiWord = false ∧
      text = name ++ behind := by
  unfold takeIdentifier? at h
  split at h
  · contradiction
  · rename_i c rest
    split at h
    · rename_i hstart
      rw [List.span_eq_takeWhile_dropWhile] at h
      obtain ⟨rfl, rfl⟩ := Prod.mk.inj (Option.some.inj h)
      have hword := isAsciiWord_of_isIdentStart hstart
      refine ⟨by simpa [List.takeWhile_cons, hword] using hstart, List.all_takeWhile, ?_,
        List.takeWhile_append_dropWhile.symm⟩
      cases hbehind : (c :: rest).dropWhile isAsciiWord with
      | nil => rfl
      | cons d more =>
          have hnot := List.head_dropWhile_not isAsciiWord (l := c :: rest) (by rw [hbehind]; simp)
          simpa [hbehind] using hnot
    · contradiction

/-- White space stands behind the keyword. -/
theorem afterBlank?_eq_some {text named : Text} (h : afterBlank? text = some named) :
    ∃ gap, gap ≠ [] ∧ allBlank gap = true ∧ text = gap ++ named := by
  unfold afterBlank? at h
  split at h
  · contradiction
  · rename_i c rest
    split at h
    · rename_i hc
      cases h
      obtain ⟨blank, hblank, hrest⟩ := exists_blank_append rest
      refine ⟨c :: blank, List.cons_ne_nil _ _, ?_, by rw [List.cons_append, ← hrest]⟩
      rw [allBlank, List.all_cons, hc]
      exact hblank
    · contradiction

/-! ## The heading -/

/-- **How a method heading is written**: a keyword, white space, the name in quotes or by itself, and what may stand
behind it. It opens the body if its last character is an opening brace. -/
structure MethodHeading.WrittenAs (heading : MethodHeading) (line : Text) : Prop where
  name : ∃ keyword gap behind, (keyword = "def".toList ∨ keyword = "void".toList) ∧ gap ≠ [] ∧ allBlank gap = true ∧
    if heading.isQuoted then
      ∃ q, isQuote q = true ∧ heading.name ≠ [] ∧ heading.name.any isQuote = false ∧
        line = keyword ++ gap ++ (q :: heading.name ++ q :: behind)
    else
      (heading.name.take 1).any isIdentStart = true ∧ heading.name.all isAsciiWord = true ∧
        (behind.take 1).any isAsciiWord = false ∧ line = keyword ++ gap ++ (heading.name ++ behind)
  opens : heading.opens = true ↔ line.getLast? = some '{'

/-- **A heading that is read off a line is written there.** -/
theorem writtenAs_of_read? {line : Text} {heading : MethodHeading} (htrim : trim line = line)
    (h : MethodHeading.read? line = some heading) : heading.WrittenAs line := by
  obtain ⟨rest, hlead, h⟩ := Option.bind_eq_some_iff.1 h
  obtain ⟨named, hgap, h⟩ := Option.bind_eq_some_iff.1 h
  dsimp only at h
  have hkeyword : ∃ keyword, (keyword = "def".toList ∨ keyword = "void".toList) ∧ line = keyword ++ rest := by
    rcases Option.or_eq_some_iff.1 hlead with hdef | ⟨-, hvoid⟩
    · exact ⟨_, .inl rfl, after?_eq_some.1 hdef⟩
    · exact ⟨_, .inr rfl, after?_eq_some.1 hvoid⟩
  obtain ⟨keyword, hkeyword, hline⟩ := hkeyword
  obtain ⟨gap, hsome, hblank, hrest⟩ := afterBlank?_eq_some hgap
  cases hquoted : takeQuotedName? named with
  | some found =>
      obtain ⟨name, behind⟩ := found
      rw [hquoted] at h
      have hend : (headingEnd? behind).bind (fun opens => some ⟨name, true, opens⟩) = some heading := h
      obtain ⟨opens, hopens, h⟩ := Option.bind_eq_some_iff.1 hend
      cases h
      obtain ⟨q, hq, hne, hname, hnamed⟩ := takeQuotedName?_eq_some hquoted
      rw [hrest, hnamed] at hline
      refine ⟨⟨keyword, gap, behind, hkeyword, hsome, hblank, q, hq, hne, hname, by rw [hline, List.append_assoc]⟩, ?_⟩
      have hparts : line = (keyword ++ gap ++ q :: name ++ [q]) ++ behind := by simp [hline]
      have hbrace : '{' ∉ [q] := fun hm => by
        rw [← List.mem_singleton.1 hm] at hq
        contradiction
      rw [hparts] at htrim ⊢
      exact opens_iff htrim (getLast?_ne_of_not_mem (List.cons_ne_nil q []) hbrace _) hopens
  | none =>
      rw [hquoted] at h
      obtain ⟨found, hname, h⟩ := Option.bind_eq_some_iff.1 h
      obtain ⟨⟨name, behind⟩, hident, rfl⟩ := Option.map_eq_some_iff.1 hname
      have hend : (headingEnd? behind).bind (fun opens => some ⟨name, false, opens⟩) = some heading := h
      obtain ⟨opens, hopens, h⟩ := Option.bind_eq_some_iff.1 hend
      cases h
      obtain ⟨hstart, hword, hbehind, hnamed⟩ := takeIdentifier?_eq_some hident
      rw [hrest, hnamed] at hline
      refine ⟨⟨keyword, gap, behind, hkeyword, hsome, hblank, hstart, hword, hbehind, by rw [hline, List.append_assoc]⟩, ?_⟩
      have hparts : line = (keyword ++ gap ++ name) ++ behind := by simp [hline]
      have hne : name ≠ [] := by
        rintro rfl
        contradiction
      rw [hparts] at htrim ⊢
      exact opens_iff htrim (getLast?_ne_of_not_mem hne (not_mem_of_all hword (by decide)) _) hopens

end SpecAtlas.Source
