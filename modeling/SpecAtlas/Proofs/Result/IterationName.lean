import SpecAtlas.Proofs.Except
import SpecAtlas.Proofs.Numeral
import SpecAtlas.Proofs.Result.Brackets
import SpecAtlas.Proofs.Value.LongNumeral
import SpecAtlas.Result.Console
import SpecAtlas.Result.Selection

/-!
# Names of iterations are read back

The console reader composes the name of an iteration from its parts; the reader of names takes it
apart again. The two fit if every bracket in the name of the feature is closed and white space is not its
end (`read?_recoverable`), and only then (`featureOf?_iterationDisplayName_iff`): a bracket that is not closed is
taken for the one in front of the parameters, and white space there belongs to neither part.

Of any other text it is known how it ends if it is the name of an iteration (`ends_of_read?`), and that
it is read if none of its numbers is too long (`exists_iterationInfo?`).
-/

namespace SpecAtlas.Result

open Text

/-! ## Names of features -/

/-- The name of a feature that can be told from the brackets behind it. -/
structure PlainFeature (feature : Text) : Prop where
  nonempty : feature ≠ []
  trimmed : trim feature = feature
  noBracket : '[' ∉ feature
  oneLine : '\n' ∉ feature

/-- The name of a feature in which every opening bracket is closed. -/
structure ClosedFeature (feature : Text) : Prop where
  nonempty : feature ≠ []
  trimmed : trim feature = feature
  closed : '[' ∉ behindBrackets feature
  oneLine : '\n' ∉ feature

/-- The name of a feature that the names of its iterations give back. The first character belongs to the
feature whatever it is, so only what stands behind it counts. -/
structure Recoverable (feature : Text) : Prop where
  closed : '[' ∉ behindBrackets feature.tail
  ended : trimRight feature.tail = feature.tail

instance (feature : Text) : Decidable (Recoverable feature) :=
  decidable_of_iff ('[' ∉ behindBrackets feature.tail ∧ trimRight feature.tail = feature.tail)
    ⟨fun h => ⟨h.1, h.2⟩, fun h => ⟨h.closed, h.ended⟩⟩

/-- What is not closed is an opening bracket. -/
theorem PlainFeature.closedFeature {feature : Text} (h : PlainFeature feature) : ClosedFeature feature where
  nonempty := h.nonempty
  trimmed := h.trimmed
  closed hm := h.noBracket (behindBrackets_subset feature hm)
  oneLine := h.oneLine

theorem ClosedFeature.recoverable {feature : Text} (h : ClosedFeature feature) : Recoverable feature where
  closed := closed_tail h.closed
  ended := by
    have hright := trimRight_of_trim h.trimmed
    cases feature with
    | nil => rfl
    | cons c text =>
        rw [trimRight, dropRight_cons] at hright
        split at hright
        · contradiction
        · exact (List.cons.inj hright).2

/-! ## Written names -/

/-- The name of an iteration, with any digits for its index. -/
def writtenName (feature parameters digits : Text) : Text :=
  feature ++ " [".toList ++ parameters ++ ", #".toList ++ digits ++ [']']

namespace IterationName

/-- The look for brackets passes over text with closed brackets if more than a line feed follows. -/
theorem readFrom?_append {front : Text} (hclosed : ∀ before behind, front = before ++ '[' :: behind → ']' ∈ behind)
    (reversed : Text) {rest : Text} (hrest : ∃ c ∈ rest, c ≠ '\n') :
    readFrom? reversed (front ++ rest) = readFrom? (front.reverse ++ reversed) rest := by
  induction front generalizing reversed with
  | nil => rfl
  | cons c front ih =>
      have hlater := ih (fun before behind he => hclosed (c :: before) behind (by rw [he]; rfl)) (c :: reversed)
      -- Brackets that are read here do not end the text, so they are not those of the name.
      have hmore {b : Bracketed} {after : Text}
          (hb : (if c = '[' && !reversed.isEmpty then takeBracketed? (front ++ rest) else none) = some (b, after)) :
          ∃ c ∈ after, c ≠ '\n' := by
        split at hb
        · rename_i hc
          have hopening : c = '[' := of_decide_eq_true (Bool.and_eq_true_iff.1 hc).1
          obtain ⟨inner, behind, hfront, hinner⟩ :=
            List.eq_append_cons_of_mem (hclosed [] front (by rw [hopening]; rfl))
          rw [hfront, List.append_assoc, List.cons_append, takeBracketed?_append hinner] at hb
          obtain ⟨b', -, he⟩ := Option.map_eq_some_iff.1 hb
          obtain ⟨-, rfl⟩ := Prod.mk.inj he
          obtain ⟨x, hx, hne⟩ := hrest
          exact ⟨x, List.mem_append_right behind hx, hne⟩
        · contradiction
      rw [List.cons_append, readFrom?]
      split
      · obtain ⟨x, hx, -⟩ := hmore ‹_›
        contradiction
      · obtain ⟨x, hx, hne⟩ := hmore ‹_›
        exact absurd (List.mem_singleton.1 hx) hne
      · rw [hlater, List.reverse_cons, List.append_assoc]
        rfl

/-- The feature is what stands in front of the brackets without the white space at its end, but for the first
character. -/
theorem featureBefore?_reverse {c : Char} {text : Text} (hline : '\n' ∉ c :: trimRight text) :
    featureBefore? (c :: text).reverse = some (c :: trimRight text) := by
  have hdrop : (c :: text).reverse.dropWhile isBlank = (trimRight (c :: text)).reverse := by
    rw [trimRight, dropRight, List.reverse_reverse]
  have hright : trimRight (c :: text) =
      if (trimRight text).isEmpty && isBlank c then [] else c :: trimRight text := dropRight_cons isBlank c text
  unfold featureBefore?
  rw [hdrop, hright]
  split_ifs with hblank
  · have hnone : trimRight text = [] := List.isEmpty_iff.1 (Bool.and_eq_true_iff.1 hblank).1
    rw [hnone] at hline ⊢
    simpa using hline
  · obtain ⟨last, before, hkept⟩ := List.exists_cons_of_ne_nil (l := (c :: trimRight text).reverse) (by simp)
    have hback : (last :: before).reverse = c :: trimRight text := by rw [← hkept, List.reverse_reverse]
    rw [hkept]
    dsimp only
    rw [hback]
    simpa using hline

/-- The brackets are the first ones that are not closed in front of the end. -/
theorem read?_append {c : Char} {front inner : Text} {b : Bracketed} (hclosed : '[' ∉ behindBrackets front)
    (htake : takeBracketed? inner = some (b, [])) :
    read? (c :: (front ++ '[' :: inner)) = (featureBefore? (c :: front).reverse).map (⟨·, b⟩) := by
  have hfirst (text : Text) : readFrom? [] (c :: text) = readFrom? [c] text := by simp [readFrom?]
  have hpass : ∀ before behind, front = before ++ '[' :: behind → ']' ∈ behind :=
    fun before behind he => mem_of_behindBrackets (he ▸ hclosed)
  have hbehind : front.reverse ++ [c] = (c :: front).reverse := by simp
  rw [read?, hfirst, readFrom?_append hpass [c] ⟨'[', List.mem_cons_self, by decide⟩, hbehind, readFrom?]
  simp [htake]

section

variable {feature parameters digits : Text} (hne : feature ≠ []) (hline : '\n' ∉ feature) (hp : parameters ≠ [])
  (hbracket : ']' ∉ parameters) (hsome : digits ≠ []) (hdigits : digits.all isDigit = true)

include hne hline hp hbracket hsome hdigits

/-- **A written name is read back**, if the name of the feature is recoverable. -/
theorem read?_recoverable (h : Recoverable feature) :
    read? (writtenName feature parameters digits) = some ⟨feature, ⟨parameters, digits⟩⟩ := by
  obtain ⟨c, text, rfl⟩ := List.exists_cons_of_ne_nil hne
  have hclosed : '[' ∉ behindBrackets (text ++ [' ']) := by
    rw [behindBrackets_append (by decide)]
    simpa using h.closed
  have htrim : trimRight (text ++ [' ']) = text := (trimRight_append_space text).trans h.ended
  have hbefore : featureBefore? (c :: (text ++ [' '])).reverse = some (c :: text) := by
    rw [featureBefore?_reverse (by rwa [htrim]), htrim]
  have hparts : writtenName (c :: text) parameters digits =
      c :: (text ++ [' '] ++ '[' :: (parameters ++ ", #".toList ++ digits ++ [']'])) := by
    simp [writtenName]
  rw [hparts, read?_append hclosed (takeBracketed?_written hp hbracket hsome hdigits []), hbefore]
  rfl

/-- If it is not, a shorter name is read, or the name without the white space at its end. -/
theorem exists_read?_of_not_recoverable (h : ¬ Recoverable feature) :
    ∃ name, read? (writtenName feature parameters digits) = some name ∧ name.feature ≠ feature := by
  obtain ⟨c, text, rfl⟩ := List.exists_cons_of_ne_nil hne
  have hshort (front : Text) : (trimRight front).length ≤ front.length := by
    simpa [trimRight, dropRight] using (List.dropWhile_sublist isBlank (l := front.reverse)).length_le
  have hsub (front : Text) (hfront : front ⊆ text) : '\n' ∉ c :: trimRight front := by
    have htrim : trimRight front ⊆ front := fun x hx =>
      List.mem_reverse.1 ((List.dropWhile_sublist isBlank).subset (List.mem_reverse.1 hx))
    exact fun hm => hline (List.cons_subset_cons c (List.Subset.trans htrim hfront) hm)
  by_cases hclosed : '[' ∈ behindBrackets text
  · -- The first bracket that is not closed is read as the one in front of the parameters.
    obtain ⟨front, back, rfl, hfront, hback⟩ := exists_unclosed hclosed
    have hparts : writtenName (c :: (front ++ '[' :: back)) parameters digits =
        c :: (front ++ '[' :: (back ++ " [".toList ++ parameters ++ ", #".toList ++ digits ++ [']'])) := by
      simp [writtenName]
    have hinner : ']' ∉ back ++ " [".toList ++ parameters := by simp [hback, hbracket]
    have hbefore := featureBefore?_reverse (hsub front (List.subset_append_left _ _))
    refine ⟨⟨c :: trimRight front, ⟨back ++ " [".toList ++ parameters, digits⟩⟩, ?_, fun he => ?_⟩
    · rw [hparts, read?_append hfront (takeBracketed?_written (by simp) hinner hsome hdigits []), hbefore]
      rfl
    · have hlength := congrArg List.length he
      have hfrontLength := hshort front
      simp only [List.length_cons, List.length_append] at hlength
      omega
  · have hended : trimRight text ≠ text := fun he => h ⟨hclosed, he⟩
    have hopen : '[' ∉ behindBrackets (text ++ [' ']) := by
      rw [behindBrackets_append (by decide)]
      simpa using hclosed
    have htrim : trimRight (text ++ [' ']) = trimRight text := trimRight_append_space text
    have hbefore : featureBefore? (c :: (text ++ [' '])).reverse = some (c :: trimRight text) := by
      rw [featureBefore?_reverse (by rw [htrim]; exact hsub text (List.Subset.refl text)), htrim]
    have hparts : writtenName (c :: text) parameters digits =
        c :: (text ++ [' '] ++ '[' :: (parameters ++ ", #".toList ++ digits ++ [']'])) := by
      simp [writtenName]
    refine ⟨⟨c :: trimRight text, ⟨parameters, digits⟩⟩, ?_, fun he => hended (List.cons.inj he).2⟩
    rw [hparts, read?_append hopen (takeBracketed?_written hp hbracket hsome hdigits []), hbefore]
    rfl

end

end IterationName

/-- The name of an iteration is that of an iteration of its feature, exactly if the name of the feature is
recoverable. -/
theorem featureOf?_iterationDisplayName_iff {feature parameters : Text} (hne : feature ≠ []) (hline : '\n' ∉ feature)
    (hp : parameters ≠ []) (hbracket : ']' ∉ parameters) (index : Nat) :
    featureOf? (iterationDisplayName feature parameters index) = some feature ↔ Recoverable feature := by
  have hname : iterationDisplayName feature parameters index = writtenName feature parameters (Numeral.ofNat index) := rfl
  have hsome := Numeral.ofNat_ne_nil index
  have hdigits := Numeral.all_isDigit_ofNat index
  rw [featureOf?, hname]
  by_cases h : Recoverable feature
  · rw [IterationName.read?_recoverable hne hline hp hbracket hsome hdigits h]
    simpa using h
  · obtain ⟨name, hread, hother⟩ :=
      IterationName.exists_read?_of_not_recoverable hne hline hp hbracket hsome hdigits h
    rw [hread]
    simp [hother, h]

/-! ## The end of a name -/

namespace IterationName

/-- The name of an iteration ends in its closing bracket, or in a line feed behind it. -/
theorem ends_of_readFrom? {reversed text : Text} {n : IterationName} (h : readFrom? reversed text = some n) :
    ∃ front back, text = front ++ ']' :: back ∧ (back = [] ∨ back = ['\n']) := by
  induction text generalizing reversed with
  | nil => contradiction
  | cons c rest ih =>
      have hhere {back : Text} {b : Bracketed} (hback : back = [] ∨ back = ['\n'])
          (hb : (if c = '[' && !reversed.isEmpty then takeBracketed? rest else none) = some (b, back)) :
          ∃ front back, c :: rest = front ++ ']' :: back ∧ (back = [] ∨ back = ['\n']) := by
        split at hb
        · obtain ⟨inner, rfl⟩ := eq_of_takeBracketed? hb
          exact ⟨c :: inner, back, rfl, hback⟩
        · contradiction
      unfold readFrom? at h
      split at h
      · exact hhere (.inl rfl) ‹_›
      · exact hhere (.inr rfl) ‹_›
      · obtain ⟨front, back, rfl, hback⟩ := ih h
        exact ⟨c :: front, back, rfl, hback⟩

theorem ends_of_read? {name : Text} {n : IterationName} (h : read? name = some n) :
    ∃ front back, name = front ++ ']' :: back ∧ (back = [] ∨ back = ['\n']) :=
  ends_of_readFrom? h

/-- Text that ends in any other character is not the name of an iteration. -/
theorem read?_of_last {c : Char} (hbracket : c ≠ ']') (hfeed : c ≠ '\n') (text : Text) : read? (text ++ [c]) = none := by
  rw [Option.eq_none_iff_forall_ne_some]
  intro n h
  obtain ⟨front, back, hname, hback⟩ := ends_of_read? h
  have hlast := congrArg List.getLast? hname
  rw [List.getLast?_concat] at hlast
  rcases hback with rfl | rfl
  · rw [List.getLast?_concat] at hlast
    exact hbracket (Option.some.inj hlast)
  · rw [List.getLast?_append_of_ne_nil _ (by simp)] at hlast
    exact hfeed (Option.some.inj hlast)

end IterationName

/-! ## Numbers that are not too long -/

/-- The parts of a name whose numbers can be read. -/
theorem iterationInfo?_of_read? {name : Text} {n : IterationName} (hread : IterationName.read? name = some n)
    (hindex : n.bracketed.digits.length ≤ Numeral.limit) {parameters : Mapping Value}
    (hparameters : Parameters.read n.bracketed.parameters = .ok parameters) :
    iterationInfo? name = .ok (some ⟨n.feature, Numeral.value n.bracketed.digits, parameters⟩) := by
  have hnumber : n.bracketed.index = .ok (Numeral.value n.bracketed.digits) := if_pos hindex
  rw [iterationInfo?, hread]
  dsimp only
  rw [hnumber, hparameters]
  rfl

/-- Whether the index of a name, if it is the name of an iteration, and the whole numbers among its
parameters have no more digits than are read. -/
def hasShortNumerals (name : Text) : Bool :=
  match IterationName.read? name with
  | none => true
  | some n =>
      n.bracketed.digits.length ≤ Numeral.limit &&
        ((splitCommas n.bracketed.parameters).filterMap Parameters.entry?).all fun e =>
          !Literal.isWhole (trim e.2) || (trim e.2).countP isDigit ≤ Numeral.limit

/-- A name is refused if its index has too many digits. -/
theorem iterationInfo?_longIndex {name : Text} {n : IterationName} (hread : IterationName.read? name = some n)
    (hlong : Numeral.limit < n.bracketed.digits.length) :
    iterationInfo? name = .error ⟨n.bracketed.digits.length⟩ := by
  have hnumber : n.bracketed.index = .error ⟨n.bracketed.digits.length⟩ := if_neg (Nat.not_le.2 hlong)
  rw [iterationInfo?, hread]
  dsimp only
  rw [hnumber]
  rfl

/-- The parts of a name are there if its numbers are not too long. -/
theorem exists_iterationInfo? {name : Text} (h : hasShortNumerals name = true) :
    ∃ info?, iterationInfo? name = .ok info? := by
  unfold hasShortNumerals at h
  cases hread : IterationName.read? name with
  | none => exact ⟨none, by rw [iterationInfo?, hread]⟩
  | some n =>
      rw [hread] at h
      simp only [Bool.and_eq_true, decide_eq_true_eq, List.all_eq_true, Bool.or_eq_true, Bool.not_eq_true'] at h
      obtain ⟨hindex, hentries⟩ := h
      have hshort : ∀ token ∈ Parameters.scalars n.bracketed.parameters, Literal.tooLong? token = none := by
        intro token htoken
        obtain ⟨e, he, rfl⟩ := List.mem_map.1 htoken
        rcases hentries e he with hother | hcount
        · exact Literal.tooLong?_of_not_whole hother
        · simp [Literal.tooLong?, Nat.not_lt.2 hcount]
      obtain ⟨parameters, hparameters⟩ := (refusedFor_parameters _).exists_ok_iff.2 hshort
      exact ⟨_, iterationInfo?_of_read? hread hindex hparameters⟩

/-- A name has parts if it is the name of an iteration. -/
theorem isSome_of_iterationInfo? {name : Text} {info? : Option IterationInfo}
    (h : iterationInfo? name = .ok info?) : info?.isSome = (IterationName.read? name).isSome := by
  unfold iterationInfo? at h
  split at h
  · rename_i hread
    cases h
    rw [hread]
    rfl
  · rename_i hread
    obtain ⟨index, -, h⟩ := bind_eq_ok.1 h
    obtain ⟨parameters, -, h⟩ := bind_eq_ok.1 h
    cases h
    rw [hread]
    rfl

end SpecAtlas.Result
