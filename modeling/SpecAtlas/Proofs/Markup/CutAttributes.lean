import SpecAtlas.Proofs.Markup.Attributes

/-!
# Attributes that are cut off

Where a tag is cut off, its attributes end between two of them, or within a value. Which of the two it
is shows in the number of quotes (`count_between`, `count_within`). In the first case the attributes in
front are read and what is left over is passed over; in the second the value goes on to the next quote
in whatever follows.
-/

namespace SpecAtlas.Markup

open Text

/-- How attributes that are cut off end: with text that has no quote, or within a value. -/
inductive CutAttributes (as : List Attribute) : Text → Prop where
  | between (front : List Attribute) {back : List Attribute} {v : Text} (split : as = front ++ back)
      (plain : v.any isQuote = false) : CutAttributes as (front.flatMap Attribute.text ++ v)
  | within (front : List Attribute) {back : List Attribute} {a : Attribute} {v : Text}
      (split : as = front ++ a :: back) (cut : v <+: a.value.written) :
      CutAttributes as (front.flatMap Attribute.text ++ ' ' :: (a.key ++ '=' :: '"' :: v))

/-- What is read in front is kept. -/
theorem CutAttributes.cons {a : Attribute} {as : List Attribute} {s : Text} (h : CutAttributes as s) :
    CutAttributes (a :: as) (a.text ++ s) := by
  cases h with
  | between front hsplit hplain =>
      rw [← List.append_assoc, ← List.flatMap_cons]
      exact .between (a :: front) (congrArg (a :: ·) hsplit) hplain
  | within front hsplit hcut =>
      rw [← List.append_assoc, ← List.flatMap_cons]
      exact .within (a :: front) (congrArg (a :: ·) hsplit) hcut

namespace Attribute

/-- The key of an attribute has no quotes. -/
theorem any_isQuote_key (a : Attribute) : a.key.any isQuote = false := by
  have hvalid {c : Char} (hc : isAttributeChar c = false) : c ∉ a.key := fun hm =>
    Bool.false_ne_true (hc.symm.trans (List.all_eq_true.1 a.valid c hm))
  exact any_isQuote_of_not_mem (hvalid (by decide)) (hvalid (by decide))

/-- What stands in front of the value of an attribute. -/
def lead (a : Attribute) : Text := ' ' :: (a.key ++ ['='])

theorem text_eq (a : Attribute) : a.text = a.lead ++ '"' :: (a.value.written ++ ['"']) := by
  simp [text, lead]

theorem any_isQuote_lead (a : Attribute) : a.lead.any isQuote = false := by
  rw [lead, List.any_cons, List.any_append, a.any_isQuote_key]
  rfl

/-- An attribute that is cut off ends in front of its value, within it, or behind it. -/
theorem cutAttributes_of_isPrefix (a : Attribute) (as : List Attribute) {s : Text} (h : s <+: a.text) :
    CutAttributes (a :: as) s := by
  rw [text_eq] at h
  rcases prefix_append_cases h with hlead | ⟨q, rfl, hq⟩
  · exact .between [] rfl (any_isQuote_of_subset hlead.subset a.any_isQuote_lead)
  · cases q with
    | nil =>
        rw [List.append_nil]
        exact .between [] rfl a.any_isQuote_lead
    | cons c v =>
        obtain ⟨rfl, hv⟩ := List.cons_prefix_cons.1 hq
        rcases List.prefix_concat_iff.1 hv with rfl | hcut
        · have hwhole : CutAttributes (a :: as) ([a].flatMap text ++ []) := .between [a] rfl rfl
          rwa [List.append_nil, List.flatMap_singleton, text_eq] at hwhole
        · have htext : a.lead ++ '"' :: v = ' ' :: (a.key ++ '=' :: '"' :: v) := by simp [lead]
          rw [htext]
          exact .within [] rfl hcut

end Attribute

/-- Attributes with text without quotes behind them can only be cut off in these two ways. -/
theorem cutAttributes_of_isPrefix {as : List Attribute} {tail s : Text} (htail : tail.any isQuote = false)
    (h : s <+: as.flatMap Attribute.text ++ tail) : CutAttributes as s := by
  induction as generalizing s with
  | nil => exact .between [] rfl (any_isQuote_of_subset h.subset htail)
  | cons a as ih =>
      rw [List.flatMap_cons, List.append_assoc] at h
      rcases prefix_append_cases h with hfirst | ⟨q, rfl, hq⟩
      · exact a.cutAttributes_of_isPrefix as hfirst
      · exact (ih hq).cons

/-! ## Counting quotes -/

theorem count_of_any_isQuote {v : Text} (h : v.any isQuote = false) : v.count '"' = 0 :=
  List.count_eq_zero.2 fun hm => List.any_eq_false.1 h _ hm rfl

/-- A written attribute has two double quotes. -/
theorem count_text (a : Attribute) : a.text.count '"' = 2 := by
  have hvalue : a.value.written.count '"' = 0 :=
    List.count_eq_zero.2 (Escaped.not_mem_written (by decide) a.value)
  have hlead := count_of_any_isQuote a.any_isQuote_lead
  rw [a.text_eq, List.count_append, hlead, List.count_cons_self, List.count_append, hvalue]
  rfl

theorem count_attributes (as : List Attribute) : (as.flatMap Attribute.text).count '"' = 2 * as.length := by
  induction as with
  | nil => rfl
  | cons a as ih =>
      rw [List.flatMap_cons, List.count_append, count_text, ih, List.length_cons]
      omega

/-- Between attributes the number of quotes is even. -/
theorem count_between {front : List Attribute} {v : Text} (hv : v.any isQuote = false) :
    (front.flatMap Attribute.text ++ v).count '"' = 2 * front.length := by
  rw [List.count_append, count_attributes, count_of_any_isQuote hv, Nat.add_zero]

/-- Within a value the number of quotes is odd. -/
theorem count_within {front : List Attribute} {a : Attribute} {v : Text} (hv : v <+: a.value.written) :
    (front.flatMap Attribute.text ++ ' ' :: (a.key ++ '=' :: '"' :: v)).count '"' = 2 * front.length + 1 := by
  have htext : ' ' :: (a.key ++ '=' :: '"' :: v) = a.lead ++ '"' :: v := by simp [Attribute.lead]
  have hcut : v.count '"' = 0 :=
    List.count_eq_zero.2 fun hm => Escaped.not_mem_written (by decide) a.value (hv.subset hm)
  rw [List.count_append, count_attributes, htext, List.count_append, count_of_any_isQuote a.any_isQuote_lead,
    List.count_cons_self, hcut]

end SpecAtlas.Markup
