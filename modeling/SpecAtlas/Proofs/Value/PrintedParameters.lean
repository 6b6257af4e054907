import SpecAtlas.Proofs.Value.LongNumeral
import SpecAtlas.Proofs.Value.Passing
import SpecAtlas.Value.Print

/-!
# Printed parameters are read entry by entry

The data of an iteration is printed as entries `key: value` with a comma between them. Lists among the
values have commas of their own, and texts are printed without quotes.

1. The scanner of quotes and brackets passes over a printed value: the brackets that the value opens are
   closed again, and its commas stand inside of them (`passes_print`).
2. So what divides the list is the commas between the entries (`splitCommas_printEntries`), and each piece
   is read as the entry that it was printed from (`entries_printEntries`).
3. The scalars of the list are the printed values. They are short enough to be read
   (`exists_read_printEntries`).
-/

namespace SpecAtlas

open Text

namespace Parameters

/-- A text that stands for itself in a list of parameters. -/
structure Plain (text : Text) : Prop where
  nonempty : text ≠ []
  trimmed : trim text = text
  unmarked : ∀ c ∈ text, c ∉ marks

/-- Identifiers are plain. -/
theorem Plain.ofWord {text : Text} (hne : text ≠ []) (h : text.all isWord = true) : Plain text where
  nonempty := hne
  trimmed := trim_of_ends (fun c hc => isBlank_of_isWord (List.all_eq_true.1 h c (List.mem_of_head? hc)))
    fun c hc => isBlank_of_isWord (List.all_eq_true.1 h c (List.mem_of_getLast? hc))
  unmarked c hc hm := by
    have hmarks : marks.any isWord = false := by decide
    exact List.any_eq_false.1 hmarks c hm (List.all_eq_true.1 h c hc)

/-- A key with a colon and a text behind it is read as an entry. -/
theorem Plain.entry?_append {key text lead : Text} (hkey : Plain key) (hne : text ≠ []) (htrim : trim text = text)
    (hlead : allBlank lead = true) : entry? (lead ++ (key ++ ": ".toList ++ text)) = some (key, ' ' :: text) := by
  have hends : trim (key ++ ": ".toList ++ text) = key ++ ": ".toList ++ text := by
    refine trim_of_ends (fun c hc => head?_of_trim hkey.trimmed c ?_) fun c hc => getLast?_of_trim htrim c ?_
    · rwa [List.append_assoc, List.head?_append_of_ne_nil _ hkey.nonempty] at hc
    · rwa [List.getLast?_append_of_ne_nil _ hne] at hc
  have hcolon : ':' ∉ key := fun hm => hkey.unmarked ':' hm (by decide)
  have hspan : (key ++ ": ".toList ++ text).span (· != ':') = (key, ':' :: ' ' :: text) := by
    have hparts : key ++ ": ".toList ++ text = key ++ ':' :: ' ' :: text := by simp
    rw [hparts, span_append (bne_of_not_mem hcolon) (by decide)]
  obtain ⟨c, rest, hcons⟩ := List.exists_cons_of_ne_nil hkey.nonempty
  have htrimmed := hkey.trimmed
  unfold entry?
  rw [trim_append hlead, hends, hspan]
  rw [hcons] at htrimmed ⊢
  dsimp only
  rw [htrimmed]

end Parameters

/-- A value that a list of parameters shows: a number that is short enough to be read, a truth value, a word
that is no number, or a list of such values. -/
inductive Value.Printable : Value → Prop
  | int {n : Int} (h : (Numeral.ofNat n.natAbs).length ≤ Numeral.limit) : Printable (.int n)
  | bool (b : Bool) : Printable (.bool b)
  | word {t : Text} (h : Parameters.Plain t) (hword : Literal.isWhole t = false) : Printable (.text t)
  | list {items : List Value} (h : ∀ v ∈ items, Printable v) : Printable (.list items)

/-- Words of letters are printable. -/
theorem Value.Printable.ofLetters {t : Text} (hne : t ≠ [])
    (hword : t.all isWord = true) (hdigit : t.any isDigit = false) : Printable (.text t) := by
  refine .word (.ofWord hne hword) (Bool.eq_false_iff.2 fun hwhole => ?_)
  obtain ⟨digits, hsome, hall, ht⟩ := Literal.isWhole_iff.1 hwhole
  obtain ⟨d, rest, rfl⟩ := List.exists_cons_of_ne_nil hsome
  have hd : isDigit d = true := List.all_eq_true.1 hall d List.mem_cons_self
  have hmem : d ∈ t := by
    rcases ht with rfl | rfl
    · exact List.mem_cons_self
    · exact List.mem_cons_of_mem _ List.mem_cons_self
  exact List.any_eq_false.1 hdigit d hmem hd

/-- Entries with plain keys and printable values. -/
def PrintableEntries (values : List (Text × Value)) : Prop :=
  ∀ e ∈ values, Parameters.Plain e.1 ∧ e.2.Printable

/-- One entry as a report shows it. -/
def printEntry (e : Text × Value) : Text := e.1 ++ ": ".toList ++ e.2.print

theorem printEntries_cons_cons (e next : Text × Value) (rest : List (Text × Value)) :
    printEntries (e :: next :: rest) = printEntry e ++ ',' :: ' ' :: printEntries (next :: rest) := by
  simp [printEntries, printEntry]

theorem printItems_cons_cons (v next : Value) (rest : List Value) :
    printItems (v :: next :: rest) = v.print ++ ',' :: ' ' :: printItems (next :: rest) := by
  simp [printItems]

/-! ## Passing over a value -/

namespace Nesting

variable {depth : Nat}

theorem passes_colon : Passes depth ": ".toList := by
  have hhere : Passes depth [':'] := passes_singleton rfl rfl (by decide) (.inl (by decide))
  exact hhere.append passes_space

theorem passes_printItems {items : List Value} (h : ∀ v ∈ items, Passes (depth + 1) v.print) :
    Passes (depth + 1) (printItems items) := by
  induction items with
  | nil => exact passes_nil
  | cons v rest ih =>
      have hv := h v List.mem_cons_self
      cases rest with
      | nil => simpa [printItems] using hv
      | cons next rest =>
          have hrest := ih fun w hw => h w (List.mem_cons_of_mem v hw)
          have hcomma := (passes_comma (Nat.succ_pos depth)).append hrest
          rw [printItems_cons_cons]
          exact hv.append hcomma

end Nesting

namespace Value.Printable

variable {v : Value}

/-- **The scanner passes over a printed value**, whatever brackets the value stands in. -/
theorem passes_print (h : v.Printable) : ∀ depth, Nesting.Passes depth v.print := by
  induction h with
  | int h => exact fun depth => Nesting.passes_unmarked (Numeral.unmarked_ofInt _)
  | bool b => exact fun depth => Nesting.passes_unmarked (by cases b <;> simp [Value.print, Parameters.marks])
  | word h => exact fun depth => Nesting.passes_unmarked h.unmarked
  | list h ih => exact fun depth => Nesting.passes_brackets (Nesting.passes_printItems fun v hv => ih v hv (depth + 1))

theorem print_ne_nil (h : v.Printable) : v.print ≠ [] := by
  cases h with
  | @int n h =>
      have hsome := Numeral.ofNat_ne_nil n.natAbs
      rcases Numeral.ofInt_eq n with he | he <;> simp [Value.print, he, hsome]
  | bool b => cases b <;> simp [Value.print]
  | word h => exact h.nonempty
  | list h => simp [Value.print]

/-- There is no white space around a printed value. -/
theorem trim_print (h : v.Printable) : trim v.print = v.print := by
  cases h with
  | int h => exact Literal.trim_of_isWhole (Literal.isWhole_ofInt _).1
  | bool b => cases b <;> decide
  | word h => exact h.trimmed
  | list h => exact trim_enclosed (by decide) (by decide) _

/-- A printed value is not refused. -/
theorem tooLong?_print (h : v.Printable) : Literal.tooLong? (' ' :: v.print) = none := by
  have hblank : allBlank [' '] = true := by decide
  have htrim : trim (' ' :: v.print) = v.print := (trim_append hblank v.print).trans h.trim_print
  cases h with
  | @int n hshort =>
      have hcount := (Literal.isWhole_ofInt n).2
      rw [Literal.tooLong?, htrim, Value.print, hcount]
      simp [Nat.not_lt.2 hshort]
  | bool b => cases b <;> decide
  | word h hword => exact Literal.tooLong?_of_not_whole (by rw [htrim]; exact hword)
  | list h =>
      refine Literal.tooLong?_of_not_whole (Bool.eq_false_iff.2 fun hwhole => ?_)
      rw [htrim, Value.print] at hwhole
      obtain ⟨digits, -, hall, he | he⟩ := Literal.isWhole_iff.1 hwhole
      · rw [← he] at hall
        simp [show isDigit '[' = false by decide] at hall
      · simp at he

end Value.Printable

/-! ## The entries -/

section

variable {e : Text × Value} (hkey : Parameters.Plain e.1) (hvalue : e.2.Printable)

include hkey hvalue

theorem passes_printEntry : Nesting.Passes 0 (printEntry e) :=
  ((Nesting.passes_unmarked hkey.unmarked).append Nesting.passes_colon).append (hvalue.passes_print 0)

/-- A printed entry is read back, with the space in front of its value. -/
theorem entry?_printEntry {lead : Text} (hlead : allBlank lead = true) :
    Parameters.entry? (lead ++ printEntry e) = some (e.1, ' ' :: e.2.print) :=
  hkey.entry?_append hvalue.print_ne_nil hvalue.trim_print hlead

end

/-- Printed entries are joined with a comma and a space. -/
theorem printEntries_eq_join (values : List (Text × Value)) : printEntries values = join ", ".toList (values.map printEntry) := by
  induction values with
  | nil => rfl
  | cons first rest ih =>
      cases rest with
      | nil => simp [printEntries, printEntry, join]
      | cons next rest =>
          rw [printEntries_cons_cons, ih, List.map_cons (l := next :: rest),
            join_cons_of_ne_nil _ _ (by simp : (next :: rest).map printEntry ≠ []), List.append_assoc]
          rfl

/-- What divides a printed list is the commas between its entries. -/
theorem splitCommas_printEntries {first : Text × Value} {rest : List (Text × Value)}
    (h : PrintableEntries (first :: rest)) :
    splitCommas (printEntries (first :: rest)) = printEntry first :: rest.map fun e => ' ' :: printEntry e := by
  have hpasses : ∀ part ∈ printEntry first :: rest.map fun e => ' ' :: printEntry e, Nesting.Passes 0 part := by
    intro part hpart
    rcases List.mem_cons.1 hpart with rfl | hrest
    · obtain ⟨hkey, hvalue⟩ := h first List.mem_cons_self
      exact passes_printEntry hkey hvalue
    · obtain ⟨e, he, rfl⟩ := List.mem_map.1 hrest
      obtain ⟨hkey, hvalue⟩ := h e (List.mem_cons_of_mem first he)
      exact Nesting.passes_space.append (passes_printEntry hkey hvalue)
  have hsome : printEntries (first :: rest) ≠ [] := by
    cases rest <;> simp [printEntries]
  rw [splitCommas, splitTopLevel, if_neg (by simpa using hsome), printEntries_eq_join, List.map_cons, join_comma_space,
    List.map_map]
  exact Nesting.splitFrom_join (List.cons_ne_nil _ _) hpasses

/-- **Every printed entry is read**, in order, and no other is. -/
theorem entries_printEntries {values : List (Text × Value)} (h : PrintableEntries values) :
    (splitCommas (printEntries values)).filterMap Parameters.entry? = values.map fun e => (e.1, ' ' :: e.2.print) := by
  cases values with
  | nil => rfl
  | cons first rest =>
      have hnone : allBlank [] = true := rfl
      have hspace : allBlank [' '] = true := by decide
      obtain ⟨hkey, hvalue⟩ := h first List.mem_cons_self
      have hfirst := entry?_printEntry hkey hvalue hnone
      have hrest : (rest.map fun e => ' ' :: printEntry e).filterMap Parameters.entry? =
          rest.map fun e => (e.1, ' ' :: e.2.print) := by
        rw [List.filterMap_map, ← List.filterMap_eq_map]
        refine List.filterMap_congr fun e he => ?_
        obtain ⟨hkey, hvalue⟩ := h e (List.mem_cons_of_mem first he)
        exact entry?_printEntry hkey hvalue hspace
      rw [List.nil_append] at hfirst
      rw [splitCommas_printEntries h, List.filterMap_cons_some hfirst, hrest, List.map_cons]

/-- Printed parameters are not refused. -/
theorem exists_read_printEntries {values : List (Text × Value)} (h : PrintableEntries values) :
    ∃ parameters, Parameters.read (printEntries values) = .ok parameters := by
  refine (refusedFor_parameters _).exists_ok_iff.2 fun token htoken => ?_
  rw [Parameters.scalars, entries_printEntries h, List.map_map] at htoken
  obtain ⟨e, he, rfl⟩ := List.mem_map.1 htoken
  exact (h e he).2.tooLong?_print

end SpecAtlas
