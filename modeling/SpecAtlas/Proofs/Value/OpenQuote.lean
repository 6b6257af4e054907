import SpecAtlas.Proofs.Mapping
import SpecAtlas.Proofs.Value.Division
import SpecAtlas.Proofs.Value.PrintedParameters

/-!
# Printed parameters with quotes in them

A report prints texts without quotes around them, so a quote in a text is a mere character there. The reader of
parameters takes it for the beginning of a quoted text.

1. Of a list of parameters a comma divides two entries if behind the entry in front of it no quote is open
   (`splitFrom_printEntries`). Then every entry is read (`entries_of_closed`).
2. A text that leaves a quote open takes the next entry in, so there is a key less than was printed
   (`closed_of_length`).

Hence the parameters keep their keys exactly if every text but the last one closes the quotes that it opens
(`read_printEntries_iff`). A text of too many digits is refused, as everywhere.
-/

namespace SpecAtlas

open Text

/-! ## Values without brackets -/

/-- A value that is printed without brackets, commas and colons: a number that is short enough to be read, a truth
value, or a text. Quotes may stand in the text. -/
inductive Value.Flat : Value → Prop
  | int {n : Int} (h : (Numeral.ofNat n.natAbs).length ≤ Numeral.limit) : Flat (.int n)
  | bool (b : Bool) : Flat (.bool b)
  | text {t : Text} (hne : t ≠ []) (htrim : trim t = t) (h : ∀ c ∈ t, c ∈ Parameters.marks → isQuote c = true) :
      Flat (.text t)

namespace Value.Flat

variable {v : Value}

theorem print_ne_nil (h : v.Flat) : v.print ≠ [] := by
  cases h with
  | int h => exact (Printable.int h).print_ne_nil
  | bool b => exact (Printable.bool b).print_ne_nil
  | text hne => exact hne

theorem trim_print (h : v.Flat) : trim v.print = v.print := by
  cases h with
  | int h => exact (Printable.int h).trim_print
  | bool b => exact (Printable.bool b).trim_print
  | text _ htrim => exact htrim

/-- Of all marks only quotes stand in what is printed. -/
theorem isQuote_of_mem_print (h : v.Flat) {c : Char} (hc : c ∈ v.print) (hmark : c ∈ Parameters.marks) :
    isQuote c = true := by
  cases h with
  | int h => exact absurd hmark (Numeral.unmarked_ofInt _ c hc)
  | bool b =>
      have hunmarked : ∀ b : Bool, (Value.bool b).print.all (fun c => !Parameters.marks.contains c) = true := by decide
      have hnone := List.all_eq_true.1 (hunmarked b) c hc
      simp [hmark] at hnone
  | text _ _ h => exact h c hc hmark

theorem comma_not_mem_print (h : v.Flat) : ',' ∉ v.print := fun hm =>
  absurd (h.isQuote_of_mem_print hm (by decide)) (by decide)

end Value.Flat

/-! ## Entries -/

/-- Entries with plain keys and flat values. -/
def FlatEntries (values : List (Text × Value)) : Prop := ∀ e ∈ values, Parameters.Plain e.1 ∧ e.2.Flat

theorem FlatEntries.tail {e : Text × Value} {rest : List (Text × Value)} (h : FlatEntries (e :: rest)) :
    FlatEntries rest := fun x hx => h x (List.mem_cons_of_mem e hx)

section

variable {e : Text × Value} (hkey : Parameters.Plain e.1) (hvalue : e.2.Flat)

include hkey

/-- In front of the value of an entry nothing opens a quote. -/
theorem after_printEntry {lead : Text} (hlead : allBlank lead = true) :
    ({} : Nesting).after (lead ++ printEntry e) = ({} : Nesting).after e.2.print := by
  have hunmarked : ∀ c ∈ lead ++ (e.1 ++ ": ".toList), c ∉ Parameters.marks ∨ c = ':' := by
    intro c hc
    rcases List.mem_append.1 hc with hc | hc
    · exact .inl (unmarked_of_allBlank hlead c hc)
    · rcases List.mem_append.1 hc with hc | hc
      · exact .inl (hkey.unmarked c hc)
      · obtain rfl | rfl : c = ':' ∨ c = ' ' := by simpa using hc
        · exact .inr rfl
        · exact .inl (by decide)
  have hnone : ({} : Nesting).after (lead ++ (e.1 ++ ": ".toList)) = {} := by
    refine Nesting.after_of_no_opener (List.any_eq_false.2 fun c hc hquote => ?_) fun c hc => ?_
    · rcases hunmarked c hc with hc | rfl
      · simp only [isQuote, Bool.or_eq_true, beq_iff_eq] at hquote
        rcases hquote with rfl | rfl <;> exact hc (by decide)
      · contradiction
    · rcases hunmarked c hc with hc | rfl
      · unfold closerOf?
        split
        all_goals first | exact absurd (by decide) hc | rfl
      · rfl
  have hparts : lead ++ printEntry e = lead ++ (e.1 ++ ": ".toList) ++ e.2.print := by simp [printEntry]
  rw [hparts, Nesting.after_append, hnone]

include hvalue

theorem comma_not_mem_printEntry {lead : Text} (hlead : allBlank lead = true) : ',' ∉ lead ++ printEntry e := by
  have hfront : ',' ∉ lead := not_mem_of_allBlank hlead (by decide)
  have hname : ',' ∉ e.1 := fun hm => hkey.unmarked ',' hm (by decide)
  simp [printEntry, hfront, hname, hvalue.comma_not_mem_print]

end

/-- The commas in a printed list are those between its entries. -/
theorem count_comma_printEntries {e : Text × Value} {rest : List (Text × Value)} (h : FlatEntries (e :: rest)) :
    (printEntries (e :: rest)).count ',' = rest.length := by
  induction rest generalizing e with
  | nil =>
      obtain ⟨hkey, hvalue⟩ := h e List.mem_cons_self
      have hnone := comma_not_mem_printEntry hkey hvalue (rfl : allBlank [] = true)
      exact List.count_eq_zero.2 (by simpa [printEntries, printEntry] using hnone)
  | cons next rest ih =>
      obtain ⟨hkey, hvalue⟩ := h e List.mem_cons_self
      have hnone : (printEntry e).count ',' = 0 :=
        List.count_eq_zero.2 (comma_not_mem_printEntry hkey hvalue (rfl : allBlank [] = true))
      rw [printEntries_cons_cons, List.count_append, hnone, List.count_cons_self, List.count_cons_of_ne (by decide),
        ih h.tail, List.length_cons, Nat.zero_add]

/-! ## Where the list divides -/

/-- The texts of all entries but the last one close the quotes that they open. -/
def QuotesClosed (values : List (Text × Value)) : Prop :=
  ∀ e ∈ values.dropLast, ({} : Nesting).after e.2.print = {}

instance (values : List (Text × Value)) : Decidable (QuotesClosed values) :=
  inferInstanceAs (Decidable (∀ e ∈ values.dropLast, ({} : Nesting).after e.2.print = {}))

/-- **Where quotes are closed, commas divide the entries.** -/
theorem splitFrom_printEntries {e : Text × Value} {rest : List (Text × Value)} (h : FlatEntries (e :: rest))
    (hclosed : QuotesClosed (e :: rest)) {lead : Text} (hlead : allBlank lead = true) :
    splitFrom (· == ',') {} (lead ++ printEntries (e :: rest)) =
      (lead ++ printEntry e) :: rest.map fun e => ' ' :: printEntry e := by
  induction rest generalizing e lead with
  | nil =>
      obtain ⟨hkey, hvalue⟩ := h e List.mem_cons_self
      exact splitFrom_of_not_mem (comma_not_mem_printEntry hkey hvalue hlead)
  | cons next rest ih =>
      obtain ⟨hkey, hvalue⟩ := h e List.mem_cons_self
      have htop : (({} : Nesting).after (lead ++ printEntry e)).isTop = true := by
        rw [after_printEntry hkey hlead, hclosed e List.mem_cons_self]
        rfl
      have hrest := ih h.tail (fun x hx => hclosed x (List.mem_cons_of_mem e hx)) (by decide : allBlank [' '] = true)
      rw [printEntries_cons_cons, ← List.append_assoc, splitFrom_append_top rfl rfl htop,
        splitFrom_of_not_mem (comma_not_mem_printEntry hkey hvalue hlead), List.map_cons]
      exact congrArg ((lead ++ printEntry e) :: ·) hrest

/-- **Where the list has a piece for every entry, the quotes are closed.** -/
theorem closed_of_length {e : Text × Value} {rest : List (Text × Value)} (h : FlatEntries (e :: rest)) {lead : Text}
    (hlead : allBlank lead = true)
    (hlength : (e :: rest).length ≤ (splitFrom (· == ',') {} (lead ++ printEntries (e :: rest))).length) :
    QuotesClosed (e :: rest) := by
  induction rest generalizing e lead with
  | nil => simp [QuotesClosed]
  | cons next rest ih =>
      obtain ⟨hkey, hvalue⟩ := h e List.mem_cons_self
      have hcomma := comma_not_mem_printEntry hkey hvalue hlead
      have hafter := after_printEntry hkey hlead
      rw [printEntries_cons_cons, ← List.append_assoc] at hlength
      cases htop : (({} : Nesting).after (lead ++ printEntry e)).isTop with
      | true =>
          rw [splitFrom_append_top rfl rfl htop, splitFrom_of_not_mem hcomma] at hlength
          have hrest := ih h.tail (by decide : allBlank [' '] = true) (Nat.le_of_succ_le_succ hlength)
          intro x hx
          rcases List.mem_cons.1 hx with rfl | hx
          · rw [← hafter, Nesting.eq_empty_of_isTop htop]
          · exact hrest x hx
      | false =>
          -- The comma behind the open quote is lost, and there are no others to make up for it.
          have hle := length_splitFrom_of_open ',' htop (' ' :: printEntries (next :: rest))
          rw [List.count_eq_zero.2 hcomma, List.count_cons_of_ne (by decide), count_comma_printEntries h.tail] at hle
          simp only [List.length_cons] at hlength
          omega

/-! ## Reading -/

/-- Where quotes are closed, every entry is read. -/
theorem entries_of_closed {values : List (Text × Value)} (h : FlatEntries values) (hclosed : QuotesClosed values) :
    (splitCommas (printEntries values)).filterMap Parameters.entry? = values.map fun e => (e.1, ' ' :: e.2.print) := by
  cases values with
  | nil => rfl
  | cons first rest =>
      have hentry {e : Text × Value} (he : e ∈ first :: rest) {lead : Text} (hlead : allBlank lead = true) :
          Parameters.entry? (lead ++ printEntry e) = some (e.1, ' ' :: e.2.print) := by
        obtain ⟨hkey, hvalue⟩ := h e he
        exact hkey.entry?_append hvalue.print_ne_nil hvalue.trim_print hlead
      have hpieces := splitFrom_printEntries h hclosed (rfl : allBlank [] = true)
      have hsome : printEntries (first :: rest) ≠ [] := by
        cases rest <;> simp [printEntries]
      have hrest : (rest.map fun e => ' ' :: printEntry e).filterMap Parameters.entry? =
          rest.map fun e => (e.1, ' ' :: e.2.print) := by
        rw [List.filterMap_map, ← List.filterMap_eq_map]
        exact List.filterMap_congr fun e he =>
          hentry (List.mem_cons_of_mem first he) (by decide : allBlank [' '] = true)
      rw [List.nil_append] at hpieces
      rw [splitCommas, splitTopLevel, if_neg (by simpa using hsome), hpieces]
      exact (List.filterMap_cons_some (hentry List.mem_cons_self rfl)).trans (by rw [hrest, List.map_cons])

/-- White space around a parameter makes no difference. -/
theorem coerceParameter_congr {token other : Text} (h : trim token = trim other) :
    coerceParameter token = coerceParameter other := by
  rw [coerceParameter, coerceParameter, coerce, coerce, h]

/-- A printed entry has been read: its key, and the value that its printed text stands for. -/
def IsEntryRead (e : Text × Value) (parameter : Text × Value) : Prop :=
  parameter.1 = e.1 ∧ coerceParameter e.2.print = .ok parameter.2

/-- If there is a parameter for every entry, the quotes of the entries are closed. -/
theorem closed_of_read {values : List (Text × Value)} (h : FlatEntries values) {parameters : Mapping Value}
    (hread : Parameters.read (printEntries values) = .ok parameters) (hlength : values.length ≤ parameters.length) :
    QuotesClosed values := by
  cases values with
  | nil => simp [QuotesClosed]
  | cons first rest =>
      refine closed_of_length h (rfl : allBlank [] = true) ?_
      obtain ⟨entries, hentries, hlist⟩ := bind_eq_ok.1 hread
      obtain rfl := Except.ok.inj hlist
      have hsome : printEntries (first :: rest) ≠ [] := by
        cases rest <;> simp [printEntries]
      have hpieces := List.length_filterMap_le Parameters.entry? (splitCommas (printEntries (first :: rest)))
      have hmapping := Mapping.length_ofList_le entries
      rw [← (forall₂_of_mapM hentries).length_eq] at hmapping
      rw [splitCommas, splitTopLevel, if_neg (by simpa using hsome)] at hpieces hmapping
      rw [List.nil_append]
      omega

/-- **Printed parameters keep their keys exactly if quotes are closed.** The parameters read from a printed list
have its keys, in order, each with the value that its printed text stands for, if and only if every text but the
last one closes the quotes that it opens, and none is a whole number of too many digits. -/
theorem read_printEntries_iff {values : List (Text × Value)} (hkeys : (values.map Prod.fst).Nodup)
    (h : FlatEntries values) :
    (∃ parameters, Parameters.read (printEntries values) = .ok parameters ∧
      List.Forall₂ IsEntryRead values parameters) ↔
    QuotesClosed values ∧ ∀ e ∈ values, Literal.tooLong? e.2.print = none := by
  constructor
  · rintro ⟨parameters, hread, hentries⟩
    refine ⟨closed_of_read h hread (Nat.le_of_eq hentries.length_eq), fun e he => ?_⟩
    obtain ⟨parameter, -, -, hvalue⟩ := exists_of_mem_left hentries he
    simpa using (refusedFor_coerceParameter e.2.print).exists_ok_iff.1 ⟨_, hvalue⟩
  · rintro ⟨hclosed, hshort⟩
    have hvalues : ∀ e ∈ values, ∃ parameter, IsEntryRead e parameter := by
      intro e he
      obtain ⟨v, hv⟩ := (refusedFor_coerceParameter e.2.print).exists_ok_iff.2 (by simpa using hshort e he)
      exact ⟨(e.1, v), rfl, hv⟩
    obtain ⟨parameters, hparameters⟩ := exists_forall₂ hvalues
    have hmapM : (values.map fun e => (e.1, ' ' :: e.2.print)).mapM
        (fun x => do return (x.1, ← coerceParameter x.2) : Text × Text → Except LongNumeral (Text × Value)) =
          .ok parameters := by
      rw [List.mapM_map]
      refine mapM_of_forall₂ (hparameters.imp fun e parameter hread => ?_)
      have hspace : trim (' ' :: e.2.print) = trim e.2.print := trim_append (by decide : allBlank [' '] = true) _
      show (do return (e.1, ← coerceParameter (' ' :: e.2.print)) : Except LongNumeral (Text × Value)) = _
      rw [coerceParameter_congr hspace, hread.2, ← hread.1]
      rfl
    have hnames : parameters.map Prod.fst = values.map Prod.fst :=
      map_eq_of_forall₂ (hparameters.imp fun _ _ hread => hread.1)
    refine ⟨parameters, ?_, hparameters⟩
    have hlist : Mapping.ofList parameters = parameters := Mapping.ofList_of_nodup (hnames ▸ hkeys)
    rw [Parameters.read, entries_of_closed h hclosed, hmapM, ok_bind, hlist]
    rfl

/-! ## Samples -/

/-- Whether a text can be the text of an entry can be computed. -/
theorem Value.Flat.ofText {t : Text} (hne : t ≠ []) (htrim : trim t = t)
    (h : (t.all fun c => isQuote c || !Parameters.marks.contains c) = true) : Value.Flat (.text t) :=
  .text hne htrim fun c hc hmark => by simpa [hmark] using List.all_eq_true.1 h c hc

/-- Texts with closed quotes, one with a quote in it, and at the end one that is left open. -/
theorem read_quotedTexts :
    let values : List (Text × Value) :=
      [("a".toList, .int 1), ("b".toList, .text "'x y'".toList), ("c".toList, .text "5\" 6\"".toList),
        ("d".toList, .text "it's".toList)]
    printEntries values = "a: 1, b: 'x y', c: 5\" 6\", d: it's".toList ∧
      ((values.map Prod.fst).Nodup ∧ FlatEntries values) ∧
      (QuotesClosed values ∧ ∀ e ∈ values, Literal.tooLong? e.2.print = none) ∧
      ∃ parameters, Parameters.read (printEntries values) = .ok parameters ∧
        List.Forall₂ IsEntryRead values parameters := by
  intro values
  have hkeys : (values.map Prod.fst).Nodup := by decide
  have hflat : FlatEntries values := by
    simp only [FlatEntries, values, List.forall_mem_cons]
    exact ⟨⟨.ofWord (by decide) (by decide), .int (by decide)⟩,
      ⟨.ofWord (by decide) (by decide), .ofText (by decide) (by decide) (by decide)⟩,
      ⟨.ofWord (by decide) (by decide), .ofText (by decide) (by decide) (by decide)⟩,
      ⟨.ofWord (by decide) (by decide), .ofText (by decide) (by decide) (by decide)⟩, by simp⟩
  have hclosed : QuotesClosed values ∧ ∀ e ∈ values, Literal.tooLong? e.2.print = none := by decide
  exact ⟨rfl, ⟨hkeys, hflat⟩, hclosed, (read_printEntries_iff hkeys hflat).2 hclosed⟩

/-- A text with an apostrophe takes in the entry behind it. -/
theorem read_apostrophe :
    let values : List (Text × Value) := [("a".toList, .text "it's".toList), ("b".toList, .int 2)]
    FlatEntries values ∧ printEntries values = "a: it's, b: 2".toList ∧
      Parameters.read (printEntries values) = .ok [("a".toList, .text "it's, b: 2".toList)] ∧
      ¬ ∃ parameters, Parameters.read (printEntries values) = .ok parameters ∧
        List.Forall₂ IsEntryRead values parameters := by
  intro values
  have hflat : FlatEntries values := by
    simp only [FlatEntries, values, List.forall_mem_cons]
    exact ⟨⟨.ofWord (by decide) (by decide), .ofText (by decide) (by decide) (by decide)⟩,
      ⟨.ofWord (by decide) (by decide), .int (by decide)⟩, by simp⟩
  have hread : Parameters.read (printEntries values) = .ok [("a".toList, .text "it's, b: 2".toList)] := rfl
  refine ⟨hflat, rfl, hread, ?_⟩
  rintro ⟨parameters, hother, hentries⟩
  obtain rfl := Except.ok.inj (hread.symm.trans hother)
  exact absurd hentries.length_eq (by decide)

end SpecAtlas
