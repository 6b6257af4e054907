import SpecAtlas.Proofs.Result.Agreement
import SpecAtlas.Proofs.Value.PrintedParameters

/-!
# Names with printed parameters

The build tool prints the data of an iteration into its name. The reader of names takes the first closing
bracket for the end of the parameters, and a printed list has a closing bracket of its own.

1. Every opening bracket of printed parameters is closed (`closed_printEntries`), and there is a closing
   bracket exactly if one of the values is a list (`closing_mem_printEntries_iff`).
2. So a name with a list among its parameters is not the name of an iteration: the look for brackets passes
   over all that open, and what is left has none (`read?_append_eq_none`).
3. Any other name gives back the feature, the index and the parameters that it was printed from
   (`iterationInfo?_printed`).
-/

namespace SpecAtlas

open Text

/-- Whether a value is a list. -/
def Value.isList : Value → Bool
  | .list _ => true
  | _ => false

namespace Result

/-! ## The brackets of printed parameters -/

/-- Only lists are printed with brackets, and these are closed. -/
theorem closed_print {v : Value} (h : v.Printable) : '[' ∉ behindBrackets v.print := by
  cases h with
  | int h => exact closed_of_not_mem fun hm => Numeral.unmarked_ofInt _ _ hm (by decide)
  | bool b => cases b <;> decide
  | word h => exact closed_of_not_mem fun hm => h.unmarked _ hm (by decide)
  | @list items h =>
      have hlast : behindBrackets ('[' :: printItems items ++ [']']) = behindBrackets [']'] :=
        behindBrackets_append_of_mem (by decide) _
      rw [Value.print, hlast]
      decide

theorem closing_mem_print_iff {v : Value} (h : v.Printable) : ']' ∈ v.print ↔ v.isList = true := by
  cases h with
  | int h => exact iff_of_false (fun hm => Numeral.unmarked_ofInt _ _ hm (by decide)) Bool.false_ne_true
  | bool b => cases b <;> decide
  | word h => exact iff_of_false (fun hm => h.unmarked _ hm (by decide)) Bool.false_ne_true
  | list h => simp [Value.print, Value.isList]

section

variable {e : Text × Value} (hkey : Parameters.Plain e.1) (hvalue : e.2.Printable)

include hkey hvalue

theorem closed_printEntry : '[' ∉ behindBrackets (printEntry e) := by
  have hopening : '[' ∉ e.1 ++ ": ".toList := by
    simpa using fun hm => hkey.unmarked '[' hm (by decide)
  exact closed_append (closed_of_not_mem hopening) (closed_print hvalue)

theorem closing_mem_printEntry_iff : ']' ∈ printEntry e ↔ e.2.isList = true := by
  have hclosing : ']' ∉ e.1 := fun hm => hkey.unmarked ']' hm (by decide)
  rw [← closing_mem_print_iff hvalue]
  simp [printEntry, hclosing]

end

/-- Every bracket in printed parameters is closed. -/
theorem closed_printEntries {values : List (Text × Value)} (h : PrintableEntries values) :
    '[' ∉ behindBrackets (printEntries values) := by
  induction values with
  | nil => decide
  | cons e rest ih =>
      obtain ⟨hkey, hvalue⟩ := h e List.mem_cons_self
      have hhere := closed_printEntry hkey hvalue
      have hrest := ih fun x hx => h x (List.mem_cons_of_mem e hx)
      cases rest with
      | nil => simpa [printEntries, printEntry] using hhere
      | cons next rest =>
          have hcomma : '[' ∉ behindBrackets ", ".toList := by decide
          rw [printEntries_cons_cons]
          exact closed_append hhere (closed_append hcomma hrest)

/-- There is a closing bracket in printed parameters exactly if there is a list. -/
theorem closing_mem_printEntries_iff {values : List (Text × Value)} (h : PrintableEntries values) :
    ']' ∈ printEntries values ↔ values.any (·.2.isList) = true := by
  induction values with
  | nil => decide
  | cons e rest ih =>
      obtain ⟨hkey, hvalue⟩ := h e List.mem_cons_self
      have hhere := closing_mem_printEntry_iff hkey hvalue
      have hrest := ih fun x hx => h x (List.mem_cons_of_mem e hx)
      cases rest with
      | nil => simpa [printEntries, printEntry] using hhere
      | cons next rest =>
          rw [printEntries_cons_cons, List.any_cons, Bool.or_eq_true, ← hhere, ← hrest]
          simp

/-! ## Reading the name -/

namespace IterationName

/-- Without an opening bracket there is no name of an iteration. -/
theorem readFrom?_of_not_mem {text : Text} (h : '[' ∉ text) (reversed : Text) : readFrom? reversed text = none := by
  induction text generalizing reversed with
  | nil => rfl
  | cons c text ih =>
      have hc : c ≠ '[' := fun he => h (he ▸ List.mem_cons_self)
      have hrest : '[' ∉ text := fun hm => h (List.mem_cons_of_mem c hm)
      rw [readFrom?, if_neg (by simp [hc])]
      exact ih hrest (c :: reversed)

/-- Nor is there one where all brackets are closed before the end. -/
theorem read?_append_eq_none {front rest : Text} (hfront : '[' ∉ behindBrackets front) (hrest : '[' ∉ rest)
    (hmore : ∃ c ∈ rest, c ≠ '\n') : read? (front ++ rest) = none := by
  have hpass : ∀ before behind, front = before ++ '[' :: behind → ']' ∈ behind :=
    fun before behind he => mem_of_behindBrackets (he ▸ hfront)
  rw [read?, readFrom?_append hpass [] hmore]
  exact readFrom?_of_not_mem hrest _

end IterationName

section

variable {base : Text} {values : List (Text × Value)} (hbase : PlainFeature base) (hvalues : PrintableEntries values)

include hvalues

/-- A list among the parameters hides the name of the iteration. -/
theorem read?_printed_of_list (hlist : values.any (·.2.isList) = true) (base : Text) (index : Nat) :
    IterationName.read? (iterationDisplayName base (printEntries values) index) = none := by
  have hclosing : ']' ∈ printEntries values := (closing_mem_printEntries_iff hvalues).2 hlist
  have hclosed : '[' ∉ behindBrackets (base ++ " [".toList ++ printEntries values) := by
    rw [behindBrackets_append_of_mem hclosing]
    exact closed_printEntries hvalues
  have hparts : iterationDisplayName base (printEntries values) index =
      (base ++ " [".toList ++ printEntries values) ++ (", #".toList ++ Numeral.ofNat index ++ [']']) := by
    simp [iterationDisplayName]
  have hopening : '[' ∉ ", #".toList ++ Numeral.ofNat index ++ [']'] := by
    have hdigits : '[' ∉ Numeral.ofNat index := not_mem_of_all (Numeral.all_isDigit_ofNat index) (by decide)
    simp [hdigits]
  rw [hparts]
  exact IterationName.read?_append_eq_none hclosed hopening ⟨',', by simp, by decide⟩

include hbase

/-- Without a list the name is read back. -/
theorem read?_printed (hne : values ≠ []) (hlist : values.any (·.2.isList) = false) (index : Nat) :
    IterationName.read? (iterationDisplayName base (printEntries values) index) =
      some ⟨base, ⟨printEntries values, Numeral.ofNat index⟩⟩ := by
  have hsome : printEntries values ≠ [] := by
    obtain ⟨e, rest, rfl⟩ := List.exists_cons_of_ne_nil hne
    cases rest <;> simp [printEntries]
  have hclosing : ']' ∉ printEntries values := by
    rw [closing_mem_printEntries_iff hvalues, hlist]
    decide
  exact IterationName.read?_recoverable hbase.nonempty hbase.oneLine hsome hclosing (Numeral.ofNat_ne_nil index)
    (Numeral.all_isDigit_ofNat index) hbase.closedFeature.recoverable

/-- **What the name of an iteration gives back.** With a list among the printed values it is not taken for the
name of an iteration at all. Otherwise its parts are the feature, the index and the parameters, unless the index
has more digits than are read. In the same cases a report has a result for the iteration. -/
theorem iterationInfo?_printed (hne : values ≠ []) (index : Nat) :
    ∃ parameters, Parameters.read (printEntries values) = .ok parameters ∧
      iterationInfo? (iterationDisplayName base (printEntries values) index) =
        (if values.any (·.2.isList) then .ok none
        else if (Numeral.ofNat index).length ≤ Numeral.limit then .ok (some ⟨base, index, parameters⟩)
        else .error ⟨(Numeral.ofNat index).length⟩) ∧
      ∀ t : WrittenTestcase, t.name.meaning = iterationDisplayName base (printEntries values) index →
        ∀ front back source,
          (∃ result events, readReport (reportWith front t back) source = .ok ([result], events) ∧ t.Tells result) ↔
            values.any (·.2.isList) = false ∧ (Numeral.ofNat index).length ≤ Numeral.limit := by
  obtain ⟨parameters, hparameters⟩ := exists_read_printEntries hvalues
  refine ⟨parameters, hparameters, ?_⟩
  cases hlist : values.any (·.2.isList) with
  | true =>
      have hinfo : iterationInfo? (iterationDisplayName base (printEntries values) index) = .ok none := by
        rw [iterationInfo?, read?_printed_of_list hvalues hlist]
      refine ⟨hinfo, fun t hname front back source => iff_of_false ?_ (by simp)⟩
      have hother : t.verdict = .ok .other := by
        rw [WrittenTestcase.verdict, verdictOf, hname, hinfo]
        rfl
      rintro ⟨result, events, hreport, -⟩
      rw [readReport_reportWith hother] at hreport
      have hnone : [] = [result] := congrArg Prod.fst (Except.ok.inj hreport)
      contradiction
  | false =>
      have hread := read?_printed hbase hvalues hne hlist index
      by_cases hshort : (Numeral.ofNat index).length ≤ Numeral.limit
      · have hinfo := iterationInfo?_of_read? hread hshort hparameters
        rw [Numeral.value_ofNat] at hinfo
        refine ⟨by simpa [hshort] using hinfo, fun t hname front back source => iff_of_true ?_ ⟨rfl, hshort⟩⟩
        rw [← hname] at hinfo
        obtain ⟨result, events, hreport, htells, -, -⟩ := exists_readReport hinfo front back source
        exact ⟨result, events, hreport, htells⟩
      · have hinfo := iterationInfo?_longIndex hread (Nat.not_le.1 hshort)
        refine ⟨by simpa [hshort] using hinfo, fun t hname front back source => ?_⟩
        have hrefused : t.verdict = .error ⟨(Numeral.ofNat index).length⟩ := by
          rw [WrittenTestcase.verdict, verdictOf, hname, hinfo]
          rfl
        simp [readReport_reportWith_refused hrefused, hshort]

end

/-- Printed data without a list: a number, a truth value and a word. -/
def flatValues : List (Text × Value) :=
  [("a".toList, .int (-3)), ("b".toList, .bool true), ("c".toList, .text "fast".toList)]

theorem plainFeature_max : PlainFeature "max".toList := ⟨by decide, by decide, by decide, by decide⟩

/-- Without a list the parts of the name come back. -/
theorem iterationInfo?_flatValues :
    PlainFeature "max".toList ∧ PrintableEntries flatValues ∧ flatValues ≠ [] ∧
      ∃ parameters, Parameters.read (printEntries flatValues) = .ok parameters ∧
        iterationInfo? "max [a: -3, b: true, c: fast, #12]".toList = .ok (some ⟨"max".toList, 12, parameters⟩) := by
  have hvalues : PrintableEntries flatValues := by
    intro e he
    simp only [flatValues, List.mem_cons, List.not_mem_nil, or_false] at he
    rcases he with rfl | rfl | rfl
    · exact ⟨.ofWord (by decide) (by decide), .int (by decide)⟩
    · exact ⟨.ofWord (by decide) (by decide), .bool true⟩
    · exact ⟨.ofWord (by decide) (by decide), .ofLetters (by decide) (by decide) (by decide)⟩
  have hne : flatValues ≠ [] := by decide
  obtain ⟨parameters, hparameters, hinfo, -⟩ := iterationInfo?_printed plainFeature_max hvalues hne 12
  exact ⟨plainFeature_max, hvalues, hne, parameters, hparameters, hinfo⟩

/-- Printed data with a list. -/
def listValues : List (Text × Value) := [("xs".toList, .list [.int 1, .int 2])]

/-- With a list they do not, although the parameters themselves can be read. -/
theorem list_hides_name :
    PlainFeature "max".toList ∧ PrintableEntries listValues ∧
      iterationDisplayName "max".toList (printEntries listValues) 0 = "max [xs: [1, 2], #0]".toList ∧
      (∃ parameters, Parameters.read (printEntries listValues) = .ok parameters) ∧
      iterationInfo? "max [xs: [1, 2], #0]".toList = .ok none := by
  have hvalues : PrintableEntries listValues := by
    intro e he
    obtain rfl := List.mem_singleton.1 he
    refine ⟨.ofWord (by decide) (by decide), .list fun v hv => ?_⟩
    simp only [List.mem_cons, List.not_mem_nil, or_false] at hv
    rcases hv with rfl | rfl <;> exact .int (by decide)
  have hread : IterationName.read? "max [xs: [1, 2], #0]".toList = none := by decide +kernel
  refine ⟨plainFeature_max, hvalues, by decide, exists_read_printEntries hvalues, ?_⟩
  rw [iterationInfo?, hread]

end Result

end SpecAtlas
