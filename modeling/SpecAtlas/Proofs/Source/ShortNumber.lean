import SpecAtlas.Proofs.Mapping
import SpecAtlas.Proofs.Source.Iteration
import SpecAtlas.Proofs.Source.Refusal
import SpecAtlas.Value.Detail

/-!
# The numbers of data can be written

A whole number with more than `Numeral.limit` digits is not read, and it could not be written either. So what is
read from scalars, lists, ranges and tables is never too long for a report or a log: no value that a file or a list
of parameters holds has such a number, however deep it lies (`short_readSpecifications`, `short_parameters`). Only
the settings can have one.

Reading digits is bounded by their number (`Numeral.value_lt`), and the numbers of a range lie between its bounds
(`short_values`). All else is carried up from part to whole.
-/

namespace SpecAtlas

open Text

namespace Numeral

/-- A digit multiplies by ten and adds at most nine. -/
theorem foldl_lt (digits : Text) (n : Nat) :
    digits.foldl (fun n c => 10 * n + (digit? c).getD 0) n < (n + 1) * Nat.pow 10 digits.length := by
  induction digits generalizing n with
  | nil => simp
  | cons c digits ih =>
      have hdigit : (digit? c).getD 0 ≤ 9 := by
        cases hc : digit? c with
        | none => simp
        | some d => exact digit?_le hc
      calc (c :: digits).foldl (fun n c => 10 * n + (digit? c).getD 0) n
          < (10 * n + (digit? c).getD 0 + 1) * Nat.pow 10 digits.length := ih _
        _ ≤ (n + 1) * 10 * Nat.pow 10 digits.length := Nat.mul_le_mul_right _ (by omega)
        _ = (n + 1) * (Nat.pow 10 digits.length * 10) := by rw [Nat.mul_assoc, Nat.mul_comm 10]
        _ = (n + 1) * Nat.pow 10 (c :: digits).length := rfl

/-- So many digits write a number below the power of ten with as many zeros. -/
theorem value_lt {digits : Text} {k : Nat} (h : digits.length ≤ k) : value digits < Nat.pow 10 k :=
  calc value digits
      < (0 + 1) * Nat.pow 10 digits.length := foldl_lt digits 0
    _ = Nat.pow 10 digits.length := by rw [Nat.zero_add, Nat.one_mul]
    _ ≤ Nat.pow 10 k := Nat.pow_le_pow_right (by decide) h

theorem lt_of_readNat {digits : Text} {n : Nat} (h : readNat digits = .ok n) : n < Nat.pow 10 limit := by
  unfold readNat at h
  split at h
  · rename_i hlength
    cases h
    exact value_lt hlength
  · contradiction

theorem natAbs_lt_of_readInt {token : Text} {n : Int} (h : readInt token = .ok n) :
    n.natAbs < Nat.pow 10 limit := by
  unfold readInt at h
  split at h
  · obtain ⟨m, hm, rfl⟩ := map_eq_ok.1 h
    obtain ⟨k, hk, he⟩ := bind_eq_ok.1 hm
    cases he
    rw [Int.natAbs_neg, Int.natAbs_natCast]
    exact lt_of_readNat hk
  · obtain ⟨m, hm, rfl⟩ := map_eq_ok.1 h
    obtain ⟨k, hk, he⟩ := bind_eq_ok.1 hm
    cases he
    rw [Int.natAbs_natCast]
    exact lt_of_readNat hk

end Numeral

/-! ## Values -/

/-- No whole number in a value is too long to be written. -/
def Value.IsShort (v : Value) : Prop := v.hasLongNumber = false

namespace Value

variable {items : List Value} {entries : Mapping Value}

/-- A whole number can be written if it has no more digits than are read. -/
@[simp] theorem isShort_int {n : Int} : (int n).IsShort ↔ (Numeral.ofNat n.natAbs).length ≤ Numeral.limit := by
  rw [IsShort, hasLongNumber, Numeral.isTooLong, decide_eq_false_iff_not, Nat.not_le,
    Numeral.length_ofNat_le_iff (by decide)]

theorem isShort_of_readInt {token : Text} {n : Int} (h : Numeral.readInt token = .ok n) : (int n).IsShort :=
  isShort_int.2 ((Numeral.length_ofNat_le_iff (by decide)).2 (Numeral.natAbs_lt_of_readInt h))

@[simp] theorem isShort_text (t : Text) : (text t).IsShort := by simp [IsShort, hasLongNumber]

@[simp] theorem isShort_list : (list items).IsShort ↔ ∀ v ∈ items, v.IsShort := by
  rw [IsShort, hasLongNumber]
  induction items with
  | nil => simp [itemsHaveLongNumber]
  | cons v rest ih => rw [itemsHaveLongNumber, Bool.or_eq_false_iff, ih, List.forall_mem_cons, IsShort]

@[simp] theorem isShort_map : (map entries).IsShort ↔ ∀ e ∈ entries, e.2.IsShort := by
  rw [IsShort, hasLongNumber]
  induction entries with
  | nil => simp [entriesHaveLongNumber]
  | cons e rest ih => rw [entriesHaveLongNumber, Bool.or_eq_false_iff, ih, List.forall_mem_cons, IsShort]

end Value

/-- The values of a mapping are short. -/
def Mapping.IsShort (m : Mapping Value) : Prop := ∀ e ∈ m, e.2.IsShort

theorem Mapping.isShort_ofList {entries : List (Text × Value)} (h : ∀ e ∈ entries, e.2.IsShort) :
    (ofList entries).IsShort := fun e he => h e (Mapping.mem_of_mem_ofList he)

/-- Entries whose values come from steps are short if the steps give short values. -/
theorem short_entries {ε : Type} (read : Text → Except ε Value) (hread : ∀ token v, read token = .ok v → v.IsShort)
    {tokens : List (Text × Text)} {entries : List (Text × Value)}
    (h : (tokens.mapM fun (key, token) => do return (key, ← read token)) = .ok entries) :
    ∀ e ∈ entries, e.2.IsShort := by
  intro e he
  obtain ⟨⟨key, token⟩, -, hstep⟩ := exists_of_mem_right (forall₂_of_mapM h) he
  obtain ⟨v, hv, rfl⟩ := map_eq_ok.1 hstep
  exact hread token v hv

/-! ## Scalars -/

variable {token : Text} {v : Value}

theorem short_coerce (h : coerce token = .ok v) : v.IsShort := by
  unfold coerce Literal.ofTrimmed at h
  split_ifs at h
  · obtain ⟨n, hn, rfl⟩ := map_eq_ok.1 h
    exact Value.isShort_of_readInt hn
  all_goals
    cases h
    rfl

theorem short_coerceParameter (h : coerceParameter token = .ok v) : v.IsShort := by
  unfold coerceParameter at h
  split_ifs at h
  · cases h
    rfl
  · exact short_coerce h

/-- **What a list of parameters holds is short.** -/
theorem short_parameters {text : Text} {parameters : Mapping Value} (h : Parameters.read text = .ok parameters) :
    parameters.IsShort := by
  obtain ⟨entries, hentries, h⟩ := bind_eq_ok.1 h
  cases h
  exact Mapping.isShort_ofList (short_entries coerceParameter (fun _ _ => short_coerceParameter) hentries)

namespace Source

/-! ## Elements -/

theorem short_record {arguments : List Text} (h : record arguments = .ok v) : v.IsShort := by
  obtain ⟨entries, hentries, h⟩ := bind_eq_ok.1 h
  cases h
  exact Value.isShort_map.2 (Mapping.isShort_ofList (short_entries coerce (fun _ _ => short_coerce) hentries))

/-- An element is short, by induction on the nesting of its list. -/
theorem short_readElement (h : readElement token = .ok v) : v.IsShort := by
  fun_induction elementScalars token generalizing v with
  | case1 token arguments hc pieces =>
      rename_i hlength
      rw [readElement, hc] at h
      simp only [pieces] at hlength
      simp only [hlength, if_true] at h
      exact short_record h
  | case2 token arguments hc pieces =>
      rename_i hlength
      rw [readElement, hc] at h
      simp only [pieces] at hlength
      simp only [hlength, if_false] at h
      cases h
      exact Value.isShort_text _
  | case3 token hc inner hb ih =>
      rw [readElement_list hc hb] at h
      obtain ⟨elements, helements, rfl⟩ := map_eq_ok.1 h
      refine Value.isShort_list.2 fun element helement => ?_
      obtain ⟨item, hitem, hread⟩ := exists_of_mem_right (forall₂_of_mapM helements) helement
      exact ih item hitem hread
  | case4 token hc hb =>
      rw [readElement_scalar hc hb] at h
      exact short_coerce h

/-- The numbers of a range lie between its bounds. -/
theorem short_values {range : Range} {values : List Value} (h : range.values = .ok values) :
    ∀ v ∈ values, v.IsShort := by
  unfold Range.values at h
  obtain ⟨low, hlow, h⟩ := bind_eq_ok.1 h
  obtain ⟨high, hhigh, h⟩ := bind_eq_ok.1 h
  dsimp only at h
  split at h
  · contradiction
  · cases h
    intro v hv
    obtain ⟨k, hk, rfl⟩ := List.mem_map.1 hv
    have hsize : k < Range.size range.isOpen low high := List.mem_range.1 hk
    have hbetween : low ≤ low + k ∧ low + k ≤ high := by
      unfold Range.size at hsize
      split at hsize <;> omega
    have hlow' := Numeral.natAbs_lt_of_readInt (mapError_eq_ok.1 hlow)
    have hhigh' := Numeral.natAbs_lt_of_readInt (mapError_eq_ok.1 hhigh)
    rw [Value.isShort_int, Numeral.length_ofNat_le_iff (by decide)]
    generalize Nat.pow 10 Numeral.limit = bound at *
    omega

/-- The elements of the right-hand side of a pipe are short. -/
theorem short_elements {expression : Text} {elements : List Value}
    (h : elements? expression = some (.ok elements)) : ∀ v ∈ elements, v.IsShort := by
  unfold elements? at h
  split at h
  · exact short_values (Option.some.inj h)
  · obtain ⟨inner, -, h⟩ := Option.map_eq_some_iff.1 h
    intro v hv
    obtain ⟨item, -, hread⟩ := exists_of_mem_right (forall₂_of_mapM (mapError_eq_ok.1 h)) hv
    exact short_readElement hread

/-! ## Where-blocks -/

theorem short_assign {entries : List (Text × Value)} (h : ∀ e ∈ entries, e.2.IsShort) : (assign entries).IsShort :=
  Mapping.isShort_ofList fun e he => h e (List.mem_of_mem_filter he)

/-- What an element gives its variables is short if the element is. -/
theorem short_bind (targets : Targets) (h : v.IsShort) : (targets.bind v).IsShort := by
  have hzip {names : List Text} {values : List Value} (hvalues : ∀ v ∈ values, v.IsShort) :
      (assign (names.zip values)).IsShort :=
    short_assign fun e he => hvalues e.2 (List.of_mem_zip he).2
  unfold Targets.bind
  split
  · exact fun e he => (List.mem_singleton.1 he) ▸ h
  · exact hzip (Value.isShort_list.1 h)
  · exact hzip fun w hw => (List.mem_singleton.1 hw) ▸ h

theorem short_rowValues {header cells : List Text} {values : Mapping Value} (h : rowValues header cells = .ok values) :
    values.IsShort := by
  obtain ⟨entries, hentries, h⟩ := bind_eq_ok.1 h
  cases h
  exact Mapping.isShort_ofList (short_entries coerce (fun _ _ => short_coerce) hentries)

/-- The data sets of a contribution are short. -/
def Contribution.IsShort (c : Contribution) : Prop := ∀ x ∈ c.data?, x.2.IsShort

theorem Contribution.isShort_data {line : NumberedLine} {values : List (Mapping Value)}
    (h : ∀ m ∈ values, m.IsShort) : (data line values).IsShort := by
  intro x hx
  obtain ⟨m, hm, rfl⟩ := List.mem_map.1 hx
  exact h m hm

/-- Every statement of a where-block brings short values. -/
theorem short_contributionsFrom {header : Option (List Text)} {statements : List Statement} {cs : List Contribution}
    (h : contributionsFrom header statements = .ok cs) : ∀ c ∈ cs, c.IsShort := by
  fun_induction blockData header statements generalizing cs with
  | case1 header =>
      rw [contributionsFrom.eq_def] at h
      cases h
      simp
  | case2 header line targets expression rest ih =>
      rw [contributionsFrom] at h
      split at h
      · obtain ⟨cs, hcs, h⟩ := bind_eq_ok.1 h
        cases h
        exact List.forall_mem_cons.2 ⟨by simp [Contribution.IsShort, Contribution.data?], ih hcs⟩
      · rename_i elements helements
        obtain ⟨values, rfl, hrest⟩ := bind_eq_ok.1 h
        obtain ⟨cs, hcs, hrest⟩ := bind_eq_ok.1 hrest
        cases hrest
        refine List.forall_mem_cons.2 ⟨Contribution.isShort_data fun m hm => ?_, ih hcs⟩
        obtain ⟨v, hv, rfl⟩ := List.mem_map.1 hm
        exact short_bind targets (short_elements helements v hv)
  | case3 line cells rest ih =>
      rw [contributionsFrom] at h
      obtain ⟨cs, hcs, h⟩ := bind_eq_ok.1 h
      cases h
      exact List.forall_mem_cons.2 ⟨by simp [Contribution.IsShort, Contribution.data?], ih hcs⟩
  | case4 columns line cells rest ih =>
      rw [contributionsFrom] at h
      obtain ⟨values, hvalues, h⟩ := bind_eq_ok.1 h
      obtain ⟨cs, hcs, h⟩ := bind_eq_ok.1 h
      cases h
      refine List.forall_mem_cons.2 ⟨Contribution.isShort_data fun m hm => ?_, ih hcs⟩
      split at hm
      · contradiction
      · exact (List.mem_singleton.1 hm) ▸ short_rowValues (mapError_eq_ok.1 hvalues)

/-! ## Files -/

/-- **What a file holds as data is short**: all numbers in its iterations can be written, in a display name, in a
document and in a log. -/
theorem short_readSpecifications {withData : Bool} {content : Text} {specs : List Specification} {log : List Event}
    (h : readSpecifications withData content = .ok (specs, log)) :
    ∀ s ∈ specs, ∀ f ∈ s.features, ∀ d ∈ f.data, ∀ iteration ∈ d.iterations, iteration.values.IsShort := by
  intro s hs f hf d hd iteration hiteration
  obtain ⟨fs, hfs, rfl, -⟩ := readSpecifications_eq_ok.1 h
  obtain ⟨cs, hfound⟩ := ((mem_assemble fs).2 s hs).2 f hf
  obtain ⟨located, -, hfinding⟩ := exists_of_mem_right (forall₂_of_findings hfs) hfound
  obtain ⟨heading, -, hjudged⟩ := judgement_of_finding_feature hfinding
  cases hjudged with
  | plain => contradiction
  | withData _ _ hcs =>
      cases hd
      obtain ⟨k, hk⟩ := List.getElem?_of_mem hiteration
      obtain ⟨-, -, -, line, hmem, -⟩ := getElem?_number hk
      obtain ⟨c, hc, hset⟩ := List.mem_flatMap.1 hmem
      exact short_contributionsFrom hcs c hc _ hset

end Source

end SpecAtlas
