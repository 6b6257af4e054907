import SpecAtlas.Source.Position
import SpecAtlas.Proofs.Text.Basic

/-!
# Running over lines

`Position.run` is the scan of several lines. What one line does to the position is said once, by
`advance_of_class`, `advance_outside` and `advance_inside`; every statement about a run rests on these
three.

* A scan of two blocks of lines is the scan of the second from where the first ends
  (`run_append`, `headingsFrom_append`).
* A heading is reported where the position in front of its line admits it (`mem_headingsFrom`), and
  the reports ascend (`pairwise_headingsFrom`).
* White space around a line has no influence on the scan (`advance_congr`).
-/

namespace SpecAtlas.Source

open Text

/-- Whether a line declares a specification class. -/
def declaresClass (line : Text) : Bool := (ClassHeading.read? (trim line)).isSome

theorem declaresClass_eq_false {line : Text} :
    declaresClass line = false ↔ ClassHeading.read? (trim line) = none := by
  rw [declaresClass, Option.isSome_eq_false_iff, Option.isNone_iff_eq_none]

/-! ## Braces of a line -/

/-- A line without an opening brace does not raise the balance. -/
theorem braceDelta_nonpos {line : Text} (h : line.elem '{' = false) : braceDelta line ≤ 0 := by
  have hmem : '{' ∉ line := by simpa using h
  have hcount : line.count '{' = 0 := List.count_eq_zero.2 hmem
  unfold braceDelta
  omega

/-- A line that raises the balance has an opening brace. -/
theorem elem_brace_of_pos {line : Text} (h : 0 < braceDelta line) : line.elem '{' = true := by
  cases he : line.elem '{' with
  | true => rfl
  | false =>
      have hle := braceDelta_nonpos he
      omega

/-- Lines that differ only in the white space around them have the same braces. -/
theorem braceDelta_congr {line other : Text} (h : trim line = trim other) :
    braceDelta line = braceDelta other := by
  have hcount {c : Char} (hc : isBlank c = false) : line.count c = other.count c := by
    rw [← count_trim hc line, h, count_trim hc other]
  rw [braceDelta, braceDelta, hcount (c := '{') (by decide), hcount (c := '}') (by decide)]

theorem elem_brace_congr {line other : Text} (h : trim line = trim other) :
    line.elem '{' = other.elem '{' := by
  have hb : isBlank '{' = false := by decide
  rw [← elem_trim hb line, h, elem_trim hb other]

namespace Position

/-! ## One line -/

/-- A specification heading begins a class, wherever it stands. -/
theorem advance_of_class (p : Position) {line : Text} {h : ClassHeading}
    (hc : ClassHeading.read? (trim line) = some h) :
    p.advance line = (afterClass line, some (.specification h)) := by
  rw [advance, hc]

/-- Outside of classes nothing else matters. -/
theorem advance_outside {p : Position} {line : Text} (hc : declaresClass line = false)
    (hp : p.inClass = false) : p.advance line = (p, none) := by
  rw [advance, declaresClass_eq_false.1 hc]
  simp only [hp, Bool.false_eq_true, if_false]

/-- Inside a class a line moves the position on, and may be the heading of a method unless it stands
in a nested region or begins one. -/
theorem advance_inside {p : Position} {line : Text} (hc : declaresClass line = false)
    (hp : p.inClass = true) :
    p.advance line = (p.withinClass line,
      (if (p.nestedAt line).1.isNone then MethodHeading.read? (trim line) else none).map .method) := by
  rw [advance, declaresClass_eq_false.1 hc]
  simp only [hp, if_true]

/-- A line reports a class exactly if it is a specification heading. -/
theorem snd_advance_eq_specification {p : Position} {line : Text} {h : ClassHeading} :
    (p.advance line).2 = some (.specification h) ↔ ClassHeading.read? (trim line) = some h := by
  cases hc : ClassHeading.read? (trim line) with
  | some g => simp [advance_of_class p hc]
  | none =>
      have hd := declaresClass_eq_false.2 hc
      cases hp : p.inClass with
      | false => simp [advance_outside hd hp]
      | true => simp [advance_inside hd hp]

/-- A line reports a method exactly if it is a method heading in a class body, outside of nested
regions. -/
theorem snd_advance_eq_method {p : Position} {line : Text} {h : MethodHeading} :
    (p.advance line).2 = some (.method h) ↔
      declaresClass line = false ∧ p.inClass = true ∧ (p.nestedAt line).1 = none ∧
        MethodHeading.read? (trim line) = some h := by
  cases hd : declaresClass line with
  | true =>
      obtain ⟨g, hg⟩ := Option.isSome_iff_exists.1 hd
      simp [advance_of_class p hg]
  | false =>
      cases hp : p.inClass with
      | false => simp [advance_outside hd hp]
      | true =>
          rw [advance_inside hd hp]
          cases hn : (p.nestedAt line).1 <;> simp

/-- Where no nested region begins or stands, the position in front of the line is in none. -/
theorem inNested_of_nestedAt {p : Position} {line : Text} (h : (p.nestedAt line).1 = none) :
    p.inNested = false := by
  unfold nestedAt at h
  unfold inNested
  cases hf : p.nestedFloor with
  | none => rfl
  | some f => simp [hf] at h

theorem nestedAt_congr (p : Position) {line other : Text} (h : trim line = trim other) :
    p.nestedAt line = p.nestedAt other := by
  rw [nestedAt, nestedAt, h]

theorem withinClass_congr (p : Position) {line other : Text} (h : trim line = trim other) :
    p.withinClass line = p.withinClass other := by
  unfold withinClass nestedAfter
  rw [nestedAt_congr p h, braceDelta_congr h, elem_brace_congr h]

/-- White space around a line has no influence on the scan. -/
theorem advance_congr (p : Position) {line other : Text} (h : trim line = trim other) :
    p.advance line = p.advance other := by
  unfold advance afterClass
  rw [nestedAt_congr p h, withinClass_congr p h, braceDelta_congr h, elem_brace_congr h, h]

/-! ## Several lines -/

/-- The position behind lines. -/
def run (p : Position) (lines : List Text) : Position := lines.foldl (fun p line => (p.advance line).1) p

@[simp] theorem run_nil (p : Position) : p.run [] = p := rfl

@[simp] theorem run_cons (p : Position) (line : Text) (rest : List Text) :
    p.run (line :: rest) = (p.advance line).1.run rest := rfl

theorem run_append (p : Position) (first rest : List Text) : p.run (first ++ rest) = (p.run first).run rest :=
  List.foldl_append

/-- The position behind one more line. -/
theorem run_take_succ (p : Position) {lines : List Text} {k : Nat} {line : Text} (h : lines[k]? = some line) :
    p.run (lines.take (k + 1)) = ((p.run (lines.take k)).advance line).1 := by
  rw [List.take_add_one, h, Option.toList_some, run_append, run_cons, run_nil]

/-- Without a specification heading the scan does not come into a class. -/
theorem run_outside {lines : List Text} (h : ∀ line ∈ lines, declaresClass line = false) {p : Position}
    (hp : p.inClass = false) : p.run lines = p := by
  induction lines with
  | nil => rfl
  | cons line rest ih =>
      rw [run_cons, advance_outside (h line List.mem_cons_self) hp]
      exact ih fun l hl => h l (List.mem_cons_of_mem line hl)

end Position

/-! ## The headings of several lines -/

open Position

theorem headingsFrom_cons (p : Position) (index : Nat) (line : Text) (rest : List Text) :
    headingsFrom p index (line :: rest) =
      ((p.advance line).2.map (⟨index, ·⟩)).toList ++ headingsFrom (p.advance line).1 (index + 1) rest := by
  rw [headingsFrom]
  cases h : (p.advance line).2 with
  | none => simp [h]
  | some heading => simp [h]

theorem headingsFrom_append (p : Position) (index : Nat) (first rest : List Text) :
    headingsFrom p index (first ++ rest) =
      headingsFrom p index first ++ headingsFrom (p.run first) (index + first.length) rest := by
  induction first generalizing p index with
  | nil => rfl
  | cons line first ih =>
      rw [List.cons_append, headingsFrom_cons, ih, headingsFrom_cons, run_cons, List.length_cons,
        List.append_assoc, Nat.add_assoc, Nat.add_comm 1]

/-- A heading is reported with the number of its line, from the position in front of that line. -/
theorem mem_headingsFrom {p : Position} {index : Nat} {lines : List Text} {located : Located} :
    located ∈ headingsFrom p index lines ↔
      ∃ k line, lines[k]? = some line ∧ located.line = index + k ∧
        ((p.run (lines.take k)).advance line).2 = some located.heading := by
  induction lines generalizing p index with
  | nil => simp [headingsFrom]
  | cons line rest ih =>
      rw [headingsFrom_cons, List.mem_append, ih]
      constructor
      · rintro (hhere | ⟨k, l, hl, hline, hh⟩)
        · obtain ⟨h, hh, he⟩ := Option.map_eq_some_iff.1 (Option.mem_toList.1 hhere)
          subst he
          exact ⟨0, line, rfl, rfl, hh⟩
        · exact ⟨k + 1, l, hl, by omega, hh⟩
      · rintro ⟨k, l, hl, hline, hh⟩
        cases k with
        | zero =>
            left
            obtain rfl : line = l := Option.some.inj hl
            rw [Option.mem_toList, Option.map_eq_some_iff]
            exact ⟨located.heading, hh, by rw [← Nat.add_zero index, ← hline]⟩
        | succ k => exact .inr ⟨k, l, hl, by omega, hh⟩

/-- The headings of a file stand on lines of the file. -/
theorem mem_headings {lines : List Text} {located : Located} :
    located ∈ headings lines ↔
      ∃ line, lines[located.line]? = some line ∧
        ((({} : Position).run (lines.take located.line)).advance line).2 = some located.heading := by
  rw [headings, mem_headingsFrom]
  constructor
  · rintro ⟨k, line, hl, hk, hh⟩
    obtain rfl : located.line = k := by omega
    exact ⟨line, hl, hh⟩
  · rintro ⟨line, hl, hh⟩
    exact ⟨located.line, line, hl, by omega, hh⟩

/-- Every line reports at most one heading, and the lines come in order. -/
theorem pairwise_headingsFrom (p : Position) (index : Nat) (lines : List Text) :
    (headingsFrom p index lines).Pairwise fun a b => a.line < b.line := by
  induction lines generalizing p index with
  | nil => exact List.Pairwise.nil
  | cons line rest ih =>
      rw [headingsFrom_cons, List.pairwise_append]
      refine ⟨?_, ih _ _, ?_⟩
      · cases (p.advance line).2 <;> simp
      · intro a ha b hb
        obtain ⟨h, -, rfl⟩ := Option.map_eq_some_iff.1 (Option.mem_toList.1 ha)
        obtain ⟨k, l, -, hk, -⟩ := mem_headingsFrom.1 hb
        show index < b.line
        omega

/-- Outside of classes nothing but a specification heading is reported. -/
theorem headingsFrom_outside {lines : List Text} (h : ∀ line ∈ lines, declaresClass line = false) {p : Position}
    (hp : p.inClass = false) (index : Nat) : headingsFrom p index lines = [] := by
  induction lines generalizing index with
  | nil => rfl
  | cons line rest ih =>
      rw [headingsFrom_cons, advance_outside (h line List.mem_cons_self) hp,
        ih fun l hl => h l (List.mem_cons_of_mem line hl)]
      rfl

/-- Lines that differ only in the white space around them report the same headings. -/
theorem headingsFrom_map_congr (p : Position) (index : Nat) {f : Text → Text}
    (hf : ∀ line, trim (f line) = trim line) (lines : List Text) :
    headingsFrom p index (lines.map f) = headingsFrom p index lines := by
  induction lines generalizing p index with
  | nil => rfl
  | cons line rest ih =>
      rw [List.map_cons, headingsFrom_cons, headingsFrom_cons, advance_congr p (hf line), ih]

end SpecAtlas.Source
