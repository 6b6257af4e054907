import SpecAtlas.Source.Iteration
import SpecAtlas.Proofs.Except

/-!
# Where iterations come from

Every statement of a where-block begins on one line of the body, and every iteration comes from one
statement. The order of the lines is kept all the way: `statementsFrom_sublist` from lines to
statements, `forall₂_contributionsFrom` from statements to what they bring, and
`pairwise_number` from there to the iterations.
-/

namespace SpecAtlas.Source

open Text

/-! ## Statements -/

/-- The line that a statement begins on. -/
def Statement.line : Statement → NumberedLine
  | pipe line _ _ => line
  | row line _ => line

theorem OpenPipe.line_of_readLine {line : NumberedLine} {p : OpenPipe} (h : readLine line = .pipe p) :
    p.line = line := by
  unfold readLine at h
  dsimp only at h
  split at h
  · contradiction
  · split at h
    · cases h
      rfl
    · split at h <;> contradiction

/-- The statements begin on lines of the block, no two on one line, and they keep the order of the
lines. A pipe that is open from before counts with its own first line. -/
theorem statementsFrom_sublist (p : Option OpenPipe) (body : List NumberedLine) :
    ((statementsFrom p body).map Statement.line).Sublist ((p.map OpenPipe.line).toList ++ body) := by
  fun_induction statementsFrom p body with
  | case1 => exact List.Sublist.slnil
  | case2 p => exact List.Sublist.refl _
  | case3 p line rest p' hopen ih =>
      have hkeep : ([p.line] ++ rest).Sublist ([p.line] ++ line :: rest) :=
        (List.sublist_cons_self line rest).cons_cons p.line
      exact ih.trans hkeep
  | case4 p line rest p' hopen ih =>
      exact (ih.trans (List.sublist_cons_self line rest)).cons_cons p.line
  | case5 line rest hread ih => exact ih.trans (List.sublist_cons_self line rest)
  | case6 line rest cells hread ih => exact ih.cons_cons line
  | case7 line rest p hread hopen ih =>
      rwa [Option.map_some, OpenPipe.line_of_readLine hread] at ih
  | case8 line rest p hread hopen ih =>
      rw [List.map_cons]
      show (p.line :: _).Sublist (line :: rest)
      rw [OpenPipe.line_of_readLine hread]
      exact ih.cons_cons line

/-! ## Contributions -/

/-- The number of the line that a contribution comes from. -/
def Contribution.number : Contribution → Nat
  | header line _ => line
  | unreadable line _ => line
  | data line _ => line.number

/-- A contribution comes from a line, and so do all its data. -/
structure Contribution.ComesFrom (c : Contribution) (line : NumberedLine) : Prop where
  number : c.number = line.number
  data : ∀ x ∈ c.data?, x.1 = line

theorem Contribution.comesFrom_data (line : NumberedLine) (values : List (Mapping Value)) :
    (data line values).ComesFrom line where
  number := rfl
  data x hx := by
    obtain ⟨set, -, he⟩ := List.mem_map.1 hx
    rw [← he]

/-- Every statement brings one contribution, from the line that it begins on. -/
theorem forall₂_contributionsFrom {header : Option (List Text)} {statements : List Statement}
    {cs : List Contribution} (h : contributionsFrom header statements = .ok cs) :
    List.Forall₂ (fun s c => Contribution.ComesFrom c s.line) statements cs := by
  induction statements generalizing header cs with
  | nil =>
      cases h
      exact .nil
  | cons s rest ih =>
      cases s with
      | pipe line targets expression =>
          rw [contributionsFrom] at h
          cases he : elements? expression with
          | none =>
              rw [he] at h
              obtain ⟨own, hown, h⟩ := bind_eq_ok.1 h
              cases h
              exact .cons ⟨rfl, by simp [Contribution.data?]⟩ (ih hown)
          | some elements =>
              rw [he] at h
              obtain ⟨items, hitems, h⟩ := bind_eq_ok.1 h
              obtain ⟨own, hown, h⟩ := bind_eq_ok.1 h
              cases h
              exact .cons (Contribution.comesFrom_data line _) (ih hown)
      | row line cells =>
          cases header with
          | none =>
              rw [contributionsFrom] at h
              obtain ⟨own, hown, h⟩ := bind_eq_ok.1 h
              cases h
              exact .cons ⟨rfl, by simp [Contribution.data?]⟩ (ih hown)
          | some columns =>
              rw [contributionsFrom] at h
              obtain ⟨values, -, h⟩ := bind_eq_ok.1 h
              obtain ⟨own, hown, h⟩ := bind_eq_ok.1 h
              cases h
              exact .cons (Contribution.comesFrom_data line _) (ih hown)

/-- What the statements of a where-block bring comes from lines of its body, in order. -/
theorem numbers_of_contributions {lines : List Text} {block : BlockSpan} {cs : List Contribution}
    (h : contributions lines block = .ok cs) :
    (cs.map Contribution.number).Sublist ((block.body lines).map NumberedLine.number) := by
  have hnumbers : cs.map Contribution.number =
      (statements (block.body lines)).map fun s => s.line.number :=
    map_eq_of_forall₂ ((forall₂_contributionsFrom h).imp fun _ _ hc => hc.number)
  have hlines := (statementsFrom_sublist none (block.body lines)).map NumberedLine.number
  rw [List.map_map] at hlines
  exact hnumbers ▸ hlines

/-- The data of statements come from the lines that the statements begin on. -/
theorem mem_lines_of_mem_data? {header : Option (List Text)} {statements : List Statement} {cs : List Contribution}
    (h : contributionsFrom header statements = .ok cs) {line : NumberedLine} {values : Mapping Value}
    (hmem : (line, values) ∈ cs.flatMap Contribution.data?) : line ∈ statements.map Statement.line := by
  obtain ⟨c, hc, hdata⟩ := List.mem_flatMap.1 hmem
  obtain ⟨s, hs, hfrom⟩ := exists_of_mem_right (forall₂_contributionsFrom h) hc
  obtain rfl : line = s.line := hfrom.data _ hdata
  exact List.mem_map_of_mem hs

/-- The data of a where-block come from lines of its body. -/
theorem mem_body_of_mem_data? {lines : List Text} {block : BlockSpan} {cs : List Contribution}
    (h : contributions lines block = .ok cs) {line : NumberedLine} {values : Mapping Value}
    (hmem : (line, values) ∈ cs.flatMap Contribution.data?) : line ∈ block.body lines :=
  (statementsFrom_sublist none (block.body lines)).subset (mem_lines_of_mem_data? h hmem)

/-! ## Iterations -/

theorem number_of_mem_data? {c : Contribution} {line : NumberedLine} {values : Mapping Value}
    (h : (line, values) ∈ c.data?) : line.number = c.number := by
  cases c with
  | header | unreadable => simp [Contribution.data?] at h
  | data own sets =>
      obtain ⟨set, -, he⟩ := List.mem_map.1 h
      cases he
      rfl

/-- The iterations bear their place in the list as their index, and the name of the feature; each
stands on the line of a contribution. -/
theorem getElem?_number {method : Text} {cs : List Contribution} {k : Nat} {iteration : Iteration}
    (h : (number method cs)[k]? = some iteration) :
    iteration.index = k ∧ iteration.method = method ∧
      iteration.displayName = displayName method iteration.values ∧
      ∃ line, (line, iteration.values) ∈ cs.flatMap Contribution.data? ∧
        iteration.range = .ofLine line.number line.text := by
  rw [number, List.getElem?_mapIdx, Option.map_eq_some_iff] at h
  obtain ⟨⟨line, values⟩, hget, rfl⟩ := h
  exact ⟨rfl, rfl, rfl, line, List.mem_of_getElem? hget, rfl⟩

/-- If the contributions come in the order of their lines, so do the iterations. -/
theorem pairwise_number (method : Text) {cs : List Contribution}
    (h : (cs.map Contribution.number).Pairwise (· < ·)) :
    (number method cs).Pairwise fun a b => a.range.startLine ≤ b.range.startLine := by
  have hrows : (cs.flatMap Contribution.data?).Pairwise fun a b => a.1.number ≤ b.1.number := by
    rw [List.pairwise_flatMap]
    refine ⟨fun c _ => ?_, (List.pairwise_map.1 h).imp fun {a b} hlt x hx y hy => ?_⟩
    · refine List.pairwise_of_forall_mem_list fun a ha b hb => ?_
      exact Nat.le_of_eq ((number_of_mem_data? ha).trans (number_of_mem_data? hb).symm)
    · rw [number_of_mem_data? hx, number_of_mem_data? hy]
      exact Nat.le_of_lt hlt
  rw [List.pairwise_iff_getElem] at hrows ⊢
  intro i j hi hj hij
  simp only [number, List.length_mapIdx] at hi hj
  simpa [number, SourceRange.ofLine] using hrows i j hi hj hij

end SpecAtlas.Source
