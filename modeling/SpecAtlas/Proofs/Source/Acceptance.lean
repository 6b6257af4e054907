import SpecAtlas.Source.Acceptance

/-!
# Which methods are turned down

What the two looks ahead depend on: the trimmed lines below a heading (`rejection?_map`), up to the
first closing line (`labelFirst_of_closing`). A quoted method that opens its body is accepted whatever
follows, and a hook never is.
-/

namespace SpecAtlas.Source

open Text

/-! ## The lines that are looked at -/

theorem labelFirst_map {f : Text → Text} (hf : ∀ line, trim (f line) = trim line) (lines : List Text) :
    labelFirst (lines.map f) = labelFirst lines := by
  induction lines with
  | nil => rfl
  | cons line rest ih => rw [List.map_cons, labelFirst, labelFirst, hf, ih]

theorem braceFirst_map {f : Text → Text} (hf : ∀ line, trim (f line) = trim line) (lines : List Text) :
    braceFirst (lines.map f) = braceFirst lines := by
  induction lines with
  | nil => rfl
  | cons line rest ih =>
      rw [List.map_cons, braceFirst, braceFirst]
      simp only [hf, ih]

/-- White space around the lines has no influence. -/
theorem rejection?_map (heading : MethodHeading) {f : Text → Text} (hf : ∀ line, trim (f line) = trim line)
    (below : List Text) : rejection? heading (below.map f) = rejection? heading below := by
  unfold rejection? labelWithin braceWithin
  rw [← List.map_take, ← List.map_take, labelFirst_map hf, braceFirst_map hf]

/-- The look for a label does not go beyond a closing line. -/
theorem labelFirst_of_closing {body : List Text} (hbody : ∀ line ∈ body, isBlockLabel (trim line) = false)
    {closing : Text} (hclosing : isClosing (trim closing) = true) (rest : List Text) (reach : Nat) :
    labelFirst ((body ++ closing :: rest).take reach) = false := by
  induction body generalizing reach with
  | nil =>
      cases reach with
      | zero => rfl
      | succ reach =>
          have hlabel : isBlockLabel (trim closing) = false := by
            rw [eq_of_beq hclosing]
            decide
          rw [List.nil_append, List.take_succ_cons, labelFirst, hlabel, hclosing]
          simp
  | cons line body ih =>
      cases reach with
      | zero => rfl
      | succ reach =>
          have hlater := ih (fun l hl => hbody l (List.mem_cons_of_mem _ hl)) reach
          rw [List.cons_append, List.take_succ_cons, labelFirst, hbody line List.mem_cons_self, hlater]
          simp

/-! ## What is accepted -/

/-- A feature has a name that is no hook of the test framework. -/
theorem not_mem_hooks_of_rejection?_eq_none {heading : MethodHeading} {below : List Text}
    (h : rejection? heading below = none) : heading.name ∉ lifecycleHooks := by
  intro hm
  rw [rejection?, if_pos (by simpa using hm)] at h
  contradiction

/-- A hook is turned down, whatever follows. -/
theorem rejection?_hook {heading : MethodHeading} (h : heading.name ∈ lifecycleHooks) (below : List Text) :
    rejection? heading below = some .lifecycle := by
  rw [rejection?, if_pos (by simpa using h)]

/-- A quoted method that opens its body is accepted, whatever follows. -/
theorem rejection?_quoted {heading : MethodHeading} (hname : heading.name ∉ lifecycleHooks)
    (hquoted : heading.isQuoted = true) (hopens : heading.opens = true) (below : List Text) :
    rejection? heading below = none := by
  have hcontains : lifecycleHooks.contains heading.name = false := by simpa using hname
  simp only [rejection?, hcontains, hquoted, hopens, Bool.not_true, Bool.false_and, Bool.false_eq_true,
    if_false]

/-- A method without quotes is turned down if its body has no label. -/
theorem rejection?_of_closing {heading : MethodHeading} (hquoted : heading.isQuoted = false) {body : List Text}
    (hbody : ∀ line ∈ body, isBlockLabel (trim line) = false) {closing : Text}
    (hclosing : isClosing (trim closing) = true) (rest : List Text) :
    ∃ reason, rejection? heading (body ++ closing :: rest) = some reason := by
  have hlabel : labelWithin labelReach (body ++ closing :: rest) = false :=
    labelFirst_of_closing hbody hclosing rest _
  by_cases hhook : heading.name ∈ lifecycleHooks
  · exact ⟨.lifecycle, rejection?_hook hhook _⟩
  · refine ⟨.noBlockLabel, ?_⟩
    have hcontains : lifecycleHooks.contains heading.name = false := by simpa using hhook
    simp only [rejection?, hcontains, hquoted, hlabel, Bool.not_false, Bool.and_self, Bool.false_eq_true,
      if_false, if_true]

end SpecAtlas.Source
