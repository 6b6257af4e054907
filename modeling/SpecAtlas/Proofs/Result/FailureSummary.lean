import SpecAtlas.Proofs.Except
import SpecAtlas.Proofs.Text.Basic
import SpecAtlas.Proofs.Text.Mark
import SpecAtlas.Result.Failure

/-!
# Summaries of output that goes on

Of the diagnostic lines the last one is taken, of the other lines that mention a failure the first one, and only
if no line is diagnostic. The reader has no flag for this: it looks whether its message is still the standing
phrase. That is as good as a flag, since no diagnostic line is this phrase (`trim_ne_unknownFailure`), and so the
message is the one that the rule asks for, in whatever order the lines come (`failureMessage_eq`).

So the summary of an output that goes on is known from the summaries of its two parts (`summarize_append`): the later
part decides, unless it has no diagnostic line and the earlier part has something to say.
-/

namespace SpecAtlas.Result

open Text

/-! ## The message -/

/-- A character that all marks have is in every line that mentions one of them. -/
theorem mem_of_mentions {marks : List String} {line : Text} (h : mentions marks line = true) {c : Char}
    (hc : ∀ mark ∈ marks, c ∈ mark.toList) : c ∈ line := by
  obtain ⟨mark, hmem, hmark⟩ := List.any_eq_true.1 h
  exact (isInfix_of_hasMark hmark).subset (hc mark hmem)

/-- No diagnostic line is the standing phrase: each of its marks has a character that the phrase does not have. -/
theorem trim_ne_unknownFailure {line : Text} (h : isDiagnostic line = true) : trim line ≠ unknownFailure := by
  intro hphrase
  have hmem {c : Char} (hblank : isBlank c = false) (hc : c ∈ line) : c ∈ unknownFailure := by
    have helem := elem_trim hblank line
    rw [hphrase] at helem
    simpa [hc] using helem
  simp only [isDiagnostic, Bool.or_eq_true, Bool.and_eq_true] at h
  obtain (⟨hfailed, -⟩ | hcondition) | hexception := h
  · exact absurd (hmem (c := 'F') (by decide) (mem_of_mentions hfailed (by decide))) (by decide)
  · exact absurd (hmem (c := ':') (by decide) (mem_of_mentions hcondition (by decide))) (by decide)
  · exact absurd (hmem (c := '.') (by decide) (mem_of_mentions hexception (by decide))) (by decide)

/-- The last diagnostic line is left, and without any the message from before. -/
theorem foldl_laterMessage (lines : List Text) (message : Text) :
    lines.foldl laterMessage message = ((lines.filter isDiagnostic).getLast?.map trim).getD message := by
  induction lines generalizing message with
  | nil => rfl
  | cons line rest ih =>
      rw [List.foldl_cons, ih, laterMessage]
      cases hline : isDiagnostic line with
      | false => simp [hline]
      | true =>
          rw [List.filter_cons_of_pos hline, List.getLast?_cons]
          cases (rest.filter isDiagnostic).getLast? <;> rfl

/-- **The message**: the last diagnostic line, or else the first line that mentions a failure, or else the standing
phrase. -/
theorem failureMessage_eq (lines : List Text) :
    failureMessage lines =
      (((lines.filter isDiagnostic).getLast?.or (lines.find? isFallback)).map trim).getD unknownFailure := by
  unfold failureMessage
  rw [foldl_laterMessage]
  cases hlast : (lines.filter isDiagnostic).getLast? with
  | none => simp
  | some line =>
      have hline : isDiagnostic line = true := (List.mem_filter.1 (List.mem_of_getLast? hlast)).2
      simp [trim_ne_unknownFailure hline]

section

variable {front back : List Text}

theorem failureMessage_of_back (h : ∃ line ∈ back, isDiagnostic line = true) :
    failureMessage (front ++ back) = failureMessage back := by
  obtain ⟨line, hmem, hline⟩ := h
  have hsome : back.filter isDiagnostic ≠ [] := List.ne_nil_of_mem (List.mem_filter.2 ⟨hmem, hline⟩)
  have hlast := List.getLast?_eq_some_getLast hsome
  rw [failureMessage_eq, failureMessage_eq, List.filter_append, List.getLast?_append, hlast, Option.some_or,
    Option.some_or, Option.some_or]

theorem filter_eq_nil_of_forall (h : ∀ line ∈ back, isDiagnostic line = false) : back.filter isDiagnostic = [] :=
  List.filter_eq_nil_iff.2 fun line hline => by simp [h line hline]

theorem failureMessage_of_front (hback : ∀ line ∈ back, isDiagnostic line = false)
    (h : ∃ line ∈ front, isDiagnostic line = true ∨ isFallback line = true) :
    failureMessage (front ++ back) = failureMessage front := by
  rw [failureMessage_eq, failureMessage_eq, List.filter_append, filter_eq_nil_of_forall hback, List.append_nil,
    List.find?_append]
  cases hlast : (front.filter isDiagnostic).getLast? with
  | some last => rfl
  | none =>
      rw [Option.none_or, Option.none_or]
      obtain ⟨line, hmem, hdiagnostic | hfallback⟩ := h
      · have hnil := List.getLast?_eq_none_iff.1 hlast
        exact absurd (List.mem_filter.2 ⟨hmem, hdiagnostic⟩) (by rw [hnil]; exact List.not_mem_nil)
      · obtain ⟨found, hfound⟩ := Option.isSome_iff_exists.1 (List.find?_isSome.2 ⟨line, hmem, hfallback⟩)
        rw [hfound, Option.some_or]

theorem failureMessage_of_silent (h : ∀ line ∈ front, isDiagnostic line = false ∧ isFallback line = false) :
    failureMessage (front ++ back) = failureMessage back := by
  have hfront := filter_eq_nil_of_forall fun line hline => (h line hline).1
  have hfind : front.find? isFallback = none := List.find?_eq_none.2 fun line hline => by simp [(h line hline).2]
  rw [failureMessage_eq, failureMessage_eq, List.filter_append, hfront, List.nil_append, List.find?_append, hfind,
    Option.none_or]

end

/-! ## The place -/

/-- A line has a stack frame that names a place. -/
def HasFrame (line : Text) : Prop := ∃ place, framePlace line = .ok (some place)

theorem summarize_eq_ok {output : Text} {s : FailureSummary} :
    summarize output = .ok s ↔
      ∃ places, (lines output).mapM framePlace = .ok places ∧ s = ⟨failureMessage (lines output), lastSome? id places⟩ := by
  unfold summarize
  rw [bind_eq_ok]
  refine exists_congr fun places => and_congr_right fun _ => ⟨fun h => (Except.ok.inj h).symm, ?_⟩
  rintro rfl
  rfl

theorem lastSome?_append (front back : List (Option FailurePlace)) :
    lastSome? id (front ++ back) = (lastSome? id back).or (lastSome? id front) := by
  rw [lastSome?, List.filterMap_append, List.getLast?_append, lastSome?, lastSome?]

/-- A place is found exactly if a line has a frame. -/
theorem lastSome?_eq_none_iff {lines : List Text} {places : List (Option FailurePlace)}
    (h : lines.mapM framePlace = .ok places) : lastSome? id places = none ↔ ∀ line ∈ lines, ¬ HasFrame line := by
  have hlines := forall₂_of_mapM h
  rw [lastSome?, List.getLast?_eq_none_iff, List.filterMap_eq_nil_iff]
  constructor
  · rintro hnone line hline ⟨place, hplace⟩
    obtain ⟨found, hfound, he⟩ := exists_of_mem_left hlines hline
    have hnone : found = none := hnone found hfound
    rw [hnone, hplace] at he
    cases he
  · intro hnone found hfound
    obtain ⟨line, hline, he⟩ := exists_of_mem_right hlines hfound
    cases found with
    | none => rfl
    | some place => exact absurd ⟨place, he⟩ (hnone line hline)

/-! ## The summary -/

/-- The summary of an output that goes on, by the summaries of its two parts. -/
structure FailureSummary.GoesOn (s : FailureSummary) (front back : List Text) (earlier later : FailureSummary) : Prop where
  /-- The later part names a place. -/
  laterPlace : (∃ line ∈ back, HasFrame line) → s.place = later.place
  earlierPlace : (∀ line ∈ back, ¬ HasFrame line) → s.place = earlier.place
  /-- The later part has a diagnostic line. -/
  laterMessage : (∃ line ∈ back, isDiagnostic line = true) → s.message = later.message
  /-- Only the earlier part has something to say. -/
  earlierMessage : (∀ line ∈ back, isDiagnostic line = false) →
    (∃ line ∈ front, isDiagnostic line = true ∨ isFallback line = true) → s.message = earlier.message
  /-- The earlier part has nothing to say. -/
  silent : (∀ line ∈ front, isDiagnostic line = false ∧ isFallback line = false) → s.message = later.message

/-- **Summaries compose.** If two outputs can be summed up, so can the one followed by the other, and its place and its
message are those of one of the parts. The message is always the last diagnostic line, or else the first line that
mentions a failure, or else the standing phrase. -/
theorem summarize_append :
    (∀ a b earlier later, summarize a = .ok earlier → summarize b = .ok later →
      ∃ s, summarize (a ++ '\n' :: b) = .ok s ∧ s.GoesOn (lines a) (lines b) earlier later) ∧
    ∀ output s, summarize output = .ok s → s.message =
      ((((lines output).filter isDiagnostic).getLast?.or ((lines output).find? isFallback)).map trim).getD unknownFailure := by
  constructor
  · intro a b earlier later ha hb
    obtain ⟨before, hbefore, rfl⟩ := summarize_eq_ok.1 ha
    obtain ⟨behind, hbehind, rfl⟩ := summarize_eq_ok.1 hb
    have hlines : lines (a ++ '\n' :: b) = lines a ++ lines b := pieces_append_cons '\n' a b
    have hplaces : (lines a ++ lines b).mapM framePlace = .ok (before ++ behind) := by
      rw [List.mapM_append, hbefore, hbehind]
      rfl
    have hnone := lastSome?_eq_none_iff hbehind
    refine ⟨_, summarize_eq_ok.2 ⟨before ++ behind, hlines ▸ hplaces, rfl⟩, ?_, ?_, ?_, ?_, ?_⟩
    · intro hframe
      dsimp only
      rw [lastSome?_append]
      cases hlater : lastSome? id behind with
      | none =>
          obtain ⟨line, hline, hhas⟩ := hframe
          exact absurd hhas (hnone.1 hlater line hline)
      | some place => rfl
    · intro hframe
      dsimp only
      rw [lastSome?_append, hnone.2 hframe, Option.none_or]
    · rw [hlines]
      exact failureMessage_of_back
    · rw [hlines]
      exact failureMessage_of_front
    · rw [hlines]
      exact failureMessage_of_silent
  · intro output s hs
    obtain ⟨places, -, rfl⟩ := summarize_eq_ok.1 hs
    exact failureMessage_eq (lines output)

/-- The output of a run in which a feature fails. -/
def failedRun : Text := "MathSpec > max FAILED\n    at MathSpec.max(MathSpec.groovy:12)".toList

/-- What the build tool says at the end. -/
def lastWords : Text := "1 test failed".toList

theorem summarize_failedRun :
    summarize (failedRun ++ '\n' :: lastWords) =
      .ok ⟨"MathSpec > max FAILED".toList, some ⟨"MathSpec.groovy".toList, 11⟩⟩ := by
  have hearlier : summarize failedRun =
      .ok ⟨"MathSpec > max FAILED".toList, some ⟨"MathSpec.groovy".toList, 11⟩⟩ := by decide +kernel
  have hlater : summarize lastWords = .ok ⟨lastWords, none⟩ := by decide +kernel
  obtain ⟨⟨message, place⟩, hs, hgoesOn⟩ := summarize_append.1 _ _ _ _ hearlier hlater
  have hframe : ∀ line ∈ lines lastWords, ¬ HasFrame line := by
    have hlines : lines lastWords = [lastWords] := by decide +kernel
    have hnone : framePlace lastWords = .ok none := by decide +kernel
    rw [hlines, List.forall_mem_singleton]
    rintro ⟨place, hplace⟩
    rw [hnone] at hplace
    cases hplace
  obtain rfl : message = _ := hgoesOn.earlierMessage (by decide +kernel) (by decide +kernel)
  obtain rfl : place = _ := hgoesOn.earlierPlace hframe
  exact hs

end SpecAtlas.Result
