import SpecAtlas.Proofs.Source.Outline

/-!
# Well-formed files are read completely

A file that is written after an outline is read back as that outline: every class is found, every
feature of it and nothing else.

The proof follows the structure of the file. The scan is `inBody` of the class in front of every member
and behind it, however its body is made, and on the way it reports the heading of the member alone
(`scan_member`); the looks ahead from that heading do not leave the member (`assemble_member`).
-/

namespace SpecAtlas.Source

open Text

/-! ## Positions in a class -/

namespace Position

/-- Inside the body of a class, at a given balance. -/
def inBody (balance : Int) : Position := ⟨true, true, balance, none, false⟩

/-- Inside an opened nested region with a given floor. -/
def inRegion (floor balance : Int) : Position := ⟨true, true, balance, some floor, true⟩

/-- A line of a class body that begins no nested region. -/
theorem advance_inBody {balance : Int} {line : Text} (hclass : declaresClass line = false)
    (htype : isTypeHeading (trim line) = false) (hpos : 1 ≤ balance + braceDelta line) :
    (inBody balance).advance line =
      (inBody (balance + braceDelta line), (MethodHeading.read? (trim line)).map .method) := by
  have hnested : (inBody balance).nestedAt line = (none, false) := by simp [nestedAt, inBody, htype]
  have hopen : ¬ balance + braceDelta line ≤ 0 := by omega
  rw [advance_inside hclass rfl, withinClass_eq, hnested]
  simp [inBody, nestedAfter, hopen]

/-- A line of a nested region. -/
theorem advance_inRegion {floor balance : Int} {line : Text} (hclass : declaresClass line = false)
    (hfloor : 0 ≤ floor) (habove : floor < balance + braceDelta line) :
    (inRegion floor balance).advance line = (inRegion floor (balance + braceDelta line), none) := by
  have hopen : ¬ balance + braceDelta line ≤ 0 := by omega
  have hinside : ¬ balance + braceDelta line ≤ floor := by omega
  rw [advance_inside hclass rfl, withinClass_eq]
  simp [inRegion, nestedAt, nestedAfter, hopen, hinside]

/-- The heading of a type begins a nested region. -/
theorem advance_typeLine {balance : Int} (hpos : 0 ≤ balance) {line : Text}
    (hclass : declaresClass line = false) (htype : isTypeHeading (trim line) = true) (hopens : braceDelta line = 1) :
    (inBody balance).advance line = (inRegion balance (balance + 1), none) := by
  have hopening : '{' ∈ line := List.elem_iff.1 (elem_brace_of_pos (by omega))
  have hopen : ¬ balance + 1 ≤ 0 := by omega
  have hinside : ¬ balance + 1 ≤ balance := by omega
  rw [advance_inside hclass rfl, withinClass_eq, hopens]
  simp [inBody, inRegion, nestedAt, nestedAfter, htype, hopening, hopen, hinside]

end Position

open Position

/-! ## Closing lines -/

section

variable {line : Text} (h : isClosing (trim line) = true)

include h

theorem trim_of_isClosing : trim line = ['}'] := eq_of_beq h

theorem declaresClass_of_isClosing : declaresClass line = false := by
  rw [declaresClass, trim_of_isClosing h]
  decide

theorem isTypeHeading_of_isClosing : isTypeHeading (trim line) = false := by
  rw [trim_of_isClosing h]
  decide

theorem read?_of_isClosing : MethodHeading.read? (trim line) = none := by
  rw [trim_of_isClosing h]
  decide

theorem braceDelta_of_isClosing : braceDelta line = -1 := by
  have htrim : trim line = trim ['}'] := trim_of_isClosing h
  rw [braceDelta_congr htrim]
  rfl

/-- Behind a method the scan is in the body of the class again. -/
theorem Position.advance_methodEnd {balance : Int} (hpos : 1 ≤ balance) :
    (inBody (balance + 1)).advance line = (inBody balance, none) := by
  have hdelta : balance + 1 + braceDelta line = balance := by
    rw [braceDelta_of_isClosing h]
    omega
  rw [advance_inBody (declaresClass_of_isClosing h) (isTypeHeading_of_isClosing h) (by omega), hdelta,
    read?_of_isClosing h]
  rfl

/-- A nested region ends where its braces balance out. -/
theorem Position.advance_regionEnd {balance : Int} (hpos : 1 ≤ balance) :
    (inRegion balance (balance + 1)).advance line = (inBody balance, none) := by
  have hdelta : balance + 1 + -1 = balance := by omega
  have hopen : ¬ balance ≤ 0 := by omega
  rw [advance_inside (declaresClass_of_isClosing h) rfl, withinClass_eq, braceDelta_of_isClosing h]
  simp [inBody, inRegion, nestedAt, nestedAfter, hdelta, hopen]

/-- A class ends where its braces balance out. -/
theorem Position.advance_classEnd : (inBody 1).advance line = ({}, none) := by
  rw [advance_inside (declaresClass_of_isClosing h) rfl, withinClass_eq, braceDelta_of_isClosing h,
    read?_of_isClosing h]
  simp [inBody]

end

/-! ## Bodies -/

/-- If each of some lines only moves the balance, as long as it stays above a floor, then so do all of
them together, and nothing is reported. -/
theorem scan_above {position : Int → Position} {floor : Int} {lines : List Text}
    (hstep : ∀ line ∈ lines, ∀ balance, floor < balance + braceDelta line →
      (position balance).advance line = (position (balance + braceDelta line), none))
    {balance : Int} (habove : ∀ k, floor < balance + balanceOf (lines.take k)) (index : Nat) :
    (position balance).run lines = position (balance + balanceOf lines) ∧
      headingsFrom (position balance) index lines = [] := by
  induction lines generalizing balance index with
  | nil => simp [headingsFrom]
  | cons line rest ih =>
      have hline : floor < balance + braceDelta line := by simpa using habove 1
      have hrest : ∀ k, floor < balance + braceDelta line + balanceOf (rest.take k) := by
        intro k
        have hk := habove (k + 1)
        rw [List.take_succ_cons, balanceOf_cons] at hk
        omega
      have hadvance := hstep line List.mem_cons_self balance hline
      obtain ⟨hrun, hheadings⟩ := ih (fun l hl => hstep l (List.mem_cons_of_mem _ hl)) hrest (index + 1)
      constructor
      · rw [run_cons, hadvance, hrun, balanceOf_cons, Int.add_assoc]
      · rw [headingsFrom_cons, hadvance, hheadings]
        rfl

/-- In the body of a method nothing is reported, and behind it the balance is what it was. -/
theorem scan_methodBody (body : MethodBody) {balance : Int} (hpos : 1 ≤ balance) (index : Nat) :
    (inBody balance).run body.lines = inBody balance ∧ headingsFrom (inBody balance) index body.lines = [] := by
  have habove : ∀ k, 0 < balance + balanceOf (body.lines.take k) := by
    intro k
    have hk := body.paired.nonneg k
    omega
  have hstep : ∀ line ∈ body.lines, ∀ b, 0 < b + braceDelta line →
      (inBody b).advance line = (inBody (b + braceDelta line), none) := by
    intro line hl b hb
    rw [advance_inBody (body.noClass line hl) (body.noType line hl) hb, body.noMethod line hl]
    rfl
  have hscan := scan_above hstep habove index
  rwa [body.paired.total, Int.add_zero] at hscan

/-- In a nested region nothing is reported, whatever stands there, and behind it the balance is what it
was. -/
theorem scan_regionBody (body : Body) {floor balance : Int} (hfloor : 0 ≤ floor) (habove : floor < balance)
    (index : Nat) :
    (inRegion floor balance).run body.lines = inRegion floor balance ∧
      headingsFrom (inRegion floor balance) index body.lines = [] := by
  have habove' : ∀ k, floor < balance + balanceOf (body.lines.take k) := by
    intro k
    have hk := body.paired.nonneg k
    omega
  have hstep : ∀ line ∈ body.lines, ∀ b, floor < b + braceDelta line →
      (inRegion floor b).advance line = (inRegion floor (b + braceDelta line), none) := by
    intro line hl b hb
    exact advance_inRegion (body.noClass line hl) hfloor hb
  have hscan := scan_above hstep habove' index
  rwa [body.paired.total, Int.add_zero] at hscan

/-! ## Members -/

/-- The heading of the method that a member is, if it is one. -/
def MemberKind.method? : MemberKind → Option MethodHeading
  | nested .. => none
  | kind => MethodHeading.read? kind.heading

/-- What a scan reports of a member whose heading has number `index`. -/
def Member.located (index : Nat) (m : Member) : List Located :=
  (m.kind.method?.map fun heading => ⟨index, .method heading⟩).toList

theorem located_of_method? {m : Member} {heading : MethodHeading} (h : m.kind.method? = some heading)
    (index : Nat) : m.located index = [⟨index, .method heading⟩] := by
  rw [Member.located, h]
  rfl

theorem trim_heading (m : Member) : trim m.heading = trim m.kind.heading := trim_append m.indent.blank _

theorem isClosing_closing (m : Member) : isClosing (trim m.closing) = true := by
  have htrim : trim m.closing = trim ['}'] := trim_append m.indent.blank _
  rw [htrim]
  decide

/-- A method is reported by its heading alone, and behind it the scan is where it was in front of it. -/
theorem scan_method {heading closing : Text} (body : MethodBody) {balance : Int} (hpos : 1 ≤ balance)
    (hclass : declaresClass heading = false) (htype : isTypeHeading (trim heading) = false)
    (hopens : braceDelta heading = 1) (hclosing : isClosing (trim closing) = true) (index : Nat) :
    (inBody balance).run (heading :: (body.lines ++ [closing])) = inBody balance ∧
      headingsFrom (inBody balance) index (heading :: (body.lines ++ [closing])) =
        ((MethodHeading.read? (trim heading)).map (⟨index, .method ·⟩)).toList := by
  have hopened : 1 ≤ balance + 1 := by omega
  have hadvance : (inBody balance).advance heading =
      (inBody (balance + 1), (MethodHeading.read? (trim heading)).map .method) := by
    rw [advance_inBody hclass htype (by omega), hopens]
  obtain ⟨hrun, hheadings⟩ := scan_methodBody body hopened (index + 1)
  have hend := advance_methodEnd hclosing hpos
  constructor
  · rw [run_cons, hadvance, run_append, hrun, run_cons, hend, run_nil]
  · rw [headingsFrom_cons, hadvance, headingsFrom_append, hrun, hheadings, headingsFrom_cons, hend,
      Option.map_map]
    simp [headingsFrom, Function.comp_def]

/-- A nested type is not reported, whatever stands in it. -/
theorem scan_nested {heading closing : Text} (body : Body) {balance : Int} (hpos : 1 ≤ balance)
    (hclass : declaresClass heading = false) (htype : isTypeHeading (trim heading) = true)
    (hopens : braceDelta heading = 1) (hclosing : isClosing (trim closing) = true) (index : Nat) :
    (inBody balance).run (heading :: (body.lines ++ [closing])) = inBody balance ∧
      headingsFrom (inBody balance) index (heading :: (body.lines ++ [closing])) = [] := by
  have hfloor : 0 ≤ balance := by omega
  have hadvance := advance_typeLine hfloor hclass htype hopens
  obtain ⟨hrun, hheadings⟩ := scan_regionBody body hfloor (Int.lt_succ balance) (index + 1)
  have hend := advance_regionEnd hclosing hpos
  constructor
  · rw [run_cons, hadvance, run_append, hrun, run_cons, hend, run_nil]
  · rw [headingsFrom_cons, hadvance, headingsFrom_append, hrun, hheadings, headingsFrom_cons, hend]
    rfl

/-- A member that is a method: its name as it is written, and its body. -/
structure IsMethod (kind : MemberKind) (written : Text) (body : MethodBody) : Prop where
  heading : kind.heading = methodLine written
  method : kind.method? = MethodHeading.read? (methodLine written)
  body : kind.body = body.toBody
  noOpening : '{' ∉ written
  noClosing : '}' ∉ written
  oneLine : '\n' ∉ written

theorem isMethod_feature (quote : Quote) (name : FeatureName) (body : MethodBody) :
    IsMethod (.feature quote name body) (quote.mark :: (name.text ++ [quote.mark])) body := by
  have hother {c : Char} (hc : isQuote c = false) : c ≠ quote.mark := by
    intro he
    rw [he, quote.isQuote] at hc
    contradiction
  have hwritten {c : Char} (hc : isQuote c = false) (hname : c ∉ name.text) :
      c ∉ quote.mark :: (name.text ++ [quote.mark]) := by
    simp [hother hc, hname]
  exact ⟨rfl, rfl, rfl, hwritten (by decide) name.noOpening, hwritten (by decide) name.noClosing,
    hwritten (by decide) name.oneLine⟩

theorem isMethod_hook (name : HookName) (body : MethodBody) : IsMethod (.hook name body) name.text body := by
  have hplain : ∀ text ∈ lifecycleHooks, '{' ∉ text ∧ '}' ∉ text ∧ '\n' ∉ text := by decide
  obtain ⟨ho, hc, hn⟩ := hplain name.text name.isHook
  exact ⟨rfl, rfl, rfl, ho, hc, hn⟩

theorem isMethod_helper (name : Identifier) (body : HelperBody) :
    IsMethod (.helper name body) name.text body.toMethodBody := by
  have hplain {c : Char} (hc : isIdentChar c = false) : c ∉ name.text := not_mem_of_all name.chars hc
  exact ⟨rfl, rfl, rfl, hplain (by decide), hplain (by decide), hplain (by decide)⟩

/-- A member is a method or a nested type. -/
theorem method_or_nested (kind : MemberKind) :
    (∃ written body, IsMethod kind written body) ∨ ∃ heading body, kind = .nested heading body := by
  cases kind with
  | feature quote name body => exact .inl ⟨_, _, isMethod_feature quote name body⟩
  | hook name body => exact .inl ⟨_, _, isMethod_hook name body⟩
  | helper name body => exact .inl ⟨_, _, isMethod_helper name body⟩
  | nested heading body => exact .inr ⟨heading, body, rfl⟩

/-- **Step**: a member is reported by the heading of its method, and behind it the scan is where it was
in front of it. -/
theorem scan_member (m : Member) {balance : Int} (hpos : 1 ≤ balance) (index : Nat) :
    (inBody balance).run m.lines = inBody balance ∧
      headingsFrom (inBody balance) index m.lines = m.located index := by
  have htrim := trim_heading m
  have hdelta := braceDelta_congr htrim
  rcases method_or_nested m.kind with ⟨written, body, h⟩ | ⟨heading, body, h⟩
  · rw [h.heading, (isEnclosed_methodLine written).trim_eq] at htrim
    rw [h.heading, braceDelta_methodLine h.noOpening h.noClosing] at hdelta
    have hclass : declaresClass m.heading = false := by
      rw [declaresClass_eq_false, htrim, declaresClass_methodLine]
    have htype : isTypeHeading (trim m.heading) = false := by rw [htrim, isTypeHeading_methodLine]
    have hscan := scan_method body hpos hclass htype hdelta (isClosing_closing m) index
    rw [Member.lines, Member.located, h.body, h.method, ← htrim]
    exact hscan
  · have hline : m.kind.heading = heading.text := by rw [h]; rfl
    rw [hline] at htrim hdelta
    have hclass : declaresClass m.heading = false := by
      rw [declaresClass, htrim]
      exact heading.noClass
    have htype : isTypeHeading (trim m.heading) = true := by rw [htrim, heading.isType]
    rw [heading.opens] at hdelta
    have hscan := scan_nested body hpos hclass htype hdelta (isClosing_closing m) index
    rw [Member.lines, Member.located, h]
    exact hscan

/-- **Run**: so are any number of members, one after the other. -/
theorem run_members (members : List Member) {balance : Int} (hpos : 1 ≤ balance) :
    (inBody balance).run (members.flatMap Member.lines) = inBody balance := by
  induction members with
  | nil => rfl
  | cons m rest ih => rw [List.flatMap_cons, run_append, (scan_member m hpos 0).1, ih]

/-! ## The features of members -/

theorem read?_hook {name : Text} (h : name ∈ lifecycleHooks) :
    MethodHeading.read? (methodLine name) = some ⟨name, false, true⟩ := by
  have hall : ∀ text ∈ lifecycleHooks, MethodHeading.read? (methodLine text) = some ⟨text, false, true⟩ := by
    decide
  exact hall name h

/-- A helper method is no candidate, or a candidate without quotes. -/
theorem isQuoted_of_helper (name : Identifier) {heading : MethodHeading}
    (h : MethodHeading.read? (methodLine name.text) = some heading) : heading.isQuoted = false := by
  obtain ⟨c, rest, hname⟩ := List.exists_cons_of_ne_nil name.nonempty
  have hc : isIdentChar c = true := List.all_eq_true.1 name.chars c (hname ▸ List.mem_cons_self)
  have hblank : isBlank c = false := by
    rcases Bool.or_eq_true_iff.1 hc with hword | hdollar
    · exact isBlank_of_isWord hword
    · rw [beq_iff_eq] at hdollar
      rw [hdollar]
      decide
  have hquote : isQuote c = false := by
    rw [← Bool.not_eq_true]
    intro hq
    rcases Bool.or_eq_true_iff.1 hq with he | he <;> rw [beq_iff_eq.1 he] at hc <;> contradiction
  rw [hname] at h
  exact isQuoted_of_methodLine hblank hquote h

/-- The line of a heading, in a file that holds it. -/
theorem getD_heading (before : List Text) (heading : Text) (below : List Text) :
    ((before ++ heading :: below).map dropReturns).getD before.length [] = dropReturns heading := by
  refine getD_of_getElem? ?_
  rw [List.getElem?_map, List.getElem?_append_right (Nat.le_refl _), Nat.sub_self]
  rfl

section

variable (m : Member) (before after : List Text)

/-- The lines below the heading of a member, in a file that holds the member. -/
theorem drop_member : (before ++ (m.lines ++ after)).drop (before.length + 1) =
    m.kind.body.lines ++ m.closing :: after := by
  rw [← List.drop_drop, List.drop_left]
  simp [Member.lines]

/-- What a member turns out to be: its features come in front of those of the findings behind it. -/
theorem assemble_member (rest : List Finding) :
    assemble ((m.located before.length).map
        (·.plainFinding ((before ++ (m.lines ++ after)).map dropReturns)) ++ rest) =
      (m.features before.length ++ (assemble rest).1, (assemble rest).2) := by
  have hbelow (heading : MethodHeading) :
      rejection? heading (((before ++ (m.lines ++ after)).map dropReturns).drop (before.length + 1)) =
        rejection? heading (m.kind.body.lines ++ m.closing :: after) := by
    rw [← List.map_drop, drop_member, rejection?_map heading trim_dropReturns]
  have hline : ((before ++ (m.lines ++ after)).map dropReturns).getD before.length [] = dropReturns m.heading :=
    getD_heading before m.heading _
  -- The name of a feature is quoted and its heading opens the body, a hook is turned down by its name, and
  -- the look for a label in a helper ends with its closing line.
  cases hkind : m.kind with
  | feature quote name body =>
      have hread : m.kind.method? = some ⟨name.text, true, true⟩ := by
        rw [hkind]
        exact read?_methodLine_quoted quote.isQuote name.nonempty name.unquoted
      have hheading : dropReturns m.heading = m.heading := by
        rw [Member.heading, hkind]
        exact (isEnclosed_methodLine _).dropReturns_eq _
      have haccept := (hbelow ⟨name.text, true, true⟩).trans (rejection?_quoted name.notHook rfl rfl _)
      have hfeatures : m.features before.length =
          [⟨name.text, before.length, .ofLine before.length m.heading, none⟩] := by
        rw [Member.features, hkind]
      rw [located_of_method? hread, List.map_singleton, plainFinding_of_accepted haccept, hline, hheading,
        hfeatures]
      rfl
  | hook name body =>
      have hread : m.kind.method? = some ⟨name.text, false, true⟩ := by
        rw [hkind]
        exact read?_hook name.isHook
      have hreject := (hbelow ⟨name.text, false, true⟩).trans (rejection?_hook name.isHook _)
      have hfeatures : m.features before.length = [] := by rw [Member.features, hkind]
      rw [located_of_method? hread, List.map_singleton, plainFinding_of_rejected hreject, hfeatures]
      rfl
  | helper name body =>
      have hfeatures : m.features before.length = [] := by rw [Member.features, hkind]
      rw [hfeatures]
      cases hread : m.kind.method? with
      | none =>
          rw [Member.located, hread]
          rfl
      | some heading =>
          have hquoted : heading.isQuoted = false := by
            rw [hkind] at hread
            exact isQuoted_of_helper name hread
          have hlabel : ∀ line ∈ m.kind.body.lines, isBlockLabel (trim line) = false := by
            rw [hkind]
            exact body.noLabel
          obtain ⟨reason, hreject⟩ := rejection?_of_closing hquoted hlabel (isClosing_closing m) after
          rw [located_of_method? hread, List.map_singleton,
            plainFinding_of_rejected ((hbelow heading).trans hreject)]
          rfl
  | nested heading body => simp [Member.located, MemberKind.method?, Member.features, hkind]

end

/-- The members of a class bring its features, in front of those of the findings behind it. -/
theorem assemble_members (members : List Member) (before after : List Text) (rest : List Finding) :
    assemble ((headingsFrom (inBody 1) before.length (members.flatMap Member.lines)).map
        (·.plainFinding ((before ++ (members.flatMap Member.lines ++ after)).map dropReturns)) ++ rest) =
      (featuresFrom before.length members ++ (assemble rest).1, (assemble rest).2) := by
  induction members generalizing before with
  | nil => simp [headingsFrom, featuresFrom]
  | cons m members ih =>
      obtain ⟨hrun, hheadings⟩ := scan_member m (Int.le_refl 1) before.length
      have hrest := ih (before ++ m.lines)
      rw [List.length_append, List.append_assoc] at hrest
      rw [List.flatMap_cons, headingsFrom_append, hrun, hheadings, List.map_append, List.append_assoc,
        List.append_assoc, assemble_member, hrest, featuresFrom, List.append_assoc]

/-! ## Classes -/

/-- A class line begins the body of its class, from any position. -/
theorem advance_heading (p : Position) (c : ClassOutline) :
    p.advance c.heading = (inBody 1, some (.specification ⟨c.name.text, c.isAbstract⟩)) := by
  have htrim : trim c.heading = c.heading := (isEnclosed_classLine _ _).trim_eq
  have hread : ClassHeading.read? (trim c.heading) = some ⟨c.name.text, c.isAbstract⟩ := by
    rw [htrim]
    exact read?_classLine _ c.name.nonempty c.name.chars
  have hdelta : braceDelta c.heading = 1 := braceDelta_classLine _ c.name.chars
  have hopening : c.heading.elem '{' = true := elem_brace_of_pos (by omega)
  rw [advance_of_class p hread, afterClass, hopening, hdelta]
  rfl

/-- Behind a class the scan is where it began. -/
theorem run_class (p : Position) (c : ClassOutline) : p.run c.lines = {} := by
  have hclosing : isClosing (trim ['}']) = true := by decide
  rw [ClassOutline.lines, run_cons, advance_heading, run_append, run_members _ (Int.le_refl 1), run_cons,
    advance_classEnd hclosing, run_nil]

theorem run_classes (classes : List ClassOutline) :
    ({} : Position).run (classes.flatMap ClassOutline.lines) = {} := by
  induction classes with
  | nil => rfl
  | cons c rest ih => rw [List.flatMap_cons, run_append, run_class, ih]

/-- The headings of a class: its own, and those of its members. -/
theorem headingsFrom_class (p : Position) (index : Nat) (c : ClassOutline) :
    headingsFrom p index c.lines =
      ⟨index, .specification ⟨c.name.text, c.isAbstract⟩⟩ ::
        headingsFrom (inBody 1) (index + 1) (c.members.flatMap Member.lines) := by
  have hclosing : isClosing (trim ['}']) = true := by decide
  rw [ClassOutline.lines, headingsFrom_cons, advance_heading, headingsFrom_append,
    run_members _ (Int.le_refl 1), headingsFrom_cons, advance_classEnd hclosing]
  simp [headingsFrom]

/-- A class brings its specification, with the features of its members. -/
theorem assemble_class (p : Position) (c : ClassOutline) (before after : List Text) {rest : List Finding}
    (hrest : (assemble rest).1 = []) :
    assemble ((headingsFrom p before.length c.lines).map
        (·.plainFinding ((before ++ (c.lines ++ after)).map dropReturns)) ++ rest) =
      ([], c.specification before.length :: (assemble rest).2) := by
  have hmembers := assemble_members c.members (before ++ [c.heading]) (['}'] :: after) rest
  have hsplit : before ++ [c.heading] ++ (c.members.flatMap Member.lines ++ ['}'] :: after) =
      before ++ (c.lines ++ after) := by
    simp [ClassOutline.lines]
  rw [hsplit, List.length_append, List.length_singleton, hrest, List.append_nil] at hmembers
  have hline : ((before ++ (c.lines ++ after)).map dropReturns).getD before.length [] = c.heading :=
    (getD_heading before c.heading _).trans ((isEnclosed_classLine _ _).dropReturns_eq [])
  rw [headingsFrom_class, List.map_cons, List.cons_append, Located.plainFinding]
  simp only [assemble, hmembers, hline, ClassOutline.specification]

/-- The classes of a file bring its specifications. -/
theorem assemble_classes (classes : List ClassOutline) (before after : List Text) :
    assemble ((headingsFrom {} before.length (classes.flatMap ClassOutline.lines)).map
        (·.plainFinding ((before ++ (classes.flatMap ClassOutline.lines ++ after)).map dropReturns))) =
      ([], specificationsFrom before.length classes) := by
  induction classes generalizing before with
  | nil => rfl
  | cons c classes ih =>
      have hrest := ih (before ++ c.lines)
      rw [List.length_append, List.append_assoc, ← List.append_assoc c.lines] at hrest
      have hnone := congrArg Prod.fst hrest
      rw [List.append_assoc c.lines] at hrest hnone
      rw [List.flatMap_cons, headingsFrom_append, run_class, List.map_append, List.append_assoc c.lines,
        assemble_class _ c before _ hnone, hrest, specificationsFrom]

/-! ## The text of a file -/

theorem oneLine_member (m : Member) : ∀ line ∈ m.lines, '\n' ∉ line := by
  have hheading : '\n' ∉ m.kind.heading := by
    rcases method_or_nested m.kind with ⟨written, body, h⟩ | ⟨heading, body, h⟩
    · rw [h.heading]
      simp [methodLine, h.oneLine]
    · rw [h]
      exact heading.oneLine
  intro line hline
  rcases List.mem_cons.1 hline with rfl | hline
  · simp [Member.heading, m.indent.oneLine, hheading]
  · rcases List.mem_append.1 hline with hbody | hclosing
    · exact m.kind.body.oneLine line hbody
    · rw [List.mem_singleton.1 hclosing]
      simp [Member.closing, m.indent.oneLine]

theorem oneLine_class (c : ClassOutline) : ∀ line ∈ c.lines, '\n' ∉ line := by
  have hname : '\n' ∉ c.name.text := fun hm => absurd (List.all_eq_true.1 c.name.chars _ hm) (by decide)
  have hheading : '\n' ∉ c.heading := by
    cases hb : c.isAbstract <;> simp [ClassOutline.heading, classLine, hb, hname]
  intro line hline
  rcases List.mem_cons.1 hline with rfl | hline
  · exact hheading
  · rcases List.mem_append.1 hline with hmember | hclosing
    · obtain ⟨m, -, hm⟩ := List.mem_flatMap.1 hmember
      exact oneLine_member m line hm
    · rw [List.mem_singleton.1 hclosing]
      decide

/-- The lines of a file are those of its classes; at most one empty line follows. -/
theorem fileLines_fileOf (fed : Bool) (classes : List ClassOutline) :
    ∃ trailing : List Text, (∀ line ∈ trailing, line = []) ∧
      fileLines (fileOf fed classes) = (classes.flatMap ClassOutline.lines ++ trailing).map dropReturns := by
  by_cases hne : (classes.flatMap ClassOutline.lines ++ if fed then [[]] else []) = []
  · -- A file without classes still has one line, which is empty.
    obtain ⟨hclasses, -⟩ := List.append_eq_nil_iff.1 hne
    refine ⟨[[]], by simp, ?_⟩
    rw [fileOf, hne, hclasses]
    rfl
  · refine ⟨if fed then [[]] else [], by cases fed <;> simp, ?_⟩
    have honeLine : ∀ line ∈ classes.flatMap ClassOutline.lines ++ (if fed then [[]] else []), '\n' ∉ line := by
      intro line hline
      rcases List.mem_append.1 hline with hclass | hlast
      · obtain ⟨c, -, hc⟩ := List.mem_flatMap.1 hclass
        exact oneLine_class c line hc
      · cases fed with
        | true =>
            rw [if_pos rfl, List.mem_singleton] at hlast
            simp [hlast]
        | false => simp at hlast
    rw [fileOf, fileLines_join hne honeLine]

/-- **Completeness**: what is written after an outline is read back as that outline. Every class is
found with its name, and under it every feature, in order and on its line, and nothing else is. -/
theorem readSpecifications_fileOf (fed : Bool) (classes : List ClassOutline) :
    (readSpecifications false (fileOf fed classes)).map Prod.fst = .ok (specificationsFrom 0 classes) := by
  obtain ⟨trailing, hempty, hlines⟩ := fileLines_fileOf fed classes
  have hnone : ∀ line ∈ trailing, declaresClass line = false := by
    intro line hline
    rw [hempty line hline]
    decide
  have hheadings : headings (fileLines (fileOf fed classes)) =
      headingsFrom {} 0 (classes.flatMap ClassOutline.lines) := by
    rw [headings, hlines, headingsFrom_map_congr _ _ trim_dropReturns, headingsFrom_append, run_classes,
      headingsFrom_outside hnone rfl, List.append_nil]
  have hassemble := assemble_classes classes [] trailing
  rw [List.nil_append, List.length_nil] at hassemble
  rw [readSpecifications_false, hheadings, hlines, hassemble]

/-- A class with a nested type, whose methods are none of its features. -/
def outerSpec : ClassOutline where
  isAbstract := false
  name := ⟨"OuterSpec".toList, by decide, by decide⟩
  members :=
    let indent : Indent := ⟨"  ".toList, by decide, by decide⟩
    [⟨indent, .nested ⟨"static class Helper \x7b".toList, by decide, by decide, by decide, by decide⟩
        ⟨["    def \"not a feature\"() \x7b".toList, "    \x7d".toList], by decide, by decide, by decide⟩⟩,
      ⟨indent, .feature ⟨'"', by decide⟩
        ⟨"outer feature".toList, by decide, by decide, by decide, by decide, by decide, by decide⟩
        ⟨⟨["    true".toList], by decide, by decide, by decide⟩, by decide, by decide⟩⟩]

example : outerSpec.lines =
    ["class OuterSpec extends Specification \x7b".toList, "  static class Helper \x7b".toList,
      "    def \"not a feature\"() \x7b".toList, "    \x7d".toList, "  \x7d".toList,
      "  def \"outer feature\"() \x7b".toList, "    true".toList, "  \x7d".toList, "\x7d".toList] := by
  rfl

end SpecAtlas.Source
