import Mathlib.Data.List.TakeDrop
import SpecAtlas.Config.BuiltinReader
import SpecAtlas.Proofs.Except
import SpecAtlas.Proofs.Mapping

/-!
# Different keys

The tables that a configuration file writes have different keys, although a table may be written in pieces:
the pieces are joined key by key when the tables become values. A table on one line becomes a value at once,
which is then carried through all the tables that are built around it. An item is *tidy* if all such values in
it have different keys; every step of the reader keeps items tidy, and so `nodup_read` holds of the whole.
-/

namespace SpecAtlas.Toml

open Config Text

/-- The mappings among the values of an item have different keys. -/
inductive Item.IsTidy : Item → Prop
  | value {v : Value} (h : HasDistinctKeys v) : IsTidy (.value v)
  | table {implied element : Bool} {entries : List (Key × Item)} (h : ∀ e ∈ entries, IsTidy e.2) :
      IsTidy (.table implied element entries)
  | tables {elements : List (List (Key × Item))} (h : ∀ entries ∈ elements, ∀ e ∈ entries, IsTidy e.2) :
      IsTidy (.tables elements)

namespace Entries

/-- The items of all entries are tidy. -/
def AreTidy (entries : Entries) : Prop := ∀ e ∈ entries, e.2.IsTidy

variable {entries under found r : Entries} {key : Key} {item : Item}

theorem areTidy_nil : AreTidy [] := by simp [AreTidy]

theorem areTidy_cons {e : Key × Item} : AreTidy (e :: entries) ↔ e.2.IsTidy ∧ AreTidy entries :=
  List.forall_mem_cons

theorem areTidy_append : AreTidy (entries ++ under) ↔ AreTidy entries ∧ AreTidy under := List.forall_mem_append

/-! ## Laying entries down -/

theorem areTidy_entries (h : item.IsTidy) : AreTidy item.entries := by
  cases h with
  | value => exact areTidy_nil
  | table h => exact h
  | tables => exact areTidy_nil

theorem areTidy_named (h : AreTidy entries) (name : Text) : AreTidy (entries.named name) :=
  fun e he => h e (List.mem_of_mem_filter he)

theorem areTidy_add (h : AreTidy entries) (hitem : item.IsTidy) (hok : entries.add key item = .ok r) : AreTidy r := by
  unfold add at hok
  split at hok
  · cases hok
    exact areTidy_append.2 ⟨h, areTidy_cons.2 ⟨hitem, areTidy_nil⟩⟩
  · contradiction

theorem areTidy_replaceLast {name : Text} (h : AreTidy entries) (hitem : item.IsTidy) :
    AreTidy (replaceLast name item entries) := by
  induction entries with
  | nil => exact areTidy_nil
  | cons e rest ih =>
      rw [areTidy_cons] at h
      rw [replaceLast]
      split
      · exact areTidy_cons.2 ⟨hitem, h.2⟩
      · exact areTidy_cons.2 ⟨h.1, ih h.2⟩

theorem areTidy_replaceAll (h : AreTidy entries) (hitem : item.IsTidy) : AreTidy (replaceAll key item entries) := by
  rw [replaceAll, List.span_eq_takeWhile_dropWhile]
  refine areTidy_append.2 ⟨fun e he => h e (List.takeWhile_subset _ he), areTidy_cons.2 ⟨hitem, fun e he => ?_⟩⟩
  exact h e (List.dropWhile_subset _ (List.mem_of_mem_filter he))

/-- What is found at a key is among the entries. -/
theorem areTidy_lookUp (h : AreTidy entries) {name : Text} (hok : entries.lookUp name = .ok found) :
    AreTidy found := by
  rw [lookUp] at hok
  split at hok
  · cases hok
    exact areTidy_named h name
  · obtain ⟨_, _, rfl⟩ := map_eq_ok.1 hok
    exact areTidy_named h name

theorem areTidy_of_tables {elements : List (List (Key × Item))} (h : (Item.tables elements).IsTidy) :
    ∀ entries ∈ elements, AreTidy entries := by
  cases h with
  | tables h => exact h

theorem areTidy_of_table {implied element : Bool} (h : (Item.table implied element entries).IsTidy) :
    AreTidy entries := by
  cases h with
  | table h => exact h

/-- An item that is written beside tidy ones, if growing a table keeps it tidy. -/
theorem areTidy_appendWithin_succ {fuel : Nat}
    (hgrow : ∀ under inner r, AreTidy under → AreTidy inner → growWithin fuel under inner = .ok r → AreTidy r)
    {checked : Bool} (h : AreTidy entries) (hitem : item.IsTidy)
    (hok : appendWithin (fuel + 1) checked entries key item = .ok r) : AreTidy r := by
  rw [appendWithin] at hok
  replace ⟨found, hfound, hok⟩ := bind_eq_ok.1 hok
  have hlast : ∀ e, found.getLast? = some e → e.2.IsTidy :=
    fun e he => areTidy_lookUp h hfound e (List.mem_of_getLast? he)
  split at hok
  · exact areTidy_add h hitem hok
  · rename_i elements _ inner hfront
    cases hok
    have helements := areTidy_of_tables (hlast _ hfront)
    have hmore := List.forall_mem_append.2 ⟨helements, List.forall_mem_singleton.2 (areTidy_of_table hitem)⟩
    exact areTidy_replaceLast h (.tables hmore)
  · rename_i elements more hfront
    cases hok
    have helements := areTidy_of_tables (hlast _ hfront)
    exact areTidy_replaceLast h (.tables (List.forall_mem_append.2 ⟨helements, areTidy_of_tables hitem⟩))
  · rename_i under _ inner hfront
    cases hok
    have hunder := areTidy_of_table (hlast _ hfront)
    have hboth := List.forall_mem_cons.2 ⟨hunder, List.forall_mem_singleton.2 (areTidy_of_table hitem)⟩
    exact areTidy_replaceAll h (.tables hboth)
  · rename_i element under inner hfront
    split at hok
    · obtain ⟨added, hadd, hok⟩ := bind_eq_ok.1 hok
      have hadded := areTidy_add h hitem hadd
      dsimp only at hok
      split at hok
      · obtain ⟨_, _, hok⟩ := bind_eq_ok.1 hok
        cases hok
        exact hadded
      · cases hok
        exact hadded
    · obtain ⟨grown, hgrown, hok⟩ := bind_eq_ok.1 hok
      cases hok
      have hunder := areTidy_of_table (hlast _ hfront)
      exact areTidy_replaceLast h (.table (hgrow under inner grown hunder (areTidy_of_table hitem) hgrown))
  · split at hok
    · contradiction
    · exact areTidy_add h hitem hok
  · exact areTidy_add h hitem hok
  · contradiction

/-- A table that grows, if every item that is written leaves it tidy. -/
theorem areTidy_growWithin_succ {fuel : Nat}
    (happend : ∀ entries key item r, AreTidy entries → item.IsTidy →
      appendWithin fuel true entries key item = .ok r → AreTidy r)
    {inner : Entries} (hunder : AreTidy under) (hinner : AreTidy inner)
    (hok : growWithin (fuel + 1) under inner = .ok r) : AreTidy r := by
  rw [growWithin] at hok
  refine invariant_of_foldlM hunder (fun e he es es' hes hstep => ?_) hok
  obtain ⟨grown, hgrown, hstep⟩ := bind_eq_ok.1 hstep
  obtain ⟨_, _, hstep⟩ := bind_eq_ok.1 hstep
  cases hstep
  exact happend es e.1 e.2 es' hes (hinner e he) hgrown

/-- An item that is written, and a table that grows, stay tidy. -/
theorem areTidy_within (fuel : Nat) :
    (∀ checked entries key item r, AreTidy entries → item.IsTidy →
      appendWithin fuel checked entries key item = .ok r → AreTidy r) ∧
    ∀ under inner r, AreTidy under → AreTidy inner → growWithin fuel under inner = .ok r → AreTidy r := by
  induction fuel with
  | zero => exact ⟨by simp [appendWithin], by simp [growWithin]⟩
  | succ fuel ih =>
      exact ⟨fun _ _ _ _ _ => areTidy_appendWithin_succ ih.2, fun _ _ _ => areTidy_growWithin_succ (ih.1 true)⟩

theorem areTidy_append_ok {checked : Bool} (h : AreTidy entries) (hitem : item.IsTidy)
    (hok : entries.append checked key item = .ok r) : AreTidy r :=
  (areTidy_within _).1 checked entries key item r h hitem hok

theorem isTidy_nested {v : Value} (hv : HasDistinctKeys v) (path : List Text) : (nested v path).IsTidy := by
  induction path with
  | nil => exact .value hv
  | cons part rest ih => exact .table (areTidy_cons.2 ⟨ih, areTidy_nil⟩)

theorem areTidy_put {checked : Bool} {path : List Text} {v : Value} (h : AreTidy entries) (hv : HasDistinctKeys v)
    (hok : entries.put checked path v = .ok r) : AreTidy r := by
  unfold put at hok
  split at hok
  · contradiction
  · exact areTidy_append_ok h (.value hv) hok
  · exact areTidy_append_ok h (isTidy_nested hv _) hok

/-! ## Values -/

/-- A table has every key once as a value. -/
theorem nodup_valuesWithin {fuel : Nat} {m : Mapping Value} (hok : valuesWithin fuel entries = .ok m) :
    (m.map Prod.fst).Nodup := by
  cases fuel with
  | zero => simp [valuesWithin] at hok
  | succ fuel =>
      rw [valuesWithin] at hok
      have hkeys : m.map Prod.fst = entries.names.map id := by
        refine map_eq_of_forall₂ ((forall₂_of_mapM hok).imp fun name e he => ?_)
        split at he
        · obtain ⟨v, _, he⟩ := bind_eq_ok.1 he
          cases he
          rfl
        · obtain ⟨joined, _, he⟩ := bind_eq_ok.1 he
          obtain ⟨v, _, he⟩ := bind_eq_ok.1 he
          cases he
          rfl
      rw [hkeys, List.map_id]
      exact nodup_eraseDups _

/-- A tidy item is a value with different keys. -/
theorem hasDistinctKeys_valueWithin {fuel : Nat} {v : Value} (hitem : item.IsTidy)
    (hok : valueWithin fuel item = .ok v) : HasDistinctKeys v := by
  cases fuel with
  | zero => simp [valueWithin] at hok
  | succ fuel =>
      cases hitem with
      | value hv =>
          rw [valueWithin] at hok
          cases hok
          exact hv
      | table h =>
          rw [valueWithin] at hok
          obtain ⟨m, hm, rfl⟩ := map_eq_ok.1 hok
          intro es he
          cases he
          exact nodup_valuesWithin hm
      | tables h =>
          rw [valueWithin] at hok
          obtain ⟨items, _, hok⟩ := bind_eq_ok.1 hok
          cases hok
          exact nofun

/-- The values of tidy entries have different keys. -/
theorem hasDistinctKeys_valuesWithin {fuel : Nat} {m : Mapping Value} (h : AreTidy entries)
    (hok : valuesWithin fuel entries = .ok m) : ∀ e ∈ m, HasDistinctKeys e.2 := by
  cases fuel with
  | zero => simp [valuesWithin] at hok
  | succ fuel =>
      rw [valuesWithin] at hok
      intro e he
      obtain ⟨name, _, he⟩ := exists_of_mem_right (forall₂_of_mapM hok) he
      split at he
      · rename_i key item hnamed
        obtain ⟨v, hv, he⟩ := bind_eq_ok.1 he
        cases he
        have hitem : item.IsTidy := areTidy_named h name (key, item) (hnamed ▸ List.mem_singleton.2 rfl)
        exact hasDistinctKeys_valueWithin hitem hv
      · obtain ⟨joined, _, he⟩ := bind_eq_ok.1 he
        obtain ⟨inner, hinner, he⟩ := bind_eq_ok.1 he
        cases he
        intro es hes
        cases hes
        exact nodup_valuesWithin hinner

end Entries

/-! ## Reading -/

/-- What gets past two guards is the result behind them. -/
theorem eq_of_guards {α : Type} {p q : Prop} [Decidable p] [Decidable q] {x : Option α} {a : α}
    (h : (if p then none else if q then none else x) = some a) : x = some a := by
  split at h
  · contradiction
  · split at h
    · contradiction
    · exact h

/-- A number is no mapping. -/
theorem hasDistinctKeys_readNumber? {raw : Text} {v : Value} (h : readNumber? raw = some v) : HasDistinctKeys v := by
  have hten {text : Text} (h : ofTen? text = some v) : (∃ n, v = .int n) ∨ ∃ x, v = .float x := by
    unfold ofTen? at h
    split at h
    · cases h
      exact .inl ⟨_, rfl⟩
    · obtain ⟨x, _, rfl⟩ := Option.map_eq_some_iff.1 h
      exact .inr ⟨x, rfl⟩
  have hnumber : (∃ n, v = .int n) ∨ ∃ x, v = .float x := by
    unfold readNumber? at h
    dsimp only at h
    cases hradix : radixOf? (splitSign raw).2 with
    | some radix =>
        rw [hradix] at h
        obtain ⟨n, _, rfl⟩ := Option.map_eq_some_iff.1 (eq_of_guards h)
        exact .inl ⟨n, rfl⟩
    | none =>
        rw [hradix] at h
        exact hten (eq_of_guards h)
  intro es hes
  obtain ⟨n, rfl⟩ | ⟨x, rfl⟩ := hnumber <;> contradiction

theorem eq_some_of_orMalformed {α : Type} {x : Option α} {a : α} (h : orMalformed x = .ok a) : x = some a := by
  cases x with
  | none => contradiction
  | some b => exact congrArg some (Except.ok.inj h)

theorem hasDistinctKeys_takeTruth {word : String} {b : Bool} {text rest : Text} {v : Value}
    (hok : takeTruth word b text = .ok (v, rest)) : HasDistinctKeys v := by
  unfold takeTruth at hok
  split at hok
  · cases hok
    exact nofun
  · contradiction

theorem hasDistinctKeys_takeScalar {text rest : Text} {v : Value} (hok : takeScalar text = .ok (v, rest)) :
    HasDistinctKeys v := by
  have hnumber {v : Value} {rest : Text} (h : takeNumber? text = some (v, rest)) : HasDistinctKeys v := by
    obtain ⟨w, hw, he⟩ := Option.map_eq_some_iff.1 h
    cases he
    exact hasDistinctKeys_readNumber? hw
  unfold takeScalar at hok
  split at hok
  · exact hnumber (eq_some_of_orMalformed hok)
  · split at hok
    · obtain h | ⟨_, h⟩ := Option.or_eq_some_iff.1 (eq_some_of_orMalformed hok)
      · exact hnumber h
      · obtain ⟨m, _, he⟩ := Option.map_eq_some_iff.1 h
        cases he
        exact nofun
    · contradiction

/-- A value that is read has different keys; a table on one line is a value at once. -/
theorem hasDistinctKeys_takeValue {fuel : Nat} {text rest : Text} {v : Value}
    (hok : takeValue fuel text = .ok (v, rest)) : HasDistinctKeys v := by
  cases fuel with
  | zero => simp [takeValue] at hok
  | succ fuel =>
      unfold takeValue at hok
      split at hok
      · obtain ⟨t, _, he⟩ := map_eq_ok.1 hok
        cases he
        exact nofun
      · obtain ⟨t, _, he⟩ := map_eq_ok.1 hok
        cases he
        exact nofun
      · exact hasDistinctKeys_takeTruth hok
      · exact hasDistinctKeys_takeTruth hok
      · obtain ⟨items, _, he⟩ := map_eq_ok.1 hok
        cases he
        exact nofun
      · have hmap (read : Entries × Text)
            (h : (do return (.map (← Entries.values read.1), read.2) : Except Flaw (Value × Text)) = .ok (v, rest)) :
            HasDistinctKeys v := by
          obtain ⟨m, hm, h⟩ := bind_eq_ok.1 h
          cases h
          intro es hes
          cases hes
          exact Entries.nodup_valuesWithin hm
        dsimp only at hok
        split at hok
        · obtain ⟨read, _, hok⟩ := bind_eq_ok.1 hok
          exact hmap read hok
        · obtain ⟨read, _, hok⟩ := bind_eq_ok.1 hok
          exact hmap read hok
      · exact hasDistinctKeys_takeScalar hok

theorem hasDistinctKeys_takeEntry {text rest : Text} {path : List Text} {v : Value}
    (hok : takeEntry text = .ok ((path, v), rest)) : HasDistinctKeys v := by
  obtain ⟨sign, _, hok⟩ := bind_eq_ok.1 hok
  obtain ⟨⟨w, behind⟩, hw, hok⟩ := bind_eq_ok.1 hok
  cases hok
  exact hasDistinctKeys_takeValue hw

/-- Entries that are laid down one after the other stay tidy. -/
theorem areTidy_takeBody {put : Entries → List Text → Value → Except Flaw Entries}
    (hput : ∀ entries path v r, entries.AreTidy → HasDistinctKeys v → put entries path v = .ok r → r.AreTidy)
    {fuel : Nat} {entries r : Entries} {text rest : Text} (h : entries.AreTidy)
    (hok : takeBody put fuel entries text = .ok (r, rest)) : r.AreTidy := by
  induction fuel generalizing entries text with
  | zero => simp [takeBody] at hok
  | succ fuel ih =>
      rw [takeBody] at hok
      obtain ⟨behind, _, hok⟩ := bind_eq_ok.1 hok
      split at hok
      · cases hok
        exact h
      · obtain ⟨⟨⟨path, v⟩, rest'⟩, hentry, hok⟩ := bind_eq_ok.1 hok
        obtain ⟨rest', _, hok⟩ := bind_eq_ok.1 hok
        obtain ⟨more, hmore, hok⟩ := bind_eq_ok.1 hok
        exact ih (hput entries path v more h (hasDistinctKeys_takeEntry hentry) hmore) hok

theorem areTidy_layEntry (entries : Entries) (path : List Text) (v : Value) (r : Entries) (h : entries.AreTidy)
    (hv : HasDistinctKeys v) (hok : layEntry entries path v = .ok r) : r.AreTidy := by
  obtain ⟨put, hput, hok⟩ := bind_eq_ok.1 hok
  obtain ⟨_, _, hok⟩ := bind_eq_ok.1 hok
  cases hok
  exact Entries.areTidy_put h hv hput

theorem areTidy_layTable {entries r : Entries} {child : Child} (h : entries.AreTidy) (hchild : child.2.IsTidy)
    (hok : layTable entries child = .ok r) : r.AreTidy := by
  obtain ⟨laid, hlaid, hok⟩ := bind_eq_ok.1 hok
  obtain ⟨_, _, hok⟩ := bind_eq_ok.1 hok
  cases hok
  exact Entries.areTidy_append_ok h hchild hlaid

theorem isTidy_implied {innermost : Item} (h : innermost.IsTidy) (among : Bool) (way : List Text) :
    (implied innermost among way).IsTidy := by
  induction way generalizing among with
  | nil => exact h
  | cons name rest ih => exact .table (Entries.areTidy_cons.2 ⟨ih false, Entries.areTidy_nil⟩)

/-- Tables, the tables below them and the tables of an array are tidy. -/
theorem isTidy_takeTables (fuel : Nat) :
    (∀ arrays above text child rest, takeTable fuel arrays above text = .ok (child, rest) → child.2.IsTidy) ∧
    (∀ arrays path entries text r rest, entries.AreTidy → takeBelow fuel arrays path entries text = .ok (r, rest) →
      r.AreTidy) ∧
    ∀ arrays path text elements rest, takeElements fuel arrays path text = .ok (elements, rest) →
      ∀ entries ∈ elements, entries.AreTidy := by
  induction fuel with
  | zero => exact ⟨by simp [takeTable], by simp [takeBelow], by simp [takeElements]⟩
  | succ fuel ih =>
      obtain ⟨ihTable, ihBelow, ihElements⟩ := ih
      refine ⟨?_, ?_, ?_⟩
      · intro arrays above text child rest hok
        rw [takeTable] at hok
        obtain ⟨⟨header, behind⟩, _, hok⟩ := bind_eq_ok.1 hok
        obtain ⟨⟨own, behind⟩, hown, hok⟩ := bind_eq_ok.1 hok
        obtain ⟨⟨entries, behind⟩, hbelow, hok⟩ := bind_eq_ok.1 hok
        obtain ⟨_, _, hok⟩ := bind_eq_ok.1 hok
        have hentries : entries.AreTidy :=
          ihBelow _ _ _ _ _ _ (areTidy_takeBody areTidy_layEntry Entries.areTidy_nil hown) hbelow
        dsimp only at hok
        split at hok
        · split at hok
          · obtain ⟨⟨more, behind⟩, hmore, hok⟩ := bind_eq_ok.1 hok
            cases hok
            exact .tables (List.forall_mem_cons.2 ⟨hentries, ihElements _ _ _ _ _ hmore⟩)
          · cases hok
            exact .table hentries
        · cases hok
          refine isTidy_implied ?_ _ _
          split
          · exact .tables (List.forall_mem_singleton.2 hentries)
          · exact .table hentries
      · intro arrays path entries text r rest h hok
        rw [takeBelow] at hok
        split at hok
        · cases hok
          exact h
        · obtain ⟨next, _, hok⟩ := bind_eq_ok.1 hok
          dsimp only at hok
          split at hok
          · obtain ⟨⟨child, behind⟩, hchild, hok⟩ := bind_eq_ok.1 hok
            obtain ⟨laid, hlaid, hok⟩ := bind_eq_ok.1 hok
            exact ihBelow _ _ _ _ _ _ (areTidy_layTable h (ihTable _ _ _ _ _ hchild) hlaid) hok
          · cases hok
            exact h
      · intro arrays path text elements rest hok
        rw [takeElements] at hok
        split at hok
        · cases hok
          simp
        · obtain ⟨next, _, hok⟩ := bind_eq_ok.1 hok
          dsimp only at hok
          split at hok
          · obtain ⟨⟨child, behind⟩, hchild, hok⟩ := bind_eq_ok.1 hok
            obtain ⟨⟨more, behind⟩, hmore, hok⟩ := bind_eq_ok.1 hok
            cases hok
            have hfirst := Entries.areTidy_entries (ihTable _ _ _ _ _ hchild)
            exact List.forall_mem_cons.2 ⟨hfirst, ihElements _ _ _ _ _ hmore⟩
          · cases hok
            simp

theorem eq_ok_of_outermost {α : Type} {x : Except Flaw α} {a : α} (h : outermost x = .ok a) : x = .ok a := by
  cases x with
  | error e => contradiction
  | ok b => exact h

theorem areTidy_takeTables {fuel : Nat} {entries r : Entries} {text : Text} (h : entries.AreTidy)
    (hok : takeTables fuel entries text = .ok r) : r.AreTidy := by
  induction fuel generalizing entries text with
  | zero => simp [takeTables] at hok
  | succ fuel ih =>
      rw [takeTables] at hok
      split at hok
      · cases hok
        exact h
      · obtain ⟨⟨⟨key, item⟩, behind⟩, hitem, hok⟩ := bind_eq_ok.1 hok
        obtain ⟨more, hmore, hok⟩ := bind_eq_ok.1 hok
        have htidy := (isTidy_takeTables _).1 _ _ _ _ _ hitem
        exact ih (Entries.areTidy_append_ok h htidy (eq_ok_of_outermost hmore)) hok

/-- **Different keys**: a configuration file has every section once, and every section that is a mapping has every
key once. -/
theorem nodup_read {text : Text} {sections : Mapping Value} (hok : Toml.read text = .ok sections) :
    (sections.map Prod.fst).Nodup ∧ ∀ e ∈ sections, HasDistinctKeys e.2 := by
  obtain ⟨⟨entries, rest⟩, hbody, hok⟩ := bind_eq_ok.1 hok
  obtain ⟨all, htables, hok⟩ := bind_eq_ok.1 hok
  have hput (es : Entries) (path : List Text) (v : Value) (r : Entries) (h : es.AreTidy) (hv : HasDistinctKeys v)
      (hok : outermost (es.put true path v) = .ok r) : r.AreTidy := Entries.areTidy_put h hv (eq_ok_of_outermost hok)
  have hall := areTidy_takeTables (areTidy_takeBody hput Entries.areTidy_nil hbody) htables
  exact ⟨Entries.nodup_valuesWithin hok, Entries.hasDistinctKeys_valuesWithin hall hok⟩

/-- The reader of this library reads tables. -/
theorem isTabular_builtinReader : builtinReader.IsTabular := fun hok => nodup_read (mapError_eq_ok.1 hok)

end SpecAtlas.Toml
