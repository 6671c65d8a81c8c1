import BuildPipeline.Proofs.Sequencing
import BuildPipeline.Proofs.Value.Keyed
import BuildPipeline.Toml.Document

set_option autoImplicit false

namespace BuildPipeline.Toml

open Sequencing Value

theorem isKeyed_of_readMoment? {cs rest : List Char} {read : Except Fault Value} {v : Value}
    (found : readMoment? cs = some (read, rest)) (value : read = .ok v) : v.IsKeyed := by
  subst value
  simp only [readMoment?] at found
  split at found
  · split at found
    · split at found <;>
      · obtain ⟨checked, -⟩ := Prod.mk.inj (Option.some.inj found)
        split at checked <;> cases checked
        exact trivial
    · obtain ⟨checked, -⟩ := Prod.mk.inj (Option.some.inj found)
      split at checked <;> cases checked
      exact trivial
  · obtain ⟨⟨clock, rest'⟩, -, equal⟩ := Option.map_eq_some_iff.1 found
    cases equal
    exact trivial

theorem isKeyed_of_readDecimal? {cs rest : List Char} {read : Except Fault Value} {v : Value}
    (found : readDecimal? cs = some (read, rest)) (value : read = .ok v) : v.IsKeyed := by
  subst value
  unfold readDecimal? at found
  obtain ⟨⟨whole, rest'⟩, -, found⟩ := Option.bind_eq_some_iff.1 found
  dsimp only at found
  split at found
  · cases found
    exact trivial
  · split at found
    · split at found <;> cases found
      exact trivial
    · cases found
      exact trivial

theorem isKeyed_of_readNumber? {cs rest : List Char} {read : Except Fault Value} {v : Value}
    (found : readNumber? cs = some (read, rest)) (value : read = .ok v) : v.IsKeyed := by
  unfold readNumber? at found
  split at found
  · cases found
    cases value
    exact trivial
  · exact isKeyed_of_readDecimal? found value

theorem isKeyed_of_specialNumber? {cs rest : List Char} {v : Value}
    (found : specialNumber? cs = some (v, rest)) : v.IsKeyed := by
  unfold specialNumber? at found
  split at found
  split at found <;> cases found <;> exact trivial

def KeepsKeyed (change : Mapping → Except Fault Mapping) : Prop :=
  ∀ ⦃table changed⦄, MembersKeyed table → change table = .ok changed → MembersKeyed changed

theorem keepsKeyed_ok : KeepsKeyed .ok := by
  intro table changed keyed same
  cases same
  exact keyed

theorem keepsKeyed_addNew (part : String) {value : Value} (keyed : value.IsKeyed) :
    KeepsKeyed (addNew part value) := by
  intro table changed before added
  unfold addNew at added
  split at added <;> cases added
  exact membersKeyed_insert before _ keyed

theorem allKeyed_concat {items : List Value} {item : Value} (items' : AllKeyed items)
    (item' : item.IsKeyed) : AllKeyed (items ++ [item]) := by
  rw [allKeyed_iff] at items' ⊢
  intro v there
  rcases List.mem_append.1 there with there | there
  · exact items' v there
  · rwa [List.mem_singleton.1 there]

theorem keepsKeyed_appendTable (part : String) : KeepsKeyed (appendTable part) := by
  intro table changed before appended
  have empty : (Value.map []).IsKeyed := membersKeyed_nil
  unfold appendTable at appended
  split at appended
  · cases appended
    exact membersKeyed_insert before _ ⟨empty, trivial⟩
  next items there =>
    cases appended
    exact membersKeyed_insert before _ (allKeyed_concat (isKeyed_of_get? before there) empty)
  · cases appended

theorem keepsKeyed_updateTable {throughLists : Bool} {change : Mapping → Except Fault Mapping}
    (keeps : KeepsKeyed change) (key : Key) : KeepsKeyed (updateTable throughLists change key) := by
  induction key with
  | nil => exact keeps
  | cons part rest ih =>
    intro table changed before updated
    unfold updateTable at updated
    dsimp only at updated
    -- A missing table is made, a table is changed, and of a list of tables the last one is.
    split at updated
    · obtain ⟨inner, made, updated⟩ := bind_eq_ok_iff.1 updated
      cases updated
      exact membersKeyed_insert before _ (ih membersKeyed_nil made)
    next inner there =>
      obtain ⟨inner', made, updated⟩ := bind_eq_ok_iff.1 updated
      cases updated
      exact membersKeyed_insert before _ (ih (isKeyed_of_get? before there) made)
    next items there =>
      have items' : ∀ item ∈ items, item.IsKeyed := allKeyed_iff.1 (isKeyed_of_get? before there)
      split at updated
      next inner last =>
        obtain ⟨inner', made, updated⟩ := bind_eq_ok_iff.1 updated
        cases updated
        have last' := ih (items' _ (List.mem_of_getLast? last)) made
        have before' : AllKeyed items.dropLast :=
          allKeyed_iff.2 fun item first => items' item ((List.dropLast_sublist items).subset first)
        exact membersKeyed_insert before _ (allKeyed_concat before' last')
      · cases updated
    · cases updated

mutual

theorem isKeyed_of_readValue : ∀ {fuel : Nat} {cs rest : List Char} {v : Value},
    readValue fuel cs = .ok (v, rest) → v.IsKeyed
  | 0, _, _, _, read => by cases read
  | fuel + 1, cs, rest, v, read => by
    unfold readValue at read
    split at read
    · obtain ⟨s, -, equal⟩ := map_eq_ok_iff.1 read
      cases equal
      exact trivial
    · obtain ⟨s, -, equal⟩ := map_eq_ok_iff.1 read
      cases equal
      exact trivial
    · cases read
      exact trivial
    · cases read
      exact trivial
    · obtain ⟨skipped, -, read⟩ := bind_eq_ok_iff.1 read
      obtain ⟨⟨items, rest'⟩, inner, read⟩ := bind_eq_ok_iff.1 read
      cases read
      exact allKeyed_of_readItems inner
    · split at read
      · cases read
        exact membersKeyed_nil
      · obtain ⟨⟨members, rest'⟩, inner, read⟩ := bind_eq_ok_iff.1 read
        cases read
        exact membersKeyed_of_readMembers membersKeyed_nil inner
    · split at read
      next number rest' found =>
        obtain ⟨w, value, equal⟩ := map_eq_ok_iff.1 read
        cases equal
        rcases Option.or_eq_some_iff.1 found with moment | ⟨-, number⟩
        · exact isKeyed_of_readMoment? moment value
        · exact isKeyed_of_readNumber? number value
      · split at read
        next special =>
          cases read
          exact isKeyed_of_specialNumber? special
        · cases read

theorem allKeyed_of_readItems : ∀ {fuel : Nat} {cs rest : List Char} {items : List Value},
    readItems fuel cs = .ok (items, rest) → AllKeyed items
  | 0, _, _, _, read => by cases read
  | fuel + 1, cs, rest, items, read => by
    unfold readItems at read
    split at read
    · cases read
    · cases read
      exact trivial
    next fuel' _ _ =>
      obtain ⟨⟨item, rest'⟩, first, read⟩ := bind_eq_ok_iff.1 read
      obtain ⟨skipped, -, read⟩ := bind_eq_ok_iff.1 read
      split at read
      · cases read
        exact ⟨isKeyed_of_readValue first, trivial⟩
      · obtain ⟨skipped', -, read⟩ := bind_eq_ok_iff.1 read
        obtain ⟨⟨others, rest''⟩, later, read⟩ := bind_eq_ok_iff.1 read
        cases read
        exact ⟨isKeyed_of_readValue first, allKeyed_of_readItems later⟩
      · cases read

theorem membersKeyed_of_readMembers : ∀ {fuel : Nat} {closed : List Key} {table : Mapping}
    {cs rest : List Char} {m : Mapping}, MembersKeyed table →
    readMembers fuel closed table cs = .ok (m, rest) → MembersKeyed m
  | 0, _, _, _, _, _, _, read => by cases read
  | fuel + 1, closed, table, cs, rest, m, keyed, read => by
    unfold readMembers at read
    obtain ⟨⟨key, value, rest'⟩, pair, read⟩ := bind_eq_ok_iff.1 read
    dsimp only at read
    split at read
    · cases read
    · obtain ⟨changed, updated, read⟩ := bind_eq_ok_iff.1 read
      have adds := keepsKeyed_addNew (lastPart key) (isKeyed_of_readPair pair)
      have more := keepsKeyed_updateTable adds key.dropLast keyed updated
      split at read
      · cases read
        exact more
      · exact membersKeyed_of_readMembers more read
      · cases read

theorem isKeyed_of_readPair : ∀ {fuel : Nat} {cs rest : List Char} {key : Key} {v : Value},
    readPair fuel cs = .ok (key, v, rest) → v.IsKeyed
  | 0, _, _, _, _, read => by cases read
  | fuel + 1, cs, rest, key, v, read => by
    unfold readPair at read
    obtain ⟨⟨key', rest'⟩, -, read⟩ := bind_eq_ok_iff.1 read
    dsimp only at read
    split at read
    · obtain ⟨⟨w, rest''⟩, value, equal⟩ := map_eq_ok_iff.1 read
      cases equal
      exact isKeyed_of_readValue value
    · cases read

end

variable {d d' : Draft} {cs rest : List Char}

theorem Draft.keyed_openTable (keyed : MembersKeyed d.table) {key : Key}
    (opened : d.openTable key = .ok d') : MembersKeyed d'.table := by
  unfold openTable at opened
  dsimp only at opened
  split at opened
  · cases opened
  · obtain ⟨table, updated, opened⟩ := bind_eq_ok_iff.1 opened
    cases opened
    exact keepsKeyed_updateTable keepsKeyed_ok key keyed updated

theorem Draft.keyed_openListTable (keyed : MembersKeyed d.table) {key : Key}
    (opened : d.openListTable key = .ok d') : MembersKeyed d'.table := by
  unfold openListTable at opened
  dsimp only at opened
  split at opened
  · cases opened
  · obtain ⟨table, updated, opened⟩ := bind_eq_ok_iff.1 opened
    cases opened
    exact keepsKeyed_updateTable (keepsKeyed_appendTable _) _ keyed updated

theorem Draft.keyed_add (keyed : MembersKeyed d.table) {key : Key} {value : Value}
    (value' : value.IsKeyed) (added : d.add key value = .ok d') : MembersKeyed d'.table := by
  unfold add at added
  dsimp only at added
  split at added
  · cases added
  · obtain ⟨table, updated, added⟩ := bind_eq_ok_iff.1 added
    cases added
    exact keepsKeyed_updateTable (keepsKeyed_addNew _ value') _ keyed updated

theorem keyed_readStatement (keyed : MembersKeyed d.table)
    (read : readStatement d cs = .ok (d', rest)) : MembersKeyed d'.table := by
  unfold readStatement at read
  split at read
  · obtain ⟨⟨key, rest'⟩, -, read⟩ := bind_eq_ok_iff.1 read
    dsimp only at read
    split at read
    · obtain ⟨opened, done, equal⟩ := map_eq_ok_iff.1 read
      cases equal
      exact Draft.keyed_openListTable keyed done
    · cases read
  · obtain ⟨⟨key, rest'⟩, -, read⟩ := bind_eq_ok_iff.1 read
    dsimp only at read
    split at read
    · obtain ⟨opened, done, equal⟩ := map_eq_ok_iff.1 read
      cases equal
      exact Draft.keyed_openTable keyed done
    · cases read
  · cases read
    exact keyed
  · split at read
    · cases read
      exact keyed
    · obtain ⟨⟨key, value, rest'⟩, pair, read⟩ := bind_eq_ok_iff.1 read
      obtain ⟨added, done, equal⟩ := map_eq_ok_iff.1 read
      cases equal
      exact Draft.keyed_add keyed (isKeyed_of_readPair pair) done

theorem keyed_readStatements {fuel : Nat} {m : Mapping} (keyed : MembersKeyed d.table)
    (read : readStatements fuel d cs = .ok m) : MembersKeyed m := by
  induction fuel generalizing d cs with
  | zero =>
    cases read
    exact keyed
  | succ fuel ih =>
    unfold readStatements at read
    obtain ⟨⟨d', rest⟩, statement, read⟩ := bind_eq_ok_iff.1 read
    obtain ⟨skipped, -, read⟩ := bind_eq_ok_iff.1 read
    have more := keyed_readStatement keyed statement
    split at read
    · cases read
      exact more
    · exact ih more read
    · cases read

theorem keyed_read {m : Mapping} (read : Toml.read cs = .ok m) : MembersKeyed m :=
  keyed_readStatements membersKeyed_nil read

end BuildPipeline.Toml
