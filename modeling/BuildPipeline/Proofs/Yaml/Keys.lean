import BuildPipeline.Proofs.Sequencing
import BuildPipeline.Proofs.Value.Keyed
import BuildPipeline.Yaml.Document

set_option autoImplicit false

namespace BuildPipeline.Yaml

open Sequencing Value

theorem isKeyed_of_scalarValue {tag : Tag} {cs : List Char} {v : Value}
    (read : scalarValue tag cs = .ok v) : v.IsKeyed := by
  unfold scalarValue at read
  dsimp only at read
  split at read
  · cases read
    exact trivial
  · split at read <;> cases read
    exact trivial
  · obtain ⟨n, -, rfl⟩ := map_eq_ok_iff.1 read
    exact trivial
  · obtain ⟨x, -, rfl⟩ := map_eq_ok_iff.1 read
    exact trivial
  · cases read
    exact trivial
  · split at read <;> cases read
    exact trivial
  · split at read
    · obtain ⟨m, -, rfl⟩ := map_eq_ok_iff.1 (mapError_eq_ok_iff.1 read)
      exact trivial
    · cases read
  · cases read

def EntriesKeyed (entries : Except Fault (List Entry)) : Prop :=
  ∀ es, entries = .ok es → ∀ e ∈ es, e.value.IsKeyed

structure Reading.IsKeyed (r : Reading) : Prop where
  value : r.value.IsKeyed
  entries : EntriesKeyed r.entries
  merged : EntriesKeyed r.merged

theorem entriesKeyed_error (f : Fault) : EntriesKeyed (.error f) := by
  intro es read
  cases read

theorem entriesKeyed_nil : EntriesKeyed (.ok []) := by
  intro es read
  cases read
  simp

theorem Reading.isKeyed_ofShape (tag : Tag) : (Reading.ofShape tag).IsKeyed :=
  ⟨trivial, entriesKeyed_error _, entriesKeyed_error _⟩

theorem Reading.isKeyed_ofScalar (tag : Tag) (text : List Char) :
    (Reading.ofScalar tag text).IsKeyed := by
  unfold ofScalar
  split
  · exact isKeyed_ofShape tag
  · split
    next v read => exact ⟨isKeyed_of_scalarValue read, entriesKeyed_error _, entriesKeyed_error _⟩
    next f _ => exact ⟨trivial, entriesKeyed_error _, entriesKeyed_error _⟩

theorem Reading.isKeyed_ofEnclosing (tag : Tag) : (Reading.ofEnclosing tag).IsKeyed := by
  unfold ofEnclosing
  dsimp only
  split
  · exact ⟨trivial, entriesKeyed_nil, entriesKeyed_nil⟩
  · split
    · exact ⟨trivial, entriesKeyed_nil, entriesKeyed_nil⟩
    · exact ⟨trivial, entriesKeyed_error _, entriesKeyed_error _⟩

theorem entriesKeyed_mergedItems {items : List Reading} (keyed : ∀ r ∈ items, r.IsKeyed) :
    EntriesKeyed (mergedItems items) := by
  intro es read e there
  obtain ⟨parts, mapped, rfl⟩ := map_eq_ok_iff.1 read
  obtain ⟨part, member, inside⟩ := List.mem_flatten.1 there
  obtain ⟨r, source, given⟩ := exists_of_mem_of_mapM_eq_ok mapped part member
  exact (keyed r (List.mem_reverse.1 source)).entries part given e inside

theorem Reading.isKeyed_ofItems (tag : Tag) {items : List Reading}
    (keyed : ∀ r ∈ items, r.IsKeyed) : (Reading.ofItems tag items).IsKeyed := by
  have merged := entriesKeyed_mergedItems keyed
  unfold ofItems
  dsimp only
  split
  · refine ⟨?_, entriesKeyed_error _, merged⟩
    rw [Value.IsKeyed, allKeyed_iff]
    simpa using fun r there => (keyed r there).value
  · exact ⟨trivial, entriesKeyed_error _, merged⟩

theorem isKeyed_entriesValue (tag : Tag) {es : List Entry} (keyed : ∀ e ∈ es, e.value.IsKeyed) :
    (entriesValue tag es).IsKeyed := by
  unfold entriesValue
  dsimp only
  split
  · exact trivial
  · refine membersKeyed_insertAll membersKeyed_nil ?_
    simpa using keyed

theorem Reading.isKeyed_ofEntries (tag : Tag) {entries : Except Fault (List Entry)}
    (keyed : EntriesKeyed entries) (text : Option (List Char)) :
    (Reading.ofEntries tag entries text).IsKeyed := by
  refine ⟨?_, keyed, keyed⟩
  unfold ofEntries
  dsimp only
  split
  · split
    · exact membersKeyed_nil
    next es => exact isKeyed_entriesValue tag (keyed es rfl)
  · split
    · split
      · exact trivial
      · exact (isKeyed_ofScalar _ _).value
    · exact trivial

mutual

theorem isKeyed_reading : ∀ n : Node, n.reading.IsKeyed
  | .scalar tag text => by
    rw [Node.reading]
    exact Reading.isKeyed_ofScalar tag text
  | .sequence tag items => by
    have inner := isKeyed_of_mem_readings items
    rw [Node.reading]
    split
    · refine ⟨?_, entriesKeyed_error _, entriesKeyed_mergedItems inner⟩
      exact allKeyed_iff.2 (isKeyed_of_mem_pairReadings items)
    · exact Reading.isKeyed_ofItems tag inner
  | .mapping tag members => by
    rw [Node.reading]
    refine Reading.isKeyed_ofEntries tag (fun es read e there => ?_) _
    obtain ⟨m, collected, rfl⟩ := map_eq_ok_iff.1 read
    exact isKeyed_of_memberReadings members m collected e there
  | .enclosing tag => by
    rw [Node.reading]
    exact Reading.isKeyed_ofEnclosing tag

theorem isKeyed_of_mem_readings : ∀ ns : List Node, ∀ r ∈ readings ns, r.IsKeyed
  | [] => by simp [readings]
  | n :: ns => by
    rw [readings, List.forall_mem_cons]
    exact ⟨isKeyed_reading n, isKeyed_of_mem_readings ns⟩

theorem isKeyed_of_mem_pairReadings : ∀ ns : List Node, ∀ v ∈ (pairReadings ns).filterMap
    (fun pair => pair.map fun p => Value.tuple [p.1.value, p.2.value]), v.IsKeyed
  | [] => by simp [pairReadings]
  | .mapping _ [(key, value)] :: ns => by
    have pair : (Value.tuple [key.reading.value, value.reading.value]).IsKeyed :=
      ⟨(isKeyed_reading key).value, (isKeyed_reading value).value, trivial⟩
    rw [pairReadings, List.filterMap_cons]
    exact List.forall_mem_cons.2 ⟨pair, isKeyed_of_mem_pairReadings ns⟩
  | .scalar .. :: ns | .sequence .. :: ns | .enclosing _ :: ns | .mapping _ [] :: ns
  | .mapping _ (_ :: _ :: _) :: ns => by
    rw [pairReadings]
    · exact isKeyed_of_mem_pairReadings ns
    · simp

theorem isKeyed_of_memberReadings : ∀ (members : List (Node × Node)) (m : Members),
    memberReadings members = .ok m → ∀ e ∈ m.merged ++ m.own, e.value.IsKeyed
  | [], m, read => by
    cases read
    simp
  | (key, value) :: rest, m, read => by
    have inner := isKeyed_reading value
    rw [memberReadings] at read
    obtain ⟨m', later, read⟩ := bind_eq_ok_iff.1 read
    have others := isKeyed_of_memberReadings rest m' later
    simp only [List.forall_mem_append] at others ⊢
    split at read
    · obtain ⟨es, given, rfl⟩ := map_eq_ok_iff.1 read
      exact ⟨List.forall_mem_append.2 ⟨inner.merged es given, others.1⟩, others.2⟩
    · split at read <;> cases read <;>
        exact ⟨others.1, List.forall_mem_cons.2 ⟨inner.value, others.2⟩⟩

end

theorem isKeyed_of_read {cs : List Char} {v : Value} (read : Yaml.read cs = .ok v) :
    v.IsKeyed := by
  unfold Yaml.read at read
  split at read
  · cases read
  · obtain ⟨found, -, read⟩ := bind_eq_ok_iff.1 read
    split at read
    · cases read
      exact trivial
    next n =>
      unfold Reading.result at read
      split at read <;> cases read
      exact (isKeyed_reading n).value

end BuildPipeline.Yaml
