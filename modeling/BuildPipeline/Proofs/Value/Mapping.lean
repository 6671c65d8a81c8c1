import BuildPipeline.Proofs.Value.Keys
import Mathlib.Data.List.Nodup

set_option autoImplicit false

namespace BuildPipeline

namespace Mapping

open Value

theorem get?_congr {k key : Value} (same : k.sameKey key = true) (m : Mapping) :
    m.get? k = m.get? key := by
  have equal (member : Value × Value) : member.1.sameKey k = member.1.sameKey key := by
    rw [Bool.eq_iff_iff]
    exact ⟨fun first => sameKey_trans first same, fun first => sameKey_trans first (sameKey_symm same)⟩
  simp only [get?, equal]

theorem get?_cons (k v : Value) (rest : Mapping) (key : Value) :
    Mapping.get? ((k, v) :: rest) key = if k.sameKey key then some v else rest.get? key := by
  cases same : k.sameKey key <;> simp [get?, same]

theorem get?_insert (m : Mapping) (k v key : Value) :
    (m.insert k v).get? key = if k.sameKey key then some v else m.get? key := by
  induction m with
  | nil => rw [insert, get?_cons]
  | cons member rest ih =>
    obtain ⟨first, value⟩ := member
    rw [insert]
    by_cases same : first.sameKey k = true
    · have equal : first.sameKey key = k.sameKey key := by
        rw [Bool.eq_iff_iff]
        exact ⟨sameKey_trans (sameKey_symm same), sameKey_trans same⟩
      rw [if_pos same, get?_cons, get?_cons, equal]
      split <;> rfl
    · rw [if_neg same, get?_cons, get?_cons, ih]
      by_cases here : first.sameKey key = true
      · have other : ¬ k.sameKey key = true := fun also =>
          same (sameKey_trans here (sameKey_symm also))
        rw [if_pos here, if_neg other, if_pos here]
      · rw [if_neg here, if_neg here]

theorem contains_eq (m : Mapping) (key : Value) : m.contains key = (m.get? key).isSome := by
  rw [Bool.eq_iff_iff, contains, List.any_eq_true, get?, Option.isSome_map, List.find?_isSome]

theorem insert_of_get?_eq_none {m : Mapping} {key : Value} (absent : m.get? key = none)
    (v : Value) : m.insert key v = m ++ [(key, v)] := by
  induction m with
  | nil => rfl
  | cons member rest ih =>
    obtain ⟨k, w⟩ := member
    rw [get?_cons] at absent
    split at absent
    · cases absent
    next other =>
      rw [insert, if_neg other, ih absent]
      rfl

theorem insert_of_get?_eq_some {m : Mapping} {key v : Value} (there : m.get? key = some v) :
    m.insert key v = m := by
  induction m with
  | nil => cases there
  | cons member rest ih =>
    obtain ⟨k, w⟩ := member
    rw [get?_cons] at there
    rw [insert]
    split at there
    next same =>
      cases there
      rw [if_pos same]
    next other => rw [if_neg other, ih there]

theorem keys_insert (m : Mapping) (k v : Value) :
    (m.insert k v).keys = if m.contains k then m.keys else m.keys ++ [k] := by
  induction m with
  | nil => rfl
  | cons member rest ih =>
    obtain ⟨first, value⟩ := member
    rw [insert]
    by_cases same : first.sameKey k = true
    · simp [same, contains, keys]
    · have onlyLater : Mapping.contains ((first, value) :: rest) k = Mapping.contains rest k := by
        simp [contains, same]
      rw [if_neg same, onlyLater]
      simp only [keys, List.map_cons] at ih ⊢
      rw [ih]
      split <;> rfl

variable {m : Mapping} {k key : String} {v : Value}

theorem get?_str (m : Mapping) (key : String) :
    m.get? (.str key) = (m.find? fun member => member.1 = .str key).map (·.2) := by
  have same (member : Value × Value) :
      member.1.sameKey (.str key) = decide (member.1 = .str key) := by
    rw [Bool.eq_iff_iff, sameKey_str_iff, decide_eq_true_iff]
  simp only [get?, same]

theorem get?_insert_str (m : Mapping) (k : String) (v : Value) (key : String) :
    (m.insert (.str k) v).get? (.str key) = if k = key then some v else m.get? (.str key) := by
  simp only [get?_insert, sameKey_str_iff, Value.str.injEq]

theorem get?_insertAll_str (m : Mapping) {members : List (Value × Value)}
    (texts : ∀ member ∈ members, ∃ name, member.1 = .str name) (key : String) :
    (m.insertAll members).get? (.str key) =
      ((members.reverse.find? fun member => member.1 = .str key).map (·.2)).or
        (m.get? (.str key)) := by
  induction members generalizing m with
  | nil => rfl
  | cons member rest ih =>
    simp only [List.mem_cons, forall_eq_or_imp] at texts
    obtain ⟨⟨name, first⟩, later⟩ := texts
    have step : m.insertAll (member :: rest) = (m.insert member.1 member.2).insertAll rest := rfl
    rw [step, ih _ later, first, get?_insert_str, List.reverse_cons, List.find?_append]
    cases found : rest.reverse.find? fun member => member.1 = .str key with
    | some last => simp
    | none => by_cases same : name = key <;> simp [first, same]

/-- A mapping whose keys are texts, each of which comes once. -/
structure IsRecord (m : Mapping) : Prop where
  texts : ∀ member ∈ m, ∃ name, member.1 = .str name
  distinct : m.keys.Nodup

theorem IsRecord.nil : IsRecord [] :=
  ⟨by simp, List.nodup_nil⟩

theorem contains_str_iff : m.contains (.str k) = true ↔ .str k ∈ m.keys := by
  simp [contains, keys, sameKey_str_iff]

theorem keys_insert_str (m : Mapping) (k : String) (v : Value) :
    (m.insert (.str k) v).keys = if .str k ∈ m.keys then m.keys else m.keys ++ [.str k] := by
  simp only [keys_insert, contains_str_iff]

theorem IsRecord.of_keys {m : Mapping} (texts : ∀ key ∈ m.keys, ∃ name, key = .str name)
    (distinct : m.keys.Nodup) : m.IsRecord :=
  ⟨fun member there => texts member.1 (List.mem_map_of_mem there), distinct⟩

theorem IsRecord.of_mem_keys (record : m.IsRecord) {key : Value} (there : key ∈ m.keys) :
    ∃ name, key = .str name := by
  obtain ⟨member, found, rfl⟩ := List.mem_map.1 there
  exact record.texts member found

theorem IsRecord.insert (record : m.IsRecord) (k : String) (v : Value) :
    (m.insert (.str k) v).IsRecord := by
  refine .of_keys ?_ ?_ <;> rw [keys_insert_str]
  · intro key there
    split at there
    · exact record.of_mem_keys there
    · rcases List.mem_append.1 there with there | there
      · exact record.of_mem_keys there
      · exact ⟨k, List.mem_singleton.1 there⟩
  · split
    · exact record.distinct
    next absent =>
      refine List.nodup_append.2 ⟨record.distinct, List.nodup_singleton _, ?_⟩
      rintro key there other single rfl
      exact absent (List.mem_singleton.1 single ▸ there)

theorem IsRecord.insertAll (record : m.IsRecord) {members : List (Value × Value)}
    (texts : ∀ member ∈ members, ∃ name, member.1 = .str name) : (m.insertAll members).IsRecord := by
  induction members generalizing m with
  | nil => exact record
  | cons member rest ih =>
    simp only [List.mem_cons, forall_eq_or_imp] at texts
    obtain ⟨⟨name, first⟩, later⟩ := texts
    have step : m.insertAll (member :: rest) = (m.insert member.1 member.2).insertAll rest := rfl
    rw [step, first]
    exact ih (record.insert name member.2) later

theorem IsRecord.get?_eq_none (record : m.IsRecord) {key : Value} (other : ∀ name, key ≠ .str name) :
    m.get? key = none := by
  rw [get?, Option.map_eq_none_iff, List.find?_eq_none]
  intro member there same
  obtain ⟨name, text⟩ := record.texts member there
  rw [text] at same
  cases key <;> simp_all [sameKey, numeric]

end Mapping

end BuildPipeline
