import BuildPipeline.Proofs.Value.Mapping
import BuildPipeline.Settings.Layers

set_option autoImplicit false

namespace BuildPipeline.Settings

open Mapping

variable {resolved : Mapping}

theorem isNull_iff {v : Value} : v.isNull = true ↔ v = .null := by
  cases v <;> simp [Value.isNull]

theorem isNull_eq_false_iff {v : Value} : v.isNull = false ↔ v ≠ .null := by
  rw [← Bool.not_eq_true, isNull_iff]

theorem get?_setMember_str (resolved : Mapping) (k : String) (v : Value) (key : String) :
    (setMember resolved (.str k) v).get? (.str key) =
      if k = key then some (if v.isNull then resolved.member k else v)
      else resolved.get? (.str key) := by
  rw [setMember, contains_eq]
  by_cases null : v.isNull = true
  · cases there : resolved.get? (.str k) with
    | none => simp [get?_insert_str, member, there, isNull_iff.1 null, Value.text]
    | some w =>
      by_cases same : k = key
      · simp [null, member, there, ← same]
      · simp [null, same]
  · simp [null, get?_insert_str, Value.text]

theorem isRecord_setMember (record : resolved.IsRecord) (key v : Value) :
    (setMember resolved key v).IsRecord := by
  rw [setMember]
  split
  · exact record
  · exact record.insert key.text v

variable {layer : Mapping}

theorem get?_layOver_str (resolved : Mapping) (record : layer.IsRecord) (key : String) :
    (layOver resolved (some layer)).get? (.str key) =
      match layer.get? (.str key) with
      | none => resolved.get? (.str key)
      | some v => some (if v.isNull then resolved.member key else v) := by
  obtain ⟨texts, distinct⟩ := record
  simp only [layOver, Option.getD_some]
  induction layer generalizing resolved with
  | nil => rfl
  | cons first rest ih =>
    simp only [List.mem_cons, forall_eq_or_imp] at texts
    simp only [keys, List.map_cons, List.nodup_cons] at distinct
    obtain ⟨⟨name, text⟩, later⟩ := texts
    obtain ⟨only, distinct⟩ := distinct
    rw [List.foldl_cons, ih _ later distinct, text]
    by_cases same : name = key
    · -- The names of a record are distinct, so that no later member replaces this one.
      have absent : Mapping.get? rest (.str key) = none := by
        rw [get?_str, Option.map_eq_none_iff, List.find?_eq_none]
        intro member there equal
        rw [text, same] at only
        exact only (List.mem_map.2 ⟨member, there, by simpa using equal⟩)
      have here : Mapping.get? (first :: rest) (.str key) = some first.2 := by
        simp [get?_str, text, same]
      rw [absent, here]
      simp [get?_setMember_str, same]
    · have further : Mapping.get? (first :: rest) (.str key) = Mapping.get? rest (.str key) := by
        simp [get?_str, text, same]
      rw [further]
      simp [get?_setMember_str, same, member]

theorem get?_layOver_nil (record : layer.IsRecord) (key : String) :
    (layOver [] (some layer)).get? (.str key) = layer.get? (.str key) := by
  rw [get?_layOver_str [] record]
  cases layer.get? (.str key) with
  | none => rfl
  | some v => cases v <;> rfl

theorem isRecord_layOver (record : resolved.IsRecord) (layer : Option Mapping) :
    (layOver resolved layer).IsRecord := by
  rw [layOver]
  induction layer.getD [] generalizing resolved with
  | nil => exact record
  | cons first rest ih =>
    rw [List.foldl_cons]
    exact ih (isRecord_setMember record first.1 first.2)

end BuildPipeline.Settings
