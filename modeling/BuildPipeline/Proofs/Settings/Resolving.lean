import BuildPipeline.Proofs.Settings.Layers
import Mathlib.Data.List.Induction

set_option autoImplicit false

namespace BuildPipeline.Settings

open Mapping

variable {resolved : Mapping}

theorem keys_setMember (record : resolved.IsRecord) (key v : Value) :
    (setMember resolved key v).keys =
      if .str key.text ∈ resolved.keys then resolved.keys else resolved.keys ++ [.str key.text] := by
  rw [setMember]
  split
  next kept =>
    obtain ⟨-, there⟩ := Bool.and_eq_true_iff.1 kept
    obtain ⟨name, rfl⟩ : ∃ name, key = .str name := by
      by_contra other
      rw [contains_eq, record.get?_eq_none (not_exists.1 other)] at there
      cases there
    rw [Value.text, if_pos (contains_str_iff.1 there)]
  · exact keys_insert_str resolved key.text v

def isDecisive (entry : Value × Value) : Bool :=
  !entry.2.isNull || entry.1 != .str entry.1.text

theorem get?_setMember (record : resolved.IsRecord) (entry : Value × Value) (k : String) :
    (setMember resolved entry.1 entry.2).get? (.str k) =
      if entry.1.text = k then some (if isDecisive entry then entry.2 else resolved.member k)
      else resolved.get? (.str k) := by
  obtain ⟨key, v⟩ := entry
  by_cases text : key = .str key.text
  · have decided : isDecisive (key, v) = !v.isNull := by simp [isDecisive, ← text]
    have kept := get?_setMember_str resolved key.text v k
    rw [← text] at kept
    rw [decided, kept]
    by_cases same : key.text = k <;> cases v.isNull <;> simp [same]
  · have decided : isDecisive (key, v) = true := by simp [isDecisive, text]
    have other : ∀ name, key ≠ .str name := by
      rintro name rfl
      exact text rfl
    simp [setMember, contains_eq, record.get?_eq_none other, get?_insert_str, decided]

def entriesOf (layers : List (Option Mapping)) (k : String) : List (Value × Value) :=
  (layerMembers layers).filter (·.1.text = k)

def lastSet (entries : List (Value × Value)) : Value :=
  ((entries.reverse.find? (!·.2.isNull)).map (·.2)).getD .null

/-- After the last value set comes null under a key that is no text. -/
def Unsets (entries : List (Value × Value)) : Prop :=
  ∃ before entry after, entries = before ++ entry :: after ∧ (∃ set ∈ before, set.2 ≠ .null) ∧
    entry.1 ≠ .str entry.1.text ∧ entry.2 = .null ∧ ∀ later ∈ after, later.2 = .null

theorem resolveLayers_eq (layers : List (Option Mapping)) :
    resolveLayers layers = layOver [] (some (layerMembers layers)) := by
  rw [resolveLayers, layOver, layerMembers, Option.getD_some, List.foldl_flatMap]
  rfl

theorem layOver_concat (resolved members : Mapping) (entry : Value × Value) :
    layOver resolved (some (members ++ [entry])) =
      setMember (layOver resolved (some members)) entry.1 entry.2 :=
  List.foldl_concat ..

variable {members : Mapping}

theorem keys_layOver_nil (members : Mapping) :
    (layOver [] (some members)).keys = (members.map fun entry => Value.str entry.1.text).eraseDups := by
  induction members using List.reverseRecOn with
  | nil => rfl
  | append_singleton members entry ih =>
    rw [layOver_concat, keys_setMember (isRecord_layOver .nil (some members)), ih, List.map_append,
      List.eraseDups_append]
    simp only [List.mem_eraseDups]
    split
    next there => simp [List.removeAll, there]
    next new => simp [List.removeAll, new, List.eraseDups_cons]

def settled (entries : List (Value × Value)) : Value :=
  ((entries.reverse.find? isDecisive).map (·.2)).getD .null

theorem settled_concat (entries : List (Value × Value)) (entry : Value × Value) :
    settled (entries ++ [entry]) = if isDecisive entry then entry.2 else settled entries := by
  cases decided : isDecisive entry <;> simp [settled, decided]

theorem get?_layOver_entries (members : Mapping) (k : String) :
    (layOver [] (some members)).get? (.str k) =
      if (members.filter (·.1.text = k)).isEmpty then none
      else some (settled (members.filter (·.1.text = k))) := by
  induction members using List.reverseRecOn with
  | nil => rfl
  | append_singleton members entry ih =>
    have below : (layOver [] (some members)).member k = settled (members.filter (·.1.text = k)) := by
      rw [member, ih]
      split
      next empty => rw [List.isEmpty_iff.1 empty]; rfl
      · rfl
    -- The last member decides, or else what the members before it come to.
    rw [layOver_concat, get?_setMember (isRecord_layOver .nil (some members)), below, ih,
      List.filter_append]
    by_cases here : entry.1.text = k
    · simp [here, settled_concat]
    · have further : [entry].filter (·.1.text = k) = [] := by simp [here]
      rw [if_neg here, further, List.append_nil]

theorem isDecisive_iff {entry : Value × Value} :
    isDecisive entry = true ↔ entry.2 ≠ .null ∨ entry.1 ≠ .str entry.1.text := by
  simp [isDecisive, isNull_eq_false_iff]

theorem settled_eq_null {before after : List (Value × Value)} {entry : Value × Value}
    (other : entry.1 ≠ .str entry.1.text) (null : entry.2 = .null)
    (unset : ∀ later ∈ after, later.2 = .null) : settled (before ++ entry :: after) = .null := by
  have decided : isDecisive entry = true := isDecisive_iff.2 (.inr other)
  rw [settled, List.reverse_append, List.reverse_cons, List.append_assoc, List.find?_append]
  cases found : after.reverse.find? isDecisive with
  | none => simp [decided, null]
  | some later => exact unset later (List.mem_reverse.1 (List.mem_of_find?_eq_some found))

theorem lastSet_ne_null {entries : List (Value × Value)} {entry : Value × Value}
    (there : entry ∈ entries) (set : entry.2 ≠ .null) : lastSet entries ≠ .null := by
  have isSet : (entries.reverse.find? (!·.2.isNull)).isSome = true := by
    simpa [isNull_eq_false_iff] using ⟨entry.1, entry.2, there, set⟩
  obtain ⟨last, found⟩ := Option.isSome_iff_exists.1 isSet
  have kept := List.find?_some found
  simp only [lastSet, found, Option.map_some, Option.getD_some]
  simpa [isNull_eq_false_iff] using kept

theorem lastSet_of_unset {entries : List (Value × Value)}
    (unset : ∀ entry ∈ entries, entry.2 = .null) : lastSet entries = .null := by
  have none : entries.reverse.find? (!·.2.isNull) = none := by
    simpa [isNull_iff] using fun key v there => unset (key, v) there
  rw [lastSet, none]
  rfl

theorem lastSet_of_set {before after : List (Value × Value)} {entry : Value × Value}
    (set : entry.2 ≠ .null) (unset : ∀ later ∈ after, later.2 = .null) :
    lastSet (before ++ entry :: after) = entry.2 := by
  have none : after.reverse.find? (!·.2.isNull) = none := by
    simpa [isNull_iff] using fun key v there => unset (key, v) there
  simp [lastSet, List.find?_append, none, isNull_eq_false_iff.2 set]

theorem not_unsets_of_texts {entries : List (Value × Value)}
    (texts : ∀ entry ∈ entries, entry.1 = .str entry.1.text) : ¬ Unsets entries := by
  rintro ⟨before, entry, after, rfl, -, other, -⟩
  exact other (texts entry (by simp))

theorem settled_cases (entries : List (Value × Value)) :
    (∀ entry ∈ entries, entry.2 = .null) ∧ settled entries = .null ∨
      ∃ before entry after, entries = before ++ entry :: after ∧ isDecisive entry = true ∧
        (∀ later ∈ after, later.2 = .null) ∧ settled entries = entry.2 := by
  -- The members divide at the last decisive one, if there is one.
  have unset {entry : Value × Value} (undecided : ¬ isDecisive entry = true) : entry.2 = .null :=
    not_not.1 fun set => undecided (isDecisive_iff.2 (.inl set))
  cases found : entries.reverse.find? isDecisive with
  | none =>
    rw [List.find?_eq_none] at found
    refine .inl ⟨fun entry there => unset (found entry (List.mem_reverse.2 there)), ?_⟩
    rw [settled, List.find?_eq_none.2 found]
    rfl
  | some entry =>
    obtain ⟨decided, after, before, split, further⟩ := List.find?_eq_some_iff_append.1 found
    refine .inr ⟨before.reverse, entry, after.reverse, ?_, decided, fun later there => ?_, ?_⟩
    · simpa using congrArg List.reverse split
    · exact unset (by simpa using further later (List.mem_reverse.1 there))
    · rw [settled, found]
      rfl

theorem settled_eq_lastSet_iff (entries : List (Value × Value)) :
    settled entries = lastSet entries ↔ ¬ Unsets entries := by
  constructor
  · rintro same ⟨before, entry, after, rfl, ⟨set, there, value⟩, other, null, unset⟩
    rw [settled_eq_null other null unset] at same
    exact lastSet_ne_null (List.mem_append_left _ there) value same.symm
  · intro kept
    -- All members after the decisive one are null, and so is the value if that one is.
    obtain ⟨unset, value⟩ | ⟨before, entry, after, rfl, decided, unset, value⟩ :=
      settled_cases entries
    · rw [value, lastSet_of_unset unset]
    · by_cases null : entry.2 = .null
      · have other := (isDecisive_iff.1 decided).resolve_left (not_not.2 null)
        have nothing : ∀ earlier ∈ before, earlier.2 = .null := fun earlier there =>
          not_not.1 fun set =>
            kept ⟨before, entry, after, rfl, ⟨earlier, there, set⟩, other, null, unset⟩
        rw [value, null, lastSet_of_unset]
        simp only [List.forall_mem_append, List.forall_mem_cons]
        exact ⟨nothing, null, unset⟩
      · rw [value, lastSet_of_set null unset]

theorem resolve_eq_ok_iff {layers : List (Option Mapping)} {m : Mapping} :
    resolve layers = .ok m ↔ (∀ entry ∈ layerMembers layers, entry.1.isTooLong = false) ∧
      layOver [] (some (layerMembers layers)) = m := by
  rw [resolve, resolveLayers_eq]
  split
  next long =>
    obtain ⟨entry, there, long⟩ := List.any_eq_true.1 long
    simp only [reduceCtorEq, false_iff, not_and]
    exact fun short => by simp [short entry there] at long
  next short => simpa using fun _ => short

theorem contains_layOver_nil_iff {key : Value} :
    (layOver [] (some members)).contains key = true ↔ ∃ entry ∈ members, key = .str entry.1.text := by
  by_cases text : ∃ k, key = .str k
  · obtain ⟨k, rfl⟩ := text
    rw [contains_str_iff, keys_layOver_nil, List.mem_eraseDups, List.mem_map]
    simp only [eq_comm]
  · have none := (isRecord_layOver .nil (some members)).get?_eq_none (not_exists.1 text)
    rw [contains_eq, none]
    simpa using fun key' _ _ equal => text ⟨key'.text, equal⟩

/-- Layers resolve if each key has a text, to a mapping that has a key if the key of some member
prints so, in the order in which these first come. Its value is the last one set, or null where none
is, unless null under a key that is no text comes after it. -/
theorem resolve_by_key (layers : List (Option Mapping)) :
    ((∃ m, resolve layers = .ok m) ↔ ∀ entry ∈ layerMembers layers, entry.1.isTooLong = false) ∧
    ∀ m, resolve layers = .ok m →
      m.keys = ((layerMembers layers).map fun entry => Value.str entry.1.text).eraseDups ∧
      (∀ key, m.contains key = true ↔ ∃ entry ∈ layerMembers layers, key = .str entry.1.text) ∧
      ∀ k, m.contains (.str k) = true →
        (m.get? (.str k) = some (lastSet (entriesOf layers k)) ↔ ¬ Unsets (entriesOf layers k)) ∧
        (Unsets (entriesOf layers k) → m.get? (.str k) = some .null) := by
  constructor
  · simp only [resolve_eq_ok_iff, exists_and_left, exists_eq', and_true]
  · intro m resolved
    obtain ⟨-, rfl⟩ := resolve_eq_ok_iff.1 resolved
    refine ⟨keys_layOver_nil _, fun key => contains_layOver_nil_iff, fun k there => ?_⟩
    have value : (layOver [] (some (layerMembers layers))).get? (.str k) =
        some (settled (entriesOf layers k)) := by
      obtain ⟨entry, there, equal⟩ := contains_layOver_nil_iff.1 there
      have occurs : (entriesOf layers k).isEmpty = false := by
        rw [List.isEmpty_eq_false_iff_exists_mem]
        exact ⟨entry, List.mem_filter.2 ⟨there, by simpa using equal.symm⟩⟩
      rw [entriesOf] at occurs ⊢
      rw [get?_layOver_entries, occurs, if_neg (by simp)]
    rw [value, Option.some.injEq, settled_eq_lastSet_iff]
    refine ⟨Iff.rfl, ?_⟩
    rintro ⟨before, entry, after, split, -, other, null, unset⟩
    rw [split, settled_eq_null other null unset]

def twoKeys : List (Option Mapping) :=
  [some [(.str "1", .str "a"), (.str "x", .null)], none, some [(.int 1, .null), (.str "x", .int 2)],
    some [(.str "x", .null)]]

theorem resolve_by_key_twoKeys :
    ∃ m, resolve twoKeys = .ok m ∧ m.keys = [.str "1", .str "x"] ∧
      m.contains (.int 1) = false ∧ m.get? (.str "1") = some .null ∧
      m.get? (.str "x") = some (.int 2) := by
  have resolved : resolve twoKeys = .ok [(.str "1", .null), (.str "x", .int 2)] := by
    decide +kernel
  obtain ⟨-, all⟩ := resolve_by_key twoKeys
  obtain ⟨keys, contains, values⟩ := all _ resolved
  have first : entriesOf twoKeys "1" = [(.str "1", .str "a")] ++ (.int 1, .null) :: [] := by
    decide +kernel
  have second : entriesOf twoKeys "x" =
      [(.str "x", .null), (.str "x", .int 2), (.str "x", .null)] := by
    decide +kernel
  refine ⟨_, resolved, keys.trans (by decide +kernel), ?_, (values "1" (by decide)).2 ?_,
    ((values "x" (by decide)).1.2 ?_).trans (by rw [second]; rfl)⟩
  · rw [← Bool.not_eq_true, contains]
    simp
  · exact ⟨_, _, _, first, by simp, by simp, rfl, by simp⟩
  · refine not_unsets_of_texts ?_
    rw [second]
    decide

end BuildPipeline.Settings
