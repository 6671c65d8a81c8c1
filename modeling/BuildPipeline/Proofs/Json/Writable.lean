import BuildPipeline.Json.Writer
import BuildPipeline.Proofs.Sequencing

set_option autoImplicit false

namespace BuildPipeline

theorem Number.isTooLong_of_lt_ten {n : Int} (small : n.natAbs < 10) : isTooLong n = false := by
  have many (k : Nat) (some : k ≠ 0) : 10 ≤ Nat.pow 10 k := Nat.le_self_pow some 10
  exact decide_eq_false (Nat.not_le.2 (Nat.lt_of_lt_of_le small (many maxDigits (by decide))))

namespace Value

mutual

/-- Null, truth values, numbers, texts, lists and mappings with texts as keys, where no whole
number has more digits than can be read. -/
def IsJson : Value → Prop
  | .null | .bool _ | .float _ | .str _ => True
  | .int n => Number.isTooLong n = false
  | .list items => AllJson items
  | .map members => MembersJson members
  | .bytes _ | .moment _ | .tuple _ | .set _ | .enclosing _ => False

def AllJson : List Value → Prop
  | [] => True
  | v :: vs => v.IsJson ∧ AllJson vs

def MembersJson : List (Value × Value) → Prop
  | [] => True
  | (k, v) :: rest => (∃ name, k = .str name) ∧ v.IsJson ∧ MembersJson rest

end

theorem membersJson_append {a b : List (Value × Value)} :
    MembersJson (a ++ b) ↔ MembersJson a ∧ MembersJson b := by
  induction a with
  | nil => simp [MembersJson]
  | cons member a ih => simp [MembersJson, ih, and_assoc]

theorem isJson_of_mem {m : Mapping} (json : MembersJson m) : ∀ member ∈ m, member.2.IsJson := by
  induction m with
  | nil => simp
  | cons member m ih =>
    rw [List.forall_mem_cons]
    exact ⟨json.2.1, ih json.2.2⟩

theorem isJson_of_get? {m : Mapping} {key v : Value} (json : MembersJson m)
    (found : m.get? key = some v) : v.IsJson :=
  Mapping.of_get? (isJson_of_mem json) found

theorem isJson_member {m : Mapping} (json : MembersJson m) (key : String) :
    (m.member key).IsJson := by
  cases found : m.get? (.str key) with
  | none => simp [Mapping.member, found, IsJson]
  | some v => simpa [Mapping.member, found] using isJson_of_get? json found

mutual

theorem isTooLong_of_isJson : ∀ {v : Value}, v.IsJson → v.isTooLong = false
  | .null, _ | .bool _, _ | .float _, _ | .str _, _ => rfl
  | .int _, json => json
  | .list _, json => anyTooLong_of_allJson json
  | .map _, json => anyMemberTooLong_of_membersJson json

theorem anyTooLong_of_allJson : ∀ {items : List Value}, AllJson items → anyTooLong items = false
  | [], _ => rfl
  | v :: vs, json => by
    simp [anyTooLong, isTooLong_of_isJson json.1, anyTooLong_of_allJson json.2]

theorem anyMemberTooLong_of_membersJson :
    ∀ {members : List (Value × Value)}, MembersJson members → anyMemberTooLong members = false
  | [], _ => rfl
  | (k, v) :: rest, json => by
    obtain ⟨⟨name, rfl⟩, value, later⟩ := json
    simp [anyMemberTooLong, isTooLong, isTooLong_of_isJson value,
      anyMemberTooLong_of_membersJson later]

end

end Value

namespace Json

open Value

variable (layout : Layout)

mutual

theorem exists_writeValue : ∀ {v : Value}, v.IsJson → ∃ text, writeValue layout v = .ok text
  | .null, _ | .bool _, _ | .float _, _ | .str _, _ => ⟨_, rfl⟩
  | .int n, json => ⟨Number.intChars n, by simp [writeValue, writeInt, show _ = _ from json]⟩
  | .list items, json => by
    obtain ⟨parts, written⟩ := exists_writeItems json
    exact ⟨_, by rw [writeValue, written]; rfl⟩
  | .map members, json => by
    obtain ⟨parts, written⟩ := exists_writeMembers json
    exact ⟨_, by rw [writeValue, written]; rfl⟩

theorem exists_writeItems :
    ∀ {items : List Value}, AllJson items → ∃ parts, writeItems layout items = .ok parts
  | [], _ => ⟨[], rfl⟩
  | v :: vs, json => by
    obtain ⟨part, first⟩ := exists_writeValue json.1
    obtain ⟨parts, later⟩ := exists_writeItems json.2
    exact ⟨part :: parts, by rw [writeItems, first, later]; rfl⟩

theorem exists_writeMembers : ∀ {members : List (Value × Value)}, MembersJson members →
    ∃ parts, writeMembers layout members = .ok parts
  | [], _ => ⟨[], rfl⟩
  | (k, v) :: rest, json => by
    obtain ⟨⟨name, rfl⟩, value, rest⟩ := json
    obtain ⟨part, first⟩ := exists_writeValue value
    obtain ⟨parts, later⟩ := exists_writeMembers rest
    exact ⟨_, by rw [writeMembers, keyText, first, later]; rfl⟩

end

theorem exists_writeMembers_cons_iff {k v : Value} {rest : List (Value × Value)} :
    (∃ parts, writeMembers layout ((k, v) :: rest) = .ok parts) ↔
      (∃ key, keyText k = .ok key) ∧ (∃ part, writeValue layout v = .ok part) ∧
        ∃ parts, writeMembers layout rest = .ok parts := by
  simp only [writeMembers, Sequencing.bind_eq_ok_iff, Except.ok.injEq]
  constructor
  · rintro ⟨_, key, named, part, written, parts, later, -⟩
    exact ⟨⟨key, named⟩, ⟨part, written⟩, parts, later⟩
  · rintro ⟨⟨key, named⟩, ⟨part, written⟩, parts, later⟩
    exact ⟨_, key, named, part, written, parts, later, rfl⟩

theorem exists_writeMembers_append_iff {a b : List (Value × Value)} :
    (∃ parts, writeMembers layout (a ++ b) = .ok parts) ↔
      (∃ parts, writeMembers layout a = .ok parts) ∧ ∃ parts, writeMembers layout b = .ok parts := by
  induction a with
  | nil => simp [writeMembers]
  | cons member a ih =>
    obtain ⟨k, v⟩ := member
    rw [List.cons_append, exists_writeMembers_cons_iff, exists_writeMembers_cons_iff, ih]
    simp only [and_assoc]

end Json

end BuildPipeline
