import BuildPipeline.Proofs.Json.RoundTrip

set_option autoImplicit false

namespace BuildPipeline

namespace Value

mutual

/-- What JSON text can name without fractions: no key comes twice, and numbers are of any size. -/
def IsWhole : Value → Prop
  | .null | .bool _ | .str _ | .int _ => True
  | .list items => AllWhole items
  | .map members => MembersWhole members
  | .float _ | .bytes _ | .moment _ | .tuple _ | .set _ | .enclosing _ => False

def AllWhole : List Value → Prop
  | [] => True
  | v :: vs => v.IsWhole ∧ AllWhole vs

def MembersWhole : List (Value × Value) → Prop
  | [] => True
  | (k, v) :: rest =>
    (∃ name, k = .str name) ∧ v.IsWhole ∧ Mapping.get? rest k = none ∧ MembersWhole rest

end

mutual

theorem IsWhole.isExact : ∀ {v : Value}, v.IsWhole → (v.isTooLong = false → v.IsExact)
  | .null, _ | .bool _, _ | .str _, _ => fun _ => trivial
  | .int _, _ => fun short => by rwa [isTooLong] at short
  | .list _, whole => fun short => AllWhole.allExact whole short
  | .map _, whole => fun short => MembersWhole.membersExact whole short

theorem AllWhole.allExact :
    ∀ {items : List Value}, AllWhole items → (anyTooLong items = false → AllExact items)
  | [], _ => fun _ => trivial
  | _ :: _, ⟨first, later⟩ => fun short => by
    rw [anyTooLong, Bool.or_eq_false_iff] at short
    exact ⟨first.isExact short.1, AllWhole.allExact later short.2⟩

theorem MembersWhole.membersExact : ∀ {members : List (Value × Value)},
    MembersWhole members → (anyMemberTooLong members = false → MembersExact members)
  | [], _ => fun _ => trivial
  | (_, _) :: _, ⟨key, value, fresh, later⟩ => fun short => by
    simp only [anyMemberTooLong, Bool.or_eq_false_iff] at short
    exact ⟨key, value.isExact short.1.2, fresh, MembersWhole.membersExact later short.2⟩

end

theorem isWhole_of_mem {m : Mapping} (members : MembersWhole m) :
    ∀ member ∈ m, member.2.IsWhole := by
  induction m with
  | nil => simp
  | cons member m ih =>
    rw [List.forall_mem_cons]
    exact ⟨members.2.1, ih members.2.2.2⟩

theorem isWhole_of_get? {m : Mapping} {key v : Value} (members : MembersWhole m)
    (found : m.get? key = some v) : v.IsWhole :=
  Mapping.of_get? (isWhole_of_mem members) found

theorem isWhole_member {m : Mapping} (members : MembersWhole m) (key : String) :
    (m.member key).IsWhole := by
  cases found : m.get? (.str key) with
  | none => simp [Mapping.member, found, IsWhole]
  | some v => simpa [Mapping.member, found] using isWhole_of_get? members found

theorem membersWhole_filter {m : Mapping} (members : MembersWhole m)
    (keep : Value × Value → Bool) : MembersWhole (m.filter keep) := by
  induction m with
  | nil => trivial
  | cons member m ih =>
    obtain ⟨key, value, fresh, rest⟩ := members
    rw [List.filter_cons]
    split
    · refine ⟨key, value, ?_, ih rest⟩
      simp only [Mapping.get?, Option.map_eq_none_iff, List.find?_eq_none] at fresh ⊢
      exact fun other member => fresh other (List.mem_filter.1 member).1
    · exact ih rest

theorem isTooLong_of_mem {m : Mapping} (short : anyMemberTooLong m = false) :
    ∀ member ∈ m, member.2.isTooLong = false := by
  induction m with
  | nil => simp
  | cons member m ih =>
    rw [anyMemberTooLong, Bool.or_eq_false_iff, Bool.or_eq_false_iff] at short
    rw [List.forall_mem_cons]
    exact ⟨short.1.2, ih short.2⟩

theorem isTooLong_of_get? {m : Mapping} {key v : Value} (short : anyMemberTooLong m = false)
    (found : m.get? key = some v) : v.isTooLong = false :=
  Mapping.of_get? (P := fun v => v.isTooLong = false) (isTooLong_of_mem short) found

end Value

namespace Json

open Value Sequencing

variable {layout : Layout}

theorem isTooLong_of_writeInt {n : Int} {text : List Char} (written : writeInt n = .ok text) :
    Number.isTooLong n = false := by
  rw [writeInt] at written
  split at written
  · cases written
  next short => exact eq_false_of_ne_true short

theorem isTooLong_of_keyText {key : Value} {text : String} (named : keyText key = .ok text) :
    key.isTooLong = false := by
  cases key with
  | int n =>
    rw [keyText, map_eq_ok_iff] at named
    obtain ⟨_, written, -⟩ := named
    rw [isTooLong, isTooLong_of_writeInt written]
  | null | bool _ | float _ | str _ => rfl
  | bytes _ | moment _ | list _ | tuple _ | set _ | map _ | enclosing _ => cases named

mutual

theorem isTooLong_of_writeValue : ∀ (v : Value),
    (∀ text, writeValue layout v = .ok text → v.isTooLong = false)
  | .null | .bool _ | .float _ | .str _ => fun _ _ => rfl
  | .bytes _ | .moment _ | .enclosing _ => fun _ _ => rfl
  | .set _ => fun _ written => by cases written
  | .int n => fun _ written => by
    rw [writeValue] at written
    rw [isTooLong, isTooLong_of_writeInt written]
  | .list items | .tuple items => fun _ written => by
    rw [writeValue, bind_eq_ok_iff] at written
    obtain ⟨parts, inner, -⟩ := written
    exact anyTooLong_of_writeItems items parts inner
  | .map members => fun _ written => by
    rw [writeValue, bind_eq_ok_iff] at written
    obtain ⟨parts, inner, -⟩ := written
    exact anyMemberTooLong_of_writeMembers members parts inner

theorem anyTooLong_of_writeItems : ∀ (items : List Value),
    (∀ parts, writeItems layout items = .ok parts → anyTooLong items = false)
  | [] => fun _ _ => rfl
  | v :: vs => fun _ written => by
    rw [writeItems, bind_eq_ok_iff] at written
    obtain ⟨part, first, written⟩ := written
    obtain ⟨parts, later, -⟩ := bind_eq_ok_iff.1 written
    simp [anyTooLong, isTooLong_of_writeValue v part first, anyTooLong_of_writeItems vs parts later]

theorem anyMemberTooLong_of_writeMembers : ∀ (members : List (Value × Value)),
    (∀ parts, writeMembers layout members = .ok parts → anyMemberTooLong members = false)
  | [] => fun _ _ => rfl
  | (_, v) :: rest => fun _ written => by
    rw [writeMembers, bind_eq_ok_iff] at written
    obtain ⟨key, named, written⟩ := written
    obtain ⟨part, first, written⟩ := bind_eq_ok_iff.1 written
    obtain ⟨parts, later, -⟩ := bind_eq_ok_iff.1 written
    simp [anyMemberTooLong, isTooLong_of_keyText named, isTooLong_of_writeValue v part first,
      anyMemberTooLong_of_writeMembers rest parts later]

end

end Json

end BuildPipeline
