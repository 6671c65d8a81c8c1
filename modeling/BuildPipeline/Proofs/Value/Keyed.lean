import BuildPipeline.Proofs.Value.Mapping

set_option autoImplicit false

namespace BuildPipeline

namespace Value

mutual

/-- No mapping in the value has a key twice. Keys and the items of sets are no mappings. -/
def IsKeyed : Value → Prop
  | .list items | .tuple items => AllKeyed items
  | .map members => MembersKeyed members
  | .null | .bool _ | .int _ | .float _ | .str _ | .bytes _ | .moment _ | .set _ | .enclosing _ =>
    True

def AllKeyed : List Value → Prop
  | [] => True
  | v :: vs => v.IsKeyed ∧ AllKeyed vs

def MembersKeyed : List (Value × Value) → Prop
  | [] => True
  | (k, v) :: rest => Mapping.get? rest k = none ∧ v.IsKeyed ∧ MembersKeyed rest

end

theorem membersKeyed_nil : MembersKeyed [] :=
  trivial

theorem allKeyed_iff {items : List Value} : AllKeyed items ↔ ∀ item ∈ items, item.IsKeyed := by
  induction items with
  | nil => simp [AllKeyed]
  | cons item rest ih => simp [AllKeyed, ih]

theorem isKeyed_of_mem {m : Mapping} (keyed : MembersKeyed m) :
    ∀ member ∈ m, member.2.IsKeyed := by
  induction m with
  | nil => simp
  | cons member rest ih =>
    rw [List.forall_mem_cons]
    exact ⟨keyed.2.1, ih keyed.2.2⟩

theorem isKeyed_of_get? {m : Mapping} {key v : Value} (keyed : MembersKeyed m)
    (found : m.get? key = some v) : v.IsKeyed :=
  Mapping.of_get? (isKeyed_of_mem keyed) found

theorem not_sameKey_of_mem {k v : Value} {rest : Mapping} (keyed : MembersKeyed ((k, v) :: rest)) :
    ∀ member ∈ rest, ¬ k.sameKey member.1 = true := by
  intro member there same
  have absent : ∀ member ∈ rest, ¬ member.1.sameKey k = true := by
    simpa [Mapping.get?] using keyed.1
  exact absent member there (sameKey_symm same)

theorem get?_of_mem {m : Mapping} (keyed : MembersKeyed m) {member : Value × Value}
    (there : member ∈ m) : m.get? member.1 = some member.2 := by
  induction m with
  | nil => cases there
  | cons first rest ih =>
    rw [Mapping.get?_cons]
    rcases List.mem_cons.1 there with rfl | there
    · rw [if_pos (sameKey_refl _)]
    · rw [if_neg (not_sameKey_of_mem keyed member there), ih keyed.2.2 there]

theorem membersKeyed_insert {m : Mapping} (keyed : MembersKeyed m) (k : Value) {v : Value}
    (value : v.IsKeyed) : MembersKeyed (m.insert k v) := by
  induction m with
  | nil => exact ⟨rfl, value, trivial⟩
  | cons first rest ih =>
    obtain ⟨k', v'⟩ := first
    obtain ⟨only, value', later⟩ := keyed
    rw [Mapping.insert]
    split
    · exact ⟨only, value, later⟩
    next other =>
      refine ⟨?_, value', ih later⟩
      rw [Mapping.get?_insert, if_neg fun same => other (sameKey_symm same), only]

theorem membersKeyed_insertAll {m : Mapping} (keyed : MembersKeyed m)
    {members : List (Value × Value)} (values : ∀ member ∈ members, member.2.IsKeyed) :
    MembersKeyed (m.insertAll members) := by
  induction members generalizing m with
  | nil => exact keyed
  | cons first rest ih =>
    rw [List.forall_mem_cons] at values
    exact ih (membersKeyed_insert keyed first.1 values.1) values.2

end Value

end BuildPipeline
