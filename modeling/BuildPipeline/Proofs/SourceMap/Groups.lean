import BuildPipeline.Proofs.Sequencing
import BuildPipeline.SourceMap.Vlq
import Mathlib.Data.Nat.Digits.Defs
import Mathlib.Tactic.Ring

set_option autoImplicit false

namespace BuildPipeline.SourceMap.Vlq

def Continues (c : Char) : Prop :=
  ∃ d, Base64.value? c = some d ∧ 32 ≤ d

def Ends (c : Char) : Prop :=
  ∃ d, Base64.value? c = some d ∧ d < 32

def payload (c : Char) : Nat :=
  (Base64.value? c).getD 0 % 32

def groupValue (group : List Char) : Nat :=
  Nat.ofDigits 32 (group.map payload)

/-- A text is a run of groups, and these are their numbers. -/
inductive Spells : List Char → List Int → Prop
  | nil : Spells [] []
  | group {more : List Char} {last : Char} {rest : List Char} {ns : List Int}
      (continued : ∀ c ∈ more, Continues c) (ended : Ends last) (others : Spells rest ns) :
      Spells (more ++ last :: rest) (unfold (groupValue (more ++ [last])) :: ns)

theorem value?_lt {c : Char} {d : Nat} (digit : Base64.value? c = some d) : d < 64 := by
  simp only [Base64.value?, Bool.and_eq_true, decide_eq_true_eq, Char.le_def,
    UInt32.le_iff_toNat_le] at digit
  -- The ranges of letters and of decimal digits end at 90, 122 and 57.
  have upper : ('Z' : Char).val.toNat = 90 := rfl
  have lower : ('z' : Char).val.toNat = 122 := rfl
  have decimal : ('9' : Char).val.toNat = 57 := rfl
  have code : c.toNat = c.val.toNat := rfl
  grind

theorem groupValue_cons (c : Char) (cs : List Char) :
    groupValue (c :: cs) = payload c + 32 * groupValue cs := by
  simp [groupValue, Nat.ofDigits_cons]

theorem groupValue_concat (cs : List Char) (c : Char) :
    groupValue (cs ++ [c]) = groupValue cs + payload c * 32 ^ cs.length := by
  simp [groupValue, Nat.ofDigits_append, Nat.mul_comm]

theorem payload_of_ends {c : Char} {d : Nat} (digit : Base64.value? c = some d) (small : d < 32) :
    payload c = d := by
  simp [payload, digit, Nat.mod_eq_of_lt small]

theorem payload_of_continues {c : Char} {d : Nat} (digit : Base64.value? c = some d)
    (big : 32 ≤ d) : payload c = d - 32 := by
  have bound := value?_lt digit
  simp only [payload, digit, Option.getD_some]
  omega

theorem decodeFrom_group {more : List Char} {last : Char} (continued : ∀ c ∈ more, Continues c)
    (ended : Ends last) (all rest : List Char) (value scale : Nat) :
    decodeFrom all value scale (more ++ last :: rest) =
      (decodeFrom all 0 1 rest).map
        (unfold (value + groupValue (more ++ [last]) * scale) :: ·) := by
  induction more generalizing value scale with
  | nil =>
    obtain ⟨d, digit, small⟩ := ended
    have number : groupValue ([] ++ [last]) = d := by
      simp [groupValue, payload_of_ends digit small]
    simp only [List.nil_append, decodeFrom, digit]
    rw [if_pos small, ← number, List.nil_append]
  | cons c more ih =>
    obtain ⟨⟨d, digit, big⟩, others⟩ := List.forall_mem_cons.1 continued
    have number : value + (d - 32) * scale + groupValue (more ++ [last]) * (scale * 32) =
        value + groupValue (c :: more ++ [last]) * scale := by
      rw [List.cons_append, groupValue_cons, payload_of_continues digit big]
      ring
    simp only [List.cons_append, decodeFrom, digit]
    rw [if_neg (by omega), ih others, number, List.cons_append]

-- What has been read of a group is kept as its value and as the place of the digit to come.
theorem spells_of_decodeFrom {all cs : List Char} {ns : List Int} (more : List Char)
    (continued : ∀ c ∈ more, Continues c)
    (decoded : decodeFrom all (groupValue more) (32 ^ more.length) cs = .ok ns) :
    Spells (more ++ cs) ns := by
  induction cs generalizing more ns with
  | nil =>
    simp only [decodeFrom] at decoded
    split at decoded
    next first =>
      have nothing : more = [] := by simpa using first
      cases decoded
      rw [nothing]
      exact .nil
    next => cases decoded
  | cons c cs ih =>
    simp only [decodeFrom] at decoded
    split at decoded
    next => cases decoded
    next d digit =>
      split at decoded
      next small =>
        -- The group is complete, and the next one starts from nothing.
        obtain ⟨ns, later, rfl⟩ := Sequencing.map_eq_ok_iff.1 decoded
        have others : Spells cs ns := ih [] (by simp) later
        have number : groupValue more + d * 32 ^ more.length = groupValue (more ++ [c]) := by
          rw [groupValue_concat, payload_of_ends digit small]
        rw [number]
        exact .group continued ⟨d, digit, small⟩ others
      next big =>
        -- The group goes on, with this digit among those read.
        have further : ∀ c' ∈ more ++ [c], Continues c' := by
          intro c' member
          rcases List.mem_append.1 member with earlier | last
          · exact continued c' earlier
          · obtain rfl := List.mem_singleton.1 last
            exact ⟨d, digit, by omega⟩
        have number : groupValue more + (d - 32) * 32 ^ more.length = groupValue (more ++ [c]) := by
          rw [groupValue_concat, payload_of_continues digit (by omega)]
        have scale : 32 ^ more.length * 32 = 32 ^ (more ++ [c]).length := by
          simp [Nat.pow_succ]
        rw [number, scale] at decoded
        simpa using ih (more ++ [c]) further decoded

theorem decodeFrom_of_spells {cs : List Char} {ns : List Int} (spelled : Spells cs ns)
    (all : List Char) : decodeFrom all 0 1 cs = .ok ns := by
  induction spelled with
  | nil => rfl
  | group continued ended _ ih =>
    rw [decodeFrom_group continued ended, ih]
    simp [Except.map]

theorem decode_eq_ok_iff {cs : List Char} {ns : List Int} : decode cs = .ok ns ↔ Spells cs ns := by
  constructor
  · intro decoded
    exact spells_of_decodeFrom [] (by simp) decoded
  · intro spelled
    exact decodeFrom_of_spells spelled cs

end BuildPipeline.SourceMap.Vlq
