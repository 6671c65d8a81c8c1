import BuildPipeline.Proofs.SourceMap.Groups
import BuildPipeline.Proofs.SourceMap.Quantities

set_option autoImplicit false

namespace BuildPipeline.SourceMap.Vlq

instance (c : Char) : Decidable (Ends c) :=
  decidable_of_iff ((Base64.value? c).any (· < 32) = true) (by simp [Ends, Option.any_eq_true])

def groups : List Char → List (List Char)
  | [] => []
  | c :: cs =>
    if Ends c then [c] :: groups cs
    else match groups cs with
      | [] => [[c]]
      | group :: rest => (c :: group) :: rest

/-- No zeros at the end of a number, and no sign at zero. -/
structure IsCanonicalGroup (group : List Char) : Prop where
  unpadded : 1 < group.length → group.getLast? ≠ some 'A'
  unsigned : groupValue group ≠ 1

instance (group : List Char) : Decidable (IsCanonicalGroup group) :=
  decidable_of_iff ((1 < group.length → group.getLast? ≠ some 'A') ∧ groupValue group ≠ 1)
    ⟨fun ⟨unpadded, unsigned⟩ => ⟨unpadded, unsigned⟩, fun canonical => ⟨canonical.1, canonical.2⟩⟩

def IsCanonical (cs : List Char) : Prop :=
  ∀ group ∈ groups cs, IsCanonicalGroup group

instance (cs : List Char) : Decidable (IsCanonical cs) :=
  inferInstanceAs (Decidable (∀ group ∈ groups cs, IsCanonicalGroup group))

theorem digit_of_value? {c : Char} {d : Nat} (digit : Base64.value? c = some d) :
    Base64.digit d = c := by
  have number (n : Nat) (same : n = c.toNat) : Char.ofNat n = c := by rw [same, Char.ofNat_toNat]
  simp only [Base64.value?, Bool.and_eq_true, decide_eq_true_eq, Char.le_def,
    UInt32.le_iff_toNat_le] at digit
  have code : c.toNat = c.val.toNat := rfl
  have capital : ('A' : Char).val.toNat = 65 ∧ ('Z' : Char).val.toNat = 90 := ⟨rfl, rfl⟩
  have small : ('a' : Char).val.toNat = 97 ∧ ('z' : Char).val.toNat = 122 := ⟨rfl, rfl⟩
  have decimal : ('0' : Char).val.toNat = 48 ∧ ('9' : Char).val.toNat = 57 := ⟨rfl, rfl⟩
  grind [Base64.digit]

theorem mem_alphabet_iff {c : Char} : c ∈ Base64.alphabet ↔ ∃ d, Base64.value? c = some d := by
  rw [Base64.alphabet_eq, List.mem_map]
  constructor
  · rintro ⟨d, member, rfl⟩
    exact ⟨d, Base64.value?_digit (List.mem_range.1 member)⟩
  · rintro ⟨d, digit⟩
    exact ⟨d, List.mem_range.2 (value?_lt digit), digit_of_value? digit⟩

theorem continues_or_ends {c : Char} (digit : c ∈ Base64.alphabet) : Continues c ∨ Ends c := by
  obtain ⟨d, value⟩ := mem_alphabet_iff.1 digit
  rcases Nat.lt_or_ge d 32 with small | big
  · exact .inr ⟨d, value, small⟩
  · exact .inl ⟨d, value, big⟩

theorem Continues.not_ends {c : Char} (continues : Continues c) : ¬ Ends c := by
  obtain ⟨d, value, big⟩ := continues
  rintro ⟨d', value', small⟩
  rw [value] at value'
  cases value'
  omega

theorem Continues.digit {c : Char} (continues : Continues c) :
    payload c < 32 ∧ Base64.digit (32 + payload c) = c := by
  obtain ⟨d, value, big⟩ := continues
  have bound := value?_lt value
  rw [payload_of_continues value big, show 32 + (d - 32) = d by omega]
  exact ⟨by omega, digit_of_value? value⟩

theorem Ends.digit {c : Char} (ends : Ends c) : payload c < 32 ∧ Base64.digit (payload c) = c := by
  obtain ⟨d, value, small⟩ := ends
  rw [payload_of_ends value small]
  exact ⟨small, digit_of_value? value⟩

theorem Ends.payload_eq_zero_iff {c : Char} (ends : Ends c) : payload c = 0 ↔ c = 'A' := by
  constructor
  · intro zero
    rw [← ends.digit.2, zero]
    rfl
  · rintro rfl
    rfl

theorem spells_of_ends {c : Char} {cs : List Char} {ns : List Int} (ends : Ends c)
    (spelled : Spells cs ns) : Spells (c :: cs) (unfold (groupValue [c]) :: ns) := by
  have nothing : ∀ d ∈ ([] : List Char), Continues d := by simp
  exact .group nothing ends spelled

theorem spells_of_continues {c : Char} {cs : List Char} {ns : List Int} (continues : Continues c)
    (spelled : Spells cs ns) (nonempty : cs ≠ []) : ∃ ns, Spells (c :: cs) ns := by
  cases spelled with
  | nil => exact absurd rfl nonempty
  | group continued ended others =>
    exact ⟨_, .group (List.forall_mem_cons.2 ⟨continues, continued⟩) ended others⟩

theorem exists_spells_iff {cs : List Char} :
    (∃ ns, Spells cs ns) ↔ (∀ c ∈ cs, c ∈ Base64.alphabet) ∧ ∀ c ∈ cs.getLast?, Ends c := by
  constructor
  · rintro ⟨ns, spelled⟩
    induction spelled with
    | nil => simp
    | @group more last rest ns continued ended _ ih =>
      have digits : ∀ c ∈ more ++ [last], c ∈ Base64.alphabet := by
        intro c member
        rw [mem_alphabet_iff]
        rcases List.mem_append.1 member with member | member
        · obtain ⟨d, value, -⟩ := continued c member
          exact ⟨d, value⟩
        · obtain rfl := List.mem_singleton.1 member
          obtain ⟨d, value, -⟩ := ended
          exact ⟨d, value⟩
      rw [← List.singleton_append, ← List.append_assoc, List.forall_mem_append]
      refine ⟨⟨digits, ih.1⟩, ?_⟩
      cases rest with
      | nil => simpa using ended
      | cons c rest => simpa using ih.2
  · rintro ⟨digits, ends⟩
    induction cs with
    | nil => exact ⟨[], .nil⟩
    | cons c cs ih =>
      rw [List.forall_mem_cons] at digits
      by_cases single : cs = []
      · subst single
        exact ⟨_, spells_of_ends (ends c rfl) .nil⟩
      · have last : (c :: cs).getLast? = cs.getLast? := by
          rw [List.getLast?_cons, List.getLast?_eq_some_getLast single, Option.getD_some]
        obtain ⟨ns, spelled⟩ := ih digits.2 (last ▸ ends)
        -- A digit that goes on joins the group behind it; any other is a group by itself.
        rcases continues_or_ends digits.1 with continues | ends
        · exact spells_of_continues continues spelled single
        · exact ⟨_, spells_of_ends ends spelled⟩

theorem encodeNat_add_mul {d v : Nat} (small : d < 32) (pos : 0 < v) :
    encodeNat (d + 32 * v) = Base64.digit (32 + d) :: encodeNat v := by
  rw [encodeNat, if_neg (by omega), show (d + 32 * v) % 32 = d by omega,
    show (d + 32 * v) / 32 = v by omega]

theorem encodeNat_of_lt {m : Nat} (small : m < 32) : encodeNat m = [Base64.digit m] := by
  rw [encodeNat, if_pos small]

theorem groupValue_singleton (c : Char) : groupValue [c] = payload c := by
  simp [groupValue]

theorem groupValue_pos {more : List Char} {last : Char} (ended : Ends last) (other : last ≠ 'A') :
    0 < groupValue (more ++ [last]) := by
  have digit : 0 < payload last := Nat.pos_of_ne_zero (mt ended.payload_eq_zero_iff.1 other)
  rw [groupValue_concat]
  exact Nat.add_pos_right _ (Nat.mul_pos digit (Nat.pow_pos (by omega)))

-- All digits of a group may be zeros, and then one is left of them; else the first one is written again.
theorem encodeNat_groupValue {more : List Char} {last : Char} (continued : ∀ c ∈ more, Continues c)
    (ended : Ends last) :
    (encodeNat (groupValue (more ++ [last]))).length ≤ (more ++ [last]).length ∧
      (encodeNat (groupValue (more ++ [last])) = more ++ [last] ↔ (more ≠ [] → last ≠ 'A')) := by
  induction more with
  | nil =>
    rw [List.nil_append, groupValue_singleton, encodeNat_of_lt ended.digit.1, ended.digit.2]
    simp
  | cons c more ih =>
    obtain ⟨continues, others⟩ := List.forall_mem_cons.1 continued
    obtain ⟨shorter, same⟩ := ih others
    rw [List.cons_append, groupValue_cons]
    rcases Nat.eq_zero_or_pos (groupValue (more ++ [last])) with zero | pos
    · -- The digits behind are padding, and what is written stops before them.
      have padded : last = 'A' := by
        by_contra other
        exact absurd zero (groupValue_pos ended other).ne'
      rw [zero, Nat.mul_zero, Nat.add_zero, encodeNat_of_lt continues.digit.1]
      simp [padded]
    · rw [encodeNat_add_mul continues.digit.1 pos, continues.digit.2, List.cons_inj_right, same]
      refine ⟨by simpa using shorter, ?_, fun unpadded _ => unpadded (List.cons_ne_nil _ _)⟩
      intro unpadded _
      by_cases single : more = []
      · subst single
        rw [List.nil_append, groupValue_singleton] at pos
        exact mt ended.payload_eq_zero_iff.2 pos.ne'
      · exact unpadded single

theorem fold_unfold {m : Nat} (unsigned : m ≠ 1) : fold (unfold m) = m := by
  simp only [fold, unfold]
  split <;> split <;> omega

theorem isCanonicalGroup_iff {more : List Char} {last : Char} :
    IsCanonicalGroup (more ++ [last]) ↔
      (more ≠ [] → last ≠ 'A') ∧ groupValue (more ++ [last]) ≠ 1 := by
  have several : 1 < (more ++ [last]).length ↔ more ≠ [] := by
    rw [List.length_append, List.length_singleton, Nat.lt_add_left_iff_pos, List.length_pos_iff]
  constructor
  · rintro ⟨unpadded, unsigned⟩
    rw [several] at unpadded
    exact ⟨by simpa using unpadded, unsigned⟩
  · rintro ⟨unpadded, unsigned⟩
    exact ⟨by rw [several]; simpa using unpadded, unsigned⟩

theorem encode_group {more : List Char} {last : Char} (continued : ∀ c ∈ more, Continues c)
    (ended : Ends last) :
    (encode (unfold (groupValue (more ++ [last])))).length ≤ (more ++ [last]).length ∧
      (encode (unfold (groupValue (more ++ [last]))) = more ++ [last] ↔
        IsCanonicalGroup (more ++ [last])) := by
  obtain ⟨shorter, same⟩ := encodeNat_groupValue continued ended
  rw [isCanonicalGroup_iff]
  by_cases signed : groupValue (more ++ [last]) = 1
  · have zero : encode (unfold 1) = ['A'] := by decide +kernel
    rw [signed, zero]
    refine ⟨by simp, ?_, fun canonical => absurd rfl canonical.2⟩
    -- Zero is written as the one digit whose own number is zero, not one.
    intro written
    rw [← written] at signed
    cases signed
  · rw [encode, fold_unfold signed]
    exact ⟨shorter, by simpa [signed] using same⟩

theorem groups_group {more : List Char} {last : Char} (continued : ∀ c ∈ more, Continues c)
    (ended : Ends last) (rest : List Char) :
    groups (more ++ last :: rest) = (more ++ [last]) :: groups rest := by
  induction more with
  | nil => rw [List.nil_append, groups, if_pos ended, List.nil_append]
  | cons c more ih =>
    obtain ⟨continues, others⟩ := List.forall_mem_cons.1 continued
    rw [List.cons_append, groups, if_neg continues.not_ends, ih others]
    rfl

theorem isCanonical_group {more : List Char} {last : Char} (continued : ∀ c ∈ more, Continues c)
    (ended : Ends last) (rest : List Char) :
    IsCanonical (more ++ last :: rest) ↔ IsCanonicalGroup (more ++ [last]) ∧ IsCanonical rest := by
  rw [IsCanonical, groups_group continued ended, List.forall_mem_cons]
  rfl

theorem append_eq_append_iff_of_le {α : Type} {a b c d : List α} (first : a.length ≤ c.length)
    (second : b.length ≤ d.length) : a ++ b = c ++ d ↔ a = c ∧ b = d := by
  constructor
  · intro same
    have lengths := congrArg List.length same
    rw [List.length_append, List.length_append] at lengths
    exact List.append_inj same (by omega)
  · rintro ⟨rfl, rfl⟩
    rfl

theorem encode_of_spells {cs : List Char} {ns : List Int} (spelled : Spells cs ns) :
    (ns.flatMap encode).length ≤ cs.length ∧ (ns.flatMap encode = cs ↔ IsCanonical cs) := by
  induction spelled with
  | nil => exact ⟨Nat.le_refl _, by simp [IsCanonical, groups]⟩
  | @group more last rest ns continued ended _ ih =>
    obtain ⟨shorter, same⟩ := encode_group continued ended
    have split : more ++ last :: rest = (more ++ [last]) ++ rest := by simp
    rw [isCanonical_group continued ended, List.flatMap_cons, split,
      append_eq_append_iff_of_le shorter ih.1, same, ih.2, List.length_append, List.length_append]
    exact ⟨Nat.add_le_add shorter ih.1, Iff.rfl⟩

/-- Written numbers are read back. A text can be read just when it is made of digits and no digit is
missing at its end. What is read and written again is not longer than the text, and is the text
just when none of its groups is padded or a negative zero. -/
theorem decode_exact (cs : List Char) :
    (∀ ns : List Int, decode (ns.flatMap encode) = .ok ns) ∧
    ((∃ ns, decode cs = .ok ns) ↔
      (∀ c ∈ cs, c ∈ Base64.alphabet) ∧ ∀ c ∈ cs.getLast?, Ends c) ∧
    ∀ ns, decode cs = .ok ns →
      (ns.flatMap encode).length ≤ cs.length ∧ (ns.flatMap encode = cs ↔ IsCanonical cs) := by
  refine ⟨decode_flatMap_encode, ?_, fun ns decoded => encode_of_spells (decode_eq_ok_iff.1 decoded)⟩
  simp only [decode_eq_ok_iff]
  exact exists_spells_iff

-- A minus one, a zero of two digits and a negative zero.
theorem decode_exact_padded : decode "DgAB".toList = .ok [-1, 0, 0] ∧
    ¬ IsCanonical "DgAB".toList ∧ [-1, 0, 0].flatMap encode ≠ "DgAB".toList := by
  have decoded : decode "DgAB".toList = .ok [-1, 0, 0] := by decide +kernel
  have padded : ¬ IsCanonical "DgAB".toList := by decide +kernel
  obtain ⟨-, -, written⟩ := decode_exact "DgAB".toList
  exact ⟨decoded, padded, fun same => padded ((written _ decoded).2.1 same)⟩

end BuildPipeline.SourceMap.Vlq
