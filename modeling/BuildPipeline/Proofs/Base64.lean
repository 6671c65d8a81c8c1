import BuildPipeline.Base64

set_option autoImplicit false

namespace BuildPipeline.Base64

theorem digit_ne_pad {n : Nat} (small : n < 64) : digit n ≠ '=' := by
  intro same
  have read := value?_digit small
  rw [same] at read
  cases read

theorem toUInt8_of_toNat_eq {n : Nat} {b : UInt8} (same : n = b.toNat) : n.toUInt8 = b := by
  subst same
  simp

/-- Digits that padding makes up to whole groups, and that stand for bytes. -/
structure Encodes (ns : List Nat) (pads : Nat) (bs : List UInt8) : Prop where
  small : ∀ n ∈ ns, n < 64
  fits : paddingFits ns.length pads = true
  bytes : assemble ns = bs

theorem exists_encodes (bs : List UInt8) :
    ∃ ns pads, encode bs = ns.map digit ++ List.replicate pads '=' ∧ Encodes ns pads bs := by
  induction bs using encode.induct with
  | case1 => exact ⟨[], 0, rfl, by simp, rfl, rfl⟩
  | case2 a =>
    have := a.toNat_lt
    refine ⟨[a.toNat / 4, a.toNat % 4 * 16], 2, rfl, ?_, rfl, ?_⟩
    · simp only [List.mem_cons, List.not_mem_nil, or_false, forall_eq_or_imp, forall_eq]
      omega
    · rw [assemble, toUInt8_of_toNat_eq (b := a) (by omega)]
  | case3 a b =>
    have := a.toNat_lt
    have := b.toNat_lt
    refine ⟨[a.toNat / 4, a.toNat % 4 * 16 + b.toNat / 16, b.toNat % 16 * 4], 1, rfl, ?_, rfl, ?_⟩
    · simp only [List.mem_cons, List.not_mem_nil, or_false, forall_eq_or_imp, forall_eq]
      omega
    · rw [assemble, toUInt8_of_toNat_eq (b := a) (by omega), toUInt8_of_toNat_eq (b := b) (by omega)]
  | case4 a b c rest ih =>
    have := a.toNat_lt
    have := b.toNat_lt
    have := c.toNat_lt
    obtain ⟨ns, pads, shape, small, fits, bytes⟩ := ih
    refine ⟨a.toNat / 4 :: (a.toNat % 4 * 16 + b.toNat / 16) :: (b.toNat % 16 * 4 + c.toNat / 64)
      :: c.toNat % 64 :: ns, pads, by rw [encode, shape]; rfl, ?_, ?_, ?_⟩
    · simp only [List.mem_cons, forall_eq_or_imp]
      exact ⟨by omega, by omega, by omega, by omega, small⟩
    -- A whole group changes nothing about the padding of the last one.
    · have same : (ns.length + 4) % 4 = ns.length % 4 := by omega
      rw [paddingFits] at fits ⊢
      simp only [List.length_cons, same]
      split at fits <;> simp_all
    · rw [assemble, bytes, toUInt8_of_toNat_eq (b := a) (by omega),
        toUInt8_of_toNat_eq (b := b) (by omega), toUInt8_of_toNat_eq (b := c) (by omega)]

theorem mapM_value?_digits {ns : List Nat} (small : ∀ n ∈ ns, n < 64) :
    (ns.map digit).mapM value? = some ns := by
  induction ns with
  | nil => rfl
  | cons n ns ih =>
    simp only [List.mem_cons, forall_eq_or_imp] at small
    simp [value?_digit small.1, ih small.2]

theorem decode?_encode (bs : List UInt8) : decode? (encode bs) = some bs := by
  obtain ⟨ns, pads, shape, small, fits, bytes⟩ := exists_encodes bs
  have digits : ∀ c ∈ ns.map digit, c ≠ '=' := by
    intro c member
    obtain ⟨n, here, rfl⟩ := List.mem_map.1 member
    exact digit_ne_pad (small n here)
  have body : (encode bs).takeWhile (· ≠ '=') = ns.map digit := by
    rw [shape, List.takeWhile_append_of_pos (by simpa using digits)]
    cases pads <;> simp [List.replicate_succ]
  have tail : (encode bs).dropWhile (· ≠ '=') = List.replicate pads '=' := by
    rw [shape, List.dropWhile_append_of_pos (by simpa using digits)]
    cases pads <;> simp [List.replicate_succ]
  rw [decode?, body, tail, mapM_value?_digits small]
  simp [fits, bytes]

theorem encode_ne_nil {bs : List UInt8} (nonempty : bs ≠ []) : encode bs ≠ [] := by
  match bs with
  | [] => exact absurd rfl nonempty
  | [_] | [_, _] | _ :: _ :: _ :: _ => simp [encode]

theorem isData_of_mem_encode {c : Char} {bs : List UInt8} (member : c ∈ encode bs) :
    (value? c).isSome = true ∨ c = '=' := by
  obtain ⟨ns, pads, shape, small, -, -⟩ := exists_encodes bs
  rw [shape, List.mem_append] at member
  rcases member with digit | pad
  · obtain ⟨n, here, rfl⟩ := List.mem_map.1 digit
    simp [value?_digit (small n here)]
  · exact .inr (List.eq_of_mem_replicate pad)

end BuildPipeline.Base64
