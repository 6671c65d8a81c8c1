import BuildPipeline.Text.Utf8

set_option autoImplicit false

namespace BuildPipeline.Text.Utf8

theorem valid_toNat (c : Char) : c.toNat < 0xD800 ∨ 0xDFFF < c.toNat ∧ c.toNat < 0x110000 :=
  c.valid

theorem toNat_toUInt8 {b : Nat} (small : b < 256) : b.toUInt8.toNat = b := by
  simp [Nat.mod_eq_of_lt small]

theorem readTail_cons {low high b : Nat} (small : b < 256) (bounds : low ≤ b ∧ b ≤ high)
    (need code seen : Nat) (rest : List UInt8) :
    readTail (need + 1) low high code seen (b.toUInt8 :: rest) =
      readTail need 0x80 0xBF (code * 64 + (b - 0x80)) (seen + 1) rest := by
  rw [readTail, toNat_toUInt8 small]
  simp [bounds]

theorem next_of_tailShape {b tail low high : Nat} (small : b < 256) (big : 0x80 ≤ b)
    (shape : tailShape b = some (tail, low, high)) (rest : List UInt8) :
    next b.toUInt8 rest =
      (readTail tail low high (leadBits tail b) 1 rest).map fun r => (Char.ofNat r.1, r.2) := by
  rw [next, toNat_toUInt8 small, if_neg (by omega), shape]

theorem next_encodeChar (c : Char) (rest : List UInt8) :
    ∃ b tail, encodeChar c = b :: tail ∧ next b (tail ++ rest) = .ok (c, rest) := by
  have valid := valid_toNat c
  have same := Char.ofNat_toNat c
  simp only [encodeChar]
  generalize c.toNat = n at valid same
  -- One case for each number of bytes; the first of several bounds the second by `tailShape`.
  by_cases one : n < 0x80
  · rw [if_pos one]
    refine ⟨_, _, rfl, ?_⟩
    rw [next, toNat_toUInt8 (by omega), if_pos one, same]
    rfl
  by_cases two : n < 0x800
  · rw [if_neg one, if_pos two]
    refine ⟨_, _, rfl, ?_⟩
    have shape : tailShape (0xC0 + n / 64) = some (1, 0x80, 0xBF) := by
      rw [tailShape, if_neg (by omega), if_pos (by omega)]
    have code : (0xC0 + n / 64 - 0xC0) * 64 + (0x80 + n % 64 - 0x80) = n := by omega
    rw [next_of_tailShape (by omega) (by omega) shape, List.singleton_append,
      readTail_cons (by omega) (by omega), readTail, leadBits, if_pos rfl, code]
    simp [Except.map, same]
  by_cases three : n < 0x10000
  · rw [if_neg one, if_neg two, if_pos three]
    refine ⟨_, _, rfl, ?_⟩
    have shape : tailShape (0xE0 + n / 4096) =
        some (2, if 0xE0 + n / 4096 = 0xE0 then 0xA0 else 0x80,
          if 0xE0 + n / 4096 = 0xED then 0x9F else 0xBF) := by
      rw [tailShape, if_neg (by omega), if_neg (by omega), if_pos (by omega)]
    have second : (if 0xE0 + n / 4096 = 0xE0 then 0xA0 else 0x80) ≤ 0x80 + n / 64 % 64 ∧
        0x80 + n / 64 % 64 ≤ if 0xE0 + n / 4096 = 0xED then 0x9F else 0xBF := by
      constructor <;> split <;> omega
    have code : ((0xE0 + n / 4096 - 0xE0) * 64 + (0x80 + n / 64 % 64 - 0x80)) * 64 +
        (0x80 + n % 64 - 0x80) = n := by omega
    rw [next_of_tailShape (by omega) (by omega) shape, List.cons_append, List.singleton_append,
      readTail_cons (by omega) second, readTail_cons (by omega) (by omega), readTail, leadBits,
      if_neg (by decide), if_pos rfl, code]
    simp [Except.map, same]
  · rw [if_neg one, if_neg two, if_neg three]
    refine ⟨_, _, rfl, ?_⟩
    have shape : tailShape (0xF0 + n / 262144) =
        some (3, if 0xF0 + n / 262144 = 0xF0 then 0x90 else 0x80,
          if 0xF0 + n / 262144 = 0xF4 then 0x8F else 0xBF) := by
      rw [tailShape, if_neg (by omega), if_neg (by omega), if_neg (by omega), if_pos (by omega)]
    have second : (if 0xF0 + n / 262144 = 0xF0 then 0x90 else 0x80) ≤ 0x80 + n / 4096 % 64 ∧
        0x80 + n / 4096 % 64 ≤ if 0xF0 + n / 262144 = 0xF4 then 0x8F else 0xBF := by
      constructor <;> split <;> omega
    have code : (((0xF0 + n / 262144 - 0xF0) * 64 + (0x80 + n / 4096 % 64 - 0x80)) * 64 +
        (0x80 + n / 64 % 64 - 0x80)) * 64 + (0x80 + n % 64 - 0x80) = n := by omega
    rw [next_of_tailShape (by omega) (by omega) shape, List.cons_append, List.cons_append,
      List.singleton_append, readTail_cons (by omega) second, readTail_cons (by omega) (by omega),
      readTail_cons (by omega) (by omega), readTail, leadBits, if_neg (by decide),
      if_neg (by decide), code]
    simp [Except.map, same]

theorem encode_cons_ne_nil (c : Char) (cs : List Char) : encode (c :: cs) ≠ [] := by
  obtain ⟨b, tail, bytes, -⟩ := next_encodeChar c []
  simp [encode, bytes]

theorem decodeFrom_encode (cs : List Char) (fuel position : Nat)
    (enough : (encode cs).length ≤ fuel) : decodeFrom fuel position (encode cs) = .ok cs := by
  induction cs generalizing fuel position with
  | nil => cases fuel <;> rfl
  | cons c cs ih =>
    obtain ⟨b, tail, bytes, read⟩ := next_encodeChar c (encode cs)
    have split : encode (c :: cs) = b :: (tail ++ encode cs) := by
      rw [encode, List.flatMap_cons, bytes]
      rfl
    rw [split, List.length_cons] at enough
    cases fuel with
    | zero => omega
    | succ fuel =>
      rw [split, decodeFrom, read]
      simp only
      rw [ih]
      · rfl
      · simp only [List.length_append] at enough
        omega

theorem decode_encode (cs : List Char) : decode (encode cs) = .ok cs :=
  decodeFrom_encode cs _ 0 (Nat.le_refl _)

end BuildPipeline.Text.Utf8
