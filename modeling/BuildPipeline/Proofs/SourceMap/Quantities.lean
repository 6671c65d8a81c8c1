import BuildPipeline.SourceMap.Vlq
import Mathlib.Tactic.Ring

set_option autoImplicit false

namespace BuildPipeline.SourceMap.Vlq

theorem isSome_value?_of_mem_encodeNat {c : Char} {m : Nat} (member : c ∈ encodeNat m) :
    (Base64.value? c).isSome = true := by
  induction m using encodeNat.induct with
  | case1 m small =>
    rw [encodeNat, if_pos small, List.mem_singleton] at member
    simp [member, Base64.value?_digit (show m < 64 by omega)]
  | case2 m big ih =>
    rw [encodeNat, if_neg big, List.mem_cons] at member
    rcases member with rfl | member
    · simp [Base64.value?_digit (show 32 + m % 32 < 64 by omega)]
    · exact ih member

theorem not_mem_encode {c : Char} (foreign : Base64.value? c = none) (n : Int) : c ∉ encode n := by
  intro member
  have digit := isSome_value?_of_mem_encodeNat member
  simp [foreign] at digit

theorem not_mem_flatMap_encode {c : Char} (foreign : Base64.value? c = none) (ns : List Int) :
    c ∉ ns.flatMap encode := by
  rw [List.mem_flatMap]
  rintro ⟨n, -, member⟩
  exact not_mem_encode foreign n member

theorem encode_ne_nil (n : Int) : encode n ≠ [] := by
  rw [encode, encodeNat]
  split <;> simp

-- The digits still to come count `scale` and more, so what is read of a number grows from its low end.
theorem decodeFrom_encodeNat (all rest : List Char) (m value scale : Nat) :
    decodeFrom all value scale (encodeNat m ++ rest) =
      (decodeFrom all 0 1 rest).map (unfold (value + m * scale) :: ·) := by
  induction m using encodeNat.induct generalizing value scale with
  | case1 m small =>
    rw [encodeNat, if_pos small]
    simp [decodeFrom, Base64.value?_digit (show m < 64 by omega), small]
  | case2 m big ih =>
    have digit := Base64.value?_digit (show 32 + m % 32 < 64 by omega)
    have total : value + m % 32 * scale + m / 32 * (scale * 32) = value + m * scale := by
      have parts := Nat.mod_add_div m 32
      calc value + m % 32 * scale + m / 32 * (scale * 32)
          = value + (m % 32 + 32 * (m / 32)) * scale := by ring
        _ = value + m * scale := by rw [parts]
    rw [encodeNat, if_neg big]
    simp only [List.cons_append, decodeFrom, digit]
    rw [if_neg (by omega), show 32 + m % 32 - 32 = m % 32 by omega, ih, total]

theorem decodeFrom_encode (all rest : List Char) (n : Int) :
    decodeFrom all 0 1 (encode n ++ rest) = (decodeFrom all 0 1 rest).map (n :: ·) := by
  rw [encode, decodeFrom_encodeNat, Nat.zero_add, Nat.mul_one, unfold_fold]

theorem decodeFrom_flatMap_encode (all : List Char) (ns : List Int) :
    decodeFrom all 0 1 (ns.flatMap encode) = .ok ns := by
  induction ns with
  | nil => simp [decodeFrom]
  | cons n ns ih => rw [List.flatMap_cons, decodeFrom_encode, ih]; rfl

theorem decode_flatMap_encode (ns : List Int) : decode (ns.flatMap encode) = .ok ns :=
  decodeFrom_flatMap_encode _ ns

end BuildPipeline.SourceMap.Vlq
