set_option autoImplicit false

namespace BuildPipeline.Text

def hexDigit (n : Nat) : Char :=
  if n < 10 then Char.ofNat (48 + n) else Char.ofNat (87 + n)

def hexValue? (c : Char) : Option Nat :=
  if '0' ≤ c && c ≤ '9' then some (c.toNat - 48)
  else if 'a' ≤ c && c ≤ 'f' then some (c.toNat - 87)
  else if 'A' ≤ c && c ≤ 'F' then some (c.toNat - 55)
  else none

def hexDigits : Nat → Nat → List Char
  | 0, _ => []
  | width + 1, n => hexDigits width (n / 16) ++ [hexDigit (n % 16)]

def hexNumber? (cs : List Char) : Option Nat :=
  cs.foldlM (fun n c => (hexValue? c).map (16 * n + ·)) 0

theorem hexValue?_hexDigit {n : Nat} (h : n < 16) : hexValue? (hexDigit n) = some n := by
  have : ∀ m : Fin 16, hexValue? (hexDigit m.val) = some m.val := by decide
  exact this ⟨n, h⟩

theorem length_hexDigits (width n : Nat) : (hexDigits width n).length = width := by
  induction width generalizing n with
  | zero => rfl
  | succ width ih => simp [hexDigits, ih]

theorem hexNumber?_hexDigits (width n : Nat) :
    hexNumber? (hexDigits width n) = some (n % Nat.pow 16 width) := by
  induction width generalizing n with
  | zero => simp [hexDigits, hexNumber?, Nat.mod_one]
  | succ width ih =>
    have ih' := ih (n / 16)
    simp only [hexNumber?] at ih'
    simp only [hexNumber?, hexDigits, List.foldlM_append, ih', Option.bind_eq_bind,
      Option.bind_some, List.foldlM_cons, List.foldlM_nil]
    rw [hexValue?_hexDigit (Nat.mod_lt _ (by decide))]
    simp only [Option.map_some, Option.bind_some, Option.pure_def, Option.some.injEq]
    rw [show Nat.pow 16 (width + 1) = 16 * Nat.pow 16 width from Nat.pow_succ', Nat.mod_mul]
    omega

end BuildPipeline.Text
