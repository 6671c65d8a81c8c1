set_option autoImplicit false

namespace BuildPipeline.Number

def digitChar (n : Nat) : Char :=
  Char.ofNat (48 + n)

def isDigit (c : Char) : Bool :=
  '0' ≤ c && c ≤ '9'

def digitOf? (c : Char) : Option Nat :=
  if '0' ≤ c && c ≤ '9' then some (c.toNat - 48) else none

theorem digitOf?_digitChar {n : Nat} (h : n < 10) : digitOf? (digitChar n) = some n := by
  have : ∀ m : Fin 10, digitOf? (digitChar m.val) = some m.val := by decide
  exact this ⟨n, h⟩

def digits (n : Nat) : List Char :=
  if n < 10 then [digitChar n] else digits (n / 10) ++ [digitChar (n % 10)]
termination_by n
decreasing_by omega

def ofDigits (cs : List Char) : Nat :=
  cs.foldl (fun n c => 10 * n + (digitOf? c).getD 0) 0

theorem ofDigits_append_singleton (cs : List Char) (c : Char) :
    ofDigits (cs ++ [c]) = 10 * ofDigits cs + (digitOf? c).getD 0 := by
  simp [ofDigits, List.foldl_append]

theorem ofDigits_digits (n : Nat) : ofDigits (digits n) = n := by
  induction n using digits.induct with
  | case1 n h =>
    rw [digits, if_pos h]
    simp [ofDigits, digitOf?_digitChar h]
  | case2 n h ih =>
    rw [digits, if_neg h, ofDigits_append_singleton, ih,
      digitOf?_digitChar (Nat.mod_lt _ (by decide))]
    simp only [Option.getD_some]
    omega

theorem digits_ne_nil (n : Nat) : digits n ≠ [] := by
  rw [digits]
  split <;> simp

def natText (n : Nat) : String :=
  String.ofList (digits n)

def intChars : Int → List Char
  | .ofNat n => digits n
  | .negSucc n => '-' :: digits (n + 1)

def signed (negative : Bool) (n : Nat) : Int :=
  if negative then -n else n

def intText (n : Int) : String :=
  String.ofList (intChars n)

/-- Numbers of more digits are neither read nor written. -/
def maxDigits : Nat :=
  4300

def isTooLong (n : Int) : Bool :=
  Nat.pow 10 maxDigits ≤ n.natAbs

def tooLongMessage : String :=
  "Exceeds the limit (" ++ natText maxDigits ++ " digits) for integer string conversion; "
    ++ "use sys.set_int_max_str_digits() to increase the limit"

def tooManyDigitsMessage (count : Nat) : String :=
  "Exceeds the limit (" ++ natText maxDigits ++ " digits) for integer string conversion: value has "
    ++ natText count ++ " digits; use sys.set_int_max_str_digits() to increase the limit"

end BuildPipeline.Number
