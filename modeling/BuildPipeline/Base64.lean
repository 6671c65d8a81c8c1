set_option autoImplicit false

namespace BuildPipeline.Base64

def alphabet : List Char :=
  "ABCDEFGHIJKLMNOPQRSTUVWXYZabcdefghijklmnopqrstuvwxyz0123456789+/".toList

def digit (n : Nat) : Char :=
  if n < 26 then Char.ofNat (65 + n)
  else if n < 52 then Char.ofNat (71 + n)
  else if n < 62 then Char.ofNat (n - 4)
  else if n = 62 then '+' else '/'

def value? (c : Char) : Option Nat :=
  if 'A' ≤ c && c ≤ 'Z' then some (c.toNat - 65)
  else if 'a' ≤ c && c ≤ 'z' then some (c.toNat - 71)
  else if '0' ≤ c && c ≤ '9' then some (c.toNat + 4)
  else if c = '+' then some 62
  else if c = '/' then some 63
  else none

theorem alphabet_eq : alphabet = (List.range 64).map digit := by decide

theorem value?_digit {n : Nat} (h : n < 64) : value? (digit n) = some n := by
  have : ∀ m : Fin 64, value? (digit m.val) = some m.val := by decide
  exact this ⟨n, h⟩

def encode : List UInt8 → List Char
  | [] => []
  | [a] => [digit (a.toNat / 4), digit (a.toNat % 4 * 16), '=', '=']
  | [a, b] =>
    [digit (a.toNat / 4), digit (a.toNat % 4 * 16 + b.toNat / 16),
     digit (b.toNat % 16 * 4), '=']
  | a :: b :: c :: rest =>
    digit (a.toNat / 4) :: digit (a.toNat % 4 * 16 + b.toNat / 16)
      :: digit (b.toNat % 16 * 4 + c.toNat / 64) :: digit (c.toNat % 64) :: encode rest

def assemble : List Nat → List UInt8
  | p :: q :: r :: s :: rest =>
    (p * 4 + q / 16).toUInt8 :: (q % 16 * 16 + r / 4).toUInt8 :: (r % 4 * 64 + s).toUInt8
      :: assemble rest
  | [p, q, r] => [(p * 4 + q / 16).toUInt8, (q % 16 * 16 + r / 4).toUInt8]
  | [p, q] => [(p * 4 + q / 16).toUInt8]
  | _ => []

def paddingFits (digits pads : Nat) : Bool :=
  match digits % 4 with
  | 0 => pads = 0 || digits ≠ 0
  | 1 => false
  | 2 => pads = 2
  | _ => pads = 1

def decode? (cs : List Char) : Option (List UInt8) :=
  let body := cs.takeWhile (· ≠ '=')
  let pads := cs.dropWhile (· ≠ '=')
  if pads.all (· = '=') && paddingFits body.length pads.length then
    (body.mapM value?).map assemble
  else none

/-- The digits of a text, of which `count` and then `pads` of padding have been read. -/
def lenientDigits? (count pads : Nat) : List Char → Option (List Nat)
  | [] => if count % 4 = 0 then some [] else none
  | '=' :: rest =>
    if 2 ≤ count % 4 && 4 ≤ count % 4 + (pads + 1) then some []
    else lenientDigits? count (pads + 1) rest
  | c :: rest =>
    match value? c with
    | none => lenientDigits? count pads rest
    | some n => (lenientDigits? (count + 1) 0 rest).map (n :: ·)

def decodeLenient? (cs : List Char) : Option (List UInt8) :=
  if cs.all (·.toNat < 128) then (lenientDigits? 0 0 cs).map assemble else none

end BuildPipeline.Base64
