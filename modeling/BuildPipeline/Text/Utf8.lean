import BuildPipeline.Text.Hex

set_option autoImplicit false

namespace BuildPipeline.Text.Utf8

def encodeChar (c : Char) : List UInt8 :=
  let n := c.toNat
  if n < 0x80 then [n.toUInt8]
  else if n < 0x800 then [(0xC0 + n / 64).toUInt8, (0x80 + n % 64).toUInt8]
  else if n < 0x10000 then
    [(0xE0 + n / 4096).toUInt8, (0x80 + n / 64 % 64).toUInt8, (0x80 + n % 64).toUInt8]
  else
    [(0xF0 + n / 262144).toUInt8, (0x80 + n / 4096 % 64).toUInt8,
     (0x80 + n / 64 % 64).toUInt8, (0x80 + n % 64).toUInt8]

def encode (cs : List Char) : List UInt8 :=
  cs.flatMap encodeChar

inductive Cause where
  | start
  | continuation
  | truncated
  deriving DecidableEq, Repr

structure Fault where
  cause : Cause
  length : Nat
  deriving DecidableEq, Repr

def tailShape (b : Nat) : Option (Nat × Nat × Nat) :=
  if b < 0xC2 then none
  else if b < 0xE0 then some (1, 0x80, 0xBF)
  else if b < 0xF0 then some (2, if b = 0xE0 then 0xA0 else 0x80, if b = 0xED then 0x9F else 0xBF)
  else if b < 0xF5 then some (3, if b = 0xF0 then 0x90 else 0x80, if b = 0xF4 then 0x8F else 0xBF)
  else none

def leadBits (tail b : Nat) : Nat :=
  if tail = 1 then b - 0xC0 else if tail = 2 then b - 0xE0 else b - 0xF0

def readTail : Nat → Nat → Nat → Nat → Nat → List UInt8 → Except Fault (Nat × List UInt8)
  | 0, _, _, code, _, rest => .ok (code, rest)
  | _ + 1, _, _, _, seen, [] => .error ⟨.truncated, seen⟩
  | need + 1, low, high, code, seen, b :: rest =>
    if low ≤ b.toNat && b.toNat ≤ high then
      readTail need 0x80 0xBF (code * 64 + (b.toNat - 0x80)) (seen + 1) rest
    else .error ⟨.continuation, seen⟩

def next (b : UInt8) (rest : List UInt8) : Except Fault (Char × List UInt8) :=
  if b.toNat < 0x80 then .ok (Char.ofNat b.toNat, rest)
  else match tailShape b.toNat with
    | none => .error ⟨.start, 1⟩
    | some (tail, low, high) =>
      (readTail tail low high (leadBits tail b.toNat) 1 rest).map fun r => (Char.ofNat r.1, r.2)

structure Misread where
  fault : Fault
  position : Nat
  byte : UInt8
  deriving DecidableEq, Repr

def Misread.message (m : Misread) : String :=
  let reason := match m.fault.cause with
    | .start => "invalid start byte"
    | .continuation => "invalid continuation byte"
    | .truncated => "unexpected end of data"
  let place :=
    if m.fault.length = 1 then
      "byte 0x" ++ String.ofList (hexDigits 2 m.byte.toNat) ++ " in position "
        ++ toString m.position
    else
      "bytes in position " ++ toString m.position ++ "-"
        ++ toString (m.position + m.fault.length - 1)
  "'utf-8' codec can't decode " ++ place ++ ": " ++ reason

def decodeFrom : Nat → Nat → List UInt8 → Except Misread (List Char)
  | 0, _, _ => .ok []
  | _ + 1, _, [] => .ok []
  | fuel + 1, position, b :: rest =>
    match next b rest with
    | .ok (c, after) =>
      (decodeFrom fuel (position + 1 + (rest.length - after.length)) after).map (c :: ·)
    | .error fault => .error ⟨fault, position, b⟩

def decode (bs : List UInt8) : Except Misread (List Char) :=
  decodeFrom bs.length 0 bs

def decodeLenientFrom : Nat → List UInt8 → List Char
  | 0, _ => []
  | _ + 1, [] => []
  | fuel + 1, b :: rest =>
    match next b rest with
    | .ok (c, after) => c :: decodeLenientFrom fuel after
    | .error fault => '\ufffd' :: decodeLenientFrom fuel (rest.drop (fault.length - 1))

def decodeLenient (bs : List UInt8) : List Char :=
  decodeLenientFrom bs.length bs

end BuildPipeline.Text.Utf8
