import BuildPipeline.Base64
import BuildPipeline.SourceMap.Fault

set_option autoImplicit false

namespace BuildPipeline.SourceMap.Vlq

def fold (n : Int) : Nat :=
  if n < 0 then 2 * n.natAbs + 1 else 2 * n.natAbs

def unfold (m : Nat) : Int :=
  if m % 2 = 1 then -((m / 2 : Nat) : Int) else (m / 2 : Nat)

theorem unfold_fold (n : Int) : unfold (fold n) = n := by
  simp only [unfold, fold]
  split <;> split <;> omega

def encodeNat (m : Nat) : List Char :=
  if m < 32 then [Base64.digit m] else Base64.digit (32 + m % 32) :: encodeNat (m / 32)
termination_by m
decreasing_by omega

def encode (n : Int) : List Char :=
  encodeNat (fold n)

/-- Reads quantities; `value` is what the digits of the current one have come to, and `scale` the
power of 32 that the next digit counts. `all` is the whole text. -/
def decodeFrom (all : List Char) (value scale : Nat) : List Char → Except Fault (List Int)
  | [] => if scale = 1 then .ok [] else .error (.truncated all)
  | c :: cs =>
    match Base64.value? c with
    | none => .error (.badDigit c)
    | some d =>
      if d < 32 then (decodeFrom all 0 1 cs).map (unfold (value + d * scale) :: ·)
      else decodeFrom all (value + (d - 32) * scale) (scale * 32) cs

def decode (cs : List Char) : Except Fault (List Int) :=
  decodeFrom cs 0 1 cs

end BuildPipeline.SourceMap.Vlq
