import BuildPipeline.Text.Pieces
import BuildPipeline.Text.Utf8

set_option autoImplicit false

namespace BuildPipeline.StockSystem

def narrowChars (cs : List Char) : List Char :=
  (Text.Utf8.encode cs).map fun b => Char.ofNat b.toNat

def narrow (s : String) : String :=
  String.ofList (narrowChars s.toList)

def bytesOf (cs : List Char) : List UInt8 :=
  cs.map fun c => c.toNat.toUInt8

def ofBytes (bs : List UInt8) : List Char :=
  bs.map fun b => Char.ofNat b.toNat

/-- The text whose bytes a narrow text holds. -/
def widen (s : String) : String :=
  String.ofList (Text.Utf8.decodeLenient (bytesOf s.toList))

def linesOf : List Char → List (List Char)
  | [] => []
  | c :: cs =>
    if c = '\n' then [c] :: linesOf cs
    else match linesOf cs with
      | [] => [[c]]
      | l :: ls => (c :: l) :: ls

def bareLines (cs : List Char) : List (List Char) :=
  (linesOf cs).map (·.filter (· ≠ '\n'))

def unlines (ls : List (List Char)) : List Char :=
  ls.flatMap (· ++ ['\n'])

theorem flatten_linesOf (cs : List Char) : (linesOf cs).flatten = cs := by
  induction cs with
  | nil => rfl
  | cons c cs ih =>
    unfold linesOf
    split
    · simp [ih]
    · split
      next h => rw [h] at ih; simpa using ih
      next l ls h => rw [h] at ih; simpa using ih

end BuildPipeline.StockSystem
