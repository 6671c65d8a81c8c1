set_option autoImplicit false

namespace BuildPipeline.Text

def unitsOf (c : Char) : Nat :=
  if c.toNat < 0x10000 then 1 else 2

def width16 : List Char → Nat
  | [] => 0
  | c :: cs => unitsOf c + width16 cs

theorem width16_append (xs ys : List Char) : width16 (xs ++ ys) = width16 xs + width16 ys := by
  induction xs with
  | nil => simp [width16]
  | cons c xs ih => simp [width16, ih, Nat.add_assoc]

def utf16Width (s : String) : Nat :=
  width16 s.toList

end BuildPipeline.Text
