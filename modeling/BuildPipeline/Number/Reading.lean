import BuildPipeline.Number.Double
import BuildPipeline.Text.Blank
import BuildPipeline.Text.DecimalDigit
import BuildPipeline.Text.Hex
import BuildPipeline.Text.Quoted

set_option autoImplicit false

namespace BuildPipeline.Number

def plainChar (c : Char) : Char :=
  if c.toNat < 127 then c
  else if Text.isBlank c then ' '
  else match Text.digitValue? c with
    | some n => digitChar n
    | none => '?'

def plainChars (cs : List Char) : List Char :=
  if cs.all (·.toNat < 128) then cs else cs.map plainChar

def isAsciiBlank (c : Char) : Bool :=
  c == ' ' || '\t' ≤ c && c ≤ '\r'

def takeSign : List Char → Bool × List Char
  | '-' :: rest => (true, rest)
  | '+' :: rest => (false, rest)
  | cs => (false, cs)

def dropMark (base : Nat) : List Char → List Char
  | '0' :: m :: rest =>
    if base = 16 && (m == 'x' || m == 'X') || base = 8 && (m == 'o' || m == 'O')
        || base = 2 && (m == 'b' || m == 'B') then rest
    else '0' :: m :: rest
  | cs => cs

inductive WholeFault where
  | notWhole (base : Nat) (text : List Char)
  | tooManyDigits (count : Nat)
  deriving DecidableEq, Repr

def maxQuoted : Nat :=
  200

def WholeFault.message : WholeFault → String
  | .notWhole base text =>
    "invalid literal for int() with base " ++ natText base ++ ": "
      ++ String.ofList ((Text.quotedChars text).take maxQuoted)
  | .tooManyDigits count => tooManyDigitsMessage count

def isDigitIn (base : Nat) (c : Char) : Bool :=
  (Text.hexValue? c).any (· < base)

def ofDigitsIn (base : Nat) (cs : List Char) : Nat :=
  cs.foldl (fun n c => base * n + (Text.hexValue? c).getD 0) 0

/-- Only the length of decimal numbers is limited. -/
def readWhole (base : Nat) (cs : List Char) : Except WholeFault Int :=
  let (negative, rest) := takeSign ((plainChars cs).dropWhile isAsciiBlank)
  let rest := dropMark base rest
  let digits := rest.takeWhile (isDigitIn base)
  if base = 10 && maxDigits < digits.length then .error (.tooManyDigits digits.length)
  else if digits.isEmpty || !(rest.drop digits.length).all isAsciiBlank then
    .error (.notWhole base cs)
  else .ok (signed negative (ofDigitsIn base digits))

def readExponent? : List Char → Option Int
  | [] => some 0
  | e :: rest =>
    let (negative, digits) := takeSign rest
    if (e == 'e' || e == 'E') && !digits.isEmpty && digits.all isDigit then
      some (signed negative (ofDigits digits))
    else none

def readMagnitude? (negative : Bool) (cs : List Char) : Option Double :=
  let whole := cs.takeWhile isDigit
  let (fraction, rest) := match cs.dropWhile isDigit with
    | '.' :: rest => (rest.takeWhile isDigit, rest.dropWhile isDigit)
    | rest => ([], rest)
  if whole.isEmpty && fraction.isEmpty then none
  else (readExponent? rest).map fun e =>
    .ofDecimal negative (ofDigits (whole ++ fraction)) (e - fraction.length)

def readDouble? (cs : List Char) : Option Double :=
  let cs := Text.dropTailWhile isAsciiBlank ((plainChars cs).dropWhile isAsciiBlank)
  let (negative, cs) := takeSign cs
  let word := String.ofList (cs.map Char.toLower)
  if word = "inf" || word = "infinity" then some (.infinity negative)
  else if word = "nan" then some .nan
  else readMagnitude? negative cs

end BuildPipeline.Number
