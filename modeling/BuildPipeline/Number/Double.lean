import BuildPipeline.Number.Decimal

set_option autoImplicit false

namespace BuildPipeline.Number

structure Double where
  bits : UInt64
  deriving DecidableEq, Repr

def twoTo (n : Nat) : Nat :=
  Nat.pow 2 n

def tenTo (n : Nat) : Nat :=
  Nat.pow 10 n

namespace Double

def negative (x : Double) : Bool :=
  x.bits.toNat / twoTo 63 = 1

def exponentField (x : Double) : Nat :=
  x.bits.toNat / twoTo 52 % 2048

def fraction (x : Double) : Nat :=
  x.bits.toNat % twoTo 52

def isNaN (x : Double) : Bool :=
  x.exponentField = 2047 && x.fraction ≠ 0

def isInfinite (x : Double) : Bool :=
  x.exponentField = 2047 && x.fraction = 0

def significand (x : Double) : Nat :=
  if x.exponentField = 0 then x.fraction else twoTo 52 + x.fraction

def exponent (x : Double) : Int :=
  (max x.exponentField 1 : Nat) - 1075

def isZero (x : Double) : Bool :=
  x.exponentField = 0 && x.fraction = 0

def ofMagnitude (negative : Bool) (magnitude : Nat) : Double :=
  ⟨((if negative then twoTo 63 else 0) + magnitude).toUInt64⟩

def infinity (negative : Bool) : Double :=
  ofMagnitude negative (2047 * twoTo 52)

def nan : Double :=
  ofMagnitude false (2047 * twoTo 52 + twoTo 51)

def roundHalfEven (num den : Nat) : Nat :=
  let q := num / den
  let r := num % den
  if 2 * r < den then q
  else if den < 2 * r then q + 1
  else if q % 2 = 0 then q else q + 1

def scaled (num den : Nat) (e : Int) : Nat × Nat :=
  if 0 ≤ e then (num, den * twoTo e.toNat) else (num * twoTo (-e).toNat, den)

def ofRatio (negative : Bool) (num den : Nat) : Double :=
  if num = 0 then ofMagnitude negative 0
  else
    let guess : Int := (Nat.log2 num : Int) - Nat.log2 den - 52
    let s := scaled num den guess
    let e := max (if s.1 / s.2 < twoTo 52 then guess - 1 else guess) (-1074)
    let s := scaled num den e
    let magnitude := (e + 1074).toNat * twoTo 52 + roundHalfEven s.1 s.2
    if magnitude < 2047 * twoTo 52 then ofMagnitude negative magnitude else infinity negative

/-- The number nearest to `mantissa * 10 ^ e`. -/
def ofDecimal (negative : Bool) (mantissa : Nat) (e : Int) : Double :=
  if mantissa = 0 then ofMagnitude negative 0
  else
    let size : Int := (digits mantissa).length
    if 400 < e + size then infinity negative
    else if e + size < -400 then ofMagnitude negative 0
    else if 0 ≤ e then ofRatio negative (mantissa * tenTo e.toNat) 1
    else ofRatio negative mantissa (tenTo (-e).toNat)

def ratio (x : Double) : Nat × Nat :=
  scaled x.significand 1 (-x.exponent)

def neg (x : Double) : Double :=
  ofMagnitude (!x.negative) (x.bits.toNat % twoTo 63)

def mul (x y : Double) : Double :=
  let negative := x.negative != y.negative
  if x.isNaN || y.isNaN then nan
  else if x.isInfinite || y.isInfinite then
    if x.isZero || y.isZero then nan else infinity negative
  else ofRatio negative (x.ratio.1 * y.ratio.1) (x.ratio.2 * y.ratio.2)

def numerator (x : Double) : Int :=
  signed x.negative x.ratio.1

def add (x y : Double) : Double :=
  if x.isNaN || y.isNaN then nan
  else if x.isInfinite then if y.isInfinite && x.negative != y.negative then nan else x
  else if y.isInfinite then y
  else
    let sum := x.numerator * y.ratio.2 + y.numerator * x.ratio.2
    if sum = 0 then ofMagnitude (x.negative && y.negative) 0
    else ofRatio (sum < 0) sum.natAbs (x.ratio.2 * y.ratio.2)

def ofNat (n : Nat) : Double :=
  ofRatio false n 1

def compareScaled (a : Nat) (d : Int) (b : Nat) (e : Int) : Ordering :=
  compare (a * tenTo d.toNat * twoTo (-e).toNat) (b * twoTo e.toNat * tenTo (-d).toNat)

def roundingBounds (x : Double) : Nat × Nat :=
  let m := x.significand
  (if x.fraction = 0 && 1 < x.exponentField then 4 * m - 1 else 4 * m - 2, 4 * m + 2)

def roundsBack (x : Double) (a : Nat) (d : Int) : Bool :=
  let low := compareScaled a d x.roundingBounds.1 (x.exponent - 2)
  let high := compareScaled a d x.roundingBounds.2 (x.exponent - 2)
  if x.significand % 2 = 0 then low != .lt && high != .gt else low == .gt && high == .lt

def leadingPower (x : Double) : Int :=
  let num := x.significand * twoTo x.exponent.toNat
  let den := twoTo (-x.exponent).toNat
  if den ≤ num then (digits (num / den)).length - 1
  else
    let d := (digits (den / num)).length
    if den ≤ num * tenTo (d - 1) then 1 - (d : Int) else -(d : Int)

def neighbours (x : Double) (d : Int) : List Nat :=
  let num := x.significand * twoTo x.exponent.toNat * tenTo (-d).toNat
  let den := twoTo (-x.exponent).toNat * tenTo d.toNat
  let below := num / den
  if roundHalfEven num den = below then [below, below + 1] else [below + 1, below]

def shortestFrom (x : Double) (power : Int) : Nat → Nat → Nat × Int
  | 0, _ => (0, 0)
  | left + 1, count =>
    let d := power + 1 - (count : Int)
    match (x.neighbours d).find? (x.roundsBack · d) with
    | some a => (a, d)
    | none => shortestFrom x power left (count + 1)

/-- A decimal `a * 10 ^ d` with the fewest digits that rounds to `x`. -/
def shortest (x : Double) : Nat × Int :=
  shortestFrom x x.leadingPower 17 1

def stripZeros : Nat → Nat → Int → Nat × Int
  | 0, a, d => (a, d)
  | fuel + 1, a, d => if a % 10 = 0 && a ≠ 0 then stripZeros fuel (a / 10) (d + 1) else (a, d)

def decimalText (a : Nat) (d : Int) : List Char :=
  let s := stripZeros 20 a d
  let ds := digits s.1
  let point : Int := ds.length + s.2
  if -3 ≤ point && point ≤ 16 then
    if point ≤ 0 then '0' :: '.' :: List.replicate (-point).toNat '0' ++ ds
    else if point < ds.length then ds.take point.toNat ++ '.' :: ds.drop point.toNat
    else ds ++ List.replicate (point.toNat - ds.length) '0' ++ ['.', '0']
  else
    let e := point - 1
    let eds := digits e.natAbs
    let mantissa := match ds with
      | c :: c' :: cs => c :: '.' :: c' :: cs
      | cs => cs
    mantissa ++ 'e' :: (if e < 0 then '-' else '+')
      :: (if eds.length < 2 then '0' :: eds else eds)

def text (x : Double) : String :=
  if x.isNaN then "nan"
  else
    let sign := if x.negative then "-" else ""
    if x.isInfinite then sign ++ "inf"
    else if x.isZero then sign ++ "0.0"
    else sign ++ String.ofList (decimalText x.shortest.1 x.shortest.2)

def toInt? (x : Double) : Option Int :=
  if x.exponentField = 2047 then none
  else
    let num := x.significand * twoTo x.exponent.toNat
    let den := twoTo (-x.exponent).toNat
    if num % den = 0 then
      let n : Int := (num / den : Nat)
      some (if x.negative then -n else n)
    else none

def same (x y : Double) : Bool :=
  x.bits == y.bits || x.isZero && y.isZero

end Double

end BuildPipeline.Number
