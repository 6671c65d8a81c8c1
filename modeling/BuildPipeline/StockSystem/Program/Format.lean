import BuildPipeline.StockSystem.Program.Process
import BuildPipeline.Number.Decimal
import BuildPipeline.Text.Hex

set_option autoImplicit false

namespace BuildPipeline.StockSystem.Program

def octal? (c : Char) : Option Nat :=
  if '0' ≤ c && c ≤ '7' then some (c.toNat - 48) else none

def byteChar (n : Nat) : Char :=
  Char.ofNat (n % 256)

def digitHead (digit? : Char → Option Nat) (base most : Nat) (cs : List Char) : Nat × List Char :=
  let ds := (cs.take most).takeWhile fun c => (digit? c).isSome
  (ds.foldl (fun n c => base * n + (digit? c).getD 0) 0, cs.drop ds.length)

inductive Escaped where
  | chars (cs rest : List Char)
  | stop
  deriving DecidableEq, Repr

def simpleEscape? (c : Char) : Option Char :=
  match c with
  | 'n' => some '\n'
  | 'r' => some '\r'
  | 't' => some '\t'
  | 'a' => some '\x07'
  | 'b' => some '\x08'
  | 'f' => some '\x0c'
  | 'v' => some '\x0b'
  | 'e' => some '\x1b'
  | '\\' => some '\\'
  | _ => none

def plainEscape? (cs : List Char) : Option Escaped :=
  match cs with
  | c :: rest =>
    match simpleEscape? c with
    | some e => some (.chars [e] rest)
    | none =>
      if (octal? c).isSome then
        let (n, rest) := digitHead octal? 8 3 (c :: rest)
        some (.chars [byteChar n] rest)
      else none
  | [] => none

def codeEscape? (width : Nat) (cs : List Char) : Option Escaped :=
  let (n, rest) := digitHead Text.hexValue? 16 width cs
  if cs.length = rest.length + width then some (.chars (narrowChars [Char.ofNat n]) rest) else none

def richEscape? : List Char → Option Escaped
  | '"' :: rest => some (.chars ['"'] rest)
  | 'c' :: _ => some .stop
  | 'u' :: rest => codeEscape? 4 rest
  | 'U' :: rest => codeEscape? 8 rest
  | 'x' :: rest =>
    let (n, rest') := digitHead Text.hexValue? 16 2 rest
    if rest'.length < rest.length then some (.chars [byteChar n] rest') else none
  | _ => none

/-- How the shell's own printing differs from the program's. -/
structure Dialect where
  inShell : Bool
  deriving DecidableEq, Repr

def Dialect.escape (d : Dialect) (cs : List Char) : Escaped :=
  match plainEscape? cs with
  | some e => e
  | none =>
    match if d.inShell then none else richEscape? cs with
    | some e => e
    | none => .chars ('\\' :: cs.take 1) (cs.drop 1)

def Dialect.argumentEscape (d : Dialect) (cs : List Char) : Escaped :=
  match cs with
  | 'c' :: _ => .stop
  | '0' :: rest =>
    let (n, rest) := digitHead octal? 8 3 rest
    .chars [byteChar n] rest
  | cs => d.escape cs

def Dialect.unescape (d : Dialect) : Nat → List Char → List Char × Bool
  | 0, cs => (cs, false)
  | _ + 1, [] => ([], false)
  | fuel + 1, '\\' :: c :: cs =>
    match d.argumentEscape (c :: cs) with
    | .stop => ([], true)
    | .chars out rest =>
      let (more, ended) := d.unescape fuel rest
      (out ++ more, ended)
  | fuel + 1, c :: cs =>
    let (more, ended) := d.unescape fuel cs
    (c :: more, ended)

structure Directive where
  flags : List Char := []
  width : Nat := 0
  precision : Option Nat := none
  deriving DecidableEq, Repr

namespace Directive

def has (d : Directive) (flag : Char) : Bool :=
  d.flags.contains flag

def pad (d : Directive) (zeros : Bool) (lead body : List Char) : List Char :=
  let missing := d.width - (lead.length + body.length)
  if d.has '-' then lead ++ body ++ List.replicate missing ' '
  else if zeros && d.has '0' then lead ++ List.replicate missing '0' ++ body
  else List.replicate missing ' ' ++ lead ++ body

def signOf (d : Directive) (negative : Bool) : List Char :=
  if negative then ['-'] else if d.has '+' then ['+'] else if d.has ' ' then [' '] else []

def atLeast (count : Nat) (ds : List Char) : List Char :=
  List.replicate (count - ds.length) '0' ++ ds

def text (d : Directive) (cs : List Char) : List Char :=
  d.pad false [] (match d.precision with
    | some n => cs.take n
    | none => cs)

def digitsIn (base : Nat) (n : Nat) : Nat → List Char → List Char
  | 0, ds => ds
  | fuel + 1, ds =>
    if n < base then Text.hexDigit n :: ds
    else digitsIn base (n / base) fuel (Text.hexDigit (n % base) :: ds)

def wordSize : Nat :=
  18446744073709551616

def whole (d : Directive) (conversion : Char) (n : Int) : List Char :=
  let isSigned := conversion = 'd' || conversion = 'i'
  let base := if conversion = 'o' then 8 else if conversion = 'x' || conversion = 'X' then 16 else 10
  let size := if isSigned then n.natAbs else (Int.emod n wordSize).toNat
  let ds := if size = 0 && d.precision = some 0 then [] else digitsIn base size 64 []
  let ds := if conversion = 'X' then ds.map Char.toUpper else ds
  let ds := atLeast (d.precision.getD 0) ds
  let ds := if d.has '#' && base = 8 && ds.head? ≠ some '0' then '0' :: ds else ds
  let lead :=
    if isSigned then d.signOf (n < 0)
    else if d.has '#' && base = 16 && size ≠ 0 then ['0', conversion]
    else []
  d.pad d.precision.isNone lead ds

end Directive

structure Ratio where
  negative : Bool
  num : Nat
  den : Nat
  deriving DecidableEq, Repr

namespace Ratio

def roundDiv (num den : Nat) : Nat :=
  let q := num / den
  let twice := 2 * (num % den)
  if den < twice || (twice = den && q % 2 = 1) then q + 1 else q

def toBinary (bits : Nat) (r : Ratio) : Ratio :=
  if r.num = 0 then r
  else
    let shift : Int := Nat.log2 r.num - Nat.log2 r.den - bits
    let up := Nat.pow 2 (-shift).toNat
    let down := Nat.pow 2 shift.toNat
    let m := roundDiv (r.num * up) (r.den * down)
    let m' := if Nat.pow 2 bits ≤ m then 2 * roundDiv (r.num * up) (2 * (r.den * down)) else m
    { r with num := m' * down, den := up }

def fixed (places : Nat) (r : Ratio) : List Char × List Char :=
  let ds := Directive.atLeast (places + 1)
    (Number.digits (roundDiv (r.num * Nat.pow 10 places) r.den))
  (ds.take (ds.length - places), ds.drop (ds.length - places))

def exponent (r : Ratio) : Int :=
  let guess : Int := (Number.digits r.num).length - (Number.digits r.den).length
  if r.den * Nat.pow 10 guess.toNat ≤ r.num * Nat.pow 10 (-guess).toNat then guess else guess - 1

def scientific (places : Nat) (r : Ratio) : List Char × Int :=
  if r.num = 0 then (List.replicate (places + 1) '0', 0)
  else
    let e := r.exponent
    let up := e - places
    let n := roundDiv (r.num * Nat.pow 10 (-up).toNat) (r.den * Nat.pow 10 up.toNat)
    let ds := Number.digits n
    if places + 1 < ds.length then (ds.take (places + 1), e + 1) else (ds, e)

end Ratio

namespace Directive

def pointed (alternate : Bool) (whole fraction : List Char) : List Char :=
  if fraction = [] && !alternate then whole else whole ++ '.' :: fraction

def exponentText (e : Int) : List Char :=
  (if e < 0 then ['e', '-'] else ['e', '+']) ++ atLeast 2 (Number.digits e.natAbs)

def withoutTail (ds : List Char) : List Char :=
  (ds.reverse.dropWhile (· = '0')).reverse

def magnitude (d : Directive) (conversion : Char) (r : Ratio) : List Char :=
  let places := d.precision.getD 6
  match conversion.toLower with
  | 'f' => let (w, f) := r.fixed places; pointed (d.has '#') w f
  | 'e' =>
    let (ds, e) := r.scientific places
    pointed (d.has '#') (ds.take 1) (ds.drop 1) ++ exponentText e
  | _ =>
    let places := max places 1
    let (ds, e) := r.scientific (places - 1)
    let trim := if d.has '#' then id else withoutTail
    if e < -4 || (places : Int) ≤ e then
      pointed (d.has '#') (ds.take 1) (trim (ds.drop 1)) ++ exponentText e
    else
      let (w, f) := r.fixed ((places : Int) - 1 - e).toNat
      pointed (d.has '#') w (trim f)

def real (d : Directive) (conversion : Char) (r : Ratio) : List Char :=
  let body := d.magnitude conversion r
  let body := if conversion.isUpper then body.map Char.toUpper else body
  d.pad true (d.signOf r.negative) body

end Directive

end BuildPipeline.StockSystem.Program
