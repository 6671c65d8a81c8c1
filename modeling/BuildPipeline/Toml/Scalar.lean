import BuildPipeline.Text.Hex
import BuildPipeline.Value.Basic

set_option autoImplicit false

namespace BuildPipeline.Toml

open BuildPipeline.Number (isDigit signed)

inductive Fault where
  | malformed
  | tooManyDigits (count : Nat)
  deriving DecidableEq, Repr

/-- Where a text is malformed is not told. -/
def Fault.message : Fault → String
  | .malformed => "<toml error>"
  | .tooManyDigits count => Number.tooManyDigitsMessage count

def isSpace (c : Char) : Bool :=
  c == ' ' || c == '\t'

def skipSpace (cs : List Char) : List Char :=
  cs.dropWhile isSpace

def isControl (c : Char) : Bool :=
  (c.toNat < 0x20 || c.toNat = 0x7F) && c != '\t'

def isControlInLines (c : Char) : Bool :=
  isControl c && c != '\n'

def scalarValue? (n : Nat) : Option Char :=
  if n < 0xD800 || 0xE000 ≤ n && n ≤ 0x10FFFF then some (Char.ofNat n) else none

def hexChar? (width : Nat) (cs : List Char) : Option (Char × List Char) :=
  if cs.length < width then none
  else ((Text.hexNumber? (cs.take width)).bind scalarValue?).map (·, cs.drop width)

def simpleEscape? (c : Char) : Option Char :=
  match c with
  | 'b' => some '\x08'
  | 't' => some '\t'
  | 'n' => some '\n'
  | 'f' => some '\x0c'
  | 'r' => some '\r'
  | '"' => some '"'
  | '\\' => some '\\'
  | _ => none

def lineContinuation? (cs : List Char) : Option (List Char) :=
  let swallow (cs : List Char) := cs.dropWhile fun c => isSpace c || c == '\n'
  match cs with
  | '\n' :: rest => some (swallow rest)
  | c :: _ =>
    if isSpace c then
      match skipSpace cs with
      | '\n' :: rest => some (swallow rest)
      | [] => some []
      | _ => none
    else none
  | [] => none

def readEscape (lines : Bool) (cs : List Char) : Except Fault (List Char × List Char) :=
  match (if lines then lineContinuation? cs else none) with
  | some rest => .ok ([], rest)
  | none =>
    let read? : Option (Char × List Char) := match cs with
      | 'u' :: rest => hexChar? 4 rest
      | 'U' :: rest => hexChar? 8 rest
      | c :: rest => (simpleEscape? c).map (·, rest)
      | [] => none
    match read? with
    | some (c, rest) => .ok ([c], rest)
    | none => .error .malformed

def readQuoted (lines : Bool) : Nat → List Char → Except Fault (List Char × List Char)
  | 0, _ => .error .malformed
  | _ + 1, [] => .error .malformed
  | fuel + 1, '\\' :: rest => do
    let (cs, rest) ← readEscape lines rest
    let (more, rest) ← readQuoted lines fuel rest
    .ok (cs ++ more, rest)
  | fuel + 1, '"' :: rest =>
    if !lines then .ok ([], rest)
    else match rest with
      | '"' :: '"' :: rest => .ok ([], rest)
      | rest => (readQuoted lines fuel rest).map fun r => ('"' :: r.1, r.2)
  | fuel + 1, c :: rest =>
    if (if lines then isControlInLines c else isControl c) then .error .malformed
    else (readQuoted lines fuel rest).map fun r => (c :: r.1, r.2)

def readLiteral : List Char → Except Fault (List Char × List Char)
  | [] => .error .malformed
  | '\'' :: rest => .ok ([], rest)
  | c :: rest =>
    if isControl c then .error .malformed
    else (readLiteral rest).map fun r => (c :: r.1, r.2)

def readLiteralLines : List Char → Except Fault (List Char × List Char)
  | [] => .error .malformed
  | '\'' :: '\'' :: '\'' :: rest => .ok ([], rest)
  | c :: rest =>
    if isControlInLines c then .error .malformed
    else (readLiteralLines rest).map fun r => (c :: r.1, r.2)

def trailingQuotes (q : Char) (r : List Char × List Char) : List Char × List Char :=
  match r with
  | (cs, a :: b :: rest) =>
    if a = q && b = q then (cs ++ [q, q], rest) else if a = q then (cs ++ [q], b :: rest) else r
  | (cs, [a]) => if a = q then (cs ++ [q], []) else r
  | _ => r

def dropNewline (cs : List Char) : List Char :=
  match cs with
  | '\n' :: rest => rest
  | cs => cs

def readLineString (cs : List Char) : Except Fault (List Char × List Char) :=
  match cs with
  | '"' :: rest => readQuoted false (rest.length + 1) rest
  | '\'' :: rest => readLiteral rest
  | _ => .error .malformed

def readString (cs : List Char) : Except Fault (List Char × List Char) :=
  match cs with
  | '"' :: '"' :: '"' :: rest =>
    (readQuoted true (rest.length + 1) (dropNewline rest)).map (trailingQuotes '"')
  | '\'' :: '\'' :: '\'' :: rest =>
    (readLiteralLines (dropNewline rest)).map (trailingQuotes '\'')
  | cs => readLineString cs

def moreDigits (isD : Char → Bool) : List Char → List Char × List Char
  | '_' :: c :: rest =>
    if isD c then
      let (ds, after) := moreDigits isD rest
      (c :: ds, after)
    else ([], '_' :: c :: rest)
  | c :: rest =>
    if isD c then
      let (ds, after) := moreDigits isD rest
      (c :: ds, after)
    else ([], c :: rest)
  | [] => ([], [])

def digits? (isD : Char → Bool) : List Char → Option (List Char × List Char)
  | c :: rest =>
    if isD c then
      let (ds, after) := moreDigits isD rest
      some (c :: ds, after)
    else none
  | [] => none

def baseNumber? (base : Nat) (cs : List Char) : Option (Nat × List Char) :=
  let isD (c : Char) := (Text.hexValue? c).any (· < base)
  (digits? isD cs).map fun (ds, rest) =>
    (ds.foldl (fun n c => base * n + (Text.hexValue? c).getD 0) 0, rest)

def prefixedNumber? : List Char → Option (Nat × List Char)
  | '0' :: 'x' :: rest => baseNumber? 16 rest
  | '0' :: 'o' :: rest => baseNumber? 8 rest
  | '0' :: 'b' :: rest => baseNumber? 2 rest
  | _ => none

def wholePart? : List Char → Option (List Char × List Char)
  | '0' :: rest => some (['0'], rest)
  | cs => digits? isDigit cs

def fractionPart? : List Char → Option (List Char × List Char)
  | '.' :: rest => digits? isDigit rest
  | _ => none

def exponentPart? : List Char → Option (Int × List Char)
  | e :: rest =>
    if e == 'e' || e == 'E' then
      match rest with
      | '-' :: rest => (digits? isDigit rest).map fun (ds, r) => (-(Number.ofDigits ds : Int), r)
      | '+' :: rest => (digits? isDigit rest).map fun (ds, r) => ((Number.ofDigits ds : Int), r)
      | rest => (digits? isDigit rest).map fun (ds, r) => ((Number.ofDigits ds : Int), r)
    else none
  | [] => none

def sign (cs : List Char) : Bool × List Char :=
  match cs with
  | '-' :: rest => (true, rest)
  | '+' :: rest => (false, rest)
  | cs => (false, cs)

def readDecimal? (cs : List Char) : Option (Except Fault Value × List Char) := do
  let (negative, cs) := sign cs
  let (whole, rest) ← wholePart? cs
  let fraction := (fractionPart? rest).getD ([], rest)
  match exponentPart? fraction.2 with
  | some (e, rest) =>
    let mantissa := Number.ofDigits (whole ++ fraction.1)
    some (.ok (.float (.ofDecimal negative mantissa (e - fraction.1.length))), rest)
  | none =>
    if fraction.1 = [] then
      if Number.maxDigits < whole.length then some (.error (.tooManyDigits whole.length), rest)
      else some (.ok (.int (signed negative (Number.ofDigits whole))), rest)
    else
      let mantissa := Number.ofDigits (whole ++ fraction.1)
      some (.ok (.float (.ofDecimal negative mantissa (-fraction.1.length))), fraction.2)

def readNumber? (cs : List Char) : Option (Except Fault Value × List Char) :=
  match prefixedNumber? cs with
  | some (n, rest) => some (.ok (.int n), rest)
  | none => readDecimal? cs

def specialNumber? (cs : List Char) : Option (Value × List Char) :=
  let (negative, cs) := sign cs
  match cs with
  | 'i' :: 'n' :: 'f' :: rest => some (.float (.infinity negative), rest)
  | 'n' :: 'a' :: 'n' :: rest => some (.float .nan, rest)
  | _ => none

def two? (low high : Nat) : List Char → Option (Nat × List Char)
  | a :: b :: rest =>
    let n := Number.ofDigits [a, b]
    if isDigit a && isDigit b && low ≤ n && n ≤ high then some (n, rest) else none
  | _ => none

def drop? (c : Char) : List Char → Option (List Char)
  | d :: rest => if d = c then some rest else none
  | [] => none

def readDate? (cs : List Char) : Option (Date × List Char) := do
  let (a, rest) ← two? 0 99 cs
  let (b, rest) ← two? 0 99 rest
  let rest ← drop? '-' rest
  let (month, rest) ← two? 1 12 rest
  let rest ← drop? '-' rest
  let (day, rest) ← two? 1 31 rest
  some (⟨a * 100 + b, month, day⟩, rest)

def readMicros (cs : List Char) : Nat × List Char :=
  match cs with
  | '.' :: rest =>
    match rest.takeWhile isDigit with
    | [] => (0, cs)
    | ds => (microsOf ds, rest.dropWhile isDigit)
  | cs => (0, cs)

def readClock? (cs : List Char) : Option (Clock × List Char) := do
  let (hour, rest) ← two? 0 23 cs
  let rest ← drop? ':' rest
  let (minute, rest) ← two? 0 59 rest
  let rest ← drop? ':' rest
  let (second, rest) ← two? 0 59 rest
  let (micros, rest) := readMicros rest
  some (⟨hour, minute, second, micros⟩, rest)

def signedOffset? (negative : Bool) (cs : List Char) : Option (Int × List Char) := do
  let (hours, rest) ← two? 0 23 cs
  let rest ← drop? ':' rest
  let (minutes, rest) ← two? 0 59 rest
  some (signed negative (hours * 60 + minutes), rest)

def readOffset? : List Char → Option (Int × List Char)
  | 'Z' :: rest => some (0, rest)
  | 'z' :: rest => some (0, rest)
  | '+' :: rest => signedOffset? false rest
  | '-' :: rest => signedOffset? true rest
  | _ => none

def readTimeOfDate? : List Char → Option (Clock × List Char)
  | c :: rest => if c == 'T' || c == 't' || c == ' ' then readClock? rest else none
  | [] => none

def readMoment? (cs : List Char) : Option (Except Fault Value × List Char) :=
  match readDate? cs with
  | some (date, rest) =>
    let checked (m : Moment) : Except Fault Value :=
      if date.valid then .ok (.moment m) else .error .malformed
    match readTimeOfDate? rest with
    | some (clock, rest) =>
      match readOffset? rest with
      | some (offset, rest) => some (checked (.dateTime date clock (some offset)), rest)
      | none => some (checked (.dateTime date clock none), rest)
    | none => some (checked (.date date), rest)
  | none => (readClock? cs).map fun (clock, rest) => (.ok (.moment (.time clock)), rest)

end BuildPipeline.Toml
