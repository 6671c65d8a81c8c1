import BuildPipeline.Text.Hex
import BuildPipeline.Value.Basic

set_option autoImplicit false

namespace BuildPipeline.Json

open BuildPipeline.Number (isDigit)

inductive Problem where
  | value
  | propertyName
  | colon
  | comma
  | extraData
  | unterminated
  | escape
  | unicodeEscape
  | control
  | byteOrderMark
  deriving DecidableEq, Repr

def Problem.text : Problem → String
  | .value => "Expecting value"
  | .propertyName => "Expecting property name enclosed in double quotes"
  | .colon => "Expecting ':' delimiter"
  | .comma => "Expecting ',' delimiter"
  | .extraData => "Extra data"
  | .unterminated => "Unterminated string starting at"
  | .escape => "Invalid \\escape"
  | .unicodeEscape => "Invalid \\uXXXX escape"
  | .control => "Invalid control character at"
  | .byteOrderMark => "Unexpected UTF-8 BOM (decode using utf-8-sig)"

inductive Fault where
  | found (problem : Problem) (rest : List Char)
  | tooManyDigits (count : Nat)
  deriving DecidableEq, Repr

inductive ReadError where
  | malformed (problem : Problem) (line column position : Nat)
  | tooManyDigits (count : Nat)
  deriving DecidableEq, Repr

def ReadError.message : ReadError → String
  | .malformed problem line column position =>
    problem.text ++ ": line " ++ Number.natText line ++ " column " ++ Number.natText column
      ++ " (char " ++ Number.natText position ++ ")"
  | .tooManyDigits count => Number.tooManyDigitsMessage count

def Fault.locate (text : List Char) : Fault → ReadError
  | .found problem rest =>
    let position := text.length - rest.length
    let before := text.take position
    .malformed problem (before.count '\n' + 1)
      ((before.reverse.takeWhile (· ≠ '\n')).length + 1) position
  | .tooManyDigits count => .tooManyDigits count

def isSpace (c : Char) : Bool :=
  c == ' ' || c == '\t' || c == '\n' || c == '\r'

def skipSpace (cs : List Char) : List Char :=
  cs.dropWhile isSpace

def hex4? : List Char → Option (Nat × List Char)
  | a :: b :: c :: d :: rest => (Text.hexNumber? [a, b, c, d]).map (·, rest)
  | _ => none

def isHighSurrogate (n : Nat) : Bool :=
  0xD800 ≤ n && n < 0xDC00

def isLowSurrogate (n : Nat) : Bool :=
  0xDC00 ≤ n && n < 0xE000

def charOf (n : Nat) : Char :=
  if isHighSurrogate n || isLowSurrogate n then '\ufffd' else Char.ofNat n

/-- The character after `\u`, whose text from the `u` on is `mark`. Two surrogates in a row make
one character. -/
def readUnicode (mark cs : List Char) : Except Fault (Char × List Char) :=
  match hex4? cs with
  | none => .error (.found .unicodeEscape mark)
  | some (_, []) => .error (.found .unicodeEscape mark)
  | some (high, '\\' :: 'u' :: rest) =>
    if isHighSurrogate high && 5 ≤ rest.length then
      match hex4? rest with
      | none => .error (.found .unicodeEscape ('u' :: rest))
      | some (low, after) =>
        if isLowSurrogate low then
          .ok (Char.ofNat (0x10000 + (high - 0xD800) * 1024 + (low - 0xDC00)), after)
        else .ok (charOf high, '\\' :: 'u' :: rest)
    else .ok (charOf high, '\\' :: 'u' :: rest)
  | some (n, rest) => .ok (charOf n, rest)

def simpleEscape? (c : Char) : Option Char :=
  match c with
  | '"' => some '"'
  | '\\' => some '\\'
  | '/' => some '/'
  | 'b' => some '\x08'
  | 'f' => some '\x0c'
  | 'n' => some '\n'
  | 'r' => some '\r'
  | 't' => some '\t'
  | _ => none

def readChars (start : List Char) : Nat → List Char → Except Fault (List Char × List Char)
  | 0, _ => .error (.found .unterminated start)
  | _ + 1, [] => .error (.found .unterminated start)
  | _ + 1, '"' :: rest => .ok ([], rest)
  | _ + 1, ['\\'] => .error (.found .unterminated start)
  | fuel + 1, '\\' :: 'u' :: rest => do
    let (c, after) ← readUnicode ('u' :: rest) rest
    let (cs, rest) ← readChars start fuel after
    .ok (c :: cs, rest)
  | fuel + 1, '\\' :: e :: rest =>
    match simpleEscape? e with
    | none => .error (.found .escape ('\\' :: e :: rest))
    | some c => do
      let (cs, rest) ← readChars start fuel rest
      .ok (c :: cs, rest)
  | fuel + 1, c :: rest =>
    if c.toNat < 0x20 then .error (.found .control (c :: rest))
    else do
      let (cs, rest) ← readChars start fuel rest
      .ok (c :: cs, rest)

def readString (cs : List Char) : Except Fault (String × List Char) := do
  let (chars, rest) ← readChars ('"' :: cs) (cs.length + 1) cs
  .ok (String.ofList chars, rest)

def readFraction : List Char → List Char × List Char
  | '.' :: d :: rest =>
    if isDigit d then ((d :: rest).takeWhile isDigit, (d :: rest).dropWhile isDigit)
    else ([], '.' :: d :: rest)
  | cs => ([], cs)

def readExponentDigits (negative : Bool) (cs : List Char) : Option (Int × List Char) :=
  match cs.takeWhile isDigit with
  | [] => none
  | ds =>
    let n : Int := Number.ofDigits ds
    some (if negative then -n else n, cs.dropWhile isDigit)

def readExponent? : List Char → Option (Int × List Char)
  | c :: rest =>
    if c == 'e' || c == 'E' then
      match rest with
      | '-' :: ds => readExponentDigits true ds
      | '+' :: ds => readExponentDigits false ds
      | ds => readExponentDigits false ds
    else none
  | [] => none

def readWhole? : List Char → Option (List Char × List Char)
  | '0' :: rest => some (['0'], rest)
  | c :: rest =>
    if isDigit c then some ((c :: rest).takeWhile isDigit, (c :: rest).dropWhile isDigit) else none
  | [] => none

def numberOf (negative : Bool) (whole fraction : List Char) (exponent : Option Int) :
    Except Fault Value :=
  match fraction, exponent with
  | [], none =>
    if Number.maxDigits < whole.length then .error (.tooManyDigits whole.length)
    else
      let n : Int := Number.ofDigits whole
      .ok (.int (if negative then -n else n))
  | _, _ =>
    .ok (.float (Number.Double.ofDecimal negative (Number.ofDigits (whole ++ fraction))
      (exponent.getD 0 - fraction.length)))

def readNumber (cs : List Char) : Except Fault (Value × List Char) :=
  let (negative, body) := match cs with
    | '-' :: body => (true, body)
    | body => (false, body)
  match readWhole? body with
  | none => .error (.found .value cs)
  | some (whole, rest) =>
    let (fraction, rest) := readFraction rest
    match readExponent? rest with
    | some (e, rest) => (numberOf negative whole fraction (some e)).map (·, rest)
    | none => (numberOf negative whole fraction none).map (·, rest)

mutual

def readValue : Nat → List Char → Except Fault (Value × List Char)
  | 0, cs => .error (.found .value cs)
  | fuel + 1, cs =>
    match cs with
    | '"' :: rest => do
      let (s, rest) ← readString rest
      .ok (.str s, rest)
    | '\x7b' :: rest =>
      match skipSpace rest with
      | '\x7d' :: rest => .ok (.map [], rest)
      | rest => do
        let (members, rest) ← readMembers fuel [] rest
        .ok (.map members, rest)
    | '[' :: rest =>
      match skipSpace rest with
      | ']' :: rest => .ok (.list [], rest)
      | rest => do
        let (items, rest) ← readItems fuel rest
        .ok (.list items, rest)
    | 'n' :: 'u' :: 'l' :: 'l' :: rest => .ok (.null, rest)
    | 't' :: 'r' :: 'u' :: 'e' :: rest => .ok (.bool true, rest)
    | 'f' :: 'a' :: 'l' :: 's' :: 'e' :: rest => .ok (.bool false, rest)
    | 'N' :: 'a' :: 'N' :: rest => .ok (.float Number.Double.nan, rest)
    | 'I' :: 'n' :: 'f' :: 'i' :: 'n' :: 'i' :: 't' :: 'y' :: rest =>
      .ok (.float (Number.Double.infinity false), rest)
    | '-' :: 'I' :: 'n' :: 'f' :: 'i' :: 'n' :: 'i' :: 't' :: 'y' :: rest =>
      .ok (.float (Number.Double.infinity true), rest)
    | cs => readNumber cs

def readMembers : Nat → Mapping → List Char → Except Fault (Mapping × List Char)
  | 0, _, cs => .error (.found .value cs)
  | fuel + 1, done, cs =>
    match cs with
    | '"' :: rest => do
      let (key, rest) ← readString rest
      match skipSpace rest with
      | ':' :: rest => do
        let (value, rest) ← readValue fuel (skipSpace rest)
        let done := Mapping.insert done (.str key) value
        match skipSpace rest with
        | '\x7d' :: rest => .ok (done, rest)
        | ',' :: rest => readMembers fuel done (skipSpace rest)
        | rest => .error (.found .comma rest)
      | rest => .error (.found .colon rest)
    | cs => .error (.found .propertyName cs)

def readItems : Nat → List Char → Except Fault (List Value × List Char)
  | 0, cs => .error (.found .value cs)
  | fuel + 1, cs => do
    let (item, rest) ← readValue fuel cs
    match skipSpace rest with
    | ']' :: rest => .ok ([item], rest)
    | ',' :: rest => do
      let (items, rest) ← readItems fuel (skipSpace rest)
      .ok (item :: items, rest)
    | rest => .error (.found .comma rest)

end

def readAll (cs : List Char) : Except Fault Value :=
  match cs with
  | '\ufeff' :: _ => .error (.found .byteOrderMark cs)
  | cs => do
    let (value, rest) ← readValue (cs.length + 1) (skipSpace cs)
    match skipSpace rest with
    | [] => .ok value
    | rest => .error (.found .extraData rest)

def read (text : String) : Except ReadError Value :=
  (readAll text.toList).mapError (·.locate text.toList)

end BuildPipeline.Json
