import BuildPipeline.Number.Decimal
import BuildPipeline.Text.Hex
import BuildPipeline.Text.Pieces

set_option autoImplicit false

namespace BuildPipeline.Yaml

open BuildPipeline.Number (isDigit)

inductive Tag where
  | null
  | bool
  | int
  | float
  | str
  | binary
  | timestamp
  | seq
  | map
  | set
  | pairs
  | merge
  | value
  | other
  deriving DecidableEq, Repr

def standardLead : List Char :=
  "tag:yaml.org,2002:".toList

def standardTags : List (String × Tag) :=
  [("null", .null), ("bool", .bool), ("int", .int), ("float", .float), ("str", .str),
   ("binary", .binary), ("timestamp", .timestamp), ("seq", .seq), ("map", .map),
   ("set", .set), ("omap", .pairs), ("pairs", .pairs), ("merge", .merge), ("value", .value)]

def Tag.ofAddress (address : List Char) : Tag :=
  if standardLead.isPrefixOf address then
    (standardTags.lookup (String.ofList (address.drop standardLead.length))).getD .other
  else .other

def withoutNewline (cs : List Char) : List Char :=
  match cs.reverse with
  | '\n' :: c :: rest => (c :: rest).reverse
  | _ => cs

def isDigitOrBar (c : Char) : Bool :=
  isDigit c || c == '_'

def unsigned (cs : List Char) : List Char :=
  match cs with
  | '-' :: rest => rest
  | '+' :: rest => rest
  | cs => cs

def isCount (low : Char) : List Char → Bool
  | c :: rest => low ≤ c && c ≤ '9' && rest.all isDigitOrBar
  | [] => false

def isSixtieth : List Char → Bool
  | [c] => isDigit c
  | [c, d] => '0' ≤ c && c ≤ '5' && isDigit d
  | _ => false

def isSixties (low : Char) (cs : List Char) : Bool :=
  match Text.pieces ':' cs with
  | first :: p :: ps => isCount low first && (p :: ps).all isSixtieth
  | _ => false

def isBaseDigits (base : Nat) (cs : List Char) : Bool :=
  !cs.isEmpty && cs.all fun c => c == '_' || (Text.hexValue? c).any (· < base)

def isInt (cs : List Char) : Bool :=
  match unsigned cs with
  | ['0'] => true
  | '0' :: 'b' :: rest => isBaseDigits 2 rest
  | '0' :: 'x' :: rest => isBaseDigits 16 rest
  | '0' :: rest => isBaseDigits 8 rest
  | cs => isCount '1' cs || isSixties '1' cs

def isExponent (cs : List Char) : Bool :=
  match cs with
  | [] => true
  | e :: s :: d :: rest =>
    (e == 'e' || e == 'E') && (s == '-' || s == '+') && isDigit d && rest.all isDigit
  | _ => false

def isInfinite (cs : List Char) : Bool :=
  [".inf", ".Inf", ".INF"].any fun word => cs == word.toList

def isNaN (cs : List Char) : Bool :=
  [".nan", ".NaN", ".NAN"].any fun word => cs == word.toList

def isFloat (cs : List Char) : Bool :=
  let whole := (unsigned cs).takeWhile (· ≠ '.')
  match (unsigned cs).dropWhile (· ≠ '.') with
  | [] => false
  | _ :: after =>
    let ending := after.dropWhile isDigitOrBar
    isCount '0' whole && isExponent ending
      || isSixties '0' whole && ending.isEmpty
      || isInfinite (unsigned cs) || isNaN cs
      || cs.head? == some '.' && after.head?.any isDigit && isExponent ending

structure Timestamp where
  year : List Char
  month : List Char
  day : List Char
  clock : Option (List Char × List Char × List Char) := none
  fraction : List Char := []
  offset : Option (Bool × List Char × List Char) := none

def takeDigits? (least most : Nat) (cs : List Char) : Option (List Char × List Char) :=
  let ds := (cs.take most).takeWhile isDigit
  if least ≤ ds.length then some (ds, cs.drop ds.length) else none

def skip? (c : Char) : List Char → Option (List Char)
  | d :: rest => if d = c then some rest else none
  | [] => none

def isBlank (c : Char) : Bool :=
  c == ' ' || c == '\t'

def readOffset? (t : Timestamp) (cs : List Char) : Option Timestamp :=
  match cs.dropWhile isBlank with
  | [] => if cs.isEmpty then some t else none
  | ['Z'] => some { t with offset := some (false, ['0'], ['0']) }
  | s :: rest => do
    if s ≠ '+' && s ≠ '-' then none
    else
      let (hours, rest) ← takeDigits? 1 2 rest
      match rest with
      | [] => some { t with offset := some (s == '-', hours, ['0']) }
      | ':' :: rest =>
        let (minutes, rest) ← takeDigits? 2 2 rest
        if rest.isEmpty then some { t with offset := some (s == '-', hours, minutes) } else none
      | _ => none

def readClock? (t : Timestamp) (cs : List Char) : Option Timestamp := do
  let (hour, rest) ← takeDigits? 1 2 cs
  let rest ← skip? ':' rest
  let (minute, rest) ← takeDigits? 2 2 rest
  let rest ← skip? ':' rest
  let (second, rest) ← takeDigits? 2 2 rest
  let t := { t with clock := some (hour, minute, second) }
  match rest with
  | '.' :: rest =>
    readOffset? { t with fraction := rest.takeWhile isDigit } (rest.dropWhile isDigit)
  | rest => readOffset? t rest

def Timestamp.read? (cs : List Char) : Option Timestamp := do
  let (year, rest) ← takeDigits? 4 4 (withoutNewline cs)
  let rest ← skip? '-' rest
  let (month, rest) ← takeDigits? 1 2 rest
  let rest ← skip? '-' rest
  let (day, rest) ← takeDigits? 1 2 rest
  let t : Timestamp := { year, month, day }
  match rest with
  | [] => some t
  | c :: rest =>
    if c == 'T' || c == 't' then readClock? t rest
    else if isBlank c then readClock? t (rest.dropWhile isBlank)
    else none

def isTimestamp (cs : List Char) : Bool :=
  (Timestamp.read? cs).any fun t => t.clock.isSome || cs.length = 10

def nullWords : List String :=
  ["", "~", "null", "Null", "NULL"]

def trueWords : List String :=
  ["yes", "Yes", "YES", "true", "True", "TRUE", "on", "On", "ON"]

def falseWords : List String :=
  ["no", "No", "NO", "false", "False", "FALSE", "off", "Off", "OFF"]

/-- The tag of a scalar by the form of its text, where a newline at the end does not count. -/
def Tag.ofPlain (cs : List Char) : Tag :=
  let cs := withoutNewline cs
  let text := String.ofList cs
  if nullWords.contains text then .null
  else if trueWords.contains text || falseWords.contains text then .bool
  else if isInt cs then .int
  else if isFloat cs then .float
  else if isTimestamp cs then .timestamp
  else if text == "<<" then .merge
  else if text == "=" then .value
  else .str

end BuildPipeline.Yaml
