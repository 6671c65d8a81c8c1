import BuildPipeline.Base64
import BuildPipeline.Text.LowerCase
import BuildPipeline.Value.Basic
import BuildPipeline.Yaml.Fault
import BuildPipeline.Yaml.Tag

set_option autoImplicit false

namespace BuildPipeline.Yaml

def withoutBars (cs : List Char) : List Char :=
  cs.filter (· ≠ '_')

def readWhole (base : Nat) (cs : List Char) : Except Fault Int :=
  (Number.readWhole base cs).mapError fun cause => .scalar (.whole cause)

def sixties (parts : List Int) : Int :=
  parts.foldl (fun n part => 60 * n + part) 0

def wholeValue (cs : List Char) : Except Fault Int :=
  match cs with
  | [] => .error (.misfit .noCharacter)
  | ['0'] => .ok 0
  | '0' :: 'b' :: rest => readWhole 2 rest
  | '0' :: 'x' :: rest => readWhole 16 rest
  | '0' :: rest => readWhole 8 ('0' :: rest)
  | cs =>
    if cs.contains ':' then ((Text.pieces ':' cs).mapM (readWhole 10)).map sixties
    else readWhole 10 cs

def intValue (cs : List Char) : Except Fault Int :=
  let (negative, rest) := Number.takeSign cs
  (wholeValue rest).map fun n => if negative then -n else n

def readPart (cs : List Char) : Except Fault Number.Double :=
  match Number.readDouble? cs with
  | some x => .ok x
  | none => .error (.scalar (.notNumber cs))

def sixtiesSum (parts : List Number.Double) : Number.Double :=
  (parts.reverse.foldl
    (fun (sum, unit) part => (Number.Double.add sum (part.mul (.ofNat unit)), unit * 60))
    (Number.Double.ofNat 0, 1)).1

def maxParts : Nat :=
  174

def magnitudeValue (cs : List Char) : Except Fault Number.Double :=
  if cs == ".inf".toList then .ok (.infinity false)
  else if cs == ".nan".toList then .ok .nan
  else if cs.contains ':' then do
    let parts ← (Text.pieces ':' cs).mapM readPart
    if maxParts < parts.length then .error (.misfit .tooManyParts) else .ok (sixtiesSum parts)
  else readPart cs

def floatValue (cs : List Char) : Except Fault Number.Double :=
  if cs.isEmpty then .error (.misfit .noCharacter)
  else
    let (negative, rest) := Number.takeSign (Text.lower (String.ofList cs)).toList
    (magnitudeValue rest).map fun x => if negative then x.neg else x

def offsetMinutes (offset : Bool × List Char × List Char) : Int :=
  let minutes := Number.ofDigits offset.2.1 * 60 + Number.ofDigits offset.2.2
  if offset.1 then -minutes else minutes

def checkOffset (minutes : Int) : Except ScalarFault Int :=
  if minutes.natAbs < 1440 then .ok minutes else .error (.offset minutes)

def checkDate (d : Date) : Except ScalarFault Date :=
  if d.year = 0 then .error (.year d.year)
  else if d.month < 1 || 12 < d.month then .error .month
  else if d.valid then .ok d
  else .error .day

def checkClock (t : Clock) : Except ScalarFault Clock :=
  if 23 < t.hour then .error .hour
  else if 59 < t.minute then .error .minute
  else if t.valid then .ok t
  else .error .second

def Timestamp.moment (t : Timestamp) : Except ScalarFault Moment := do
  let date : Date := ⟨Number.ofDigits t.year, Number.ofDigits t.month, Number.ofDigits t.day⟩
  match t.clock with
  | none => (checkDate date).map .date
  | some (hour, minute, second) =>
    let offset ← match t.offset with
      | none => .ok none
      | some o => (checkOffset (offsetMinutes o)).map some
    let date ← checkDate date
    let clock ← checkClock ⟨Number.ofDigits hour, Number.ofDigits minute, Number.ofDigits second,
      microsOf t.fraction⟩
    .ok (.dateTime date clock offset)

def boolValue? (word : String) : Option Bool :=
  if trueWords.contains word then some true
  else if falseWords.contains word then some false
  else none

/-- With a tag of its own a truth word may be in any case, and a number may have no character. -/
def scalarValue (tag : Tag) (cs : List Char) : Except Fault Value :=
  match tag with
  | .null => .ok .null
  | .bool =>
    let word := Text.lower (String.ofList cs)
    match boolValue? word with
    | some b => .ok (.bool b)
    | none => .error (.misfit (.notTruthWord word))
  | .int => (intValue (withoutBars cs)).map Value.int
  | .float => (floatValue (withoutBars cs)).map Value.float
  | .str => .ok (.str (String.ofList cs))
  | .binary =>
    match Base64.decodeLenient? cs with
    | some bytes => .ok (.bytes bytes)
    | none => .error .malformed
  | .timestamp =>
    match Timestamp.read? cs with
    | some t => (t.moment.map Value.moment).mapError .scalar
    | none => .error (.misfit .notMoment)
  | _ => .error .malformed

end BuildPipeline.Yaml
