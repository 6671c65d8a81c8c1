import BuildPipeline.Number.Decimal

set_option autoImplicit false

namespace BuildPipeline

structure Date where
  year : Nat
  month : Nat
  day : Nat
  deriving DecidableEq, Repr

structure Clock where
  hour : Nat
  minute : Nat
  second : Nat
  micros : Nat
  deriving DecidableEq, Repr

inductive Moment where
  | date (d : Date)
  | time (t : Clock)
  | dateTime (d : Date) (t : Clock) (offset : Option Int)
  deriving DecidableEq, Repr

def isLeapYear (year : Nat) : Bool :=
  year % 4 = 0 && (year % 100 ≠ 0 || year % 400 = 0)

def daysIn (year month : Nat) : Nat :=
  if month = 2 then if isLeapYear year then 29 else 28
  else if month = 4 || month = 6 || month = 9 || month = 11 then 30 else 31

def Date.valid (d : Date) : Bool :=
  1 ≤ d.year && d.year ≤ 9999 && 1 ≤ d.month && d.month ≤ 12 && 1 ≤ d.day
    && d.day ≤ daysIn d.year d.month

def Clock.valid (t : Clock) : Bool :=
  t.hour < 24 && t.minute < 60 && t.second < 60 && t.micros < 1000000

def microsOf (fraction : List Char) : Nat :=
  Number.ofDigits ((fraction ++ List.replicate 6 '0').take 6)

def padded (width n : Nat) : String :=
  let ds := Number.digits n
  String.ofList (List.replicate (width - ds.length) '0' ++ ds)

def Date.text (d : Date) : String :=
  padded 4 d.year ++ "-" ++ padded 2 d.month ++ "-" ++ padded 2 d.day

def Clock.text (t : Clock) : String :=
  padded 2 t.hour ++ ":" ++ padded 2 t.minute ++ ":" ++ padded 2 t.second
    ++ (if t.micros = 0 then "" else "." ++ padded 6 t.micros)

def offsetText (minutes : Int) : String :=
  (if minutes < 0 then "-" else "+") ++ padded 2 (minutes.natAbs / 60) ++ ":"
    ++ padded 2 (minutes.natAbs % 60)

def Date.fields (d : Date) : List Nat :=
  [d.year, d.month, d.day]

def Clock.fields (t : Clock) : List Nat :=
  [t.hour, t.minute] ++ (if t.second = 0 && t.micros = 0 then [] else [t.second])
    ++ (if t.micros = 0 then [] else [t.micros])

def fieldsText (fields : List Nat) : String :=
  ", ".intercalate (fields.map Number.natText)

def spanQuoted (minutes : Int) : String :=
  let part (name : String) (n : Int) : List String :=
    if n = 0 then [] else [name ++ "=" ++ Number.intText n]
  let parts := part "days" (minutes.fdiv 1440) ++ part "seconds" (minutes.fmod 1440 * 60)
  "datetime.timedelta(" ++ (if parts.isEmpty then "0" else ", ".intercalate parts) ++ ")"

def offsetQuoted (minutes : Int) : String :=
  if minutes = 0 then "datetime.timezone.utc"
  else "datetime.timezone(" ++ spanQuoted minutes ++ ")"

def daysBeforeMonth (year month : Nat) : Nat :=
  (List.range (month - 1)).foldl (fun days m => days + daysIn year (m + 1)) 0

def Date.dayNumber (d : Date) : Nat :=
  let years := d.year - 1
  365 * years + years / 4 - years / 100 + years / 400 + daysBeforeMonth d.year d.month + d.day

def microsUpTo (d : Date) (t : Clock) (offset : Int) : Int :=
  let minutes : Int := (d.dayNumber * 24 + t.hour : Nat) * 60 + t.minute - offset
  (minutes * 60 + t.second) * 1000000 + t.micros

namespace Moment

/-- With an offset a moment is known in universal time, and is the same with any other offset. -/
def same : Moment → Moment → Bool
  | .dateTime d t (some o), .dateTime d' t' (some o') => microsUpTo d t o = microsUpTo d' t' o'
  | m, n => m = n

def kind : Moment → String
  | .date _ => "date"
  | .time _ => "time"
  | .dateTime .. => "datetime"

def text : Moment → String
  | .date d => d.text
  | .time t => t.text
  | .dateTime d t offset =>
    d.text ++ " " ++ t.text ++ (match offset with | none => "" | some o => offsetText o)

def quoted : Moment → String
  | .date d => "datetime.date(" ++ fieldsText d.fields ++ ")"
  | .time t => "datetime.time(" ++ fieldsText t.fields ++ ")"
  | .dateTime d t offset =>
    "datetime.datetime(" ++ fieldsText (d.fields ++ t.fields)
      ++ (match offset with | none => "" | some o => ", tzinfo=" ++ offsetQuoted o) ++ ")"

end Moment

end BuildPipeline
