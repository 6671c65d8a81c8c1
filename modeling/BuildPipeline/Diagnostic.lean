import BuildPipeline.Number.Decimal
import BuildPipeline.Text.Blank
import BuildPipeline.Text.DecimalDigit
import BuildPipeline.Text.Pieces
import BuildPipeline.SourceMap.Marker

set_option autoImplicit false

namespace BuildPipeline

inductive Severity where
  | error
  | warning
  deriving DecidableEq, Repr

def Severity.name : Severity → String
  | .error => "error"
  | .warning => "warning"

structure Diagnostic where
  text : String
  file : Option String := none
  line : Option Int := none
  column : Option Int := none
  deriving DecidableEq, Repr

namespace Diagnostic

def location (d : Diagnostic) : String :=
  match d.file with
  | none => ""
  | some file =>
    if file = "" then ""
    else
      let numbers := match d.line, d.column with
        | none, _ => ""
        | some line, none => ":" ++ Number.intText line
        | some line, some column => ":" ++ Number.intText line ++ ":" ++ Number.intText column
      file ++ numbers ++ " "

def format (d : Diagnostic) (kind : String) : String :=
  d.location ++ "bundler " ++ kind ++ ": " ++ d.text

end Diagnostic

namespace Log

open BuildPipeline.Text (isBlank isDigit dropBlanks dropTailWhile)

structure Place where
  file : List Char
  line : List Char
  column : List Char
  deriving DecidableEq, Repr

inductive Line where
  | header (severity : Severity) (text : List Char)
  | whole (severity : Severity) (text : List Char) (place : Place)
  | location (place : Place)
  | other
  deriving DecidableEq, Repr

/-- The text that ends a line after blanks: without the blanks at its end, or the last blank if
there is nothing else. -/
def trailingText? (cs : List Char) : Option (List Char) :=
  match dropBlanks cs with
  | [] => cs.getLast?.map ([·])
  | rest => some (dropTailWhile isBlank rest)

def separatedText? : List Char → Option (List Char)
  | [] => none
  | c :: cs =>
    if isBlank c then
      match dropBlanks cs with
      | [] => cs.getLast?.map ([·])
      | rest => some (dropTailWhile isBlank rest)
    else none

def severityTag? (cs : List Char) : Option (Severity × List Char) :=
  match SourceMap.after? "[ERROR]".toList cs with
  | some rest => some (.error, rest)
  | none =>
    match SourceMap.after? "[WARNING]".toList cs with
    | some rest => some (.warning, rest)
    | none => none

def taggedText? (cs : List Char) : Option (Severity × List Char) :=
  (severityTag? cs).bind fun (severity, rest) => (separatedText? rest).map (severity, ·)

def taggedWithin? : List Char → Option (Severity × List Char)
  | [] => none
  | c :: cs =>
    if isBlank c then none else (taggedWithin? cs).or (taggedText? (c :: cs))

def header? (cs : List Char) : Option (Severity × List Char) :=
  (taggedText? (dropBlanks (cs.dropWhile (!isBlank ·)))).or (taggedWithin? cs)

def colonNumber? : List Char → Option (List Char × List Char)
  | ':' :: rest =>
    match rest.takeWhile isDigit with
    | [] => none
    | ds => some (ds, rest.dropWhile isDigit)
  | _ => none

def position? (cs : List Char) : Option (List Char × List Char × List Char) := do
  let (line, rest) ← colonNumber? cs
  let (column, rest) ← colonNumber? rest
  match rest with
  | ':' :: rest => some (line, column, rest)
  | _ => none

/-- The shortest file name with a position after it whose rest `finish` accepts. `name` is the
file name so far, backwards. -/
def placeFrom? {α : Type} (finish : List Char → Option α) (name : List Char) :
    List Char → Option (Place × α)
  | [] => none
  | c :: cs =>
    ((position? (c :: cs)).bind fun (line, column, rest) =>
      (finish rest).map fun a => (⟨name.reverse, line, column⟩, a)).or
      (placeFrom? finish (c :: name) cs)

def place? {α : Type} (finish : List Char → Option α) : List Char → Option (Place × α)
  | [] => none
  | c :: cs => if isBlank c then none else placeFrom? finish [c] cs

def onlyBlanks (cs : List Char) : Option Unit :=
  if cs.all isBlank then some () else none

def location? : List Char → Option Place
  | [] => none
  | c :: cs => if isBlank c then (place? onlyBlanks (dropBlanks cs)).map (·.1) else none

def severityWord? (cs : List Char) : Option (Severity × List Char) :=
  match SourceMap.after? "error:".toList cs with
  | some rest => some (.error, rest)
  | none =>
    match SourceMap.after? "warning:".toList cs with
    | some rest => some (.warning, rest)
    | none => none

def namedText? (cs : List Char) : Option (Severity × List Char) :=
  (severityWord? (dropBlanks cs)).bind fun (severity, rest) =>
    (trailingText? rest).map (severity, ·)

def whole? (cs : List Char) : Option (Place × Severity × List Char) :=
  match cs with
  | '>' :: rest => (place? namedText? (dropBlanks rest)).or (place? namedText? cs)
  | cs => place? namedText? (dropBlanks cs)

def Line.of (cs : List Char) : Line :=
  match header? cs with
  | some (severity, text) => .header severity text
  | none =>
    match whole? cs with
    | some (place, severity, text) => .whole severity text place
    | none =>
      match location? cs with
      | some place => .location place
      | none => .other

structure TooManyDigits where
  count : Nat
  deriving DecidableEq, Repr

def number (ds : List Char) : Except TooManyDigits Int :=
  if Number.maxDigits < ds.length then .error ⟨ds.length⟩ else .ok (Text.digitsValue ds : Nat)

def place (d : Diagnostic) (p : Place) : Except TooManyDigits Diagnostic := do
  let line ← number p.line
  let column ← number p.column
  .ok { d with file := some (String.ofList p.file), line := some line, column := some column }

abbrev Entry := Severity × Diagnostic

def bare (text : List Char) : Diagnostic :=
  { text := String.ofList text }

/-- The diagnostics of lines, after one that may still take a location. -/
def collect : Option Entry → List Line → Except TooManyDigits (List Entry)
  | pending, [] => .ok pending.toList
  | pending, .header severity text :: rest => do
    let entries ← collect (some (severity, bare text)) rest
    .ok (pending.toList ++ entries)
  | pending, .whole severity text p :: rest => do
    let d ← place (bare text) p
    let entries ← collect (some (severity, d)) rest
    .ok (pending.toList ++ entries)
  | some (severity, d), .location p :: rest =>
    if d.file.isNone then do
      let d ← place d p
      collect (some (severity, d)) rest
    else collect (some (severity, d)) rest
  | pending, _ :: rest => collect pending rest

structure Diagnostics where
  errors : List Diagnostic
  warnings : List Diagnostic
  deriving DecidableEq, Repr

def Diagnostics.ofEntries (entries : List Entry) : Diagnostics :=
  ⟨(entries.filter (·.1 = .error)).map (·.2), (entries.filter (·.1 = .warning)).map (·.2)⟩

def read (log : String) : Except TooManyDigits Diagnostics :=
  (collect none ((Text.logLines log).map Line.of)).map Diagnostics.ofEntries

end Log

end BuildPipeline
