import BuildPipeline.StockSystem.Shell.Syntax
import BuildPipeline.StockSystem.Program.Process
import BuildPipeline.Number.Decimal

set_option autoImplicit false

namespace BuildPipeline.StockSystem.Shell

inductive Stream where
  | nothing
  | buffer (held : List Char)
  | file (place : Location) (offset : Nat) (atEnd : Bool)
  deriving DecidableEq, Repr

inductive Flow where
  | onward
  | leave (loops : Nat) (nextTurn : Bool)
  | returned
  | ended
  | killed (signal : Nat)
  deriving DecidableEq, Repr

structure Variable where
  value : Option String
  exported : Bool := false
  readOnly : Bool := false
  deriving DecidableEq, Repr

/-- `speaker` is the command that complaints are made in the name of; `guarded` tells that a failure
is looked at, and so does not end the shell; `heard` is the code of the last command whose output has
been put into words. -/
structure State where
  name : String := "sh"
  args : List String := []
  files : FileSystem := {}
  dir : String := "/"
  bindings : List (String × Variable) := []
  functions : List (String × Node) := []
  streams : List Stream := []
  numbers : List (Nat × Nat) := []
  code : Int := 0
  flow : Flow := .onward
  flags : List Char := []
  line : Nat := 1
  speaker : Option String := none
  traps : List (String × String) := []
  guarded : Bool := false
  loops : Nat := 0
  calls : Nat := 0
  locals : List (String × Option Variable) := []
  optionPlace : Nat := 0
  heard : Option Int := none

namespace State

def stream? (s : State) (number : Nat) : Option Stream :=
  (s.numbers.lookup number).bind fun i => s.streams[i]?

def putStream (s : State) (number : Nat) (stream : Stream) : State :=
  match s.numbers.lookup number with
  | some i => { s with streams := s.streams.set i stream }
  | none => s

def pointTo (s : State) (number index : Nat) : State :=
  { s with numbers := (number, index) :: s.numbers.filter fun n => n.1 ≠ number }

def close (s : State) (number : Nat) : State :=
  { s with numbers := s.numbers.filter fun n => n.1 ≠ number }

def openAs (s : State) (number : Nat) (stream : Stream) : State :=
  { s with streams := s.streams ++ [stream] }.pointTo number s.streams.length

def contentAt (s : State) (place : Location) : List Char :=
  match s.files.get? place with
  | some (.file bs) => ofBytes bs
  | _ => []

def overwritten (old : List Char) (offset : Nat) (new : List Char) : List Char :=
  old.take offset ++ List.replicate (offset - old.length) '\x00' ++ new
    ++ old.drop (offset + new.length)

def write (s : State) (number : Nat) (cs : List Char) : State :=
  match s.stream? number with
  | some (.buffer held) => s.putStream number (.buffer (held ++ cs))
  | some (.file place offset atEnd) =>
    if cs = [] then s
    else
      let old := s.contentAt place
      let start := if atEnd then old.length else offset
      let files := s.files.set place (.file (bytesOf (overwritten old start cs)))
      { s with files }.putStream number (.file place (start + cs.length) atEnd)
  | _ => s

def pending (s : State) (number : Nat) : List Char :=
  match s.stream? number with
  | some (.buffer held) => held
  | some (.file place offset _) => (s.contentAt place).drop offset
  | _ => []

def consume (s : State) (number count : Nat) : State :=
  match s.stream? number with
  | some (.buffer held) => s.putStream number (.buffer (held.drop count))
  | some (.file place offset atEnd) => s.putStream number (.file place (offset + count) atEnd)
  | _ => s

def readsFile (s : State) (number : Nat) : Bool :=
  match s.stream? number with
  | some (.file ..) => true
  | _ => false

def say (s : State) (text : String) : State :=
  s.write 1 text.toList

def origin (s : State) : String :=
  s.name ++ ": " ++ Number.natText s.line ++ (s.speaker.map (": " ++ ·)).getD ""

def complain (s : State) (text : String) : State :=
  s.write 2 (s.origin ++ ": " ++ text ++ "\n").toList

def withCode (s : State) (code : Int) : State :=
  { s with code }

def abort (s : State) (text : String) : State :=
  { s.complain text with code := 2, flow := .ended }

def ownNumber : String :=
  "4096"

def entry? (s : State) (name : String) : Option Variable :=
  s.bindings.lookup name

def has (s : State) (flag : Char) : Bool :=
  s.flags.contains flag

def value? (s : State) (name : String) : Option String :=
  match name with
  | "#" => some (Number.natText s.args.length)
  | "?" => some (Number.intText s.code)
  | "$" => some ownNumber
  | "-" => some (String.ofList s.flags)
  | "!" => none
  | "0" => some s.name
  | name =>
    match name.toNat? with
    | some n => s.args[n - 1]?
    | none => (s.entry? name).bind (·.value)

def valueOf (s : State) (name : String) : String :=
  (s.value? name).getD ""

def separators (s : State) : List Char :=
  ((s.value? "IFS").getD " \t\n").toList

def setVariable (s : State) (name : String) (v : Variable) : State :=
  { s with bindings :=
      if (s.entry? name).isSome then
        s.bindings.map fun entry => if entry.1 = name then (name, v) else entry
      else s.bindings ++ [(name, v)] }

def removeVariable (s : State) (name : String) : State :=
  { s with bindings := s.bindings.filter fun entry => entry.1 ≠ name }

def restoreVariable (s : State) (old : String × Option Variable) : State :=
  match old.2 with
  | some v => s.setVariable old.1 v
  | none => s.removeVariable old.1

def assign (s : State) (name value : String) : State :=
  match s.entry? name with
  | some v =>
    if v.readOnly then s.abort (name ++ ": is read only")
    else s.setVariable name { v with value := some value }
  | none => s.setVariable name { value := some value, exported := s.has 'a' }

def environment (s : State) : List (String × String) :=
  s.bindings.filterMap fun entry =>
    if entry.2.exported then entry.2.value.map (entry.1, ·) else none

def child (s : State) : State :=
  { s with traps := [], loops := 0, flow := .onward }

def codeOf (s : State) : Int :=
  match s.flow with
  | .killed signal => 128 + signal
  | _ => Int.emod s.code 256

def rejoin (s inner : State) : State :=
  { s with
    files := { inner.files with cwd := s.files.cwd }
    streams := inner.streams
    code := inner.codeOf }

def isOnward (s : State) : Bool :=
  s.flow = .onward

end State

end BuildPipeline.StockSystem.Shell
