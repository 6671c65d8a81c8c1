import BuildPipeline.StockSystem.Shell.Expansion

set_option autoImplicit false

namespace BuildPipeline.StockSystem.Shell

open FileSystem (Cause)

def openCause : Cause → String
  | .missing => "No such file"
  | cause => cause.text

def createCause : Cause → String
  | .missing => "Directory nonexistent"
  | cause => cause.text

/-- Files that stand for streams which are open already. -/
def standing? (target : String) : Option Nat :=
  match target with
  | "/dev/stdin" => some 0
  | "/dev/stdout" => some 1
  | "/dev/stderr" => some 2
  | _ => none

def copyStream (s : State) (number source : Nat) : Except String State :=
  match s.numbers.lookup source with
  | some i => .ok (s.pointTo number i)
  | none => .error (Number.natText source ++ ": Bad file descriptor")

def openToRead (s : State) (number : Nat) (target : String) : Except String State :=
  let fault (cause : Cause) := "cannot open " ++ target ++ ": " ++ openCause cause
  if target = "/dev/null" then .ok (s.openAs number .nothing)
  else match if target = "" then .error .missing else s.files.locate true (Program.pathOf target) with
    | .ok (.taken place (.file _)) => .ok (s.openAs number (.file place 0 false))
    | .ok (.taken ..) => .ok (s.openAs number .nothing)
    | .ok (.free _) => .error (fault .missing)
    | .error cause => .error (fault cause)

def openToWrite (s : State) (number : Nat) (target : String) (append : Bool) :
    Except String State :=
  let fault (cause : Cause) := "cannot create " ++ target ++ ": " ++ createCause cause
  let opened (s : State) (place : Location) := s.openAs number (.file place 0 append)
  if target = "/dev/null" then .ok (s.openAs number .nothing)
  else match if target = "" then .error .missing else s.files.locate true (Program.pathOf target) with
    | .ok (.taken _ .directory) => .error (fault .isDirectory)
    | .ok (.taken place _) =>
      if append then .ok (opened s place)
      else .ok (opened { s with files := s.files.set place (.file []) } place)
    | .ok (.free place) =>
      if target.toList.getLast? = some '/' then .error (fault .isDirectory)
      else .ok (opened { s with files := s.files.set place (.file []) } place)
    | .error cause => .error (fault cause)

def redirectTo (s : State) (number : Nat) (kind : RedirectKind) (target : String) :
    Except String State :=
  match kind, standing? target with
  | .text, _ => .ok (s.openAs number (.buffer target.toList))
  | .copy, _ =>
    if target = "-" then .ok (s.close number)
    else match target.toNat? with
      | some source => copyStream s number source
      | none => .ok s
  | _, some source => copyStream s number source
  | .read, none => openToRead s number target
  | .write, none => openToWrite s number target false
  | .append, none => openToWrite s number target true

def wantsNumber (kind : RedirectKind) (target : String) : Bool :=
  kind = .copy && target ≠ "-" && target.toNat?.isNone

def redirectAll (capture : Capture) (s : State) (rs : List Redirect) : State × Bool :=
  rs.foldl (fun (s, good) r =>
    if !good || !s.isOnward then (s, false)
    else match r with
      | .mk number kind target =>
        let (s, text) := textOf capture s target
        if !s.isOnward then (s, false)
        else if wantsNumber kind text then (s.abort "Syntax error: Bad fd number", false)
        else match redirectTo s number kind text with
          | .ok s => (s, true)
          | .error text => ((s.complain text).withCode 2, false)) (s, true)

end BuildPipeline.StockSystem.Shell
