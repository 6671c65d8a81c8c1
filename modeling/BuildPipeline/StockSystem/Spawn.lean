import BuildPipeline.Command.Basic
import BuildPipeline.StockSystem.Shell.Running

set_option autoImplicit false

namespace BuildPipeline.StockSystem

open Command (Job Answer Fault)

def baseEnvironment : List (String × String) :=
  [("PATH", "/usr/local/sbin:/usr/local/bin:/usr/sbin:/usr/bin:/sbin:/bin"), ("HOME", "/root"),
   ("LANG", "C.UTF-8")]

def environment (job : Job) : List (String × String) :=
  let own (name : String) := job.env.any (·.1 = name)
  ((baseEnvironment.filter fun v => !own v.1) ++ job.env).map fun v => (narrow v.1, narrow v.2)

def systemDirectories : List String :=
  ["/bin", "/boot", "/dev", "/etc", "/home", "/lib", "/media", "/mnt", "/opt", "/proc", "/root",
   "/run", "/sbin", "/srv", "/sys", "/tmp", "/usr/bin", "/usr/lib", "/usr/local/bin", "/usr/sbin",
   "/usr/share", "/var/lib", "/var/log", "/var/tmp"]

def systemFiles (cwd : Location) : FileSystem :=
  systemDirectories.foldl (fun files dir => (files.makeDirectories (Path.ofText dir)).1) { cwd }

def readOutput (cs : List Char) : Except Fault String :=
  match Text.Utf8.decode (bytesOf cs) with
  | .ok cs => .ok (String.ofList (Text.unifyNewlines cs))
  | .error _ => .error .undecodable

def outcomeOf (s : Shell.State) : Answer := do
  let stdout ← readOutput (s.pending 1)
  let stderr ← readOutput (s.pending 2)
  let code := match s.flow with
    | .killed n => -(n : Int)
    | _ => s.codeOf
  .ok ⟨code, stdout, stderr⟩

def holdsNull (s : String) : Bool :=
  s.toList.contains '\x00'

def jobHoldsNull (job : Job) : Bool :=
  (job.words ++ (job.cwd.map Path.text).toList ++ job.env.flatMap fun v => [v.1, v.2]).any
    holdsNull

def hasProperNames (job : Job) : Bool :=
  job.env.all fun v => !v.1.toList.contains '='

def start (job : Job) (files : FileSystem) (place : Location) : Shell.State :=
  { files := { files with cwd := place }
    bindings := Shell.State.ofEnvironment (environment job)
    streams := [.buffer (narrow (job.input.getD "")).toList, .buffer [], .buffer []]
    numbers := [(0, 0), (1, 1), (2, 2)] }

def place (job : Job) (files : FileSystem) : Except FileSystem.Fault Location :=
  match job.cwd with
  | none => .ok files.cwd
  | some dir =>
    let fault (cause : FileSystem.Cause) : FileSystem.Fault := { cause, path := dir.text }
    match files.locate true dir with
    | .ok (.taken place .directory) => .ok place
    | .ok (.taken ..) => .error (fault .notDirectory)
    | .ok (.free _) => .error (fault .missing)
    | .error cause => .error (fault cause)

/-- One system of all that the stages may ask: it has the stock programs and the shell alone. The
directory of a job is entered before its program is looked for. -/
def run : Command.System := fun job files =>
  match job.words with
  | [] => (.error .noProgram, files)
  | program :: _ =>
    if !hasProperNames job then (.error .variableName, files)
    else if jobHoldsNull job then (.error .nullCharacter, files)
    else match place job files with
      | .error fault => (.error (.system fault), files)
      | .ok place =>
        let begun := start job files place
        if begun.canStart (narrow program) then
          let done := Shell.State.runTask Shell.State.maxDepth begun (.program (job.words.map narrow))
          (outcomeOf done, { done.files with cwd := files.cwd })
        else (.error (.system { cause := .missing, path := program }), files)

end BuildPipeline.StockSystem
