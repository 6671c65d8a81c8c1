import BuildPipeline.Command.Basic
import BuildPipeline.Diagnostic

set_option autoImplicit false

namespace BuildPipeline.Bundler

structure Request where
  entryPoints : List Path
  outdir : Path
  metafile : Path
  splitting : Bool := false
  target : String := "es2017"
  minify : Bool := false
  bundle : Bool := true
  platform : String := "browser"
  format : String := "esm"
  sourceMap : Bool := false
  logLevel : String := "warning"
  deriving DecidableEq, Repr

def option (name value : String) : String :=
  "--" ++ name ++ "=" ++ value

def switch (on : Bool) (word : String) : List String :=
  if on then [word] else []

def Request.words (executable : List String) (r : Request) : List String :=
  executable ++ r.entryPoints.map Path.text ++ switch r.bundle "--bundle"
    ++ [option "outdir" r.outdir.text, option "metafile" r.metafile.text,
        option "platform" r.platform, option "format" r.format, option "target" r.target,
        option "log-level" r.logLevel, "--color=false"]
    ++ switch r.splitting "--splitting" ++ switch r.minify "--minify"
    ++ switch r.sourceMap "--sourcemap"

structure Esbuild where
  executable : List String := ["esbuild"]
  cwd : Option Path := none
  deriving DecidableEq, Repr

def Esbuild.job (e : Esbuild) (r : Request) : Command.Job :=
  { words := r.words e.executable, cwd := e.cwd }

inductive Fault where
  | failed (diagnostics : Log.Diagnostics)
  | system (cause : FileSystem.Fault)
  | unanswered (cause : Command.Fault)
  | log (cause : Log.TooManyDigits)
  deriving DecidableEq, Repr

def Fault.message : Fault → String
  | .failed _ => "esbuild failed"
  | .system _ => "Cannot start esbuild"
  | .unanswered _ => "Cannot run esbuild"
  | .log cause => Number.tooManyDigitsMessage cause.count

def Fault.diagnostics : Fault → Log.Diagnostics
  | .failed diagnostics => diagnostics
  | .system cause => ⟨[{ text := cause.message }], []⟩
  | _ => ⟨[], []⟩

/-- A failed run has at least one error, if only its exit code. -/
def withError (code : Int) (d : Log.Diagnostics) : Log.Diagnostics :=
  if d.errors = [] then
    { d with errors := [{ text := "esbuild exited with code " ++ Number.intText code }] }
  else d

/-- The warnings of a run; errors in the log of one that succeeds are passed over. -/
def readOutcome (job : Command.Job) (o : Command.Outcome) : Except Fault (List Diagnostic) :=
  match job.check o with
  | .ok o => ((Log.read o.stderr).mapError .log).map (·.warnings)
  | .error failed => do
    let diagnostics ← (Log.read failed.outcome.stderr).mapError .log
    .error (.failed (withError failed.outcome.code diagnostics))

def conclude (job : Command.Job) : Command.Answer → Except Fault (List Diagnostic)
  | .ok o => readOutcome job o
  | .error (.system cause) => .error (.system cause)
  | .error cause => .error (.unanswered cause)

end BuildPipeline.Bundler
