import BuildPipeline.Bundler.Esbuild
import BuildPipeline.BuildTree.Reconciling

set_option autoImplicit false

namespace BuildPipeline.Bundler

abbrev Program := Command.System

structure Order where
  entryPoints : List Path
  root : Path
  splitting : Bool := false
  target : String := "es2017"
  minify : Bool := false
  transient : List Path := []
  deriving DecidableEq, Repr

inductive BundlingFault where
  | scratch (cause : FileSystem.AccessFault)
  | unanswered (cause : Fault)
  | manifest (cause : ManifestFault)
  | reconcile (cause : BuildTree.ReconcileFault)
  deriving DecidableEq, Repr

def metafileIn (scratch : Path) : Path :=
  scratch.child "meta.json"

def Order.request (o : Order) (scratch : Path) : Request :=
  { entryPoints := o.entryPoints
    outdir := scratch
    metafile := metafileIn scratch
    splitting := o.splitting
    target := o.target
    minify := o.minify }

def tellErrors (w : World) (ds : List Diagnostic) : World :=
  ds.foldl (fun w d => w.error (d.format "error")) w

def tellWarnings (w : World) (ds : List Diagnostic) : World :=
  ds.foldl (fun w d => w.warning (d.format "warning")) w

def bundlingMessage (count : Nat) (scratch : Path) : String :=
  "Bundling " ++ Number.natText count ++ " entrypoint(s) into " ++ scratch.text

def finish (e : Esbuild) (o : Order) (scratch : Path) (w : World)
    (answer : Except Fault (List Diagnostic)) :
    World × Except BundlingFault (Option BuildTree.Report) :=
  match answer with
  | .error (.failed ds) => (tellWarnings (tellErrors w ds.errors) ds.warnings, .ok none)
  | .error (.system cause) =>
    (tellErrors w (Fault.system cause).diagnostics.errors, .ok none)
  | .error fault => (w, .error (.unanswered fault))
  | .ok warnings =>
    let w := tellWarnings w warnings
    let workingDir := e.cwd.getD ⟨.root, w.files.cwd⟩
    match Manifest.load w.files (metafileIn scratch) workingDir with
    | .error fault => (w, .error (.manifest fault))
    | .ok manifest =>
      let (w, report) := BuildTree.reconcile w manifest o.root o.transient
      (w, (report.mapError .reconcile).map some)

structure Bundled where
  world : World
  asked : Option Request
  report : Except BundlingFault (Option BuildTree.Report)

/-- The bundler runs in its working directory. `scratch` is a path that is not in use. -/
def bundle (e : Esbuild) (program : Program) (scratch : Path) (w : World) (o : Order) : Bundled :=
  let o := { o with root := Path.absolute ⟨.root, w.files.cwd⟩ o.root }
  match w.files.makeDirectory scratch with
  | .error fault => ⟨w, none, .error (.scratch fault)⟩
  | .ok files =>
    let w := ({ w with files } : World).debug (bundlingMessage o.entryPoints.length scratch)
    let request := o.request scratch
    let job := e.job request
    let (answer, files) := program job w.files
    let (w, report) := finish e o scratch { w with files } (conclude job answer)
    ⟨{ w with files := w.files.removeTree scratch }, some request, report⟩

end BuildPipeline.Bundler
