import BuildPipeline.Bundler.Bundling
import BuildPipeline.Entrypoints
import BuildPipeline.Transpile

set_option autoImplicit false

namespace BuildPipeline

structure Plugin where
  host : Settings.Host
  options : Settings.Options
  console : Console
  workingDir : Option Path
  deriving DecidableEq, Repr

namespace Plugin

def name : String :=
  "imba-snowpack"

def sourceSuffixes : List String :=
  [".imba", ".imba2"]

def outputSuffix : String :=
  ".js"

def knownEntrypoints : List String :=
  [helperModule]

def missingEntrypoints : String :=
  "Missing script entrypoints!\n" ++ Entrypoints.hint

/-- Without a console of its own the plugin tells as much as its options ask for. -/
def create (host : Settings.Host) (options : Settings.Options) (console : Option Console)
    (workingDir : Option Path) : Plugin :=
  let console := console.getD (.forDebug options.debug)
  { host, options, workingDir
    console := if options.entrypoints = [] then console.warning missingEntrypoints else console }

def entrypointKeys (p : Plugin) : List String :=
  p.options.entrypoints.map FileName.lookupKey

def transpiler (p : Plugin) : Transpiler :=
  { host := p.host, options := p.options, workingDir := p.workingDir }

def compiler (p : Plugin) : Compiler :=
  { cwd := p.workingDir }

structure Loaded where
  plugin : Plugin
  code : Except TranspileFault String
  job : Option Command.Job

def load (p : Plugin) (compile : Compile) (fs : FileSystem) (path : Path) : Loaded :=
  let t := p.transpiler.transpile compile fs p.console path
  ⟨{ p with console := t.console }, t.unit.map (·.code), t.job⟩

def settingOf (p : Plugin) (key : String) : Value :=
  (Settings.bundlerSettings p.host p.options).member key

def transient (p : Plugin) : List Path :=
  [p.host.importMapPath, p.host.envScriptPath].map fun path =>
    match p.workingDir with
    | none => path
    | some dir => dir.join path

def order (p : Plugin) (entryPoints : List Path) (root : Path) : Bundler.Order :=
  { entryPoints, root
    splitting := (p.settingOf "splitting").truthy
    target := (p.settingOf "target").text
    minify := (p.settingOf "minify").truthy
    transient := p.transient }

def esbuild (p : Plugin) : Bundler.Esbuild :=
  { cwd := p.workingDir }

inductive OptimizeFault where
  | entrypoints (cause : Entrypoints.Fault)
  | bundling (cause : Bundler.BundlingFault)
  deriving DecidableEq, Repr

structure Optimized where
  plugin : Plugin
  files : FileSystem
  asked : Option Bundler.Request
  report : Except OptimizeFault (Option BuildTree.Report)

def minified (p : Plugin) : Plugin :=
  { p with host := { p.host with buildMinify := false } }

def bundle (p : Plugin) (fs : FileSystem) (program : Bundler.Program) (scratch : Path)
    (entryPoints : List Path) (dir : Path) : Optimized :=
  let b := Bundler.bundle p.esbuild program scratch ⟨fs, p.console⟩ (p.order entryPoints dir)
  let p := { p with console := b.world.console }
  match b.report with
  | .error fault => ⟨p, b.world.files, b.asked, .error (.bundling fault)⟩
  | .ok none => ⟨p, b.world.files, b.asked, .ok none⟩
  | .ok (some report) => ⟨p.minified, b.world.files, b.asked, .ok (some report)⟩

/-- There is nothing to do where bundling is off, or no entry point is found. -/
def optimize (p : Plugin) (parse : Page.Parser) (fs : FileSystem) (program : Bundler.Program)
    (scratch dir : Path) : Optimized :=
  if !p.host.bundle then
    let console := p.console.debug "Bundling disabled in devOptions.bundle, skipping optimize"
    ⟨{ p with console }, fs, none, .ok none⟩
  else
    let named := Value.list (p.options.entrypoints.map .str)
    match Entrypoints.resolve parse fs p.console named dir p.options.smartscan with
    | (.error fault, console) => ⟨{ p with console }, fs, none, .error (.entrypoints fault)⟩
    | (.ok [], console) =>
      let console := console.warning
        "No entrypoint resolved to a script in the build directory, skipping bundling"
      ⟨{ p with console }, fs, none, .ok none⟩
    | (.ok found, console) => { p with console }.bundle fs program scratch found dir

end Plugin

end BuildPipeline
