import BuildPipeline.Compiler
import BuildPipeline.FileSystem.Access
import BuildPipeline.HelperImport
import BuildPipeline.Path.FileName
import BuildPipeline.Path.Relative
import BuildPipeline.Settings.Plugin
import BuildPipeline.SourceMap.Stitching

set_option autoImplicit false

namespace BuildPipeline

structure Transpiler where
  host : Settings.Host
  options : Settings.Options
  workingDir : Option Path
  deriving DecidableEq, Repr

structure CompiledUnit where
  source : Path
  output : Path
  code : String
  map : Option Mapping
  deriving DecidableEq, Repr

inductive TranspileFault where
  | noName
  | unreadable (source : Path) (cause : FileSystem.Fault)
  | nullCharacter
  | encoding (cause : Text.Utf8.Misread)
  | compile (cause : CompileFault)
  deriving DecidableEq, Repr

def TranspileFault.message : TranspileFault → String
  | .noName => "the source path has no name"
  | .unreadable source cause =>
    "Cannot read source file '" ++ source.text ++ "': " ++ cause.message
  | .nullCharacter => FileSystem.AccessFault.nullCharacter.message
  | .encoding cause => cause.message
  | .compile cause => cause.message

namespace Transpiler

def record (t : Transpiler) (source output : Path) : Mapping :=
  Settings.compilerRecord t.host t.options ⟨source.name, source.text, output.text⟩

def readSource (fs : FileSystem) (workingDir source : Path) : Except TranspileFault String :=
  match fs.read (workingDir.join source) with
  | .error (.system cause) => .error (.unreadable source cause)
  | .error .nullCharacter => .error .nullCharacter
  | .ok content =>
    match Text.Utf8.decode content with
    | .ok cs => .ok (String.ofList (Text.unifyNewlines cs))
    | .error cause => .error (.encoding cause)

/-- The unit of compiled code. There is no map where maps are switched off or none was given. -/
def assemble (t : Transpiler) (console : Console) (source output : Path) (options : Mapping)
    (compiled : Compiled) : CompiledUnit × Console :=
  let lead := helperImport t.host.webModulesUrl
  match options.member "sourceMap", compiled.map with
  | .bool false, _ | _, none =>
    (⟨source, output, lead ++ compiled.code, none⟩,
      console.debug ("No debug map for " ++ source.text ++ ", prepending helper import only"))
  | _, some map =>
    let (stitched, console) :=
      SourceMap.stitch console compiled.code (.map (map.without "maps")) lead (some output.name)
    (⟨source, output, stitched.code, stitched.map⟩, console)

structure Transpiled where
  unit : Except TranspileFault CompiledUnit
  console : Console
  job : Option Command.Job

def transpile (t : Transpiler) (compile : Compile) (fs : FileSystem) (console : Console)
    (path : Path) : Transpiled :=
  let cwd : Path := ⟨.root, fs.cwd⟩
  let workingDir := t.workingDir.getD cwd
  let source := Path.relativeTo cwd path workingDir
  match FileName.output? source with
  | none => ⟨.error .noName, console, none⟩
  | some output =>
    match readSource fs workingDir source with
    | .error fault => ⟨.error fault, console, none⟩
    | .ok text =>
      let options := t.record source output
      let console := console.debug ("Compiling " ++ source.text ++ " -> " ++ output.text)
      match compile text options with
      | (.error fault, job) => ⟨.error (.compile fault), console, job⟩
      | (.ok compiled, job) =>
        let (unit, console) := t.assemble console source output options compiled
        ⟨.ok unit, console, job⟩

end Transpiler

end BuildPipeline
