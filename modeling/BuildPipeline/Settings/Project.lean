import BuildPipeline.Settings.ConfigFile
import BuildPipeline.Settings.Plugin

set_option autoImplicit false

namespace BuildPipeline.Settings

structure Project where
  host : Host
  options : Options
  deriving DecidableEq, Repr

inductive ProjectFault where
  | noFiles
  | file (p : Path) (fault : FileFault)
  | tag (misfit : Yaml.Misfit)
  | values (fault : ValueFault)
  deriving DecidableEq, Repr

def fileMessage (p : Path) (fault : FileFault) : String :=
  let what := match fault with
    | .access (.system _) => "Cannot read configuration file '"
    | _ => "Invalid configuration file '"
  what ++ p.text ++ "': " ++ fault.message

def ProjectFault.message : ProjectFault → String
  | .noFiles => "At least one configuration file is required"
  | .file p fault => fileMessage p fault
  | .tag misfit => misfit.message
  | .values fault => fault.message

/-- What the files hold together; where two set the same option the later file counts. -/
def combined (files : List Mapping) : Mapping :=
  files.foldl merge []

def pluginSection : String :=
  "plugin"

def Project.ofMapping (data : Mapping) : Except ValueFault Project := do
  let host ← Host.ofMapping (data.without pluginSection)
  let options ← Options.ofMapping (← sectionOf data pluginSection)
  .ok { host, options }

def fileFault (p : Path) : FileFault → ProjectFault
  | .yaml (.misfit cause) => .tag cause
  | fault => .file p fault

def loadEach (readYaml : Yaml.Reader) (fs : FileSystem) (paths : List Path) :
    Except ProjectFault (List Mapping) :=
  paths.mapM fun p => (load readYaml fs p).mapError (fileFault p)

def Project.load (readYaml : Yaml.Reader) (fs : FileSystem) (paths : List Path) :
    Except ProjectFault Project := do
  if paths.isEmpty then .error .noFiles
  else (ofMapping (combined (← loadEach readYaml fs paths))).mapError .values

end BuildPipeline.Settings
