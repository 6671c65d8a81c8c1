import BuildPipeline.FileSystem.Access
import BuildPipeline.Json.Reader
import BuildPipeline.Text.LowerCase
import BuildPipeline.Text.Pieces
import BuildPipeline.Toml.Document
import BuildPipeline.Yaml.Fault

set_option autoImplicit false

namespace BuildPipeline.Settings

inductive Format where
  | json
  | toml
  | yaml
  deriving DecidableEq, Repr

def formats : List (String × Format) :=
  [(".json", .json), (".toml", .toml), (".yaml", .yaml), (".yml", .yaml)]

def Format.of? (p : Path) : Option Format :=
  formats.lookup (Text.lower p.suffix)

inductive FileFault where
  | format (suffix : String)
  | access (fault : FileSystem.AccessFault)
  | encoding (misread : Text.Utf8.Misread)
  | json (fault : Json.ReadError)
  | toml (fault : Toml.Fault)
  | yaml (fault : Yaml.Fault)
  | root (p : Path)
  deriving DecidableEq, Repr

def FileFault.message : FileFault → String
  | .format suffix =>
    "Unsupported configuration file extension: " ++ suffix ++ ". Supported: "
      ++ ", ".intercalate (formats.map (·.1))
  | .access fault => fault.message
  | .encoding misread => misread.message
  | .json fault => fault.message
  | .toml fault => fault.message
  | .yaml fault => fault.message
  | .root p => "Configuration file '" ++ p.text ++ "' must contain a mapping at the root"

/-- YAML is read in pieces, and what is left of a character at the end of the file is a piece of
its own. -/
def pieceMisread (m : Text.Utf8.Misread) : Text.Utf8.Misread :=
  if m.fault.cause = .truncated then { m with position := 0 } else m

def Format.parse (readYaml : Yaml.Reader) : Format → List UInt8 → Except FileFault Value
  | .json, bytes => do
    let cs ← (Text.Utf8.decode bytes).mapError .encoding
    (Json.read (String.ofList (Text.unifyNewlines cs))).mapError .json
  | .toml, bytes => do
    let cs ← (Text.Utf8.decode bytes).mapError .encoding
    ((Toml.read cs).map Value.map).mapError .toml
  | .yaml, bytes => do
    let cs ← (Text.Utf8.decode bytes).mapError fun m => .encoding (pieceMisread m)
    (readYaml (Text.unifyNewlines cs)).mapError .yaml

def rootMembers (p : Path) : Value → Except FileFault Mapping
  | .null => .ok []
  | .map members => .ok members
  | _ => .error (.root p)

def load (readYaml : Yaml.Reader) (fs : FileSystem) (p : Path) : Except FileFault Mapping :=
  match Format.of? p with
  | none => .error (.format (Text.lower p.suffix))
  | some format => do
    let bytes ← (fs.read p).mapError .access
    rootMembers p (← format.parse readYaml bytes)

end BuildPipeline.Settings
