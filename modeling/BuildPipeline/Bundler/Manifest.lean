import BuildPipeline.FileSystem.Access
import BuildPipeline.Json.Reader
import BuildPipeline.Value.Rendering

set_option autoImplicit false

namespace BuildPipeline.Bundler

structure Manifest where
  inputs : Mapping
  outputs : Mapping
  workingDir : Path
  deriving DecidableEq, Repr

inductive Malformed where
  | encoding (cause : Text.Utf8.Misread)
  | json (cause : Json.ReadError)
  | nullCharacter
  deriving DecidableEq, Repr

def Malformed.message : Malformed → String
  | .encoding cause => cause.message
  | .json cause => cause.message
  | .nullCharacter => FileSystem.AccessFault.nullCharacter.message

inductive ManifestFault where
  | unreadable (path : Path) (cause : FileSystem.Fault)
  | malformed (path : Path) (cause : Malformed)
  | noObject (path : Path)
  | members (path : Path)
  deriving DecidableEq, Repr

def ManifestFault.message : ManifestFault → String
  | .unreadable path cause =>
    "Cannot read bundler manifest '" ++ path.text ++ "': " ++ cause.message
  | .malformed path cause =>
    "Bundler manifest '" ++ path.text ++ "' is not valid JSON: " ++ cause.message
  | .noObject path => "Bundler manifest '" ++ path.text ++ "' must contain an object"
  | .members path => "Bundler manifest '" ++ path.text ++ "' has malformed inputs/outputs"

namespace Manifest

def table? (members : Mapping) (key : String) : Option Mapping :=
  match members.get? (.str key) with
  | none => some []
  | some v => v.members?

def ofValue (path workingDir : Path) : Value → Except ManifestFault Manifest
  | .map members =>
    match table? members "inputs", table? members "outputs" with
    | some inputs, some outputs => .ok ⟨inputs, outputs, workingDir⟩
    | _, _ => .error (.members path)
  | _ => .error (.noObject path)

def ofBytes (path workingDir : Path) (content : List UInt8) : Except ManifestFault Manifest := do
  let cs ← (Text.Utf8.decode content).mapError fun cause => .malformed path (.encoding cause)
  let text := String.ofList (Text.unifyNewlines cs)
  let value ← (Json.read text).mapError fun cause => .malformed path (.json cause)
  ofValue path workingDir value

def load (fs : FileSystem) (path workingDir : Path) : Except ManifestFault Manifest :=
  match fs.read path with
  | .ok content => ofBytes path workingDir content
  | .error (.system cause) => .error (.unreadable path cause)
  | .error .nullCharacter => .error (.malformed path .nullCharacter)

def absolute (m : Manifest) (key : String) : Path :=
  m.workingDir.join (Path.ofText key)

def keysOf (table : Mapping) : List String :=
  table.map (·.1.text)

end Manifest

end BuildPipeline.Bundler
