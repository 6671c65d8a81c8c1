import BuildPipeline.Text.Blank
import BuildPipeline.Text.Utf8
import BuildPipeline.Value.Basic

set_option autoImplicit false

namespace BuildPipeline.Settings

inductive ListFault where
  | entry (field : String)
  | shape (field : String)
  | undecodable (cause : Text.Utf8.Misread)
  deriving DecidableEq, Repr

def labelled (field : String) (rest : String) : String :=
  if field = "" then rest else field ++ " " ++ rest

def ListFault.message : ListFault → String
  | .entry field => labelled field "entries must be strings"
  | .shape field => labelled field "must be a string or sequence of strings"
  | .undecodable cause => cause.message

def trimmed? : Value → Except ListFault (Option String)
  | .str s => .ok (some (Text.trim s))
  | .bytes bs =>
    match Text.Utf8.decode bs with
    | .ok cs => .ok (some (Text.trim (String.ofList cs)))
    | .error cause => .error (.undecodable cause)
  | _ => .ok none

def nonempty (s : String) : List String :=
  if s = "" then [] else [s]

def stringItems (field : String) : List Value → Except ListFault (List String)
  | [] => .ok []
  | item :: rest => do
    match ← trimmed? item with
    | none => .error (.entry field)
    | some s => do
      let tail ← stringItems field rest
      .ok (nonempty s ++ tail)

def stringList (field : String) : Value → Except ListFault (List String)
  | .null => .ok []
  | .list items => stringItems field items
  | .tuple items => stringItems field items
  | v => do
    match ← trimmed? v with
    | none => .error (.shape field)
    | some s => .ok (nonempty s)

end BuildPipeline.Settings
