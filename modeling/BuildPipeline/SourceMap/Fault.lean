import BuildPipeline.Json.Writer

set_option autoImplicit false

namespace BuildPipeline.SourceMap

inductive Fault where
  | badDigit (c : Char)
  | truncated (piece : List Char)
  | fieldCount (piece : List Char) (count : Nat)
  | negativeColumn
  | sourceIndex (index : Int)
  | negativePosition
  | nameIndex (index : Int)
  | tooLong
  | notMapping
  | version (v : Value)
  | noMappings
  | notLists
  | noFile
  | unwritable (cause : Json.WriteError)
  deriving DecidableEq, Repr

namespace Fault

def quote (piece : List Char) : String :=
  Text.quoted (String.ofList piece)

def message : Fault → String
  | .badDigit c => "Invalid base64 VLQ character " ++ quote [c]
  | .truncated piece => "Truncated VLQ segment " ++ quote piece
  | .fieldCount piece count =>
    "Segment " ++ quote piece ++ " has " ++ Number.natText count ++ " fields"
  | .negativeColumn => "Negative generated column in mappings"
  | .sourceIndex index => "Source index " ++ Number.intText index ++ " out of range"
  | .negativePosition => "Negative original position in mappings"
  | .nameIndex index => "Name index " ++ Number.intText index ++ " out of range"
  | .tooLong => Number.tooLongMessage
  | .notMapping => "debug map must be a mapping"
  | .version v => "Unsupported source map version " ++ v.quoted
  | .noMappings => "debug map has no 'mappings' string"
  | .notLists => "'sources' and 'names' must be lists"
  | .noFile => "debug map has no 'file' attribute"
  | .unwritable cause => cause.message

def ofIndex (fault : Int → Fault) (index : Int) : Fault :=
  if Number.isTooLong index then .tooLong else fault index

def ofVersion (v : Value) : Fault :=
  if v.isTooLong then .tooLong else .version v

end Fault

end BuildPipeline.SourceMap
