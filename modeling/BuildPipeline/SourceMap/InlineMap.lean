import BuildPipeline.Base64
import BuildPipeline.Json.Reader
import BuildPipeline.SourceMap.Fault
import BuildPipeline.SourceMap.Marker
import BuildPipeline.Text.Utf8
import BuildPipeline.Text.WordChar

set_option autoImplicit false

namespace BuildPipeline.SourceMap

def inlineLead : List Char :=
  "//# sourceMappingURL=data:application/json;charset=utf-8;base64,".toList

def mapComment (map : Mapping) : Except Json.WriteError (List Char) := do
  let json ← Json.writeValue .compact (.map map)
  .ok (inlineLead ++ Base64.encode (Text.Utf8.encode json))

def isCharsetChar (c : Char) : Bool :=
  Text.isWord c || c == '-'

def isDataChar (c : Char) : Bool :=
  (Base64.value? c).isSome || c == '='

def afterCharset (cs : List Char) : List Char :=
  match after? ";charset=".toList cs with
  | some (c :: rest) => if isCharsetChar c then rest.dropWhile isCharsetChar else cs
  | _ => cs

def inlineData? (cs : List Char) : Option (List Char × List Char) := do
  let rest ← opening? '/' cs
  let rest ← after? "data:application/json".toList rest
  let rest ← after? ";base64,".toList (afterCharset rest)
  match rest.takeWhile isDataChar with
  | [] => none
  | data => some (data, rest.dropWhile isDataChar)

/-- The data of the inline maps of a text from the left, none overlapping another. -/
def inlineDataFrom : Nat → List Char → List (List Char)
  | _, [] => []
  | 0, c :: cs =>
    match inlineData? (c :: cs) with
    | none => inlineDataFrom 0 cs
    | some (data, rest) => data :: inlineDataFrom (cs.length - rest.length) cs
  | inside + 1, _ :: cs => inlineDataFrom inside cs

def readData? (data : List Char) : Option Mapping := do
  let bytes ← Base64.decode? data
  let text ← (Text.Utf8.decode bytes).toOption
  let value ← (Json.readAll text).toOption
  value.members?

def readInlineMap (code : List Char) : Option Mapping :=
  (inlineDataFrom 0 code).getLast?.bind readData?

end BuildPipeline.SourceMap
