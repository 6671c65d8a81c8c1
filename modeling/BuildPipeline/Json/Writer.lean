import BuildPipeline.Text.Hex
import BuildPipeline.Text.Pieces
import BuildPipeline.Value.Rendering

set_option autoImplicit false

namespace BuildPipeline.Json

structure Layout where
  comma : List Char
  colon : List Char
  asciiOnly : Bool

/-- The form inside maps: no spaces, and every character that may stand for itself does. -/
def Layout.compact : Layout := ⟨[','], [':'], false⟩

def Layout.spaced : Layout := ⟨[',', ' '], [':', ' '], true⟩

inductive WriteError where
  | value (kind : String)
  | key (kind : String)
  | circular
  | tooLong
  deriving DecidableEq, Repr

def WriteError.message : WriteError → String
  | .value kind => "Object of type " ++ kind ++ " is not JSON serializable"
  | .key kind => "keys must be str, int, float, bool or None, not " ++ kind
  | .circular => "Circular reference detected"
  | .tooLong => Number.tooLongMessage

def unicodeEscape (n : Nat) : List Char :=
  '\\' :: 'u' :: Text.hexDigits 4 n

def writeChar (layout : Layout) (c : Char) : List Char :=
  if c = '"' then ['\\', '"']
  else if c = '\\' then ['\\', '\\']
  else if c = '\n' then ['\\', 'n']
  else if c = '\r' then ['\\', 'r']
  else if c = '\t' then ['\\', 't']
  else if c = '\x0c' then ['\\', 'f']
  else if c = '\x08' then ['\\', 'b']
  else if c.toNat < 0x20 then unicodeEscape c.toNat
  else if layout.asciiOnly && 0x7F ≤ c.toNat then
    if c.toNat < 0x10000 then unicodeEscape c.toNat
    else
      let n := c.toNat - 0x10000
      unicodeEscape (0xD800 + n / 1024) ++ unicodeEscape (0xDC00 + n % 1024)
  else [c]

def writeChars (layout : Layout) (cs : List Char) : List Char :=
  '"' :: cs.flatMap (writeChar layout) ++ ['"']

def writeString (layout : Layout) (s : String) : List Char :=
  writeChars layout s.toList

def writeFloat (x : Number.Double) : String :=
  if x.isNaN then "NaN"
  else if x.isInfinite then if x.negative then "-Infinity" else "Infinity"
  else x.text

def writeBool (b : Bool) : String :=
  if b then "true" else "false"

def writeInt (n : Int) : Except WriteError (List Char) :=
  if Number.isTooLong n then .error .tooLong else .ok (Number.intChars n)

def keyText : Value → Except WriteError String
  | .str s => .ok s
  | .null => .ok "null"
  | .bool b => .ok (writeBool b)
  | .int n => (writeInt n).map String.ofList
  | .float x => .ok (writeFloat x)
  | v => .error (.key v.kind)

mutual

def writeValue (layout : Layout) : Value → Except WriteError (List Char)
  | .null => .ok ['n', 'u', 'l', 'l']
  | .bool b => .ok (writeBool b).toList
  | .int n => writeInt n
  | .float x => .ok (writeFloat x).toList
  | .str s => .ok (writeString layout s)
  | .bytes _ => .error (.value "bytes")
  | .moment m => .error (.value m.kind)
  | .list items => do
    let parts ← writeItems layout items
    .ok ('[' :: Text.glue layout.comma parts ++ [']'])
  | .tuple items => do
    let parts ← writeItems layout items
    .ok ('[' :: Text.glue layout.comma parts ++ [']'])
  | .set _ => .error (.value "set")
  | .enclosing _ => .error .circular
  | .map members => do
    let parts ← writeMembers layout members
    .ok ('\x7b' :: Text.glue layout.comma parts ++ ['\x7d'])

def writeItems (layout : Layout) : List Value → Except WriteError (List (List Char))
  | [] => .ok []
  | v :: vs => do
    let part ← writeValue layout v
    let parts ← writeItems layout vs
    .ok (part :: parts)

def writeMembers (layout : Layout) :
    List (Value × Value) → Except WriteError (List (List Char))
  | [] => .ok []
  | (k, v) :: rest => do
    let key ← keyText k
    let part ← writeValue layout v
    let parts ← writeMembers layout rest
    .ok ((writeString layout key ++ layout.colon ++ part) :: parts)

end

def write (layout : Layout) (v : Value) : Except WriteError String :=
  (writeValue layout v).map String.ofList

end BuildPipeline.Json
