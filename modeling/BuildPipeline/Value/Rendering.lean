import BuildPipeline.Value.Basic
import BuildPipeline.Text.Quoted

set_option autoImplicit false

namespace BuildPipeline.Value

def boolText (b : Bool) : String :=
  if b then "True" else "False"

mutual

def quoted : Value → String
  | .null => "None"
  | .bool b => boolText b
  | .int n => Number.intText n
  | .float x => x.text
  | .str s => Text.quoted s
  | .bytes bs => Text.quotedBytes bs
  | .moment m => m.quoted
  | .list items => "[" ++ ", ".intercalate (quotedItems items) ++ "]"
  | .tuple items =>
    match quotedItems items with
    | [item] => "(" ++ item ++ ",)"
    | items => "(" ++ ", ".intercalate items ++ ")"
  | .set [] => "set()"
  | .set items => "\x7b" ++ ", ".intercalate (quotedItems items) ++ "\x7d"
  | .map members => "\x7b" ++ ", ".intercalate (quotedMembers members) ++ "\x7d"
  | .enclosing .list => "[...]"
  | .enclosing .set => "set(...)"
  | .enclosing .map => "\x7b...\x7d"

def quotedItems : List Value → List String
  | [] => []
  | v :: vs => quoted v :: quotedItems vs

def quotedMembers : List (Value × Value) → List String
  | [] => []
  | (k, v) :: rest => (quoted k ++ ": " ++ quoted v) :: quotedMembers rest

end

def text : Value → String
  | .str s => s
  | .moment m => m.text
  | v => v.quoted

mutual

def isTooLong : Value → Bool
  | .int n => Number.isTooLong n
  | .list items => anyTooLong items
  | .tuple items => anyTooLong items
  | .set items => anyTooLong items
  | .map members => anyMemberTooLong members
  | _ => false

def anyTooLong : List Value → Bool
  | [] => false
  | v :: vs => v.isTooLong || anyTooLong vs

def anyMemberTooLong : List (Value × Value) → Bool
  | [] => false
  | (k, v) :: rest => k.isTooLong || v.isTooLong || anyMemberTooLong rest

end

def kind : Value → String
  | .null => "NoneType"
  | .bool _ => "bool"
  | .int _ => "int"
  | .float _ => "float"
  | .str _ => "str"
  | .bytes _ => "bytes"
  | .moment m => m.kind
  | .list _ => "list"
  | .tuple _ => "tuple"
  | .set _ => "set"
  | .map _ => "dict"
  | .enclosing .list => "list"
  | .enclosing .set => "set"
  | .enclosing .map => "dict"

end BuildPipeline.Value
