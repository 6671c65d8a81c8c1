import BuildPipeline.StockSystem.Shell.Syntax
import BuildPipeline.StockSystem.Program.Condition

set_option autoImplicit false

namespace BuildPipeline.StockSystem.Shell

open Program (Misnumber)

inductive SumFault where
  | malformed (complaint : String)
  | notNumber (text : String)
  | readOnly (name : String)
  deriving DecidableEq, Repr

def SumFault.message (expression : String) : SumFault → String
  | .malformed complaint =>
    "arithmetic expression: " ++ complaint ++ ": \"" ++ expression ++ "\""
  | .notNumber text => "Illegal number: " ++ text
  | .readOnly name => name ++ ": is read only"

structure SumState where
  rest : List Char
  assigned : List (String × Int) := []
  deriving DecidableEq, Repr

abbrev Sum := StateT SumState (Except SumFault)

namespace Sum

def operators : List String :=
  ["<<=", ">>=", "||", "&&", "==", "!=", "<=", ">=", "<<", ">>", "+=", "-=", "*=", "/=", "%=",
   "&=", "|=", "^=", "+", "-", "*", "/", "%", "<", ">", "&", "|", "^", "!", "~", "?", ":", "=",
   "(", ")"]

def assigners : List (String × String) :=
  [("=", ""), ("+=", "+"), ("-=", "-"), ("*=", "*"), ("/=", "/"), ("%=", "%"), ("&=", "&"),
   ("|=", "|"), ("^=", "^"), ("<<=", "<<"), (">>=", ">>")]

def strength? (operator : String) : Option Nat :=
  match operator with
  | "||" => some 1
  | "&&" => some 2
  | "|" => some 3
  | "^" => some 4
  | "&" => some 5
  | "==" | "!=" => some 6
  | "<" | ">" | "<=" | ">=" => some 7
  | "<<" | ">>" => some 8
  | "+" | "-" => some 9
  | "*" | "/" | "%" => some 10
  | _ => none

def wrap (n : Int) : Int :=
  Int.bmod n Program.Directive.wordSize

def ofBool (b : Bool) : Int :=
  if b then 1 else 0

def shiftCount (n : Int) : Nat :=
  (Int.emod n 64).toNat

def bits (n : Int) : Nat :=
  (Int.emod n Program.Directive.wordSize).toNat

def fail {α : Type} (complaint : String) : Sum α :=
  throw (.malformed complaint)

def apply (operator : String) (a b : Int) : Sum Int :=
  match operator with
  | "+" => pure (wrap (a + b))
  | "-" => pure (wrap (a - b))
  | "*" => pure (wrap (a * b))
  | "/" => if b = 0 then fail "division by zero" else pure (wrap (Int.tdiv a b))
  | "%" => if b = 0 then fail "division by zero" else pure (Int.tmod a b)
  | "|" => pure (wrap (bits a ||| bits b : Nat))
  | "^" => pure (wrap (bits a ^^^ bits b : Nat))
  | "&" => pure (wrap (bits a &&& bits b : Nat))
  | "==" => pure (ofBool (a = b))
  | "!=" => pure (ofBool (a ≠ b))
  | "<" => pure (ofBool (a < b))
  | ">" => pure (ofBool (b < a))
  | "<=" => pure (ofBool (a ≤ b))
  | ">=" => pure (ofBool (b ≤ a))
  | "<<" => pure (wrap (a * Nat.pow 2 (shiftCount b)))
  | ">>" => pure (Int.fdiv a (Nat.pow 2 (shiftCount b)))
  | _ => pure b

def isBlank (c : Char) : Bool :=
  c == ' ' || c == '\t' || c == '\n'

def skipBlanks : Sum Unit :=
  modify fun s => { s with rest := s.rest.dropWhile isBlank }

def operator? : Sum (Option String) := do
  skipBlanks
  let cs := (← get).rest
  return operators.find? fun o => o.toList.isPrefixOf cs

def skip (count : Nat) : Sum Unit :=
  modify fun s => { s with rest := s.rest.drop count }

def numberOf (text : String) : Sum Int :=
  let cs := text.toList.dropWhile Program.isNumberBlank
  if cs = [] then pure 0
  else
    let tail := (cs.reverse.dropWhile Program.isNumberBlank).reverse
    match Program.readWholeArgument true tail with
    | (n, none) => pure n
    | (n, some .outOfRange) => pure n
    | _ => throw (.notNumber text)

def numberNamed (value : String → String) (name : String) : Sum Int := do
  match (← get).assigned.lookup name with
  | some n => return n
  | none => numberOf (value name)

mutual

/-- An expression; where it is `idle` its value is of no matter, and nothing is assigned. -/
def expression (value : String → String) : Nat → Bool → Sum Int
  | 0, _ => fail "expecting primary"
  | fuel + 1, idle => do
    skipBlanks
    let cs := (← get).rest
    let name := match cs with
      | c :: _ => if isNameStart c then cs.takeWhile isNameChar else []
      | [] => []
    let after := (cs.drop name.length).dropWhile isBlank
    let assigner := if name = [] then none else
      (operators.find? fun o => o.toList.isPrefixOf after).bind fun o =>
        (assigners.lookup o).map (o, ·)
    match assigner with
    | some (written, operator) =>
      modify fun s => { s with rest := after.drop written.length }
      let b ← expression value fuel idle
      if idle then return b
      else
        let name := String.ofList name
        let n ← if operator = "" then pure b else do apply operator (← numberNamed value name) b
        modify fun s => { s with assigned := (name, n) :: s.assigned }
        return n
    | none => choice value fuel idle

def choice (value : String → String) : Nat → Bool → Sum Int
  | 0, _ => fail "expecting primary"
  | fuel + 1, idle => do
    let a ← binary value fuel idle 1
    if (← operator?) = some "?" then
      skip 1
      let yes ← expression value fuel (idle || a = 0)
      if (← operator?) ≠ some ":" then fail "expecting ':'"
      else
        skip 1
        let no ← choice value fuel (idle || a ≠ 0)
        return if a ≠ 0 then yes else no
    else return a

def binary (value : String → String) : Nat → Bool → Nat → Sum Int
  | 0, _, _ => fail "expecting primary"
  | fuel + 1, idle, least => do binaryAfter value fuel idle least (← unary value fuel idle)

def binaryAfter (value : String → String) : Nat → Bool → Nat → Int → Sum Int
  | 0, _, _, _ => fail "expecting primary"
  | fuel + 1, idle, least, a => do
    match ← operator? with
    | none => return a
    | some operator =>
      match (strength? operator).filter (least ≤ ·) with
      | none => return a
      | some strength =>
        skip operator.length
        -- The second operand of a sum that is decided is read, but of no matter.
        let settled := (operator = "||" && a ≠ 0) || (operator = "&&" && a = 0)
        let b ← binary value fuel (idle || settled) (strength + 1)
        let n ←
          if operator = "||" then pure (ofBool (a ≠ 0 || b ≠ 0))
          else if operator = "&&" then pure (ofBool (a ≠ 0 && b ≠ 0))
          else if idle then pure 0
          else apply operator a b
        binaryAfter value fuel idle least n

def unary (value : String → String) : Nat → Bool → Sum Int
  | 0, _ => fail "expecting primary"
  | fuel + 1, idle => do
    match ← operator? with
    | some "-" =>
      skip 1
      return wrap (-(← unary value fuel idle))
    | some "+" =>
      skip 1
      unary value fuel idle
    | some "!" =>
      skip 1
      return ofBool ((← unary value fuel idle) = 0)
    | some "~" =>
      skip 1
      return -(← unary value fuel idle) - 1
    | some "(" =>
      skip 1
      let n ← expression value fuel idle
      if (← operator?) ≠ some ")" then fail "expecting ')'"
      else
        skip 1
        return n
    | _ =>
      match (← get).rest with
      | [] => fail "expecting primary"
      | c :: cs =>
        if isNameStart c then
          skip ((c :: cs).takeWhile isNameChar).length
          if idle then return 0
          else numberNamed value (String.ofList ((c :: cs).takeWhile isNameChar))
        else match if c.isDigit then Program.magnitude? (c :: cs) else none with
          | none => fail "expecting primary"
          | some (n, rest) =>
            modify fun s => { s with rest }
            return wrap (min n (Program.Directive.wordSize - 1) : Nat)

end

def evaluate (value : String → String) (text : String) :
    Except SumFault (Int × List (String × Int)) := do
  let whole : Sum Int := do
    let n ← expression value (12 * text.length + 20) false
    skipBlanks
    if (← get).rest ≠ [] then fail "expecting EOF" else return n
  let (n, s) ← whole.run { rest := text.toList }
  return (n, s.assigned.reverse)

end Sum

end BuildPipeline.StockSystem.Shell
