import BuildPipeline.StockSystem.Program.Printing

set_option autoImplicit false

namespace BuildPipeline.StockSystem.Program

inductive ConditionFault where
  | notNumber (word : String)
  | unexpectedOperator (word : String)
  | noArgument (word : String)
  | unclosed
  deriving DecidableEq, Repr

def ConditionFault.message : ConditionFault → String
  | .notNumber word => "Illegal number: " ++ word
  | .unexpectedOperator word => word ++ ": unexpected operator"
  | .noArgument word => word ++ ": argument expected"
  | .unclosed => "closing paren expected"

def unaryOperators : List String :=
  ["-e", "-f", "-d", "-h", "-L", "-s", "-n", "-z", "-r", "-w", "-x", "-p", "-S", "-b", "-c", "-g",
   "-u", "-k", "-t", "-O", "-G"]

def binaryOperators : List String :=
  ["=", "==", "!=", "<", ">", "-eq", "-ne", "-gt", "-ge", "-lt", "-le", "-nt", "-ot", "-ef"]

def wholeNumber? (s : String) : Option Int :=
  let cs := s.toList.dropWhile isNumberBlank
  let (negative, rest) := match cs with
    | '-' :: rest => (true, rest)
    | '+' :: rest => (false, rest)
    | rest => (false, rest)
  let ds := rest.takeWhile Number.isDigit
  if ds = [] || !(rest.drop ds.length).all isNumberBlank then none
  else some (Number.signed negative (Number.ofDigits ds))

def Process.holds (p : Process) (last : Bool) (operand : String) (test : Entry → Bool) : Bool :=
  match p.entry last operand with
  | .ok e => test e
  | .error _ => false

def Entry.hasContent : Entry → Bool
  | .file bs => bs ≠ []
  | _ => true

def unaryHolds (p : Process) (operator operand : String) : Bool :=
  match operator with
  | "-n" => operand ≠ ""
  | "-z" => operand = ""
  | "-f" => p.holds true operand Entry.isFile
  | "-d" => p.holds true operand Entry.isDirectory
  | "-h" | "-L" => p.holds false operand Entry.isLink
  | "-s" => p.holds true operand Entry.hasContent
  | "-x" => p.holds true operand Entry.isDirectory
  | "-e" | "-r" | "-w" | "-O" | "-G" => p.holds true operand fun _ => true
  | _ => false

def numbersHold (operator : String) (a b : Int) : Bool :=
  match operator with
  | "-eq" => a = b
  | "-ne" => a ≠ b
  | "-gt" => b < a
  | "-ge" => b ≤ a
  | "-lt" => a < b
  | _ => a ≤ b

def binaryHolds (p : Process) (a operator b : String) : Except ConditionFault Bool :=
  match operator with
  | "=" | "==" => .ok (a = b)
  | "!=" => .ok (a ≠ b)
  | "<" => .ok (decide (a < b))
  | ">" => .ok (decide (b < a))
  | "-nt" => .ok (p.holds true a (fun _ => true) && !p.holds true b fun _ => true)
  | "-ot" => .ok (p.holds true b (fun _ => true) && !p.holds true a fun _ => true)
  | "-ef" =>
    match p.spot true a, p.spot true b with
    | .ok (.taken x _), .ok (.taken y _) => .ok (x = y)
    | _, _ => .ok false
  | operator =>
    match wholeNumber? a, wholeNumber? b with
    | none, _ => .error (.notNumber a)
    | _, none => .error (.notNumber b)
    | some n, some m => .ok (numbersHold operator n m)

def isUnary (words : List String) : Bool :=
  match words with
  | operator :: next :: _ :: _ =>
    unaryOperators.contains operator && !binaryOperators.contains next
  | operator :: _ => unaryOperators.contains operator
  | [] => false

inductive Binding where
  | either
  | both
  | negation
  deriving DecidableEq, Repr

def condition (p : Process) : Nat → Binding → List String →
    Except ConditionFault (Bool × List String)
  | 0, _, words => .ok (false, words)
  | fuel + 1, .either, words => do
    let (a, rest) ← condition p fuel .both words
    match rest with
    | "-o" :: rest =>
      let (b, rest) ← condition p fuel .either rest
      .ok (a || b, rest)
    | rest => .ok (a, rest)
  | fuel + 1, .both, words => do
    let (a, rest) ← condition p fuel .negation words
    match rest with
    | "-a" :: rest =>
      let (b, rest) ← condition p fuel .both rest
      .ok (a && b, rest)
    | rest => .ok (a, rest)
  | fuel + 1, .negation, words =>
    match words with
    | [] => .ok (false, [])
    | ["!"] => .ok (true, [])
    | "!" :: rest => do
      let (a, rest) ← condition p fuel .negation rest
      .ok (!a, rest)
    | ["("] => .ok (true, [])
    | "(" :: ")" :: rest => .ok (false, rest)
    | "(" :: rest => do
      match ← condition p fuel .either rest with
      | (a, ")" :: rest) => .ok (a, rest)
      | _ => .error .unclosed
    | word :: rest =>
      if isUnary words then
        match rest with
        | [] => .error (.noArgument word)
        | operand :: rest => .ok (unaryHolds p word operand, rest)
      else match rest with
        | operator :: b :: rest' =>
          if binaryOperators.contains operator then
            (binaryHolds p word operator b).map (·, rest')
          else .ok (word ≠ "", rest)
        | [operator] =>
          if binaryOperators.contains operator then .error (.noArgument operator)
          else .ok (word ≠ "", rest)
        | [] => .ok (word ≠ "", [])

/-- A condition must end with its words; the last word that it takes is the one complained of. -/
def wholeCondition (p : Process) (words : List String) : Except ConditionFault Bool := do
  match ← condition p (2 * words.length + 3) .either words with
  | (a, []) => .ok a
  | (_, rest) => .error (.unexpectedOperator (words.getD (words.length - rest.length - 1) ""))

def conditionHolds (p : Process) (words : List String) : Except ConditionFault Bool :=
  match words with
  | [a, operator, b] =>
    if binaryOperators.contains operator then binaryHolds p a operator b
    else if a = "(" && b = ")" then wholeCondition p [operator]
    else if a = "!" then (wholeCondition p [operator, b]).map (!·)
    else wholeCondition p words
  | ["(", a, b, ")"] => wholeCondition p [a, b]
  | ["!", a, b, c] => (wholeCondition p [a, b, c]).map (!·)
  | words => wholeCondition p words

def judge (bracketed : Bool) : Routine := fun words p =>
  if bracketed && words.getLast? ≠ some "]" then (p.complain "missing ]").fail 2
  else match conditionHolds p (if bracketed then words.dropLast else words) with
    | .ok a => p.fail (if a then 0 else 1)
    | .error fault => (p.complain fault.message).fail 2

end BuildPipeline.StockSystem.Program
