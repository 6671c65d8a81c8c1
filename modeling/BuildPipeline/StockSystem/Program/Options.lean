import BuildPipeline.StockSystem.Program.Process

set_option autoImplicit false

namespace BuildPipeline.StockSystem.Program

/-- Which options a program takes. Unless `leading`, they may stand after operands. -/
structure OptionForms where
  plain : String := ""
  valued : String := ""
  long : List (String × Char) := []
  leading : Bool := false
  deriving DecidableEq, Repr

structure Options where
  flags : List (Char × String) := []
  operands : List String := []
  deriving DecidableEq, Repr

inductive OptionFault where
  | unknown (letter : Char)
  | unknownLong (word : String)
  | noValue (letter : Char)
  deriving DecidableEq, Repr

def OptionFault.message : OptionFault → String
  | .unknown letter => "invalid option -- '" ++ letter.toString ++ "'"
  | .unknownLong word => "unrecognized option '" ++ word ++ "'"
  | .noValue letter => "option requires an argument -- '" ++ letter.toString ++ "'"

namespace Options

def has (o : Options) (letter : Char) : Bool :=
  o.flags.any (·.1 = letter)

def value? (o : Options) (letter : Char) : Option String :=
  (o.flags.reverse.find? (·.1 = letter)).map (·.2)

def lastOf? (o : Options) (letters : String) : Option Char :=
  (o.flags.reverse.find? fun f => letters.toList.contains f.1).map (·.1)

def withFlag (letter : Char) (value : String) (o : Options) : Options :=
  { o with flags := (letter, value) :: o.flags }

def withOperand (operand : String) (o : Options) : Options :=
  { o with operands := operand :: o.operands }

def cluster (forms : OptionForms) : List Char → List String →
    Except OptionFault (List (Char × String) × List String)
  | [], words => .ok ([], words)
  | c :: cs, words =>
    if forms.plain.toList.contains c then
      (cluster forms cs words).map fun (flags, words) => ((c, "") :: flags, words)
    else if forms.valued.toList.contains c then
      match cs, words with
      | [], [] => .error (.noValue c)
      | [], w :: words => .ok ([(c, w)], words)
      | cs, words => .ok ([(c, String.ofList cs)], words)
    else .error (.unknown c)

def longFlag (forms : OptionForms) (word : String) (words : List String) :
    Except OptionFault (List (Char × String) × List String) :=
  let name := (word.toList.drop 2).takeWhile (· ≠ '=')
  match forms.long.lookup (String.ofList name) with
  | none => .error (.unknownLong word)
  | some letter =>
    match (word.toList.drop 2).dropWhile (· ≠ '='), words with
    | '=' :: value, words => .ok ([(letter, String.ofList value)], words)
    | _, w :: words' =>
      if forms.valued.toList.contains letter then .ok ([(letter, w)], words')
      else .ok ([(letter, "")], w :: words')
    | _, [] => .ok ([(letter, "")], [])

def readFrom (forms : OptionForms) : Nat → List String → Except OptionFault Options
  | 0, words => .ok { operands := words }
  | _ + 1, [] => .ok {}
  | fuel + 1, word :: words => do
    match word.toList with
    | ['-', '-'] => .ok { operands := words }
    | '-' :: '-' :: _ =>
      let (flags, words) ← longFlag forms word words
      let o ← readFrom forms fuel words
      .ok { o with flags := flags ++ o.flags }
    | '-' :: c :: cs =>
      let (flags, words) ← cluster forms (c :: cs) words
      let o ← readFrom forms fuel words
      .ok { o with flags := flags ++ o.flags }
    | _ =>
      if forms.leading then .ok { operands := word :: words }
      else (readFrom forms fuel words).map (withOperand word)

def read (forms : OptionForms) (words : List String) : Except OptionFault Options :=
  readFrom forms (words.length + 1) words

end Options

def withOptions (forms : OptionForms) (code : Int) (run : Options → Process → Process) : Routine :=
  fun words p =>
    match Options.read forms words with
    | .ok o => run o p
    | .error fault => (p.complain fault.message).hint code

end BuildPipeline.StockSystem.Program
