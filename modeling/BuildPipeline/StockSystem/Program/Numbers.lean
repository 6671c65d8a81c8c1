import BuildPipeline.StockSystem.Program.Printing

set_option autoImplicit false

namespace BuildPipeline.StockSystem.Program

/-- A decimal number as a whole one with so many places cut off. -/
structure Scaled where
  value : Int
  places : Nat
  deriving DecidableEq, Repr

def scaled? (s : String) : Option Scaled :=
  let (negative, cs) := match s.toList with
    | '-' :: rest => (true, rest)
    | '+' :: rest => (false, rest)
    | rest => (false, rest)
  let whole := cs.takeWhile Number.isDigit
  let (fraction, rest) := match cs.dropWhile Number.isDigit with
    | '.' :: rest => (rest.takeWhile Number.isDigit, rest.dropWhile Number.isDigit)
    | rest => ([], rest)
  if rest ≠ [] || (whole = [] && fraction = []) then none
  else some ⟨Number.signed negative (Number.ofDigits (whole ++ fraction)), fraction.length⟩

def Scaled.at (s : Scaled) (places : Nat) : Int :=
  s.value * Nat.pow 10 (places - s.places)

def scaledText (places : Nat) (n : Int) : List Char :=
  let ds := Directive.atLeast (places + 1) (Number.digits n.natAbs)
  let whole := ds.take (ds.length - places)
  (if n < 0 then ['-'] else []) ++ Directive.pointed false whole (ds.drop whole.length)

def steps (step last : Int) : Nat → Int → List Int
  | 0, _ => []
  | fuel + 1, n =>
    if (0 ≤ step && last < n) || (step < 0 && n < last) then []
    else n :: steps step last fuel (n + step)

def zeroFilled (width : Nat) (cs : List Char) : List Char :=
  match cs with
  | '-' :: rest => '-' :: Directive.atLeast (width - 1) rest
  | cs => Directive.atLeast width cs

structure SeqOptions where
  separator : List Char := ['\n']
  equalWidth : Bool := false
  format : Option String := none
  operands : List String := []
  deriving DecidableEq, Repr

def seqOptions : Nat → List String → SeqOptions
  | 0, words => { operands := words }
  | _ + 1, [] => {}
  | fuel + 1, word :: words =>
    match word.toList, words with
    | ['-', 's'], value :: words => { seqOptions fuel words with separator := value.toList }
    | ['-', 'f'], value :: words => { seqOptions fuel words with format := some value }
    | ['-', 'w'], words => { seqOptions fuel words with equalWidth := true }
    | '-' :: 's' :: cs, words => { seqOptions fuel words with separator := cs }
    | '-' :: 'f' :: cs, words => { seqOptions fuel words with format := some (String.ofList cs) }
    | ['-', '-'], words => { operands := words }
    | _, words => { operands := word :: words }

def seqNumbers (o : SeqOptions) (first step last : Scaled) : List (List Char) :=
  let places := max first.places step.places
  let all := max places last.places
  let a := first.at all
  let b := step.at all
  let z := last.at all
  let count := ((z - a).natAbs / max 1 b.natAbs) + 1
  let cut : Int := Nat.pow 10 (all - places)
  let texts := (steps b z count a).map fun n => scaledText places (n / cut)
  match o.format with
  | some format => texts.map fun t => (Printing.start ⟨true⟩ format [String.ofList t]).out
  | none =>
    if o.equalWidth then
      let width := (texts.map List.length).foldl max 0
      texts.map (zeroFilled width)
    else texts

def seq : Routine := fun words p =>
  let o := seqOptions (words.length + 1) words
  let show' (t : Option Scaled) (s : String) := t.elim [s] fun _ => []
  let numbers := o.operands.map scaled?
  match o.operands, numbers with
  | [], _ => (p.complain "missing operand").hint 1
  | operands, numbers =>
    match ((numbers.zip operands).flatMap fun n => show' n.1 n.2), numbers.filterMap id with
    | bad :: _, _ =>
      (p.complain ("invalid floating point argument: " ++ inCurls bad)).hint 1
    | [], [last] => write o p (seqNumbers o ⟨1, 0⟩ ⟨1, 0⟩ last)
    | [], [first, last] => write o p (seqNumbers o first ⟨1, 0⟩ last)
    | [], [first, step, last] =>
      if step.value = 0 then
        (p.complain ("invalid Zero increment value: " ++ inCurls (operands.getD 1 ""))).hint 1
      else write o p (seqNumbers o first step last)
    | [], _ =>
      (p.complain ("extra operand " ++ inCurls (operands.getD 3 ""))).hint 1
where
  write (o : SeqOptions) (p : Process) (texts : List (List Char)) : Process :=
    if texts = [] then p else p.sayChars (Text.glue o.separator texts ++ ['\n'])

end BuildPipeline.StockSystem.Program
