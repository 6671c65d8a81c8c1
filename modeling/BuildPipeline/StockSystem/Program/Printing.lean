import BuildPipeline.StockSystem.Program.Format

set_option autoImplicit false

namespace BuildPipeline.StockSystem.Program

/-- Why an argument is not quite the number that was asked for. -/
inductive Misnumber where
  | noNumber
  | partly
  | outOfRange
  deriving DecidableEq, Repr

def isNumberBlank (c : Char) : Bool :=
  c == ' ' || '\t' ≤ c && c ≤ '\r'

def magnitude? (cs : List Char) : Option (Nat × List Char) :=
  let hex (rest : List Char) := digitHead Text.hexValue? 16 rest.length rest
  match cs with
  | '0' :: 'x' :: c :: rest =>
    if (Text.hexValue? c).isSome then some (hex (c :: rest)) else some (0, 'x' :: c :: rest)
  | '0' :: 'X' :: c :: rest =>
    if (Text.hexValue? c).isSome then some (hex (c :: rest)) else some (0, 'X' :: c :: rest)
  | '0' :: rest => some (digitHead octal? 8 rest.length rest)
  | c :: rest =>
    if Number.isDigit c then some (digitHead Number.digitOf? 10 (rest.length + 1) (c :: rest))
    else none
  | [] => none

def maxWhole : Nat :=
  9223372036854775807

def readWholeArgument (isSigned : Bool) (cs : List Char) : Int × Option Misnumber :=
  let cs := cs.dropWhile isNumberBlank
  let (negative, rest) := match cs with
    | '-' :: rest => (true, rest)
    | '+' :: rest => (false, rest)
    | rest => (false, rest)
  match magnitude? rest with
  | none => (0, if cs = [] then none else some .noNumber)
  | some (n, rest) =>
    let partly := if rest = [] then none else some Misnumber.partly
    let most := if !isSigned then 2 * maxWhole + 1 else if negative then maxWhole + 1 else maxWhole
    if most < n then (if negative then -most else most, some .outOfRange)
    else (if negative then -n else n, partly)

def Dialect.quotedCode? (d : Dialect) : List Char → Option Int
  | [] => none
  | q :: cs =>
    if q ≠ '\'' && q ≠ '"' then none
    else if d.inShell then some ((cs.headD '\x00').toNat : Int)
    else some (((widen (String.ofList cs)).toList.headD '\x00').toNat : Int)

def readRatio? (cs : List Char) : Option (Ratio × List Char) :=
  let (negative, cs) := match cs.dropWhile isNumberBlank with
    | '-' :: rest => (true, rest)
    | '+' :: rest => (false, rest)
    | rest => (false, rest)
  let whole := cs.takeWhile Number.isDigit
  let (fraction, rest) := match cs.dropWhile Number.isDigit with
    | '.' :: rest => (rest.takeWhile Number.isDigit, rest.dropWhile Number.isDigit)
    | rest => ([], rest)
  if whole = [] && fraction = [] then none
  else
    let (negativePower, power, rest) := match rest with
      | e :: '-' :: c :: more =>
        if e.toLower = 'e' && Number.isDigit c then
          (true, (c :: more).takeWhile Number.isDigit, more.dropWhile Number.isDigit)
        else (false, [], rest)
      | e :: c :: more =>
        let more' := if c = '+' then more else c :: more
        if e.toLower = 'e' && (more'.head?.any Number.isDigit) then
          (false, more'.takeWhile Number.isDigit, more'.dropWhile Number.isDigit)
        else (false, [], rest)
      | _ => (false, [], rest)
    let p := Number.ofDigits (power.take 4)
    let up := if negativePower then 0 else p
    let down := fraction.length + if negativePower then p else 0
    let n := Number.ofDigits (whole ++ fraction)
    some (⟨negative, n * Nat.pow 10 up, Nat.pow 10 down⟩, rest)

def Dialect.mantissaBits (d : Dialect) : Nat :=
  if d.inShell then 53 else 64

def Dialect.shownArgument (d : Dialect) (arg : String) : String :=
  if d.inShell then arg else inCurls arg

def Dialect.misnumber (d : Dialect) (arg : String) (m : Misnumber) : String :=
  d.shownArgument arg ++ match m with
    | .noNumber => if d.inShell then ": expected numeric value" else ": expected a numeric value"
    | .partly =>
      if d.inShell then ": not completely converted" else ": value not completely converted"
    | .outOfRange => ": Numerical result out of range"

structure Printing where
  args : List String
  out : List Char := []
  complaints : List String := []
  code : Int := 0
  stopped : Bool := false
  deriving DecidableEq, Repr

namespace Printing

def write (p : Printing) (cs : List Char) : Printing :=
  { p with out := p.out ++ cs }

def next (p : Printing) : String × Printing :=
  (p.args.headD "", { p with args := p.args.tail })

def noting (p : Printing) (d : Dialect) (arg : String) : Option Misnumber → Printing
  | none => p
  | some m => { p with complaints := p.complaints ++ [d.misnumber arg m], code := 1 }

def stop (p : Printing) (complaint : String) (code : Int) : Printing :=
  { p with complaints := p.complaints ++ [complaint], code, stopped := true }

def nextWhole (p : Printing) (d : Dialect) (isSigned : Bool) : Int × Printing :=
  let (arg, p) := p.next
  match d.quotedCode? arg.toList with
  | some n => (n, p)
  | none =>
    let (n, misread) := readWholeArgument isSigned arg.toList
    (n, p.noting d arg misread)

def nextRatio (p : Printing) (d : Dialect) : Ratio × Printing :=
  let (arg, p) := p.next
  match readRatio? arg.toList with
  | some (r, []) => (r.toBinary d.mantissaBits, p)
  | some (r, _) => (r.toBinary d.mantissaBits, p.noting d arg (some .partly))
  | none => (⟨false, 0, 1⟩, p.noting d arg (if arg = "" then none else some .noNumber))

def size (p : Printing) (d : Dialect) : List Char → Option Int × Printing × List Char
  | '*' :: rest =>
    let (n, p) := p.nextWhole d true
    (some n, p, rest)
  | cs =>
    let ds := cs.takeWhile Number.isDigit
    (if ds = [] then none else some (Number.ofDigits ds), p, cs.drop ds.length)

def convert (p : Printing) (d : Dialect) (directive : Directive) (conversion : Char)
    (source : List Char) : Printing :=
  if conversion = 's' then
    let (arg, p) := p.next
    p.write (directive.text arg.toList)
  else if conversion = 'c' then
    let (arg, p) := p.next
    p.write (directive.pad false [] [arg.toList.headD '\x00'])
  else if conversion = 'b' then
    let (arg, p) := p.next
    let (cs, ended) := d.unescape (arg.length + 1) arg.toList
    { p.write (directive.text cs) with stopped := ended }
  else if conversion = 'q' && !d.inShell then
    let (arg, p) := p.next
    p.write (directive.text (shownName arg).toList)
  else if conversion = 'd' || conversion = 'i' then
    let (n, p) := p.nextWhole d true
    p.write (directive.whole conversion n)
  else if "ouxX".toList.contains conversion then
    let (n, p) := p.nextWhole d false
    p.write (directive.whole conversion n)
  else if "feEgGF".toList.contains conversion then
    let (r, p) := p.nextRatio d
    p.write (directive.real conversion r)
  else
    let text := "%" ++ String.ofList (source.take 1000)
    if d.inShell then p.stop (text ++ ": invalid directive") 2
    else p.stop (text ++ ": invalid conversion specification") 1

def isSizeLetter (c : Char) : Bool :=
  "hlLjzt".toList.contains c

def directive (p : Printing) (d : Dialect) (cs : List Char) : Printing × List Char :=
  let flags := cs.takeWhile fun c => "-+ #0".toList.contains c || (c = '\'' && !d.inShell)
  let (width, p, rest) := p.size d (cs.drop flags.length)
  let (precision, p, rest) := match rest with
    | '.' :: rest =>
      let (n, p, rest) := p.size d rest
      (some (n.getD 0), p, rest)
    | rest => (none, p, rest)
  let rest := if d.inShell then rest else rest.dropWhile isSizeLetter
  let w := width.getD 0
  let directive : Directive :=
    { flags := if w < 0 then '-' :: flags else flags
      width := w.natAbs
      precision := match precision with
        | some n => if n < 0 then none else some n.toNat
        | none => none }
  match rest with
  | [] =>
    if d.inShell then (p.stop "missing format character" 2, [])
    else (p.stop ("%" ++ String.ofList cs ++ ": invalid conversion specification") 1, [])
  | conversion :: rest =>
    (p.convert d directive conversion (cs.take (cs.length - rest.length)), rest)

def once (d : Dialect) : Nat → List Char → Printing → Printing
  | 0, _, p => p
  | _ + 1, [], p => p
  | fuel + 1, '\\' :: cs, p =>
    match d.escape cs with
    | .stop => { p with stopped := true }
    | .chars out rest => once d fuel rest (p.write out)
  | fuel + 1, '%' :: '%' :: cs, p => once d fuel cs (p.write ['%'])
  | fuel + 1, '%' :: cs, p =>
    let (p, rest) := p.directive d cs
    if p.stopped then p else once d fuel rest p
  | fuel + 1, c :: cs, p => once d fuel cs (p.write [c])

def all (d : Dialect) (format : List Char) : Nat → Printing → Printing
  | 0, p => p
  | fuel + 1, p =>
    let q := once d (format.length + 1) format p
    if q.stopped || q.args = [] || q.args.length = p.args.length then q else all d format fuel q

def start (d : Dialect) (format : String) (args : List String) : Printing :=
  let p := all d format.toList (args.length + 1) { args }
  match p.args with
  | [] => p
  | arg :: _ =>
    if d.inShell || p.stopped then p
    else
      let warning := "warning: ignoring excess arguments, starting with " ++ d.shownArgument arg
      { p with complaints := p.complaints ++ [warning] }

end Printing

def Process.printed (process : Process) (p : Printing) : Process :=
  let told := p.complaints.foldl (fun process c => process.complain c) process
  { told.sayChars p.out with code := p.code }

def printf : Routine := fun words process =>
  match (if words.head? = some "--" then words.tail else words) with
  | [] => (process.complain "missing operand").hint 1
  | format :: args => process.printed (Printing.start ⟨false⟩ format args)

def isEchoOption (word : String) : Bool :=
  match word.toList with
  | '-' :: c :: cs => (c :: cs).all fun c => "neE".toList.contains c
  | _ => false

def echo : Routine := fun words process =>
  let flags := (words.takeWhile isEchoOption).flatMap String.toList
  let text := " ".intercalate (words.dropWhile isEchoOption)
  let escapes := (flags.reverse.find? fun c => c = 'e' || c = 'E') = some 'e'
  let (cs, ended) :=
    if escapes then Dialect.unescape ⟨false⟩ (text.length + 1) text.toList else (text.toList, false)
  process.sayChars (if ended || flags.contains 'n' then cs else cs ++ ['\n'])

end BuildPipeline.StockSystem.Program
