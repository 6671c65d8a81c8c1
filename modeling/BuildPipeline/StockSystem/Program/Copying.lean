import BuildPipeline.StockSystem.Program.Options
import BuildPipeline.Number.Decimal

set_option autoImplicit false

namespace BuildPipeline.StockSystem.Program

def spaces (count : Nat) : List Char :=
  List.replicate count ' '

def columnOf (width n : Nat) : List Char :=
  let ds := Number.digits n
  spaces (width - ds.length) ++ ds

def catLine (o : Options) (number : Nat) (line : List Char) : Nat × List Char :=
  let blank := line = ['\n']
  let counted := if o.has 'b' then !blank else o.has 'n'
  let text := line.flatMap fun c =>
    if c = '\t' && o.has 'T' then ['^', 'I'] else if c = '\n' && o.has 'E' then ['$', '\n'] else [c]
  if counted then (number + 1, columnOf 6 (number + 1) ++ '\t' :: text) else (number, text)

def squeezeBlank : List (List Char) → List (List Char)
  | a :: b :: rest =>
    if a = ['\n'] && b = ['\n'] then squeezeBlank (b :: rest) else a :: squeezeBlank (b :: rest)
  | ls => ls

def catForms : OptionForms :=
  { plain := "nbsETAu", long := [("number", 'n'), ("show-ends", 'E'), ("show-tabs", 'T')] }

def cat : Routine := withOptions catForms 1 fun o p =>
  if o.flags.all (·.1 = 'u') then p.onEach o.operands fun p _ cs => p.sayChars cs
  else
    let o := if o.has 'A' then { o with flags := ('E', "") :: ('T', "") :: o.flags } else o
    let (cs, p) := p.joined o.operands
    let ls := if o.has 's' then squeezeBlank (linesOf cs) else linesOf cs
    p.sayChars ((ls.foldl (fun (n, out) l =>
      let (n, text) := catLine o n l
      (n, out ++ text)) (0, [])).2)

def tac : Routine := withOptions {} 1 fun o p =>
  p.onEach o.operands fun p _ cs => p.sayChars (linesOf cs).reverse.flatten

def rev : Routine := withOptions {} 1 fun o p =>
  p.onEach o.operands fun p _ cs =>
    p.sayChars ((linesOf cs).flatMap fun l =>
      let wide := (widen (String.ofList (l.filter (· ≠ '\n')))).toList
      narrowChars wide.reverse ++ l.filter (· = '\n'))

def teeFile (p : Process) (append : Bool) (cs : List Char) (operand : String) : Process :=
  let before := match p.entry true operand with
    | .ok (.file bs) => if append then bs else []
    | _ => []
  match p.files.write (pathOf operand) (before ++ bytesOf cs) with
  | .ok files => { p with files }
  | .error (.system fault) => p.complainOf fault.cause (shownName operand)
  | .error .nullCharacter => p

def tee : Routine := withOptions { plain := "ai", long := [("append", 'a')] } 1 fun o p =>
  let (cs, p) := p.takeInput
  o.operands.foldl (fun p operand => teeFile p (o.has 'a') cs operand) (p.sayChars cs)

inductive Extent where
  | some (count : Nat)
  | allBut (count : Nat)
  | fromUnit (number : Nat)
  deriving DecidableEq, Repr

def sizeSuffix? : List Char → Option Nat
  | [] => some 1
  | ['b'] => some 512
  | ['k'] => some 1024
  | ['K'] => some 1024
  | ['k', 'B'] => some 1000
  | ['M'] => some 1048576
  | _ => none

def count? (cs : List Char) : Option Nat :=
  let ds := cs.takeWhile Number.isDigit
  if ds = [] then none else (sizeSuffix? (cs.drop ds.length)).map (Number.ofDigits ds * ·)

def extent? (s : String) : Option Extent :=
  match s.toList with
  | '-' :: cs => (count? cs).map .allBut
  | '+' :: cs => (count? cs).map .fromUnit
  | cs => (count? cs).map .some

def headUnits {α : Type} (units : List α) : Extent → List α
  | .allBut n => units.take (units.length - n)
  | .some n => units.take n
  | .fromUnit n => units.take n

def tailUnits {α : Type} (units : List α) : Extent → List α
  | .allBut n => units.drop (units.length - n)
  | .some n => units.drop (units.length - n)
  | .fromUnit n => units.drop (n - 1)

def parts (o : Options) (p : Process) (cut : List Char → List Char) : Process :=
  let named := o.has 'v' || (!o.has 'q' && 1 < o.operands.length)
  (p.onEach o.operands fun p operand cs =>
    let title := if operand = "-" then "standard input" else operand
    let gap := if p.said.any (·.1 = 1) then "\n" else ""
    let p := if named then p.say (gap ++ "==> " ++ title ++ " <==\n") else p
    p.sayChars (cut cs))

def spelledOut : List String → List String
  | word :: rest =>
    match word.toList with
    | '-' :: c :: cs =>
      if Number.isDigit c then "-n" :: String.ofList (c :: cs) :: rest else word :: rest
    | _ => word :: rest
  | [] => []

def wanted (o : Options) : Except String (Bool × Extent) :=
  match o.lastOf? "cn" with
  | none => .ok (false, .some 10)
  | some letter =>
    let value := (o.value? letter).getD ""
    match extent? value with
    | some e => .ok (letter = 'c', e)
    | none =>
      .error ("invalid number of " ++ (if letter = 'c' then "bytes" else "lines") ++ ": "
        ++ inCurls value)

def partForms : OptionForms :=
  { plain := "qv", valued := "nc"
    long := [("lines", 'n'), ("bytes", 'c'), ("quiet", 'q'), ("verbose", 'v')] }

def part (cutLines : List (List Char) → Extent → List (List Char))
    (cutBytes : List Char → Extent → List Char) : Routine := fun words =>
  (withOptions partForms 1 fun o p =>
    match wanted o with
    | .error text => p.complain text
    | .ok (true, e) => parts o p fun cs => cutBytes cs e
    | .ok (false, e) => parts o p fun cs => (cutLines (linesOf cs) e).flatten) (spelledOut words)

def head : Routine :=
  part headUnits headUnits

def tail : Routine :=
  part tailUnits tailUnits

def isWordBlank (c : Char) : Bool :=
  c == ' ' || '\t' ≤ c && c ≤ '\r'

def wordCount (cs : List Char) : Nat :=
  (cs.foldl (fun (n, inside) c =>
    if isWordBlank c then (n, false) else (if inside then n else n + 1, true)) (0, false)).1

def counts (o : Options) (cs : List Char) : List Nat :=
  let all := o.flags = []
  let line := cs.count '\n'
  (if all || o.has 'l' then [line] else []) ++ (if all || o.has 'w' then [wordCount cs] else [])
    ++ (if o.has 'm' then [(widen (String.ofList cs)).length] else [])
    ++ (if all || o.has 'c' then [cs.length] else [])
    ++ (if o.has 'L' then [((bareLines cs).map List.length).foldl max 0] else [])

def countWidth (o : Options) (p : Process) : Nat :=
  let columns := if o.flags = [] then 3 else (["l", "w", "m", "c", "L"].filter fun s =>
    o.has (s.toList.headD ' ')).length
  if o.operands.length ≤ 1 && columns = 1 then 1
  else
    let sizes := (if o.operands = [] then ["-"] else o.operands).map fun operand =>
      if operand = "-" then (if p.inputIsFile then some p.input.length else none)
      else match p.entry true operand with
        | .ok (.file bs) => some bs.length
        | .ok _ => none
        | .error _ => some 0
    let total := (sizes.map (·.getD 0)).foldl (· + ·) 0
    max (Number.digits total).length (if sizes.contains none then 7 else 1)

def countLine (width : Nat) (ns : List Nat) (name : String) : List Char :=
  (Text.glue [' '] (ns.map (columnOf width))) ++ (if name = "" then "" else " " ++ name).toList
    ++ ['\n']

def addCounts : List Nat → List Nat → List Nat
  | [], ms => ms
  | ns, [] => ns
  | n :: ns, m :: ms => (n + m) :: addCounts ns ms

def wcForms : OptionForms :=
  { plain := "lwmcL"
    long := [("lines", 'l'), ("words", 'w'), ("chars", 'm'), ("bytes", 'c')] }

def wc : Routine := withOptions wcForms 1 fun o p =>
  let width := countWidth o p
  let names := if o.operands = [] then ["-"] else o.operands
  let (p, total) := names.foldl (fun (p, total) operand =>
    match p.content operand with
    | (.ok cs, p) =>
      let ns := counts o cs
      (p.sayChars (countLine width ns (if o.operands = [] then "" else operand)),
        addCounts total ns)
    | (.error cause, p) =>
      let p := p.complainOf cause (shownName operand)
      if cause = .isDirectory then
        (p.sayChars (countLine width (counts o []) operand), total)
      else (p, total)) (p, [])
  let total := if total = [] then counts o [] else total
  if 1 < names.length then p.sayChars (countLine width total "total") else p

def nl : Routine := withOptions { valued := "bws" } 1 fun o p =>
  let (cs, p) := p.joined o.operands
  let every := o.value? 'b' = some "a"
  p.sayChars (((bareLines cs).foldl (fun (n, out) l =>
    if l = [] && !every then (n, out ++ spaces 7 ++ ['\n'])
    else (n + 1, out ++ columnOf 6 (n + 1) ++ '\t' :: l ++ ['\n'])) (0, [])).2)

end BuildPipeline.StockSystem.Program
