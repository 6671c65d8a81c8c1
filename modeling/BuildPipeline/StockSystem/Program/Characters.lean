import BuildPipeline.StockSystem.Program.Options
import BuildPipeline.StockSystem.Program.Format

set_option autoImplicit false

namespace BuildPipeline.StockSystem.Program

def charsBetween (a b : Char) : List Char :=
  (List.range (b.toNat + 1 - a.toNat)).map fun i => Char.ofNat (a.toNat + i)

def allChars : List Char :=
  charsBetween '\x00' '\xff'

def isPunctuation (c : Char) : Bool :=
  '!' ≤ c && c ≤ '~' && !c.isAlphanum

def classNamed? (name : String) : Option (Char → Bool) :=
  match name with
  | "alpha" => some Char.isAlpha
  | "digit" => some Char.isDigit
  | "alnum" => some Char.isAlphanum
  | "upper" => some Char.isUpper
  | "lower" => some Char.isLower
  | "space" => some isNumberSpace
  | "blank" => some fun c => c = ' ' || c = '\t'
  | "punct" => some isPunctuation
  | "cntrl" => some fun c => c < ' ' || c = '\x7f'
  | "graph" => some fun c => '!' ≤ c && c ≤ '~'
  | "print" => some fun c => ' ' ≤ c && c ≤ '~'
  | "xdigit" => some fun c => (Text.hexValue? c).isSome
  | _ => none
where
  isNumberSpace (c : Char) : Bool :=
    c == ' ' || '\t' ≤ c && c ≤ '\r'

def classHead? (cs : List Char) : Option ((Char → Bool) × List Char) :=
  match cs with
  | '[' :: ':' :: rest =>
    match rest.dropWhile (· ≠ ':') with
    | ':' :: ']' :: after =>
      (classNamed? (String.ofList (rest.takeWhile (· ≠ ':')))).map (·, after)
    | _ => none
  | _ => none

def setChar : List Char → Option (Char × List Char)
  | [] => none
  | '\\' :: [] => some ('\\', [])
  | '\\' :: cs =>
    match plainEscape? cs with
    | some (.chars [c] rest) => some (c, rest)
    | _ => cs.head?.map (·, cs.tail)
  | c :: cs => some (c, cs)

inductive SetPiece where
  | chars (cs : List Char)
  | repeated (c : Char) (count : Option Nat)
  deriving DecidableEq, Repr

def repeatHead? (cs : List Char) : Option (SetPiece × List Char) :=
  match cs with
  | '[' :: rest => do
    let (c, rest) ← setChar rest
    match rest with
    | '*' :: rest =>
      let ds := rest.takeWhile Number.isDigit
      match rest.drop ds.length with
      | ']' :: rest =>
        let n := if ds.head? = some '0' then (digitHead octal? 8 ds.length ds).1
          else Number.ofDigits ds
        some (.repeated c (if n = 0 then none else some n), rest)
      | _ => none
    | _ => none
  | _ => none

def setPieces : Nat → List Char → List SetPiece
  | 0, _ => []
  | _ + 1, [] => []
  | fuel + 1, cs =>
    match classHead? cs, repeatHead? cs with
    | some (holds, rest), _ => .chars (allChars.filter holds) :: setPieces fuel rest
    | none, some (piece, rest) => piece :: setPieces fuel rest
    | none, none =>
      match setChar cs with
      | none => []
      | some (a, '-' :: c :: rest) =>
        match setChar (c :: rest) with
        | some (b, rest) => .chars (charsBetween a b) :: setPieces fuel rest
        | none => [.chars [a, '-']]
      | some (a, rest) => .chars [a] :: setPieces fuel rest

def setChars (length : Nat) (s : String) : List Char :=
  let pieces := setPieces (s.length + 1) s.toList
  let count := (pieces.map fun piece => match piece with
    | .chars cs => cs.length
    | .repeated _ n => n.getD 0).foldl (· + ·) 0
  pieces.flatMap fun piece => match piece with
    | .chars cs => cs
    | .repeated c (some n) => List.replicate n c
    | .repeated c none => List.replicate (length - count) c

def filledTo (length : Nat) (cs : List Char) : List Char :=
  cs ++ List.replicate (length - cs.length) (cs.getLast?.getD ' ')

def squeeze (set : List Char) : List Char → List Char
  | a :: b :: cs =>
    if a = b && set.contains a then squeeze set (b :: cs) else a :: squeeze set (b :: cs)
  | cs => cs

def replaced (source target : List Char) (c : Char) : Char :=
  (((source.zip target).reverse.find? (·.1 = c)).map (·.2)).getD c

def trForms : OptionForms :=
  { plain := "cCdst", leading := true
    long := [("delete", 'd'), ("squeeze-repeats", 's'), ("complement", 'c')] }

def trApply (o : Options) (first : String) (second : Option String) (cs : List Char) : List Char :=
  let named := setChars 0 first
  let source :=
    if o.has 'c' || o.has 'C' then allChars.filter fun c => !named.contains c else named
  match second with
  | none =>
    let cs := if o.has 'd' then cs.filter fun c => !source.contains c else cs
    if o.has 's' then squeeze source cs else cs
  | some second =>
    let target := setChars source.length second
    if o.has 'd' then squeeze target (cs.filter fun c => !source.contains c)
    else
      let filled := if o.has 't' then target else filledTo source.length target
      let cs := cs.map (replaced source filled)
      if o.has 's' then squeeze target cs else cs

def tr : Routine := withOptions trForms 1 fun o p =>
  match o.operands with
  | [] => (p.complain "missing operand").hint 1
  | [first] =>
    if o.has 'd' || o.has 's' then
      let (cs, p) := p.takeInput
      p.sayChars (trApply o first none cs)
    else
      let p := p.complain ("missing operand after " ++ inCurls first)
      let more := "Two strings must be given when translating.\n"
      { p with said := p.said ++ [(2, more.toList)] }.hint 1
  | [first, second] =>
    if o.has 'd' && !o.has 's' then
      (p.complain ("extra operand " ++ inCurls second)).hint 1
    else if second = "" && !o.has 't' && !o.has 'd' then
      p.complain "when not truncating set1, string2 must be non-empty"
    else
      let (cs, p) := p.takeInput
      p.sayChars (trApply o first (some second) cs)
  | _ :: _ :: third :: _ =>
    (p.complain ("extra operand " ++ inCurls third)).hint 1

end BuildPipeline.StockSystem.Program
