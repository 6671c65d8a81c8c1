import BuildPipeline.StockSystem.Program.Copying

set_option autoImplicit false

namespace BuildPipeline.StockSystem.Program

structure KeyOrder where
  numeric : Bool := false
  reversed : Bool := false
  folded : Bool := false
  skipBlanks : Bool := false
  deriving DecidableEq, Repr

structure SortKey where
  field : Nat
  char : Nat
  endField : Option Nat
  endChar : Nat
  order : KeyOrder
  deriving DecidableEq, Repr

def orderOf (letters : List Char) : KeyOrder :=
  { numeric := letters.contains 'n' || letters.contains 'g', reversed := letters.contains 'r'
    folded := letters.contains 'f', skipBlanks := letters.contains 'b' }

def isBlankChar (c : Char) : Bool :=
  c == ' ' || c == '\t'

/-- A number in front of a text as a pair that compares like it: whole part and fraction. -/
def numericKey (cs : List Char) : Int × List Char :=
  let cs := cs.dropWhile isBlankChar
  let (negative, cs) := match cs with
    | '-' :: rest => (true, rest)
    | rest => (false, rest)
  let n : Int := Number.ofDigits (cs.takeWhile Number.isDigit)
  let fraction := match cs.dropWhile Number.isDigit with
    | '.' :: rest => Number.ofDigits ((rest.takeWhile Number.isDigit ++ List.replicate 9 '0').take 9)
    | _ => 0
  let whole : Int := n * 1000000000 + fraction
  (if negative then -whole else whole, [])

def compareChars (a b : List Char) : Ordering :=
  compare a b

def KeyOrder.compare (o : KeyOrder) (a b : List Char) : Ordering :=
  let plain (cs : List Char) := if o.skipBlanks then cs.dropWhile isBlankChar else cs
  let shown (cs : List Char) := if o.folded then (plain cs).map Char.toUpper else plain cs
  let result :=
    if o.numeric then Ord.compare (numericKey a).1 (numericKey b).1
    else compareChars (shown a) (shown b)
  if o.reversed then result.swap else result

def sortFields (separator : Option Char) (line : List Char) : List (List Char) :=
  match separator with
  | some c => Text.pieces c line
  | none =>
    let rec go : Bool → List Char → List Char → List (List Char)
      | _, field, [] => [field.reverse]
      | inWord, field, c :: cs =>
        if isBlankChar c && inWord then field.reverse :: go false [c] cs
        else go (inWord || !isBlankChar c) (c :: field) cs
    go false [] line

def SortKey.of (key : SortKey) (separator : Option Char) (line : List Char) : List Char :=
  let fields := sortFields separator line
  let glue := separator.toList
  let last := min (key.endField.getD fields.length) fields.length
  let chosen := (fields.take last).drop (key.field - 1)
  let cut := match chosen.reverse with
    | [] => []
    | f :: before =>
      let f := if key.endChar = 0 || fields.length < key.endField.getD (fields.length + 1) then f
        else f.take key.endChar
      (f :: before).reverse
  (Text.glue glue cut).drop (key.char - 1)

def keyPosition (cs : List Char) : Nat × Nat × List Char :=
  let ds := cs.takeWhile Number.isDigit
  match cs.drop ds.length with
  | '.' :: rest =>
    let es := rest.takeWhile Number.isDigit
    (Number.ofDigits ds, Number.ofDigits es, rest.drop es.length)
  | rest => (Number.ofDigits ds, 0, rest)

def sortKeyOf (shared : KeyOrder) (s : String) : SortKey :=
  let (field, char, rest) := keyPosition s.toList
  let letters := rest.takeWhile (· ≠ ',')
  let (endField, endChar, rest) := match rest.dropWhile (· ≠ ',') with
    | _ :: rest =>
      let (f, c, rest) := keyPosition rest
      (some f, c, rest)
    | [] => (none, 0, [])
  let letters := letters ++ rest
  { field, char := max char 1, endField, endChar
    order := if letters = [] then shared else orderOf letters }

def sortForms : OptionForms :=
  { plain := "rnufbscghVd", valued := "kto"
    long := [("reverse", 'r'), ("numeric-sort", 'n'), ("unique", 'u'), ("ignore-case", 'f')] }

def compareLines (o : Options) (a b : List Char) : Ordering :=
  let shared := orderOf (o.flags.map (·.1))
  let separator := (o.value? 't').bind (·.toList.head?)
  let keys := (o.flags.filter (·.1 = 'k')).map fun f => sortKeyOf shared f.2
  let byKeys :=
    if keys = [] then shared.compare a b
    else keys.foldl (fun result key =>
      result.then (key.order.compare (key.of separator a) (key.of separator b))) .eq
  let whole := compareChars a b
  if o.has 'u' || o.has 's' then byKeys
  else byKeys.then (if shared.reversed then whole.swap else whole)

def firstsOf {α : Type} (same : α → α → Bool) : List α → List α
  | [] => []
  | a :: rest =>
    match firstsOf same rest with
    | b :: kept => if same a b then a :: kept else a :: b :: kept
    | [] => [a]

def sort : Routine := withOptions sortForms 2 fun o p =>
  let (cs, p) := p.joined o.operands
  if p.code ≠ 0 then { p with code := 2 }
  else
    let ls := (bareLines cs).mergeSort fun a b => compareLines o a b ≠ .gt
    let ls := if o.has 'u' then firstsOf (fun a b => compareLines o a b = .eq) ls else ls
    if o.has 'c' then (if bareLines cs = ls then p else p.fail 1)
    else match o.value? 'o' with
      | some name => teeFile p false (unlines ls) name
      | none => p.sayChars (unlines ls)

def groupsOf {α : Type} (same : α → α → Bool) : List α → List (α × Nat)
  | [] => []
  | a :: rest =>
    match groupsOf same rest with
    | (b, n) :: groups => if same a b then (a, n + 1) :: groups else (a, 1) :: (b, n) :: groups
    | [] => [(a, 1)]

def uniqForms : OptionForms :=
  { plain := "cdui", valued := "fsw", long := [("count", 'c'), ("repeated", 'd'), ("unique", 'u')] }

def uniq : Routine := withOptions uniqForms 1 fun o p =>
  let (cs, p) := p.joined (o.operands.take 1)
  let number (letter : Char) := ((o.value? letter).bind (count? ·.toList)).getD 0
  let key (l : List Char) :=
    let l := ((sortFields none l).drop (number 'f')).flatten.drop (number 's')
    let l := if (o.value? 'w').isSome then l.take (number 'w') else l
    if o.has 'i' then l.map Char.toLower else l
  let groups := (groupsOf (fun a b => key a = key b) (bareLines cs)).filter fun g =>
    (!o.has 'd' || 1 < g.2) && (!o.has 'u' || g.2 = 1)
  let text := groups.flatMap fun g =>
    (if o.has 'c' then columnOf 7 g.2 ++ [' '] else []) ++ g.1 ++ ['\n']
  match o.operands with
  | [_, output] => teeFile p false text output
  | _ => if p.code = 0 then p.sayChars text else p

def range? (cs : List Char) : Option (Nat × Option Nat) :=
  let ds := cs.takeWhile Number.isDigit
  match cs.drop ds.length with
  | [] => if ds = [] then none else some (Number.ofDigits ds, some (Number.ofDigits ds))
  | '-' :: rest =>
    if !rest.all Number.isDigit || (ds = [] && rest = []) then none
    else some (if ds = [] then 1 else Number.ofDigits ds,
      if rest = [] then none else some (Number.ofDigits rest))
  | _ => none

def ranges? (s : String) : Option (List (Nat × Option Nat)) :=
  (Text.pieces ',' s.toList).mapM range?

def chosen (ranges : List (Nat × Option Nat)) (complement : Bool) (number : Nat) : Bool :=
  (ranges.any fun r => r.1 ≤ number && (r.2.all (number ≤ ·))) != complement

def pick {α : Type} (holds : Nat → Bool) (items : List α) : List α :=
  (items.zipIdx.filter fun i => holds (i.2 + 1)).map (·.1)

def cutForms : OptionForms :=
  { plain := "szn!", valued := "dfcb^"
    long := [("delimiter", 'd'), ("fields", 'f'), ("characters", 'c'), ("bytes", 'b'),
      ("complement", '!'), ("only-delimited", 's'), ("output-delimiter", '^')] }

def cutLine (o : Options) (byFields : Bool) (ranges : List (Nat × Option Nat)) (line : List Char) :
    List Char :=
  let holds := chosen ranges (o.has '!')
  if !byFields then pick holds line ++ ['\n']
  else
    let delimiter := ((o.value? 'd').bind (·.toList.head?)).getD '\t'
    if !line.contains delimiter then (if o.has 's' then [] else line ++ ['\n'])
    else
      let between := ((o.value? '^').map String.toList).getD [delimiter]
      Text.glue between (pick holds (Text.pieces delimiter line)) ++ ['\n']

def cut : Routine := withOptions cutForms 1 fun o p =>
  match o.lastOf? "fcb" with
  | none => (p.complain "you must specify a list of bytes, characters, or fields").hint 1
  | some letter =>
    match ranges? ((o.value? letter).getD "") with
    | none => (p.complain "invalid field value").hint 1
    | some ranges =>
      p.onEach o.operands fun p _ cs =>
        p.sayChars ((bareLines cs).flatMap (cutLine o (letter = 'f') ranges))

def glueInTurn (delimiters : List Char) : List Char → List (List Char) → List Char
  | _, [] => []
  | _, [t] => t
  | [], t :: ts =>
    match delimiters with
    | [] => t ++ glueInTurn delimiters [] ts
    | d :: ds => t ++ d :: glueInTurn delimiters ds ts
  | d :: ds, t :: ts => t ++ d :: glueInTurn delimiters ds ts

def rowsOf : Nat → List (List (List Char)) → List (List (List Char))
  | 0, _ => []
  | fuel + 1, files =>
    if files.all (·.isEmpty) then []
    else files.map (·.headD []) :: rowsOf fuel (files.map List.tail)

def paste : Routine := withOptions { plain := "s", valued := "d" } 1 fun o p =>
  let delimiters := ((o.value? 'd').getD "\t").toList
  let (files, p) := (if o.operands = [] then ["-"] else o.operands).foldl (fun (files, p) operand =>
    match p.content operand with
    | (.ok cs, p) => (files ++ [bareLines cs], p)
    | (.error cause, p) => (files, p.complainOf cause (shownName operand))) ([], p)
  let rows :=
    if o.has 's' then files
    else rowsOf ((files.map List.length).foldl max 0) files
  p.sayChars (unlines (rows.map (glueInTurn delimiters delimiters)))

def foldLine (width : Nat) : Nat → List Char → List Char
  | 0, cs => cs
  | fuel + 1, cs =>
    if cs.length ≤ width then cs else cs.take width ++ '\n' :: foldLine width fuel (cs.drop width)

def foldLines : Routine := withOptions { plain := "bs", valued := "w" } 1 fun o p =>
  let width := max 1 (((o.value? 'w').bind (count? ·.toList)).getD 80)
  p.onEach o.operands fun p _ cs =>
    p.sayChars ((linesOf cs).flatMap fun l =>
      foldLine width l.length (l.filter (· ≠ '\n')) ++ l.filter (· = '\n'))

end BuildPipeline.StockSystem.Program
