import BuildPipeline.StockSystem.Shell.Pattern
import BuildPipeline.StockSystem.Shell.State
import BuildPipeline.StockSystem.Shell.Sum

set_option autoImplicit false

namespace BuildPipeline.StockSystem.Shell

inductive Mark where
  | literal
  | quoted
  | result
  deriving DecidableEq, Repr

inductive Item where
  | char (mark : Mark) (c : Char)
  | quotes
  | between
  | absent
  deriving DecidableEq, Repr

def markFor (quoted : Bool) : Mark :=
  if quoted then .quoted else .result

def itemsOf (mark : Mark) (text : List Char) : List Item :=
  text.map (Item.char mark)

def plainChars (items : List Item) : List Char :=
  items.filterMap fun item => match item with
    | .char _ c => some c
    | .between => some ' '
    | _ => none

def markedChars (items : List Item) : List Marked :=
  items.filterMap fun item => match item with
    | .char mark c => some (c, mark = .quoted)
    | .between => some (' ', true)
    | _ => none

def Item.asResult : Item → Item
  | .char .literal c => .char .result c
  | item => item

def argumentItems (s : State) (name : String) (quoted : Bool) : List Item :=
  if quoted && name = "@" then
    if s.args = [] then [.absent]
    else
      ((s.args.map fun a => Item.quotes :: itemsOf .quoted a.toList).intersperse [.between]).flatten
  else if quoted then
    itemsOf .quoted (Text.glue (s.separators.take 1) (s.args.map String.toList))
  else
    ((s.args.map fun a => itemsOf .result a.toList).intersperse [.between]).flatten

def dropNewlines (cs : List Char) : List Char :=
  (cs.reverse.dropWhile (· = '\n')).reverse

abbrev Capture := State → Node → State × List Char

def parameterItems (s : State) (quoted : Bool) (name : String) : List Item :=
  if name = "@" || name = "*" then argumentItems s name quoted
  else itemsOf (markFor quoted) (s.valueOf name).toList

def isSet (s : State) (name : String) (orEmpty : Bool) : Bool :=
  if name = "@" || name = "*" then
    s.args ≠ [] && !(orEmpty && s.args.all (· = ""))
  else match s.value? name with
    | some value => !(orEmpty && value = "")
    | none => false

def demandMessage (orEmpty : Bool) (text : String) : String :=
  if text ≠ "" then text
  else if orEmpty then "parameter not set or null" else "parameter not set"

def assignAll (s : State) (values : List (String × Int)) : State :=
  values.foldl (fun s v => if s.isOnward then s.assign v.1 (Number.intText v.2) else s) s

def expandPieces (capture : Capture) : Nat → State → List Piece → State × List Item
  | 0, s, _ => (s, [])
  | fuel + 1, s, word =>
    word.foldl (fun (s, items) piece =>
      if !s.isOnward then (s, items)
      else
        let (s, more) := expandPiece fuel s piece
        (s, items ++ more)) (s, [])
where
  expandPiece (fuel : Nat) (s : State) : Piece → State × List Item
    | .char quoted c => (s, [.char (if quoted then .quoted else .literal) c])
    | .quotes => (s, [.quotes])
    | .output quoted script =>
      let (s, text) := capture s script
      (s, itemsOf (markFor quoted) (dropNewlines (text.filter (· ≠ '\x00'))))
    | .sum quoted expression =>
      let (s, items) := expandPieces capture fuel s expression
      let text := String.ofList (plainChars items)
      if !s.isOnward then (s, [])
      else match Sum.evaluate s.valueOf text with
        | .ok (n, values) => (assignAll s values, itemsOf (markFor quoted) (Number.intChars n))
        | .error fault => (s.abort (fault.message text), [])
    | .parameter quoted name use other =>
      let value := parameterItems s quoted name
      match use with
      | .wrong => (s.abort "Bad substitution", [])
      | .value =>
        if s.has 'u' && !isSet s name false && name ≠ "@" && name ≠ "*" then
          (s.abort (name ++ ": parameter not set"), [])
        else (s, value)
      | .length =>
        let count := if name = "@" || name = "*" then s.args.length else (s.valueOf name).length
        if s.has 'u' && !isSet s name false then (s.abort (name ++ ": parameter not set"), [])
        else (s, itemsOf (markFor quoted) (Number.digits count))
      | .orElse orEmpty =>
        if isSet s name orEmpty then (s, value)
        else
          let (s, items) := expandPieces capture fuel s other
          (s, if quoted then items else items.map Item.asResult)
      | .onlyIf orEmpty =>
        if !isSet s name orEmpty then (s, [])
        else
          let (s, items) := expandPieces capture fuel s other
          (s, if quoted then items else items.map Item.asResult)
      | .orAssign orEmpty =>
        if isSet s name orEmpty then (s, value)
        else
          let (s, items) := expandPieces capture fuel s other
          let text := plainChars items
          if !isName name then (s.abort (name ++ ": bad variable name"), [])
          else (s.assign name (String.ofList text), itemsOf (markFor quoted) text)
      | .orFail orEmpty =>
        if isSet s name orEmpty then (s, value)
        else
          let (s, items) := expandPieces capture fuel s other
          (s.abort (name ++ ": " ++ demandMessage orEmpty (String.ofList (plainChars items))), [])
      | .cutHead longest =>
        let (s, items) := expandPieces capture fuel s other
        (s, itemsOf (markFor quoted) (Shell.cutHead longest (markedChars items)
          (plainChars value)))
      | .cutTail longest =>
        let (s, items) := expandPieces capture fuel s other
        (s, itemsOf (markFor quoted) (Shell.cutTail longest (markedChars items)
          (plainChars value)))

def maxNesting : Nat :=
  200

def tildePieces (s : State) (word : List Piece) : List Piece :=
  let home := (s.value? "HOME").map fun h => quotedText h.toList
  match word with
  | [.char false '~'] => home.getD word
  | .char false '~' :: .char false '/' :: rest =>
    (home.map fun h => h ++ .char false '/' :: rest).getD word
  | word => word

def expandWord (capture : Capture) (s : State) (word : List Piece) : State × List Item :=
  expandPieces capture maxNesting s (tildePieces s word)

def textOf (capture : Capture) (s : State) (word : List Piece) : State × String :=
  let (s, items) := expandWord capture s word
  (s, String.ofList (plainChars items))

def patternOf (capture : Capture) (s : State) (word : List Piece) : State × List Marked :=
  let (s, items) := expandWord capture s word
  (s, markedChars items)

/-- The field begun while a word is split. `kept` tells that it stays even if it is empty, and
`closed` that the blanks behind a field have just been passed. -/
structure Splitting where
  fields : List (List Marked) := []
  field : List Marked := []
  kept : Bool := false
  absent : Bool := false
  closed : Bool := false

namespace Splitting

def finish (p : Splitting) : Splitting :=
  { p with fields := p.fields ++ [p.field], field := [], kept := false, absent := false }

def finishKept (p : Splitting) : Splitting :=
  if p.field ≠ [] || (p.kept && !p.absent) then p.finish
  else { p with field := [], kept := false, absent := false }

def isBlankSeparator (c : Char) : Bool :=
  c == ' ' || c == '\t' || c == '\n'

def next (separators : List Char) (p : Splitting) : Item → Splitting
  | .quotes => { p with kept := true, closed := false }
  | .absent => { p with absent := true }
  | .between => { p.finishKept with closed := false }
  | .char mark c =>
    if mark ≠ .result || !separators.contains c then
      { p with field := p.field ++ [(c, decide (mark = .quoted))], closed := false }
    else if isBlankSeparator c then
      if p.field ≠ [] || p.kept then { p.finishKept with closed := true } else p
    else if p.closed then { p with closed := false }
    else p.finish

end Splitting

def splitFields (separators : List Char) (items : List Item) : List (List Marked) :=
  (items.foldl (Splitting.next separators) {}).finishKept.fields

def patternParts : List Marked → List (List Marked)
  | [] => [[]]
  | m :: ms =>
    if m.1 = '/' then [] :: patternParts ms
    else match patternParts ms with
      | [] => [[m]]
      | p :: ps => (m :: p) :: ps

def matchingNames (s : State) (dir : String) (pattern : List Marked) : List String :=
  match s.files.locate true (Program.pathOf (if dir = "" then "." else dir)) with
  | .ok (.taken place .directory) =>
    let names := ((s.files.names place).map narrow).mergeSort fun a b => a ≤ b
    let dotted := (pattern.head?.map (·.1)) = some '.'
    (names.filter fun n => (dotted || n.toList.head? ≠ some '.')
      && patternMatches pattern n.toList)
  | _ => []

def isThere (s : State) (name : String) : Bool :=
  match s.files.locate false (Program.pathOf name) with
  | .ok (.taken ..) => true
  | _ => false

def matchingPaths (s : State) : String → List (List Marked) → List String
  | dir, [] => [dir]
  | dir, [part] =>
    if part.any isPatternChar then (matchingNames s dir part).map (dir ++ ·)
    else
      let name := dir ++ String.ofList (part.map (·.1))
      if part = [] || isThere s name then [name] else []
  | dir, part :: rest =>
    if part.any isPatternChar then
      (matchingNames s dir part).flatMap fun n => matchingPaths s (dir ++ n ++ "/") rest
    else matchingPaths s (dir ++ String.ofList (part.map (·.1)) ++ "/") rest

def namesFor (s : State) (field : List Marked) : List String :=
  let plain := String.ofList (field.map (·.1))
  if s.has 'f' || !field.any isPatternChar then [plain]
  else match matchingPaths s "" (patternParts field) with
    | [] => [plain]
    | names => names

def expandWords (capture : Capture) (s : State) (words : List (List Piece)) : State × List String :=
  words.foldl (fun (s, texts) word =>
    if !s.isOnward then (s, texts)
    else
      let (s, items) := expandWord capture s word
      (s, texts ++ (splitFields s.separators items).flatMap (namesFor s))) (s, [])

end BuildPipeline.StockSystem.Shell
