import BuildPipeline.StockSystem.ByteText
import BuildPipeline.StockSystem.Shell.Syntax

set_option autoImplicit false

namespace BuildPipeline.StockSystem.Shell

structure SyntaxFault where
  line : Nat
  message : String
  deriving DecidableEq, Repr

/-- The text that is left, and the number of its first line. Lines that were cut out behind the first
are `owed`. -/
structure Cursor where
  rest : List Char
  line : Nat := 1
  owed : Nat := 0
  deriving DecidableEq, Repr

abbrev Reader := StateT Cursor (Except SyntaxFault)

namespace Reader

def rest : Reader (List Char) := do
  return (← get).rest

def skip (count : Nat) : Reader Unit :=
  modify fun c =>
    let passed := (c.rest.take count).count '\n'
    let rest := c.rest.drop count
    if passed = 0 then { c with rest } else ⟨rest, c.line + passed + c.owed, 0⟩

def fail {α : Type} (message : String) : Reader α := do
  throw ⟨(← get).line, message⟩

end Reader

def isMeta (c : Char) : Bool :=
  " \t\n;&|<>()".toList.contains c

def operators : List String :=
  ["<<-", "&&", "||", ";;", "<<", "<&", "<>", ">>", ">&", ">|", "&", ";", "|", "<", ">", "(", ")"]

def reservedWords : List String :=
  ["!", "\x7b", "\x7d", "case", "do", "done", "elif", "else", "esac", "fi", "for", "if", "in", "then",
   "until", "while"]

def closingWords : List String :=
  ["\x7d", "do", "done", "elif", "else", "esac", "fi", "then"]

inductive Token where
  | endOfFile
  | newline
  | operator (text : String)
  | reserved (text : String)
  | redirection
  | word
  deriving DecidableEq, Repr

def Token.text : Token → String
  | .endOfFile => "end of file"
  | .newline => "newline"
  | .operator text => "\"" ++ text ++ "\""
  | .reserved text => "\"" ++ text ++ "\""
  | .redirection => "redirection"
  | .word => "word"

def operatorAt? (cs : List Char) : Option String :=
  operators.find? fun o => o.toList.isPrefixOf cs

def isRedirection (operator : String) : Bool :=
  operator.toList.any fun c => c = '<' || c = '>'

def redirectionAt? (cs : List Char) : Option (List Char × String) :=
  let ds := cs.takeWhile Char.isDigit
  match operatorAt? (cs.drop ds.length) with
  | some o => if isRedirection o then some (ds, o) else none
  | none => none

def tokenAt (cs : List Char) : Token :=
  match cs with
  | [] => .endOfFile
  | '\n' :: _ => .newline
  | cs =>
    if (redirectionAt? cs).isSome then .redirection
    else match operatorAt? cs with
      | some o => .operator o
      | none =>
        let text := String.ofList (cs.takeWhile (!isMeta ·))
        if reservedWords.contains text then .reserved text else .word

def afterBlanks : List Char → List Char
  | [] => []
  | '\\' :: '\n' :: cs => afterBlanks cs
  | c :: cs =>
    if c = ' ' || c = '\t' then afterBlanks cs
    else if c = '#' then (c :: cs).dropWhile (· ≠ '\n')
    else c :: cs

def skipBlanks : Reader Unit := do
  let cs ← Reader.rest
  Reader.skip (cs.length - (afterBlanks cs).length)

def peek : Reader Token := do
  skipBlanks
  return tokenAt (← Reader.rest)

def unexpected {α : Type} (expected : Option String) : Reader α := do
  let token ← peek
  Reader.fail ("Syntax error: " ++ token.text ++ " unexpected" ++ match expected with
    | some e => " (expecting \"" ++ e ++ "\")"
    | none => "")

def skipNewlines : Nat → Reader Unit
  | 0 => pure ()
  | fuel + 1 => do
    if (← peek) = .newline then
      Reader.skip 1
      skipNewlines fuel

def expectReserved (text : String) : Reader Unit := do
  if (← peek) = .reserved text then Reader.skip text.length else unexpected (some text)

def expectOperator (text : String) : Reader Unit := do
  if (← peek) = .operator text then Reader.skip text.length else unexpected (some text)

inductive Context where
  | bare
  | double
  | brace (quoted : Bool)
  | here
  | sum (depth : Nat)
  deriving DecidableEq, Repr

def Context.quotes : Context → Bool
  | .bare => false
  | .brace quoted => quoted
  | _ => true

def Context.escapes (ctx : Context) (c : Char) : Bool :=
  match ctx with
  | .bare => true
  | .brace false => true
  | .brace true => "$\x60\"\\\x7d".toList.contains c
  | .here => "$\x60\\".toList.contains c
  | _ => "$\x60\"\\".toList.contains c

def isSpecialParameter (c : Char) : Bool :=
  "@*#?-$!".toList.contains c

def parameterName (braced : Bool) (cs : List Char) : List Char :=
  match cs with
  | [] => []
  | c :: rest =>
    if isNameStart c then c :: rest.takeWhile isNameChar
    else if c.isDigit then (if braced then c :: rest.takeWhile Char.isDigit else [c])
    else if isSpecialParameter c then [c]
    else []

def useAt : List Char → Use × Nat
  | '\x7d' :: _ => (.value, 0)
  | ':' :: '-' :: _ => (.orElse true, 2)
  | ':' :: '=' :: _ => (.orAssign true, 2)
  | ':' :: '?' :: _ => (.orFail true, 2)
  | ':' :: '+' :: _ => (.onlyIf true, 2)
  | '-' :: _ => (.orElse false, 1)
  | '=' :: _ => (.orAssign false, 1)
  | '?' :: _ => (.orFail false, 1)
  | '+' :: _ => (.onlyIf false, 1)
  | '%' :: '%' :: _ => (.cutTail true, 2)
  | '%' :: _ => (.cutTail false, 1)
  | '#' :: '#' :: _ => (.cutHead true, 2)
  | '#' :: _ => (.cutHead false, 1)
  | _ => (.wrong, 0)

def Use.isCut : Use → Bool
  | .cutHead _ => true
  | .cutTail _ => true
  | _ => false

def backquoted? (quoted : Bool) : List Char → Option (List Char × Nat)
  | [] => none
  | '\x60' :: _ => some ([], 1)
  | '\\' :: c :: cs =>
    (backquoted? quoted cs).map fun (text, n) =>
      if "$\x60\\".toList.contains c || (quoted && c = '"') then (c :: text, n + 2)
      else ('\\' :: c :: text, n + 2)
  | c :: cs => (backquoted? quoted cs).map fun (text, n) => (c :: text, n + 1)

def assignment? (word : List Piece) : Option (String × List Piece) :=
  let rec go (name : List Char) : List Piece → Option (String × List Piece)
    | .char false '=' :: value =>
      if isName (String.ofList name.reverse) then some (String.ofList name.reverse, value) else none
    | .char false c :: rest => go (c :: name) rest
    | _ => none
  go [] word

def isQuotedPiece : Piece → Bool
  | .quotes => true
  | .char quoted _ => quoted
  | _ => false

def pieceChars (word : List Piece) : List Char :=
  word.filterMap fun piece => match piece with
    | .char _ c => some c
    | _ => none

def hereLines (ending : List Char) (untabbed : Bool) : List (List Char) → List Char × Nat
  | [] => ([], 0)
  | l :: ls =>
    let shown := if untabbed then l.dropWhile (· = '\t') else l
    if shown.filter (· ≠ '\n') = ending then ([], l.length)
    else
      let (text, n) := hereLines ending untabbed ls
      (shown ++ text, n + l.length)

def cutHere (ending : List Char) (untabbed : Bool) : Reader (List Char) := do
  let c ← get
  let lineRest := c.rest.takeWhile (· ≠ '\n')
  let after := c.rest.drop (lineRest.length + 1)
  let (text, n) := hereLines ending untabbed (linesOf after)
  set { c with
    rest := lineRest ++ '\n' :: after.drop n
    owed := c.owed + (after.take n).count '\n' }
  return text

def addPiece (piece : Piece) (more : Reader (List Piece)) : Reader (List Piece) := do
  return piece :: (← more)

mutual

def pieces : Nat → Context → Reader (List Piece)
  | 0, _ => Reader.fail "Syntax error: too deep"
  | fuel + 1, ctx => do
    match ← Reader.rest, ctx with
    | [], .bare => return []
    | [], .here => return []
    | [], .double => Reader.fail "Syntax error: Unterminated quoted string"
    | [], .brace _ => Reader.fail "Syntax error: Missing '\x7d'"
    | [], .sum _ => Reader.fail "Syntax error: Missing '))'"
    -- A line goes on behind a backslash at its end.
    | '\\' :: '\n' :: _, _ =>
      Reader.skip 2
      pieces fuel ctx
    | '\\' :: c :: _, ctx =>
      Reader.skip 2
      if ctx.escapes c then addPiece (.char true c) (pieces fuel ctx)
      else addPiece (.char true '\\') (addPiece (.char true c) (pieces fuel ctx))
    | '$' :: _, ctx =>
      Reader.skip 1
      let piece ← dollar fuel ctx.quotes
      addPiece piece (pieces fuel ctx)
    | '\x60' :: cs, ctx =>
      match backquoted? (ctx == .double) cs with
      | none => Reader.fail "Syntax error: EOF in backquote substitution"
      | some (text, n) =>
        -- The text between backquotes has lost its escapes, so that it is read on its own.
        let inner ← get
        let (script, _) ← match (nodes fuel false).run { inner with rest := text } with
          | .ok r => pure r
          | .error fault => throw fault
        Reader.skip (n + 1)
        addPiece (.output ctx.quotes script) (pieces fuel ctx)
    | '"' :: _, .double =>
      Reader.skip 1
      return []
    | '"' :: _, ctx =>
      if ctx = .here then
        Reader.skip 1
        addPiece (.char true '"') (pieces fuel ctx)
      else
        Reader.skip 1
        let inner ← pieces fuel .double
        let rest ← pieces fuel ctx
        return .quotes :: inner ++ rest
    | '\'' :: cs, ctx =>
      if ctx.quotes then
        Reader.skip 1
        addPiece (.char true '\'') (pieces fuel ctx)
      else
        let text := cs.takeWhile (· ≠ '\'')
        if text.length = cs.length then Reader.fail "Syntax error: Unterminated quoted string"
        else
          Reader.skip (text.length + 2)
          let rest ← pieces fuel ctx
          return .quotes :: quotedText text ++ rest
    | '\x7d' :: _, .brace _ =>
      Reader.skip 1
      return []
    | '(' :: _, .sum depth =>
      Reader.skip 1
      addPiece (.char true '(') (pieces fuel (.sum (depth + 1)))
    | ')' :: ')' :: _, .sum 0 =>
      Reader.skip 2
      return []
    | ')' :: _, .sum (depth + 1) =>
      Reader.skip 1
      addPiece (.char true ')') (pieces fuel (.sum depth))
    | c :: _, ctx =>
      if ctx = .bare && isMeta c then return []
      else
        Reader.skip 1
        addPiece (.char ctx.quotes c) (pieces fuel ctx)

def dollar : Nat → Bool → Reader Piece
  | 0, _ => Reader.fail "Syntax error: too deep"
  | fuel + 1, quoted => do
    match ← Reader.rest with
    | '(' :: '(' :: _ =>
      Reader.skip 2
      return .sum quoted (← pieces fuel (.sum 0))
    | '(' :: _ =>
      Reader.skip 1
      let script ← nodes fuel false
      expectOperator ")"
      return .output quoted script
    | '\x7b' :: cs =>
      Reader.skip 1
      match cs with
      | '#' :: '\x7d' :: _ =>
        Reader.skip 2
        return .parameter quoted "#" .value []
      | '#' :: cs =>
        let name := parameterName true cs
        if name ≠ [] && (cs.drop name.length).head? = some '\x7d' then
          Reader.skip (name.length + 2)
          return .parameter quoted (String.ofList name) .length []
        else braced fuel quoted
      | _ => braced fuel quoted
    | cs =>
      let name := parameterName false cs
      Reader.skip name.length
      if name = [] then return .char quoted '$'
      else return .parameter quoted (String.ofList name) .value []

def braced : Nat → Bool → Reader Piece
  | 0, _ => Reader.fail "Syntax error: too deep"
  | fuel + 1, quoted => do
    let cs ← Reader.rest
    let name := parameterName true cs
    let (use, width) := useAt (cs.drop name.length)
    let use := if name = [] then .wrong else use
    Reader.skip (name.length + width)
    let other ← pieces fuel (.brace (quoted && !use.isCut))
    return .parameter quoted (String.ofList name) use other

def nodes : Nat → Bool → Reader Node
  | 0, _ => Reader.fail "Syntax error: too deep"
  | fuel + 1, needed => do
    skipNewlines fuel
    match ← peek with
    | .endOfFile => if needed then unexpected none else return .nothing
    | .operator ")" => if needed then unexpected none else return .nothing
    | .operator ";;" => if needed then unexpected none else return .nothing
    | .reserved w =>
      if closingWords.contains w then
        if needed then unexpected none else return .nothing
      else listed fuel
    | _ => listed fuel

def listed : Nat → Reader Node
  | 0 => Reader.fail "Syntax error: too deep"
  | fuel + 1 => do
    let first ← junction fuel
    match ← peek with
    | .operator ";" =>
      Reader.skip 1
      return .sequence first (← nodes fuel false)
    | .operator "&" =>
      Reader.skip 1
      return .sequence (.background first) (← nodes fuel false)
    | .newline =>
      Reader.skip 1
      return .sequence first (← nodes fuel false)
    | _ => return first

def junction : Nat → Reader Node
  | 0 => Reader.fail "Syntax error: too deep"
  | fuel + 1 => do junctionAfter fuel (← pipeline fuel)

def junctionAfter : Nat → Node → Reader Node
  | 0, _ => Reader.fail "Syntax error: too deep"
  | fuel + 1, first => do
    match ← peek with
    | .operator "&&" =>
      Reader.skip 2
      skipNewlines fuel
      junctionAfter fuel (.both first (← pipeline fuel))
    | .operator "||" =>
      Reader.skip 2
      skipNewlines fuel
      junctionAfter fuel (.either first (← pipeline fuel))
    | _ => return first

def pipeline : Nat → Reader Node
  | 0 => Reader.fail "Syntax error: too deep"
  | fuel + 1 => do
    if (← peek) = .reserved "!" then
      Reader.skip 1
      return .negated (← pipeline fuel)
    else
      let first ← command fuel
      let more ← piped fuel
      return if more.isEmpty then first else .pipeline (first :: more)

def piped : Nat → Reader (List Node)
  | 0 => Reader.fail "Syntax error: too deep"
  | fuel + 1 => do
    if (← peek) = .operator "|" then
      Reader.skip 1
      skipNewlines fuel
      let stage ← command fuel
      return stage :: (← piped fuel)
    else return []

def command : Nat → Reader Node
  | 0 => Reader.fail "Syntax error: too deep"
  | fuel + 1 => do
    let line := (← get).line
    match ← peek with
    | .operator "(" =>
      Reader.skip 1
      let body ← nodes fuel true
      expectOperator ")"
      redirected fuel line (.subshell body)
    | .reserved "\x7b" =>
      Reader.skip 1
      let body ← nodes fuel true
      expectReserved "\x7d"
      redirected fuel line body
    | .reserved "if" =>
      Reader.skip 2
      redirected fuel line (← branch fuel)
    | .reserved "while" =>
      Reader.skip 5
      redirected fuel line (← loop fuel true)
    | .reserved "until" =>
      Reader.skip 5
      redirected fuel line (← loop fuel false)
    | .reserved "for" =>
      Reader.skip 3
      redirected fuel line (← each fuel line)
    | .reserved "case" =>
      Reader.skip 4
      redirected fuel line (← choose fuel line)
    | .word => simple fuel line [] [] []
    | .reserved "in" => simple fuel line [] [] []
    | .redirection => simple fuel line [] [] []
    | _ => unexpected none

def redirected : Nat → Nat → Node → Reader Node
  | 0, _, _ => Reader.fail "Syntax error: too deep"
  | fuel + 1, line, body => do
    let rs ← redirects fuel
    return if rs.isEmpty then body else .redirected line body rs

def redirects : Nat → Reader (List Redirect)
  | 0 => Reader.fail "Syntax error: too deep"
  | fuel + 1 => do
    if (← peek) = .redirection then
      let r ← redirect fuel
      return r :: (← redirects fuel)
    else return []

def redirect : Nat → Reader Redirect
  | 0 => Reader.fail "Syntax error: too deep"
  | fuel + 1 => do
    match redirectionAt? (← Reader.rest) with
    | none => unexpected none
    | some (ds, operator) =>
      Reader.skip (ds.length + operator.length)
      let usual := if operator.toList.head? = some '<' then 0 else 1
      let stream := if ds = [] then usual else ((String.ofList ds).toNat?).getD usual
      match ← peek with
      | .endOfFile => unexpected none
      | .newline => unexpected none
      | .operator _ => unexpected none
      | .redirection => unexpected none
      | _ =>
        let target ← pieces fuel .bare
        if operator = "<<" || operator = "<<-" then
          let text ← cutHere (pieceChars target) (operator = "<<-")
          -- A mark with quotes keeps the text below from being expanded.
          if target.any isQuotedPiece then return .mk stream .text (quotedText text)
          else
            let c ← get
            match (pieces fuel .here).run { c with rest := text } with
            | .ok (body, _) => return .mk stream .text body
            | .error fault => throw fault
        else
          let kind : RedirectKind := match operator with
            | "<" => .read
            | "<>" => .read
            | ">>" => .append
            | "<&" => .copy
            | ">&" => .copy
            | _ => .write
          return .mk stream kind target

def simple : Nat → Nat → List (String × List Piece) → List (List Piece) → List Redirect →
    Reader Node
  | 0, _, _, _, _ => Reader.fail "Syntax error: too deep"
  | fuel + 1, line, assigned, words, rs => do
    match ← peek with
    | .redirection =>
      let r ← redirect fuel
      simple fuel line assigned words (rs ++ [r])
    | .operator "(" =>
      match words, assigned with
      | [name], [] =>
        match (bareText? name).filter isName with
        | some name =>
          Reader.skip 1
          expectOperator ")"
          skipNewlines fuel
          return .define name (← command fuel)
        | none => unexpected none
      | _, _ => unexpected none
    | .endOfFile => return .simple line assigned words rs
    | .newline => return .simple line assigned words rs
    | .operator _ => return .simple line assigned words rs
    | _ =>
      let word ← pieces fuel .bare
      -- Assignments stand before the first word.
      match if words.isEmpty then assignment? word else none with
      | some a => simple fuel line (assigned ++ [a]) words rs
      | none => simple fuel line assigned (words ++ [word]) rs

def branch : Nat → Reader Node
  | 0 => Reader.fail "Syntax error: too deep"
  | fuel + 1 => do
    let condition ← nodes fuel true
    expectReserved "then"
    let yes ← nodes fuel true
    match ← peek with
    | .reserved "elif" =>
      Reader.skip 4
      return .branch condition yes (← branch fuel)
    | .reserved "else" =>
      Reader.skip 4
      let no ← nodes fuel true
      expectReserved "fi"
      return .branch condition yes no
    | _ =>
      expectReserved "fi"
      return .branch condition yes .nothing

def loopBody : Nat → Reader Node
  | 0 => Reader.fail "Syntax error: too deep"
  | fuel + 1 => do
    expectReserved "do"
    let body ← nodes fuel true
    expectReserved "done"
    return body

def loop : Nat → Bool → Reader Node
  | 0, _ => Reader.fail "Syntax error: too deep"
  | fuel + 1, wanted => do
    let condition ← nodes fuel true
    return .loop wanted condition (← loopBody fuel)

def items : Nat → Reader (List (List Piece))
  | 0 => Reader.fail "Syntax error: too deep"
  | fuel + 1 => do
    match ← peek with
    | .word =>
      let word ← pieces fuel .bare
      return word :: (← items fuel)
    | .reserved _ =>
      let word ← pieces fuel .bare
      return word :: (← items fuel)
    | _ => return []

def each : Nat → Nat → Reader Node
  | 0, _ => Reader.fail "Syntax error: too deep"
  | fuel + 1, line => do
    skipBlanks
    let name := (bareText? (← pieces fuel .bare)).getD ""
    if !isName name then Reader.fail "Syntax error: Bad for loop variable"
    else
      skipNewlines fuel
      let words ← if (← peek) = .reserved "in" then do
          Reader.skip 2
          let words ← items fuel
          match ← peek with
          | .operator ";" => Reader.skip 1
          | .newline => Reader.skip 1
          | _ => unexpected none
          pure words
        else do
          if (← peek) = .operator ";" then Reader.skip 1
          pure [[Piece.parameter true "@" .value []]]
      skipNewlines fuel
      return .each line name words (← loopBody fuel)

def choose : Nat → Nat → Reader Node
  | 0, _ => Reader.fail "Syntax error: too deep"
  | fuel + 1, line => do
    match ← peek with
    | .word => pure ()
    | .reserved _ => pure ()
    | _ => unexpected none
    let subject ← pieces fuel .bare
    skipNewlines fuel
    expectReserved "in"
    return .choose line subject (← cases fuel)

def cases : Nat → Reader (List Case)
  | 0 => Reader.fail "Syntax error: too deep"
  | fuel + 1 => do
    skipNewlines fuel
    match ← peek with
    | .reserved "esac" =>
      Reader.skip 4
      return []
    | token =>
      if token = .operator "(" then Reader.skip 1
      let patterns ← patterns fuel
      let body ← nodes fuel false
      match ← peek with
      | .operator ";;" =>
        Reader.skip 2
        return .mk patterns body :: (← cases fuel)
      | _ =>
        expectReserved "esac"
        return [.mk patterns body]

def patterns : Nat → Reader (List (List Piece))
  | 0 => Reader.fail "Syntax error: too deep"
  | fuel + 1 => do
    match ← peek with
    | .word => pure ()
    | .reserved _ => pure ()
    | _ => unexpected none
    let pattern ← pieces fuel .bare
    match ← peek with
    | .operator "|" =>
      Reader.skip 1
      return pattern :: (← patterns fuel)
    | _ =>
      expectOperator ")"
      return [pattern]

def lineNodes : Nat → Reader Node
  | 0 => Reader.fail "Syntax error: too deep"
  | fuel + 1 => do
    let first ← junction fuel
    match ← peek with
    | .operator ";" =>
      Reader.skip 1
      return .sequence first (← lineRest fuel)
    | .operator "&" =>
      Reader.skip 1
      return .sequence (.background first) (← lineRest fuel)
    | .newline =>
      Reader.skip 1
      return first
    | .endOfFile => return first
    | _ => unexpected none

def lineRest : Nat → Reader Node
  | 0 => Reader.fail "Syntax error: too deep"
  | fuel + 1 => do
    match ← peek with
    | .newline =>
      Reader.skip 1
      return .nothing
    | .endOfFile => return .nothing
    | _ => lineNodes fuel

end

/-- Enough for a text: every step takes a character or opens one of a few nested readings. -/
def Cursor.fuel (c : Cursor) : Nat :=
  20 * c.rest.length + 100

def nextLine : Reader (Option Node) := do
  let fuel := (← get).fuel
  skipNewlines fuel
  if (← peek) = .endOfFile then return none
  else return some (← lineNodes fuel)

end BuildPipeline.StockSystem.Shell
