import BuildPipeline.StockSystem.Shell.Reader
import BuildPipeline.StockSystem.Shell.Redirection
import BuildPipeline.StockSystem.Program.Programs
import BuildPipeline.FileSystem.Move

set_option autoImplicit false

namespace BuildPipeline.StockSystem.Shell

/-- Faults in these, and in their redirections, end the shell. -/
def specialBuiltins : List String :=
  [":", ".", "break", "continue", "eval", "exec", "exit", "export", "readonly", "return", "set",
   "shift", "times", "trap", "unset"]

def plainBuiltins : List String :=
  ["[", "alias", "bg", "cd", "chdir", "command", "echo", "false", "fg", "getopts", "hash", "jobs",
   "kill", "local", "printf", "pwd", "read", "test", "true", "type", "ulimit", "umask", "unalias",
   "wait"]

def isBuiltin (name : String) : Bool :=
  specialBuiltins.contains name || plainBuiltins.contains name

def number? (s : String) : Option Nat :=
  if s ≠ "" && s.toList.all Number.isDigit then s.toNat? else none

def illegalNumber (word : String) : String :=
  "Illegal number: " ++ word

namespace State

def hear (s : State) (said : List (Nat × List Char)) : State :=
  said.foldl (fun s piece => s.write piece.1 piece.2) s

def within (s : State) (program : Program.Routine) (args : List String) : State :=
  let p := program args { name := s.origin, files := s.files, env := s.environment }
  (s.hear p.said).withCode p.code

def echo (s : State) (args : List String) : State :=
  let (newline, args) := if args.head? = some "-n" then (false, args.tail) else (true, args)
  let text := " ".intercalate args
  let (cs, ended) := Program.Dialect.unescape ⟨true⟩ (text.length + 1) text.toList
  (s.write 1 (if ended || !newline then cs else cs ++ ['\n'])).withCode 0

def printf (s : State) (args : List String) : State :=
  match (if args.head? = some "--" then args.tail else args) with
  | [] => (s.complain "usage: printf format [arg ...]").withCode 2
  | format :: args =>
    s.within (fun _ p => p.printed (Program.Printing.start ⟨true⟩ format args)) []

def exit (s : State) (args : List String) : State :=
  match args with
  | [] => { s with flow := .ended }
  | word :: _ =>
    match number? word with
    | some n => { s with code := (n % 256 : Nat), flow := .ended }
    | none => s.abort (illegalNumber word)

def returnWith (s : State) (args : List String) : State :=
  match args with
  | [] => { s with flow := .returned }
  | word :: _ =>
    match number? word with
    | some n => { s with code := (n : Nat), flow := .returned }
    | none => s.abort (illegalNumber word)

def leave (s : State) (name : String) (args : List String) : State :=
  let go (n : Nat) : State :=
    if s.loops = 0 then s.withCode 0
    else { s with code := 0, flow := .leave (min n s.loops) (name = "continue") }
  match args with
  | [] => go 1
  | word :: _ =>
    match (number? word).filter (0 < ·) with
    | some n => go n
    | none => s.abort (illegalNumber word)

def declaration (word : String) : String × Option String :=
  let name := word.toList.takeWhile (· ≠ '=')
  match word.toList.drop name.length with
  | _ :: value => (String.ofList name, some (String.ofList value))
  | [] => (String.ofList name, none)

def declare (s : State) (mark : Variable → Variable) (args : List String) :
    State :=
  (args.filter fun word => word ≠ "-p" && word ≠ "--").foldl (fun s word =>
    let (name, value) := declaration word
    if !s.isOnward then s
    else if !isName name then s.abort (name ++ ": bad variable name")
    else
      let s := match value with
        | some value => s.assign name value
        | none => s
      if !s.isOnward then s
      else s.setVariable name (mark ((s.entry? name).getD { value := none }))) (s.withCode 0)

def quotedValue (value : String) : String :=
  "'" ++ "'\"'\"'".intercalate (value.splitOn "'") ++ "'"

def shownDeclarations (s : State) (lead : String) (chosen : Variable → Bool) : State :=
  let shown := s.bindings.filter fun v => chosen v.2
  (shown.mergeSort fun a b => a.1 ≤ b.1).foldl (fun s v =>
    s.say (lead ++ v.1 ++ (v.2.value.map fun value => "=" ++ quotedValue value).getD "" ++ "\n"))
    (s.withCode 0)

def exportNames (s : State) (args : List String) : State :=
  if args = [] || args = ["-p"] then s.shownDeclarations "export " (·.exported)
  else s.declare (fun v => { v with exported := true }) args

def readonly (s : State) (args : List String) : State :=
  if args = [] || args = ["-p"] then s.shownDeclarations "readonly " (·.readOnly)
  else s.declare (fun v => { v with readOnly := true }) args

def unset (s : State) (args : List String) : State :=
  let functions := args.head? = some "-f"
  (args.filter fun word => word ≠ "-f" && word ≠ "-v").foldl (fun s name =>
    if !s.isOnward then s
    else if functions then { s with functions := s.functions.filter fun f => f.1 ≠ name }
    else if !isName name then s.abort (name ++ ": bad variable name")
    else if (s.entry? name).any (·.readOnly) then s.abort (name ++ ": is read only")
    else s.removeVariable name) (s.withCode 0)

def makeLocal (s : State) (args : List String) : State :=
  if s.calls = 0 then s.abort "not in a function"
  else args.foldl (fun s word =>
    let (name, value) := declaration word
    if !s.isOnward then s
    else if !isName name then s.abort (name ++ ": bad variable name")
    else
      let s := { s with locals := (name, s.entry? name) :: s.locals }
      match value with
      | some value => s.assign name value
      | none => s) (s.withCode 0)

def shift (s : State) (args : List String) : State :=
  match args with
  | [] => go 1
  | word :: _ =>
    match number? word with
    | some n => go n
    | none => s.abort (illegalNumber word)
where
  go (n : Nat) : State :=
    if s.args.length < n then s.abort "can't shift that many"
    else { s with args := s.args.drop n, code := 0 }

def flagNames : List (String × Char) :=
  [("errexit", 'e'), ("noglob", 'f'), ("nounset", 'u'), ("xtrace", 'x'), ("verbose", 'v'),
   ("noclobber", 'C'), ("allexport", 'a'), ("noexec", 'n'), ("monitor", 'm'), ("ignoreeof", 'I'),
   ("notify", 'b')]

def flagOrder : List Char :=
  "efIimnsxvVECabu".toList

def withFlag (s : State) (on : Bool) (flag : Char) : State :=
  let others := s.flags.filter (· ≠ flag)
  { s with flags :=
      if on then flagOrder.filter fun c => (flag :: others).contains c else others }

def withFlags (s : State) (on : Bool) (letters : List Char) : State × Option Char :=
  letters.foldl (fun (s, bad) c =>
    if flagOrder.contains c then (s.withFlag on c, bad) else (s, bad.or (some c))) (s, none)

def setFrom : Nat → State → List String → State
  | 0, s, _ => s
  | _ + 1, s, [] => s
  | fuel + 1, s, word :: words =>
    match word.toList with
    | ['-', '-'] => { s with args := words }
    | ['-'] => if words = [] then s else { s with args := words }
    | sign :: letters =>
      if sign ≠ '-' && sign ≠ '+' then { s with args := word :: words }
      else if letters = ['o'] then
        match words with
        | [] => s
        | name :: words =>
          match flagNames.lookup name with
          | some flag => setFrom fuel (s.withFlag (sign = '-') flag) words
          | none => s.abort ("Illegal option " ++ sign.toString ++ "o " ++ name)
      else
        let (s, bad) := s.withFlags (sign = '-') letters
        match bad with
        | some c => s.abort ("Illegal option " ++ sign.toString ++ c.toString)
        | none => setFrom fuel s words
    | [] => { s with args := word :: words }

def set (s : State) (args : List String) : State :=
  if args = [] then s.shownDeclarations "" (·.value.isSome)
  else setFrom (args.length + 1) (s.withCode 0) args

def lexicalPath (s : State) (target : String) : Path :=
  let p := Path.ofText (widen target)
  ⟨.root, Path.collapse (if p.isAbsolute then p.parts else (Path.ofText (widen s.dir)).parts ++ p.parts)⟩

def cdTo (s : State) (target : String) (told : Bool) : State :=
  let path := s.lexicalPath target
  match s.files.locate true path with
  | .ok (.taken place .directory) =>
    let dir := narrow path.text
    let old := s.dir
    let s := { s with files := { s.files with cwd := place }, dir, code := 0 }
    let s := (s.assign "OLDPWD" old).assign "PWD" dir
    if told then s.say (dir ++ "\n") else s
  | _ => (s.complain ("can't cd to " ++ target)).withCode 2

def cd (s : State) (args : List String) : State :=
  match args.filter fun word => word ≠ "-L" && word ≠ "-P" && word ≠ "--" with
  | [] =>
    match s.value? "HOME" with
    | some home => s.cdTo home false
    | none => s.withCode 0
  | "-" :: _ => s.cdTo ((s.value? "OLDPWD").getD s.dir) true
  | target :: _ => s.cdTo target false

def pwd (s : State) (args : List String) : State :=
  let dir := if args.head? = some "-P" then Program.placeText s.files.cwd else s.dir
  (s.say (dir ++ "\n")).withCode 0

def takeLine (raw : Bool) : List Char → List Marked × Nat × Bool
  | [] => ([], 0, false)
  | '\n' :: _ => ([], 1, true)
  | '\\' :: c :: cs =>
    let (line, n, whole) := takeLine raw cs
    if raw then
      if c = '\n' then ([('\\', false)], 2, true)
      else (('\\', false) :: (c, false) :: line, n + 2, whole)
    else if c = '\n' then (line, n + 2, whole)
    else ((c, true) :: line, n + 2, whole)
  | c :: cs =>
    let (line, n, whole) := takeLine raw cs
    ((c, false) :: line, n + 1, whole)

def isSeparator (separators : List Char) (m : Marked) : Bool :=
  !m.2 && separators.contains m.1

def isBlankSeparator (separators : List Char) (m : Marked) : Bool :=
  isSeparator separators m && Splitting.isBlankSeparator m.1

/-- Passes over the separator behind a field: blanks, and one that is no blank among them. -/
def afterSeparator (separators : List Char) (line : List Marked) : List Marked :=
  let rest := line.dropWhile (isBlankSeparator separators)
  match rest with
  | m :: more =>
    if isSeparator separators m then more.dropWhile (isBlankSeparator separators) else rest
  | [] => []

def lastField (separators : List Char) (line : List Marked) : List Marked :=
  let first := line.takeWhile (!isSeparator separators ·)
  if afterSeparator separators (line.drop first.length) = [] then first
  else (line.reverse.dropWhile (isBlankSeparator separators)).reverse

def assignFields (separators : List Char) : State → List String → List Marked → State
  | s, [], _ => s
  | s, [name], line => s.assign name (String.ofList ((lastField separators line).map (·.1)))
  | s, name :: names, line =>
    let field := line.takeWhile (!isSeparator separators ·)
    let s := s.assign name (String.ofList (field.map (·.1)))
    assignFields separators s names (afterSeparator separators (line.drop field.length))

def read (s : State) (args : List String) : State :=
  let flags := args.takeWhile fun w => w.toList.head? = some '-'
  let names := args.drop flags.length
  if names = [] then (s.complain "arg count").withCode 2
  else
    let (line, count, whole) := takeLine (flags.any (·.toList.contains 'r')) (s.pending 0)
    let separators := s.separators
    let s := s.consume 0 count
    let line := line.dropWhile (isBlankSeparator separators)
    (assignFields separators s names line).withCode (if whole then 0 else 1)

def optionKind (wanted : List Char) (c : Char) : Option Bool :=
  match wanted.dropWhile (· ≠ c) with
  | [] => none
  | _ :: ':' :: _ => if c = ':' then none else some true
  | _ => if c = ':' then none else some false

def getoptsEnd (s : State) (name : String) (index : Nat) : State :=
  ({ s with optionPlace := 0 }.assign "OPTIND" (Number.natText index)).assign name "?" |>.withCode 1

def getoptsFrom (s : State) (wanted : List Char) (name : String) (words : List String) : State :=
  let silent := wanted.head? = some ':'
  let index := ((s.value? "OPTIND").bind number?).getD 1
  let word := (words[index - 1]?.getD "").toList
  -- Options may stand together behind one dash, and this is where the next one does.
  let place := if s.optionPlace = 0 then 1 else s.optionPlace
  if s.optionPlace = 0 && word = ['-', '-'] then s.getoptsEnd name (index + 1)
  else if s.optionPlace = 0 && (word.head? ≠ some '-' || word.length < 2) then
    s.getoptsEnd name index
  else
    let c := word.getD place ' '
    let atEnd := word.length ≤ place + 1
    let moved (s : State) (index place : Nat) : State :=
      { s with optionPlace := place }.assign "OPTIND" (Number.natText index)
    let next := if atEnd then moved s (index + 1) 0 else moved s index (place + 1)
    match optionKind wanted c with
    | none =>
      if silent then ((next.assign name "?").assign "OPTARG" c.toString).withCode 0
      else
        let next := next.write 2 ("Illegal option -" ++ c.toString ++ "\n").toList
        ((next.assign name "?").removeVariable "OPTARG").withCode 0
    | some false => ((next.assign name c.toString).removeVariable "OPTARG").withCode 0
    | some true =>
      let done (s : State) (value : String) : State :=
        ((s.assign name c.toString).assign "OPTARG" value).withCode 0
      if !atEnd then done (moved s (index + 1) 0) (String.ofList (word.drop (place + 1)))
      else match words[index]? with
        | some value => done (moved s (index + 2) 0) value
        | none =>
          let s := moved s (index + 1) 0
          if silent then ((s.assign name ":").assign "OPTARG" c.toString).withCode 0
          else
            let s := s.write 2 ("No arg for -" ++ c.toString ++ " option\n").toList
            ((s.assign name "?").removeVariable "OPTARG").withCode 0

def getopts (s : State) (args : List String) : State :=
  match args with
  | wanted :: name :: words =>
    getoptsFrom s wanted.toList name (if words = [] then s.args else words)
  | _ => s.abort "Usage: getopts optstring var [arg]"

def pathOf? (s : State) (name : String) : Option String :=
  if name.toList.contains '/' then
    if (Program.atPath? name).isSome || isThere s name then some name else none
  else (Program.directoryOf? (s.valueOf "PATH") name).map fun dir => dir ++ "/" ++ name

def tellWhere (s : State) (name : String) : State :=
  if reservedWords.contains name || (s.functions.lookup name).isSome || isBuiltin name then
    s.say (name ++ "\n")
  else match s.pathOf? name with
    | some path => s.say (path ++ "\n")
    | none => s.withCode 127

def tellKind (s : State) (name : String) : State :=
  let kind (text : String) := s.say (name ++ " is " ++ text ++ "\n")
  if reservedWords.contains name then kind "a shell keyword"
  else if (s.functions.lookup name).isSome then kind "a shell function"
  else if specialBuiltins.contains name then kind "a special shell builtin"
  else if isBuiltin name then kind "a shell builtin"
  else match s.pathOf? name with
    | some path => kind path
    | none => (s.say (name ++ ": not found\n")).withCode 127

def signals : List (String × Nat) :=
  [("HUP", 1), ("INT", 2), ("QUIT", 3), ("ILL", 4), ("TRAP", 5), ("ABRT", 6), ("BUS", 7),
   ("FPE", 8), ("KILL", 9), ("USR1", 10), ("SEGV", 11), ("USR2", 12), ("PIPE", 13), ("ALRM", 14),
   ("TERM", 15), ("CHLD", 17), ("CONT", 18), ("STOP", 19)]

def harmlessSignals : List Nat :=
  [17, 18]

def signal? (name : String) : Option Nat :=
  match number? name with
  | some n => some n
  | none =>
    let bare := if "SIG".toList.isPrefixOf name.toList then String.ofList (name.toList.drop 3) else name
    signals.lookup bare

def signalName (n : Nat) : String :=
  ((signals.find? fun s => s.2 = n).map (·.1)).getD (Number.natText n)

def killWords : List String → Option Nat × List String
  | "-s" :: name :: words => (signal? name, words)
  | "--" :: words => (some 15, words)
  | word :: words =>
    match word.toList with
    | '-' :: name => (signal? (String.ofList name), words)
    | _ => (some 15, word :: words)
  | [] => (some 15, [])

def trapName (word : String) : String :=
  if word = "0" || word = "EXIT" then "EXIT" else ((signal? word).map signalName).getD word

def trapOrder (name : String) : Nat :=
  (signals.lookup name).getD 0

def trap (s : State) (args : List String) : State :=
  match args.filter (· ≠ "--") with
  | [] =>
    (s.traps.mergeSort fun a b => trapOrder a.1 ≤ trapOrder b.1).foldl (fun s t =>
      s.say ("trap -- " ++ quotedValue t.2 ++ " " ++ t.1 ++ "\n")) (s.withCode 0)
  | [word] => { s with traps := s.traps.filter fun t => t.1 ≠ trapName word, code := 0 }
  | action :: words =>
    words.foldl (fun s word =>
      let name := trapName word
      if name ≠ "EXIT" && (signal? name).isNone then
        (s.complain (word ++ ": bad trap")).withCode 1
      else
        let others := s.traps.filter fun t => t.1 ≠ name
        { s with traps := if action = "-" then others else (name, action) :: others })
      (s.withCode 0)

end State

end BuildPipeline.StockSystem.Shell
