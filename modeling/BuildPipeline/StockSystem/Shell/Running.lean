import BuildPipeline.StockSystem.Shell.Builtin

set_option autoImplicit false

namespace BuildPipeline.StockSystem.Shell

inductive Task where
  | node (n : Node)
  | script (c : Cursor)
  | program (words : List String)

abbrev Runner := State → Task → State

namespace State

def atEnd (again : Runner) (s : State) : State :=
  match s.flow, s.traps.lookup "EXIT" with
  | .killed _, _ => s
  | _, none => s
  | _, some action =>
    let before := { s with flow := .onward, speaker := none, traps := s.traps.filter fun t => t.1 ≠ "EXIT" }
    let after := again before (.script { rest := action.toList })
    match after.flow with
    | .ended => after
    | .killed _ => after
    | _ => { after with code := s.code, flow := s.flow }

def inChild (again : Runner) (s : State) (task : Task) : State :=
  s.rejoin (atEnd again (again s.child task))

def captured (again : Runner) (s : State) (script : Node) : State × List Char :=
  let inner := atEnd again (again (s.child.openAs 1 (.buffer [])) (.node script))
  let text := match inner.streams[s.streams.length]? with
    | some (.buffer held) => held
    | _ => []
  ({ s.rejoin inner with code := s.code, heard := some inner.codeOf }, text)

def afterCommand (s : State) : State :=
  if s.isOnward && s.code ≠ 0 && s.has 'e' && !s.guarded then { s with flow := .ended } else s

def runGuarded (again : Runner) (s : State) (n : Node) : State :=
  { again { s with guarded := true } (.node n) with guarded := s.guarded }

def process (s : State) (name : String) : Program.Process :=
  { name, files := s.files, env := s.environment, input := s.pending 0
    inputIsFile := s.readsFile 0 }

def afterProcess (s : State) (p : Program.Process) : State :=
  let read := (s.pending 0).length - p.input.length
  let s := ({ s with files := { p.files with cwd := s.files.cwd } }.consume 0 read).hear p.said
  s.withCode p.code

def ofEnvironment (env : List (String × String)) : List (String × Variable) :=
  env.map fun v => (v.1, { value := some v.2, exported := true })

def fresh (s : State) (name : String) (args : List String) (flags : List Char) : State :=
  { s.child with
    name
    args
    flags
    dir := Program.placeText s.files.cwd
    bindings := ofEnvironment s.environment
    functions := []
    guarded := false
    calls := 0
    locals := []
    speaker := none
    line := 1 }

def runScript (again : Runner) (s : State) (name : String) (args : List String)
    (flags : List Char) (text : List Char) : State :=
  let start := s.fresh name args flags
  let start := start.setVariable "PWD" { value := some start.dir, exported := true }
  let inner := atEnd again (again start (.script { rest := text }))
  { s.rejoin inner with flow := match inner.flow with
      | .killed n => .killed n
      | _ => .onward }

def readFile (s : State) (name : String) : Except String (List Char) :=
  match s.files.locate true (Program.pathOf name) with
  | .ok (.taken _ (.file bs)) => .ok (ofBytes bs)
  | .ok (.taken ..) => .error "Is a directory"
  | .ok (.free _) => .error (openCause .missing)
  | .error cause => .error (openCause cause)

structure Invocation where
  flags : List Char := []
  text : Bool := false
  input : Bool := false
  words : List String := []
  bad : Option Char := none

def invocation : List String → Invocation
  | [] => {}
  | word :: words =>
    match word.toList with
    | ['-', '-'] => { words }
    | ['-'] => { words }
    | '-' :: letters =>
      let i := invocation words
      let known := letters.filter fun c => flagOrder.contains c && c ≠ 's'
      { i with
        flags := known ++ i.flags
        text := i.text || letters.contains 'c'
        input := i.input || letters.contains 's'
        bad := (letters.find? fun c => c ≠ 'c' && !flagOrder.contains c).or i.bad }
    | _ => { words := word :: words }

def shellFault (s : State) (name text : String) : State :=
  (s.write 2 (name ++ ": 0: " ++ text ++ "\n").toList).withCode 2

def runShell (again : Runner) (s : State) (name : String) (words : List String) : State :=
  let i := invocation words
  match i.bad, i.text, i.words with
  | some c, _, _ => s.shellFault name ("Illegal option -" ++ c.toString)
  | none, true, [] => s.shellFault name "-c requires an argument"
  | none, true, text :: rest =>
    runScript again s (rest.headD name) rest.tail i.flags text.toList
  | none, false, words =>
    if i.input || words = [] then
      let text := s.pending 0
      runScript again (s.consume 0 text.length) name words i.flags text
    else
      let file := words.headD ""
      match s.readFile file with
      | .ok text => runScript again s file words.tail i.flags text
      | .error cause => s.shellFault name ("cannot open " ++ file ++ ": " ++ cause)

def programMissing (s : State) (starter name : String) : State :=
  let cause := if name.toList.contains '/' && isThere s name then "Permission denied"
    else "No such file or directory"
  let shown := if starter = "env" then inCurlsIfBare name else name
  (s.write 2 (starter ++ ": " ++ shown ++ ": " ++ cause ++ "\n").toList).withCode 127
where
  inCurlsIfBare (name : String) : String :=
    Program.inCurls name

def canStart (s : State) (name : String) : Bool :=
  if name.toList.contains '/' then (Program.atPath? name).isSome
  else (Program.directoryOf? (s.valueOf "PATH") name).isSome

def start (again : Runner) (s : State) (starter : String) (words : List String) : State :=
  let name := words.headD ""
  if s.canStart name then again s (.program words) else s.programMissing starter name

def envWords : Nat → State → List String → State × List String
  | 0, s, words => (s, words)
  | _ + 1, s, [] => (s, [])
  | fuel + 1, s, word :: words =>
    if word = "-i" || word = "-" then
      envWords fuel { s with bindings := [] } words
    else if word = "-u" then envWords fuel (s.removeVariable (words.headD "")) words.tail
    else if word = "--" then envWords fuel s words
    else
      let (name, value) := declaration word
      match value with
      | some value => envWords fuel (s.setVariable name { value := some value, exported := true }) words
      | none => (s, word :: words)

def env (again : Runner) (s : State) (words : List String) : State :=
  let (inner, words) := envWords (words.length + 1) s words
  if words = [] then
    inner.environment.foldl (fun s v => s.say (v.1 ++ "=" ++ v.2 ++ "\n")) (s.withCode 0)
  else
    let inner := start again inner "env" words
    { s.rejoin inner with flow := inner.flow }

def inputWords : Option Char → Option (List Char) → List Char → List String
  | _, none, [] => []
  | _, some w, [] => [String.ofList w.reverse]
  | some q, w, c :: cs =>
    if c = q then inputWords none (some (w.getD [])) cs
    else inputWords (some q) (some (c :: w.getD [])) cs
  | none, w, '\\' :: c :: cs => inputWords none (some (c :: w.getD [])) cs
  | none, w, c :: cs =>
    if c = '\'' || c = '"' then inputWords (some c) (some (w.getD [])) cs
    else if c = ' ' || c = '\t' || c = '\n' then
      (w.map fun w => String.ofList w.reverse).toList ++ inputWords none none cs
    else inputWords none (some (c :: w.getD [])) cs

def inGroups {α : Type} (size : Nat) : Nat → List α → List (List α)
  | 0, _ => []
  | fuel + 1, items =>
    if items = [] then [] else items.take size :: inGroups size fuel (items.drop size)

def replaceText (old new text : String) : String :=
  if old = "" then text else new.intercalate (text.splitOn old)

def xargsForms : Program.OptionForms :=
  { plain := "0rtx", valued := "nIdLP", leading := true, long := [("null", '0')] }

def xargsRuns (o : Program.Options) (input : List Char) : List (List String) :=
  let base := if o.operands = [] then ["echo"] else o.operands
  let between := (o.value? 'd').bind (·.toList.head?)
  let items :=
    if o.has '0' then (Text.pieces '\x00' input).map String.ofList
    else match between with
      | some c => (Text.pieces c input).map String.ofList
      | none =>
        if o.has 'I' then
          (bareLines input).map fun l => String.ofList (l.dropWhile Program.isBlankChar)
        else inputWords none none input
  let items := if (o.has '0' || between.isSome) && items.getLast? = some "" then items.dropLast
    else items
  match o.value? 'I' with
  | some mark =>
    (items.filter (· ≠ "")).map fun item => base.map (replaceText mark item)
  | none =>
    let size := ((o.value? 'n').or (o.value? 'L')).bind number?
    let groups := match size with
      | some n => inGroups (max n 1) items.length items
      | none => if items = [] then [] else [items]
    if groups = [] && !o.has 'r' then [base] else groups.map (base ++ ·)

def xargs (again : Runner) (s : State) (words : List String) : State :=
  match Program.Options.read xargsForms words with
  | .error fault => (s.write 2 ("xargs: " ++ fault.message ++ "\n").toList).withCode 1
  | .ok o =>
    let input := s.pending 0
    let inner := (s.consume 0 input.length).openAs 0 .nothing
    let done := (xargsRuns o input).foldl (fun (s : State) words =>
      if 123 < s.code then s
      else
        let after := start again s "xargs" words
        after.withCode (if after.code = 0 || 123 < after.code then max s.code after.code else 123))
      (inner.withCode 0)
    s.rejoin done

def runProgram (again : Runner) (s : State) (words : List String) : State :=
  let name := words.headD ""
  let args := words.tail
  let short := (Program.atPath? name).getD name
  match Program.programs.lookup short with
  | some program => s.afterProcess (program args (s.process name))
  | none =>
    match short, args with
    | "env", args => env again s args
    | "xargs", args => xargs again s args
    | "nice", args => start again s name args
    | "nohup", args => start again s name args
    | "timeout", args => start again s name args.tail
    | _, args => runShell again s name args

def runExternal (again : Runner) (s : State) (words : List String) : State :=
  let name := words.headD ""
  if s.canStart name then
    let inner := again s.child (.program words)
    let told := match inner.flow with
      | .killed 9 => inner.write 2 "Killed\n".toList
      | .killed 15 => inner.write 2 "Terminated\n".toList
      | .killed 1 => inner.write 2 "Hangup\n".toList
      | _ => inner
    s.rejoin told
  else if name.toList.contains '/' && isThere s name then
    (s.complain (name ++ ": Permission denied")).withCode 126
  else (s.complain (name ++ ": not found")).withCode 127

def runText (again : Runner) (s : State) (text : List Char) : State :=
  again (s.withCode 0) (.script { rest := text, line := s.line })

def eval (again : Runner) (s : State) (args : List String) : State :=
  runText again s (" ".intercalate args).toList

def dot (again : Runner) (s : State) (args : List String) : State :=
  match args.filter (· ≠ "--") with
  | [] => s.withCode 0
  | name :: _ =>
    if !name.toList.contains '/' then s.abort (name ++ ": not found")
    else match s.readFile name with
      | .error cause => s.abort ("cannot open " ++ name ++ ": " ++ cause)
      | .ok text =>
        let s := runText again { s with speaker := some name } text
        if s.flow = .returned then { s with flow := .onward } else s

def signalled (again : Runner) (s : State) (n : Nat) : State :=
  match s.traps.lookup (signalName n) with
  | some action =>
    if n = 9 then { s with flow := .killed 9 }
    else
      let after := again s (.script { rest := action.toList })
      after.withCode 0
  | none =>
    if n = 0 || harmlessSignals.contains n then s.withCode 0 else { s with flow := .killed n }

def kill (again : Runner) (s : State) (args : List String) : State :=
  match args with
  | ["-l"] => s.withCode 0
  | ["-l", word] => (s.say (signalName (((number? word).getD 0) % 128) ++ "\n")).withCode 0
  | args =>
    match killWords args with
    | (none, _) => s.abort "invalid signal number or name"
    | (some n, words) =>
      words.foldl (fun s word =>
        if !s.isOnward then s
        else if word = ownNumber then signalled again s n
        else match number? word with
          | some _ => (s.complain "No such process").withCode 1
          | none => (s.complain (illegalNumber word)).withCode 2) (s.withCode 0)

def runWords (again : Runner) (s : State) (words : List String) : State :=
  again { s with speaker := none } (.node (.simple s.line [] (words.map fun w => .quotes :: quotedText w.toList) []))

def commandWords (again : Runner) (s : State) (args : List String) : State :=
  match args with
  | [] => s.withCode 0
  | "-v" :: names => (names.take 1).foldl tellWhere (s.withCode 0)
  | "-V" :: names => (names.take 1).foldl tellKind (s.withCode 0)
  | "--" :: words => runWords again { s with functions := [] } words
  | words =>
    let after := runWords again { s with functions := [] } words
    { after with functions := s.functions }

def exec (again : Runner) (s : State) (args : List String) : State :=
  match args.filter (· ≠ "--") with
  | [] => s.withCode 0
  | words =>
    let name := words.headD ""
    if s.canStart name then
      let inner := again s.child (.program words)
      { s.rejoin inner with
        traps := []
        flow := match inner.flow with
          | .killed n => .killed n
          | _ => .ended }
    else { (s.complain (name ++ ": not found")).withCode 127 with flow := .ended }

def carryOut (again : Runner) (s : State) (name : String) (args : List String) : State :=
  match name with
  | "." => dot again s args
  | "[" => s.within (Program.judge true) args
  | "break" | "continue" => s.leave name args
  | "cd" | "chdir" => s.cd args
  | "command" => commandWords again s args
  | "echo" => s.echo args
  | "eval" => eval again s args
  | "exec" => exec again s args
  | "exit" => s.exit args
  | "export" => s.exportNames args
  | "false" => s.withCode 1
  | "getopts" => s.getopts args
  | "kill" => kill again s args
  | "local" => s.makeLocal args
  | "printf" => s.printf args
  | "pwd" => s.pwd args
  | "read" => s.read args
  | "readonly" => s.readonly args
  | "return" => s.returnWith args
  | "set" => s.set args
  | "shift" => s.shift args
  | "test" => s.within (Program.judge false) args
  | "trap" => s.trap args
  | "type" => args.foldl tellKind (s.withCode 0)
  | "umask" => (if args = [] then s.say "0022\n" else s).withCode 0
  | "unset" => s.unset args
  | _ => s.withCode 0

def builtin (again : Runner) (s : State) (name : String) (args : List String) : State :=
  { carryOut again { s with speaker := some name } name args with speaker := s.speaker }

def call (again : Runner) (s : State) (body : Node) (args : List String) : State :=
  let inner := { s with args, calls := s.calls + 1, locals := [], loops := 0 }
  let after := again inner (.node body)
  let restored := after.locals.foldl restoreVariable after
  { restored with
    args := s.args
    calls := s.calls
    locals := s.locals
    loops := s.loops
    flow := if after.flow = .returned then .onward else after.flow }

def valuesOf (again : Runner) (s : State) (assigned : List (String × List Piece)) :
    State × List (String × String) :=
  assigned.foldl (fun (s, values) a =>
    if !s.isOnward then (s, values)
    else
      let (s, value) := textOf (captured again) s a.2
      (s, values ++ [(a.1, value)])) (s, [])

def assignEach (s : State) (values : List (String × String)) : State :=
  values.foldl (fun s v => if s.isOnward then s.assign v.1 v.2 else s) s

def withValues (s : State) (values : List (String × String)) (run : State → State) : State :=
  let old := values.map fun v => (v.1, s.entry? v.1)
  let set := assignEach s values
  if !set.isOnward then set
  else
    let exported := values.foldl (fun s v =>
      s.setVariable v.1 { value := some v.2, exported := true }) set
    old.reverse.foldl restoreVariable (run exported)

def trace (s : State) (values : List (String × String)) (words : List String) : State :=
  if !s.has 'x' then s
  else
    let parts := values.map (fun v => v.1 ++ "=" ++ v.2) ++ words
    s.write 2 ("+ " ++ " ".intercalate parts ++ "\n").toList

def runCommand (again : Runner) (s : State) (values : List (String × String))
    (name : String) (args : List String) : State :=
  if specialBuiltins.contains name then
    let s := assignEach s values
    if s.isOnward then builtin again s name args else s
  else match s.functions.lookup name with
    | some body => s.withValues values fun s => call again s body args
    | none =>
      if isBuiltin name then s.withValues values fun s => builtin again s name args
      else s.withValues values fun s => runExternal again s (name :: args)

/-- A command of words. Where streams are led lasts as long as it does, unless it is `exec` alone. -/
def simple (again : Runner) (s : State) (line : Nat) (assigned : List (String × List Piece))
    (words : List (List Piece)) (rs : List Redirect) : State :=
  let (s, texts) := expandWords (captured again) { s with line, heard := none } words
  if !s.isOnward then s
  else
    let (led, good) := redirectAll (captured again) s rs
    let back (after : State) : State := { after with numbers := s.numbers }
    if !led.isOnward then back led
    else if !good then
      -- Before a special builtin this ends the shell.
      if texts.head?.any specialBuiltins.contains then { back led with flow := .ended } else back led
    else
      let (led, values) := valuesOf again led assigned
      if !led.isOnward then back led
      else match texts with
        | [] =>
          -- What is traced goes to where streams led before.
          let traced := if values = [] then led else { led with numbers := s.numbers }.trace values []
          let done := assignEach { traced with numbers := led.numbers } values
          back (if done.isOnward then done.withCode (done.heard.getD 0) else done)
        | name :: args =>
          let traced := { led with numbers := s.numbers }.trace values texts
          let done := runCommand again { traced with numbers := led.numbers } values name args
          if name = "exec" && args = [] then done else back done

def runStages (again : Runner) (s : State) : List Node → State
  | [] => s
  | [last] => inChild again s (.node last)
  | first :: rest =>
    let opened := { s with streams := s.streams ++ [Stream.buffer []] }
    let index := s.streams.length
    let after := opened.rejoin
      (atEnd again (again (opened.child.pointTo 1 index) (.node first)))
    let done := runStages again (after.pointTo 0 index) rest
    { done with numbers := s.numbers }

def afterTurn (s : State) : State × Bool :=
  match s.flow with
  | .onward => (s, true)
  | .leave n nextTurn =>
    if 1 < n then ({ s with flow := .leave (n - 1) nextTurn }, false)
    else ({ s with flow := .onward }, nextTurn)
  | _ => (s, false)

def turns (again : Runner) (wanted : Bool) (condition body : Node) : Nat → Int → State → State
  | 0, _, s => { s with flow := .ended }
  | fuel + 1, last, s =>
    let (judged, goesOn) := afterTurn (runGuarded again s condition)
    if !goesOn then judged
    else if (judged.code = 0) != wanted then judged.withCode last
    else
      let (done, goesOn) := afterTurn (again judged (.node body))
      if goesOn then turns again wanted condition body fuel done.code done else done

def maxTurns : Nat :=
  1000000

def inLoop (s : State) (run : State → State) : State :=
  { run { s with loops := s.loops + 1 } with loops := s.loops }

def eachItem (again : Runner) (name : String) (body : Node) (s : State) : List String → State
  | [] => s
  | item :: rest =>
    let assigned := s.assign name item
    if !assigned.isOnward then assigned
    else
      let (done, goesOn) := afterTurn (again assigned (.node body))
      if goesOn then eachItem again name body done rest else done

def anyMatches (again : Runner) (s : State) (subject : List Char) :
    List (List Piece) → State × Bool
  | [] => (s, false)
  | pattern :: rest =>
    let (s, marked) := patternOf (captured again) s pattern
    if !s.isOnward then (s, false)
    else if patternMatches marked subject then (s, true)
    else anyMatches again s subject rest

def chooseCase (again : Runner) (s : State) (subject : List Char) : List Case → State
  | [] => s.withCode 0
  | .mk patterns body :: rest =>
    let (s, found) := anyMatches again s subject patterns
    if !s.isOnward then s
    else if found then again (s.withCode 0) (.node body)
    else chooseCase again s subject rest

def runNode (again : Runner) (s : State) : Node → State
  | .nothing => s
  | .simple line assigned words rs => (simple again s line assigned words rs).afterCommand
  | .pipeline stages => (runStages again s stages).afterCommand
  | .negated body =>
    let done := runGuarded again s body
    if done.isOnward then done.withCode (if done.code = 0 then 1 else 0) else done
  | .both first second =>
    let done := runGuarded again s first
    if done.isOnward && done.code = 0 then again done (.node second) else done
  | .either first second =>
    let done := runGuarded again s first
    if done.isOnward && done.code ≠ 0 then again done (.node second) else done
  | .sequence first second =>
    let done := again s (.node first)
    if done.isOnward then again done (.node second) else done
  | .background body =>
    -- It runs to its end at once, with nothing to read.
    let done := inChild again (s.openAs 0 .nothing) (.node body)
    { done with numbers := s.numbers, code := 0 }
  | .subshell body => (inChild again s (.node body)).afterCommand
  | .redirected line body rs =>
    let (led, good) := redirectAll (captured again) { s with line } rs
    let done := if good && led.isOnward then again led (.node body) else led
    { done with numbers := s.numbers }
  | .branch condition yes no =>
    let done := runGuarded again s condition
    if !done.isOnward then done
    else again (done.withCode 0) (.node (if done.code = 0 then yes else no))
  | .loop wanted condition body => s.inLoop (turns again wanted condition body maxTurns 0)
  | .each line name items body =>
    let (s, texts) := expandWords (captured again) { s with line, heard := none } items
    if !s.isOnward then s
    else s.inLoop fun s => eachItem again name body (s.withCode 0) texts
  | .choose line subject cases =>
    let (s, text) := textOf (captured again) { s with line } subject
    if !s.isOnward then s else chooseCase again s text.toList cases
  | .define name body =>
    { s with
      functions := (name, body) :: s.functions.filter fun f => f.1 ≠ name
      code := 0 }

def runLines (again : Runner) : Nat → State → Cursor → State
  | 0, s, _ => s
  | fuel + 1, s, c =>
    match (nextLine).run c with
    | .error fault => { s with line := fault.line }.abort fault.message
    | .ok (none, _) => s
    | .ok (some n, rest) =>
      let done := again s (.node n)
      if done.isOnward then runLines again fuel done rest else done

def step (again : Runner) : Runner := fun s task =>
  if !s.isOnward then s
  else match task with
    | .node n => runNode again s n
    | .script c => runLines again (c.rest.length + 1) s c
    | .program words => runProgram again s words

def maxDepth : Nat :=
  2000

def runTask : Nat → Runner
  | 0 => fun s _ => { s with code := 2, flow := .ended }
  | fuel + 1 => step (runTask fuel)

end State

end BuildPipeline.StockSystem.Shell
