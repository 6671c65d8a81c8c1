import BuildPipeline.StockSystem.Program.Options
import BuildPipeline.FileSystem.Move

set_option autoImplicit false

namespace BuildPipeline.StockSystem.Program

open FileSystem (Cause Spot)

namespace Process

def change (p : Process) (attempt : Except FileSystem.AccessFault FileSystem) (text : String) :
    Process :=
  match attempt with
  | .ok files => { p with files }
  | .error (.system fault) => p.complain (text ++ ": " ++ fault.cause.text)
  | .error .nullCharacter => p

def isDirectoryAt (p : Process) (operand : String) : Bool :=
  match p.entry true operand with
  | .ok e => e.isDirectory
  | .error _ => false

def missing (p : Process) (what : String) (code : Int) : Process :=
  (p.complain ("missing " ++ what)).hint code

end Process

def below (dir name : String) : String :=
  Path.textBelow dir name

def lastName (operand : String) : String :=
  let cs := operand.toList.reverse.dropWhile (· = '/')
  if cs = [] && operand ≠ "" then "/" else String.ofList (cs.takeWhile (· ≠ '/')).reverse

def namesAt (p : Process) (place : Location) : List String :=
  ((p.files.names place).map narrow).mergeSort fun a b => a ≤ b

def lsNames (o : Options) (names : List String) : List String :=
  let hidden (n : String) := n.toList.head? = some '.'
  let kept := if o.has 'a' || o.has 'A' then names else names.filter fun n => !hidden n
  let all := if o.has 'a' && !o.has 'A' then "." :: ".." :: kept else kept
  if o.has 'r' then all.reverse else all

def kindMark (o : Options) (p : Process) (operand : String) : String :=
  match p.entry false operand with
  | .ok .directory => if o.has 'F' || o.has 'p' then "/" else ""
  | .ok (.link _) => if o.has 'F' then "@" else ""
  | _ => ""

def lsDirectory (o : Options) : Nat → Bool → String → Process → Process
  | 0, _, _, p => p
  | fuel + 1, titled, operand, p =>
    match p.spot true operand with
    | .ok (.taken place .directory) =>
      let names := lsNames o (namesAt p place)
      let gap := if p.said.any (·.1 = 1) then "\n" else ""
      let p := if titled then p.say (gap ++ operand ++ ":\n") else p
      let p := names.foldl (fun p n => p.say (n ++ kindMark o p (below operand n) ++ "\n")) p
      if o.has 'R' then
        (names.filter fun n => n ≠ "." && n ≠ ".." && (p.entry false (below operand n)).toOption
          = some .directory).foldl (fun p n => lsDirectory o fuel true (below operand n) p) p
      else p
    | _ => p

def lsForms : OptionForms :=
  { plain := "1aAdRFprC", long := [("all", 'a'), ("almost-all", 'A'), ("recursive", 'R')] }

def ls : Routine := withOptions lsForms 2 fun o p =>
  let operands := if o.operands = [] then ["."] else o.operands.mergeSort fun a b => a ≤ b
  let p := operands.foldl (fun p operand =>
    match p.entry true operand, p.entry false operand with
    | .error cause, .error _ =>
      (p.complainOf cause ("cannot access " ++ inQuotes operand)).fail 2
    | _, _ => p) p
  let found := operands.filter fun operand => (p.entry false operand).toOption.isSome
  let isListed (operand : String) := !o.has 'd' && p.isDirectoryAt operand
  let p := (found.filter fun operand => !isListed operand).foldl (fun p operand =>
    p.say (operand ++ kindMark o p operand ++ "\n")) p
  let titled := 1 < operands.length || o.has 'R'
  (found.filter isListed).foldl (fun p operand =>
    lsDirectory o (p.files.entries.length + 1) titled operand p) p

def mkdir : Routine :=
  withOptions { plain := "pv", valued := "m", long := [("parents", 'p')] } 1 fun o p =>
    if o.operands = [] then p.missing "operand" 1
    else o.operands.foldl (fun p operand =>
      let text := "cannot create directory " ++ inCurls operand
      if operand = "" then p.complainOf .missing text
      else if o.has 'p' then
        match p.files.makeDirectories (Path.ofText (widen operand)) with
        | (files, .ok ()) => { p with files }
        | (files, .error fault) => { p with files }.change (.error fault) text
      else p.change (p.files.makeDirectory (Path.ofText (widen operand))) text) p

def rmdirUp (text : String → String) : Nat → List String → Process → Process
  | 0, _, p => p
  | _, [], p => p
  | fuel + 1, name :: above, p =>
    let operand := "/".intercalate (name :: above).reverse
    let p := p.change (p.files.removeDirectory (Path.ofText (widen operand))) (text operand)
    if p.code = 0 then rmdirUp text fuel above p else p

def rmdir : Routine := withOptions { plain := "pv" } 1 fun o p =>
  if o.operands = [] then p.missing "operand" 1
  else o.operands.foldl (fun p operand =>
    let text (s : String) := "failed to remove " ++ inQuotes s
    if o.has 'p' then
      let names := ((operand.splitOn "/").filter (· ≠ "")).reverse
      rmdirUp text (names.length + 1) names p
    else p.change (p.files.removeDirectory (Path.ofText (widen operand))) (text operand)) p

def rm : Routine :=
  withOptions { plain := "rRfidv", long := [("recursive", 'r'), ("force", 'f')] } 1 fun o p =>
    if o.operands = [] then (if o.has 'f' then p else p.missing "operand" 1)
    else o.operands.foldl (fun p operand =>
      let text := "cannot remove " ++ inQuotes operand
      match p.spot false operand with
      | .ok (.taken place .directory) =>
        if [".", ".."].contains (lastName operand) then
          p.complain ("refusing to remove '.' or '..' directory: skipping " ++ inQuotes operand)
        else if o.has 'r' || o.has 'R' then { p with files := p.files.eraseBelow place }
        else if o.has 'd' then p.change (p.files.removeDirectory (pathOf operand)) text
        else p.complainOf .isDirectory text
      | .ok (.taken place _) => { p with files := p.files.erase place }
      | .ok (.free _) => if o.has 'f' then p else p.complainOf .missing text
      | .error cause =>
        if o.has 'f' && (cause = .missing || cause = .notDirectory) then p
        else p.complainOf cause text) p

def touch : Routine := withOptions { plain := "acm", valued := "dtr" } 1 fun o p =>
  if o.operands = [] then p.missing "file operand" 1
  else o.operands.foldl (fun p operand =>
    match p.spot true operand with
    | .ok (.taken ..) => p
    | .ok (.free place) =>
      if o.has 'c' then p
      -- A slash at the end asks for a directory.
      else if operand.toList.getLast? = some '/' then
        p.complainOf .missing ("cannot touch " ++ inQuotes operand)
      else { p with files := p.files.set place (.file []) }
    | .error cause => p.complainOf cause ("cannot touch " ++ inQuotes operand)) p

def copied (files : FileSystem) (source target : Location) : FileSystem :=
  let below := files.entries.filter fun e => FileSystem.isBelow e.1 source
  below.foldl (fun files e =>
    match e.2, files.get? (FileSystem.movedLocation source target e.1) with
    -- A directory that is there keeps what else it holds.
    | .directory, some .directory => files
    | entry, _ => files.set (FileSystem.movedLocation source target e.1) entry) files

def destinations (p : Process) (o : Options) : Except Process (List (String × String)) :=
  match o.value? 't', o.operands with
  | some dir, sources => .ok (sources.map fun s => (s, below dir (lastName s)))
  | none, [] => .error (p.missing "file operand" 1)
  | none, [source] =>
    .error ((p.complain ("missing destination file operand after " ++ inQuotes source)).hint 1)
  | none, [source, target] =>
    if p.isDirectoryAt target && !o.has 'T' then .ok [(source, below target (lastName source))]
    else .ok [(source, target)]
  | none, operands =>
    let target := operands.getLast?.getD ""
    match p.entry true target with
    | .ok .directory => .ok (operands.dropLast.map fun s => (s, below target (lastName s)))
    | .ok _ => .error (p.complainOf .notDirectory ("target " ++ inQuotes target))
    | .error cause => .error (p.complainOf cause ("target " ++ inQuotes target))

def isTree (o : Options) : Bool :=
  o.has 'r' || o.has 'R' || o.has 'a'

def copyOne (o : Options) (p : Process) (source target : String) : Process :=
  -- A link is copied as a link within a tree, and else as what it leads to.
  let follows := !isTree o && !o.has 'P' && !o.has 'd'
  match p.spot follows source with
  | .error cause => p.complainOf cause ("cannot stat " ++ inQuotes source)
  | .ok (.free _) => p.complainOf .missing ("cannot stat " ++ inQuotes source)
  | .ok (.taken place entry) =>
    if entry = .directory && !isTree o then
      p.complain ("-r not specified; omitting directory " ++ inQuotes source)
    else match p.spot true target with
      | .error cause => p.complainOf cause ("cannot create regular file " ++ inQuotes target)
      | .ok goal =>
        if goal.place = place then
          p.complain (inQuotes source ++ " and " ++ inQuotes target ++ " are the same file")
        else match goal with
          | .taken _ .directory =>
            if entry = .directory then { p with files := copied p.files place goal.place }
            else p.complain ("cannot overwrite directory " ++ inQuotes target
              ++ " with non-directory")
          | .taken _ _ =>
            if entry = .directory then
              p.complain ("cannot overwrite non-directory " ++ inQuotes target
                ++ " with directory " ++ inQuotes source)
            else if o.has 'n' then p
            else { p with files := p.files.set goal.place entry }
          | .free _ => { p with files := copied p.files place goal.place }

def cp : Routine :=
  withOptions { plain := "rRafpnTPLdvu", valued := "t", long := [("recursive", 'r')] } 1 fun o p =>
    match destinations p o with
    | .error p => p
    | .ok pairs => pairs.foldl (fun p pair => copyOne o p pair.1 pair.2) p

def moveOne (o : Options) (p : Process) (source target : String) : Process :=
  match p.spot false source with
  | .error cause => p.complainOf cause ("cannot stat " ++ inQuotes source)
  | .ok (.free _) => p.complainOf .missing ("cannot stat " ++ inQuotes source)
  | .ok (.taken place _) =>
    match p.spot false target with
    | .ok goal =>
      if goal.place = place then
        p.complain (inQuotes source ++ " and " ++ inQuotes target ++ " are the same file")
      else if FileSystem.isBelow goal.place place then
        p.complain ("cannot move " ++ inQuotes source ++ " to a subdirectory of itself, "
          ++ inQuotes target)
      else if o.has 'n' && (p.entry false target).toOption.isSome then p
      else p.change (p.files.rename (Path.ofText (widen source)) (Path.ofText (widen target)))
        ("cannot move " ++ inQuotes source ++ " to " ++ inQuotes target)
    | .error cause =>
      p.complainOf cause ("cannot move " ++ inQuotes source ++ " to " ++ inQuotes target)

def mv : Routine := withOptions { plain := "fnTv", valued := "t" } 1 fun o p =>
  match destinations p o with
  | .error p => p
  | .ok pairs => pairs.foldl (fun p pair => moveOne o p pair.1 pair.2) p

def linkOne (o : Options) (p : Process) (target name : String) : Process :=
  let kind := if o.has 's' then "symbolic link " else "hard link "
  let text := "failed to create " ++ kind ++ inQuotes name
  let p := if !o.has 'f' then p else match p.spot false name with
    | .ok (.taken place (.file _)) => { p with files := p.files.erase place }
    | .ok (.taken place (.link _)) => { p with files := p.files.erase place }
    | _ => p
  if o.has 's' then p.change (p.files.makeLink (Path.ofText (widen name)) (widen target)) text
  else match p.entry false target, p.spot false name with
    | .error cause, _ => p.complainOf cause ("failed to access " ++ inQuotes target)
    | .ok .directory, _ => p.complain (inQuotes target ++ ": hard link not allowed for directory")
    | .ok e, .ok (.free place) => { p with files := p.files.set place e }
    | .ok _, .ok (.taken ..) => p.complainOf .alreadyThere text
    | .ok _, .error cause => p.complainOf cause text

def ln : Routine := withOptions { plain := "sfnTvr", valued := "t" } 1 fun o p =>
  match o.operands with
  | [target] => linkOne o p target (lastName target)
  | _ =>
    match destinations p o with
    | .error p => p
    | .ok pairs => pairs.foldl (fun p pair => linkOne o p pair.1 pair.2) p

def placeText (place : Location) : String :=
  narrow ("/" ++ "/".intercalate place)

def readlink : Routine := withOptions { plain := "fenqsm" } 1 fun o p =>
  o.operands.foldl (fun p operand =>
    let newline := if o.has 'n' then "" else "\n"
    let wanted : Option String :=
      if o.has 'f' || o.has 'm' || o.has 'e' then
        match p.spot true operand with
        | .ok (.taken place _) => some (placeText place)
        | .ok (.free place) => if o.has 'e' then none else some (placeText place)
        | .error _ => none
      else match p.entry false operand with
        | .ok (.link target) => some (narrow target)
        | _ => none
    match wanted with
    | some text => p.say (text ++ newline)
    | none => p.fail 1) p

def realpath : Routine := withOptions { plain := "emqs" } 1 fun o p =>
  o.operands.foldl (fun p operand =>
    match p.spot true operand with
    | .ok (.taken place _) => p.say (placeText place ++ "\n")
    | .ok (.free place) =>
      if o.has 'e' then p.complainOf .missing (shownName operand)
      else p.say (placeText place ++ "\n")
    | .error cause => p.complainOf cause (shownName operand)) p

def pwd : Routine := fun _ p =>
  p.say (placeText p.files.cwd ++ "\n")

def baseName (operand ending : String) : String :=
  let name := (lastName operand).toList
  let stem := name.take (name.length - ending.length)
  if stem ≠ [] && stem ++ ending.toList = name then String.ofList stem else String.ofList name

def basename : Routine := withOptions { plain := "az", valued := "s", leading := true } 1 fun o p =>
  match o.operands with
  | [] => p.missing "operand" 1
  | first :: rest =>
    if o.has 'a' || o.has 's' then
      (first :: rest).foldl (fun p n => p.say (baseName n ((o.value? 's').getD "") ++ "\n")) p
    else match rest with
      | _ :: extra :: _ =>
        (p.complain ("extra operand " ++ inCurls extra)).hint 1
      | rest => p.say (baseName first (rest.headD "") ++ "\n")

def dirName (operand : String) : String :=
  let cs := operand.toList.reverse.dropWhile (· = '/')
  let above := (cs.dropWhile (· ≠ '/')).dropWhile (· = '/')
  if above ≠ [] then String.ofList above.reverse
  else if operand.toList.head? = some '/' then "/" else "."

def dirname : Routine := withOptions { plain := "z" } 1 fun o p =>
  if o.operands = [] then p.missing "operand" 1
  else o.operands.foldl (fun p n => p.say (dirName n ++ "\n")) p

end BuildPipeline.StockSystem.Program
