import BuildPipeline.StockSystem.Program.Copying
import BuildPipeline.StockSystem.Program.Search

set_option autoImplicit false

namespace BuildPipeline.StockSystem.Program

inductive Address where
  | line (n : Nat)
  | last
  | regex (r : Regex) (folded : Bool)
  | every (first step : Nat)
  deriving DecidableEq, Repr

inductive Replacement where
  | text (c : Char)
  | group (index : Nat)
  deriving DecidableEq, Repr

inductive EditCommand where
  | substitute (r : Regex) (by' : List Replacement) (folded : Bool) (number : Nat)
      (everywhere printed : Bool)
  | translate (source target : List Char)
  | append (text : List Char)
  | insert (text : List Char)
  | change (text : List Char)
  | jump (ifChanged : Bool) (label : String)
  | label (name : String)
  | openBlock
  | closeBlock
  | plain (letter : Char)
  deriving DecidableEq, Repr

structure Edit where
  from' : Option Address := none
  upTo : Option Address := none
  negated : Bool := false
  command : EditCommand
  deriving DecidableEq, Repr

namespace Edit

def isGap (c : Char) : Bool :=
  c == ' ' || c == '\t' || c == '\n' || c == ';'

def upTo? (mark : Char) : List Char → Option (List Char × List Char)
  | [] => none
  | '\\' :: c :: cs =>
    (upTo? mark cs).map fun (text, rest) =>
      (if c = mark then c :: text else if c = 'n' && mark ≠ 'n' then '\n' :: text
        else '\\' :: c :: text, rest)
  | c :: cs => if c = mark then some ([], cs) else (upTo? mark cs).map fun (t, r) => (c :: t, r)

def address? (extended : Bool) (cs : List Char) : Option (Option Address × List Char) :=
  match cs with
  | '$' :: rest => some (some .last, rest)
  | '/' :: rest => do
    let (pattern, rest) ← upTo? '/' rest
    let r ← Regex.read? extended pattern
    match rest with
    | 'I' :: rest => some (some (.regex r true), rest)
    | rest => some (some (.regex r false), rest)
  | cs =>
    let ds := cs.takeWhile Number.isDigit
    if ds = [] then some (none, cs)
    else match cs.drop ds.length with
      | '~' :: rest =>
        let es := rest.takeWhile Number.isDigit
        some (some (.every (Number.ofDigits ds) (Number.ofDigits es)), rest.drop es.length)
      | rest => some (some (.line (Number.ofDigits ds)), rest)

def replacements : List Char → List Replacement
  | [] => []
  | '\\' :: c :: cs =>
    if Number.isDigit c then .group (c.toNat - 48) :: replacements cs
    else if c = 'n' then .text '\n' :: replacements cs
    else if c = 't' then .text '\t' :: replacements cs
    else .text c :: replacements cs
  | '&' :: cs => .group 0 :: replacements cs
  | c :: cs => .text c :: replacements cs

structure SubstituteFlags where
  number : Nat := 1
  everywhere : Bool := false
  printed : Bool := false
  folded : Bool := false

def substituteFlags : Nat → SubstituteFlags → List Char → SubstituteFlags × List Char
  | 0, f, cs => (f, cs)
  | _ + 1, f, [] => (f, [])
  | fuel + 1, f, c :: cs =>
    if c = 'g' then substituteFlags fuel { f with everywhere := true } cs
    else if c = 'p' then substituteFlags fuel { f with printed := true } cs
    else if c = 'i' || c = 'I' then substituteFlags fuel { f with folded := true } cs
    else if Number.isDigit c then
      let ds := (c :: cs).takeWhile Number.isDigit
      substituteFlags fuel { f with number := Number.ofDigits ds } ((c :: cs).drop ds.length)
    else (f, c :: cs)

def lineText (cs : List Char) : List Char × List Char :=
  let cs := match cs.dropWhile fun c => c = ' ' || c = '\t' with
    | '\\' :: '\n' :: rest => rest
    | '\\' :: rest => rest
    | rest => rest
  (cs.takeWhile (· ≠ '\n'), cs.dropWhile (· ≠ '\n'))

def plainLetters : List Char :=
  "pdqQ=nNDPhHgGx".toList

def command? (extended : Bool) (c : Char) (cs : List Char) : Option (EditCommand × List Char) := do
  match c with
  | 's' =>
    let mark ← cs.head?
    let (pattern, rest) ← upTo? mark cs.tail
    let (text, rest) ← upTo? mark rest
    let r ← Regex.read? extended pattern
    let (f, rest) := substituteFlags (rest.length + 1) {} rest
    some (.substitute r (replacements text) f.folded f.number f.everywhere f.printed, rest)
  | 'y' =>
    let mark ← cs.head?
    let (source, rest) ← upTo? mark cs.tail
    let (target, rest) ← upTo? mark rest
    if source.length = target.length then some (.translate source target, rest) else none
  | 'a' => let (text, rest) := lineText cs; some (.append text, rest)
  | 'i' => let (text, rest) := lineText cs; some (.insert text, rest)
  | 'c' => let (text, rest) := lineText cs; some (.change text, rest)
  | '\x7b' => some (.openBlock, cs)
  | '\x7d' => some (.closeBlock, cs)
  | ':' =>
    let cs := cs.dropWhile (· = ' ')
    let name := cs.takeWhile fun c => !isGap c
    some (.label (String.ofList name), cs.drop name.length)
  | c =>
    if c = 'b' || c = 't' then
      let cs := cs.dropWhile (· = ' ')
      let name := cs.takeWhile fun c => !isGap c && c ≠ '\x7d'
      some (.jump (c = 't') (String.ofList name), cs.drop name.length)
    else if plainLetters.contains c then some (.plain c, cs)
    else none

def read? (extended : Bool) : Nat → List Char → Option (List Edit)
  | 0, _ => none
  | fuel + 1, cs => do
    match cs.dropWhile isGap with
    | [] => some []
    | '#' :: rest => read? extended fuel (rest.dropWhile (· ≠ '\n'))
    | cs =>
      let (a, rest) ← address? extended cs
      let (b, rest) ← match a, rest with
        | some _, ',' :: rest => address? extended (rest.dropWhile (· = ' '))
        | _, rest => some (none, rest)
      let rest := rest.dropWhile fun c => c = ' ' || c = '\t'
      let (negated, rest) := match rest with
        | '!' :: rest => (true, rest.dropWhile (· = ' '))
        | rest => (false, rest)
      match rest with
      | [] => none
      | c :: rest =>
        let (command, rest) ← command? extended c rest
        let more ← read? extended fuel rest
        some (⟨a, b, negated, command⟩ :: more)

end Edit

/-- Editing under way; `spans` are the commands whose range of lines has begun. -/
structure Editor where
  lines : List (List Char)
  number : Nat := 0
  held : List Char := []
  stored : List Char := []
  out : List Char := []
  behind : List Char := []
  spans : List Nat := []
  changed : Bool := false
  finished : Bool := false
  silent : Bool := false

namespace Editor

def isLast (e : Editor) : Bool :=
  e.lines.isEmpty

def addressed (e : Editor) : Address → Bool
  | .line n => e.number = n
  | .last => e.isLast
  | .regex r folded => (Regex.find? folded r e.held).isSome
  | .every first step =>
    if step = 0 then e.number = first else first ≤ e.number && (e.number - first) % step = 0

def selects (e : Editor) (index : Nat) (edit : Edit) : Bool × Editor :=
  let (holds, e) := match edit.from', edit.upTo with
    | none, _ => (true, e)
    | some a, none => (e.addressed a, e)
    | some a, some b =>
      let close (e : Editor) : Editor := { e with spans := e.spans.filter (· ≠ index) }
      if e.spans.contains index then
        match b with
        | .line n => if e.number < n then (true, e) else (e.number = n, close e)
        | b => (true, if e.addressed b then close e else e)
      else if e.addressed a then
        match b with
        | .line n => (true, if n ≤ e.number then e else { e with spans := index :: e.spans })
        | _ => (true, { e with spans := index :: e.spans })
      else (false, e)
  (holds != edit.negated, e)

def write (e : Editor) (cs : List Char) : Editor :=
  { e with out := e.out ++ cs ++ ['\n'] }

def endLine (e : Editor) (shown : Bool) : Editor :=
  let e := if shown && !e.silent then e.write e.held else e
  { e with out := e.out ++ e.behind, behind := [] }

def replacementText (s t : Spot) (parts : List Replacement) : List Char :=
  let whole := s.rest.take (s.rest.length - t.rest.length)
  parts.flatMap fun part => match part with
    | .text c => [c]
    | .group 0 => whole
    | .group i => (t.groups.lookup i).getD []

def substituted (r : Regex) (parts : List Replacement) (folded : Bool) (everywhere : Bool) :
    Nat → Nat → Option Char → List Char → Bool → List Char × Bool
  | 0, _, _, cs, _ => (cs, false)
  | fuel + 1, number, before, cs, afterMatch =>
    match Regex.search? folded r cs ⟨before, cs, []⟩ with
    | none => (cs, false)
    | some (skipped, s, t) =>
      let isEmpty := s.rest.length = t.rest.length
      -- An empty match right behind another one does not count.
      let ignored := isEmpty && afterMatch && skipped = []
      let replace := number ≤ 1 && !ignored
      let text := if replace then replacementText s t parts
        else s.rest.take (s.rest.length - t.rest.length)
      if replace && !everywhere then (skipped ++ text ++ t.rest, true)
      else
        let number := if ignored then number else number - 1
        if isEmpty then
          -- The search goes on behind the next character, or else it would find the same again.
          match t.rest with
          | [] => (skipped ++ text, replace)
          | c :: rest =>
            let (more, changed) :=
              substituted r parts folded everywhere fuel number (some c) rest false
            (skipped ++ text ++ c :: more, replace || changed)
        else
          let (more, changed) :=
            substituted r parts folded everywhere fuel number t.before t.rest true
          (skipped ++ text ++ more, replace || changed)

inductive Turn where
  | next
  | goTo (index : Nat)
  | endCycle (shown : Bool)
  | quit (shown : Bool)

def labelAt (edits : List Edit) (name : String) : Nat :=
  if name = "" then edits.length
  else (edits.findIdx? fun e => e.command = .label name).getD edits.length

def blockEnd : Nat → List Edit → Nat → Nat
  | depth, edit :: rest, i =>
    match edit.command with
    | .openBlock => blockEnd (depth + 1) rest (i + 1)
    | .closeBlock => if depth = 0 then i + 1 else blockEnd (depth - 1) rest (i + 1)
    | _ => blockEnd depth rest (i + 1)
  | _, [], i => i

def takeLine (e : Editor) : Option (List Char × Editor) :=
  match e.lines with
  | [] => none
  | l :: ls => some (l, { e with lines := ls, number := e.number + 1 })

def firstLine (cs : List Char) : List Char :=
  cs.takeWhile (· ≠ '\n')

def plain (e : Editor) (letter : Char) : Editor × Turn :=
  match letter with
  | 'p' => (e.write e.held, .next)
  | 'd' => (e, .endCycle false)
  | 'q' => (e, .quit true)
  | 'Q' => (e, .quit false)
  | '=' => (e.write (Number.digits e.number), .next)
  | 'n' =>
    match e.takeLine with
    | none => (e, .quit true)
    | some (l, taken) => ({ taken with out := (e.endLine true).out, behind := [], held := l }, .next)
  | 'N' =>
    match e.takeLine with
    | none => (e, .quit true)
    | some (l, taken) => ({ taken with held := e.held ++ '\n' :: l }, .next)
  | 'P' => (e.write (firstLine e.held), .next)
  | 'D' =>
    match e.held.dropWhile (· ≠ '\n') with
    | _ :: rest =>
      ({ e with lines := rest :: e.lines, number := e.number - 1 }, .endCycle false)
    | [] => (e, .endCycle false)
  | 'h' => ({ e with stored := e.held }, .next)
  | 'H' => ({ e with stored := e.stored ++ '\n' :: e.held }, .next)
  | 'g' => ({ e with held := e.stored }, .next)
  | 'G' => ({ e with held := e.held ++ '\n' :: e.stored }, .next)
  | _ => ({ e with held := e.stored, stored := e.held }, .next)

def carryOut (edits : List Edit) (e : Editor) (edit : Edit) : Editor × Turn :=
  match edit.command with
  | .substitute r parts folded number everywhere printed =>
    let (held, changed) :=
      substituted r parts folded everywhere (e.held.length + 2) number none e.held false
    let e := { e with held, changed := e.changed || changed }
    (if changed && printed then e.write held else e, .next)
  | .translate source target => ({ e with held := e.held.map (replaced source target) }, .next)
  | .append text => ({ e with behind := e.behind ++ text ++ ['\n'] }, .next)
  | .insert text => (e.write text, .next)
  | .change text =>
    -- For a range the text is written once, at its end.
    let within := edit.upTo.isSome && !edit.negated && !e.spans.isEmpty
    (if within then e else e.write text, .endCycle false)
  | .jump ifChanged name =>
    if ifChanged && !e.changed then (e, .next)
    else ({ e with changed := if ifChanged then false else e.changed }, .goTo (labelAt edits name))
  | .plain letter => e.plain letter
  | _ => (e, .next)

def cycle (edits : List Edit) : Nat → Nat → Editor → Editor × Turn
  | 0, _, e => (e, .endCycle true)
  | fuel + 1, index, e =>
    match edits[index]? with
    | none => (e, .endCycle true)
    | some edit =>
      let (chosen, e) := e.selects index edit
      if !chosen then
        let next := if edit.command = .openBlock then blockEnd 0 (edits.drop (index + 1)) (index + 1)
          else index + 1
        cycle edits fuel next e
      else match carryOut edits e edit with
        | (e, .next) => cycle edits fuel (index + 1) e
        | (e, .goTo i) => cycle edits fuel i e
        | r => r

def maxSteps : Nat :=
  100000

def run (edits : List Edit) : Nat → Editor → Editor
  | 0, e => e
  | fuel + 1, e =>
    match e.takeLine with
    | none => e
    | some (l, e) =>
      match cycle edits maxSteps 0 { e with held := l, changed := false } with
      | (e, .quit shown) => { e.endLine shown with finished := true }
      | (e, .endCycle shown) => run edits fuel (e.endLine shown)
      | (e, _) => run edits fuel (e.endLine true)

end Editor

def sedForms : OptionForms :=
  { plain := "nErsiuz", valued := "ef"
    long := [("quiet", 'n'), ("silent", 'n'), ("expression", 'e'), ("regexp-extended", 'E'),
      ("in-place", 'i')] }

def edited (edits : List Edit) (silent : Bool) (cs : List Char) : List Char :=
  let lines := (bareLines cs).map wide
  let e := Editor.run edits (2 * lines.length + 1000) { lines, silent }
  let out := narrowChars e.out
  if cs ≠ [] && cs.getLast? ≠ some '\n' && !e.finished then out.dropLast else out

def sed : Routine := withOptions sedForms 1 fun o p =>
  let given := (o.flags.filter (·.1 = 'e')).map (·.2)
  let (scripts, operands) := if given = [] then (o.operands.take 1, o.operands.drop 1)
    else (given, o.operands)
  if scripts = [] then (p.complain "no script specified").fail 1
  else
    let text := (widen ("\n".intercalate scripts)).toList
    match Edit.read? (o.has 'E' || o.has 'r') (text.length + 1) text with
    | none => p.complain "-e expression #1, char 0: malformed command"
    | some edits =>
      if o.has 'i' then
        operands.foldl (fun p operand =>
          match p.content operand with
          | (.ok cs, p) => teeFile p false (edited edits (o.has 'n') cs) operand
          | (.error cause, p) => p.complain ("can't read " ++ operand ++ ": " ++ cause.text)) p
      else
        let (cs, p) := (if operands = [] then ["-"] else operands).foldl (fun (cs, p) operand =>
          match p.content operand with
          | (.ok more, p) => (cs ++ more, p)
          | (.error cause, p) =>
            (cs, (p.complain ("can't read " ++ operand ++ ": " ++ cause.text)).fail 2)) ([], p)
        p.sayChars (edited edits (o.has 'n') cs)

end BuildPipeline.StockSystem.Program
