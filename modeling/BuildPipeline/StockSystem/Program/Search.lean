import BuildPipeline.StockSystem.Program.Options
import BuildPipeline.StockSystem.Program.Regex

set_option autoImplicit false

namespace BuildPipeline.StockSystem.Program

def wide (cs : List Char) : List Char :=
  (widen (String.ofList cs)).toList

def grepForms : OptionForms :=
  { plain := "EFGcvinqloswxhHay", valued := "em"
    long := [("count", 'c'), ("invert-match", 'v'), ("ignore-case", 'i'), ("line-number", 'n'),
      ("quiet", 'q'), ("only-matching", 'o'), ("regexp", 'e'), ("extended-regexp", 'E'),
      ("fixed-strings", 'F'), ("word-regexp", 'w'), ("line-regexp", 'x')] }

def grepRegex? (o : Options) (pattern : List Char) : Option Regex :=
  let one (cs : List Char) : Option Regex :=
    (if o.has 'F' then some (Regex.literal cs) else Regex.read? (o.has 'E') cs).map fun r =>
      if o.has 'x' then .follow .start (.follow r .finish)
      else if o.has 'w' then
        .follow (.either .wordStart (.wordEdge false)) (.follow r (.either .wordEnd (.wordEdge false)))
      else r
  ((Text.pieces '\n' pattern).mapM one).map fun rs =>
    match rs with
    | [] => .empty
    | r :: rs => rs.foldl Regex.either r

def matchedParts (folded : Bool) (r : Regex) : Nat → Option Char → List Char → List (List Char)
  | 0, _, _ => []
  | fuel + 1, before, cs =>
    match Regex.search? folded r cs ⟨before, cs, []⟩ with
    | none => []
    | some (_, s, t) =>
      let text := s.rest.take (s.rest.length - t.rest.length)
      match text, t.rest with
      | [], [] => []
      | [], c :: rest => matchedParts folded r fuel (some c) rest
      | text, rest => text :: matchedParts folded r fuel t.before rest

def grepFile (o : Options) (r : Regex) (lead : String) (name : String) (cs : List Char) :
    String × Bool :=
  let folded := o.has 'i' || o.has 'y'
  let numbered := (bareLines cs).zipIdx
  let chosen := numbered.filter fun l => (Regex.find? folded r (wide l.1)).isSome != o.has 'v'
  let chosen := match (o.value? 'm').bind (·.toNat?) with
    | some n => chosen.take n
    | none => chosen
  let any := !chosen.isEmpty
  if o.has 'q' then ("", any)
  else if o.has 'l' then (if any then name ++ "\n" else "", any)
  else if o.has 'c' then (lead ++ Number.natText chosen.length ++ "\n", any)
  else
    let head (i : Nat) := lead ++ (if o.has 'n' then Number.natText (i + 1) ++ ":" else "")
    let shown := chosen.flatMap fun l =>
      if o.has 'o' then
        if o.has 'v' then []
        else (matchedParts folded r (l.1.length + 1) none (wide l.1)).map fun part =>
          head l.2 ++ narrow (String.ofList part) ++ "\n"
      else [head l.2 ++ String.ofList l.1 ++ "\n"]
    (String.join shown, any)

def grepFiles (o : Options) (r : Regex) (operands : List String) (p : Process) : Process :=
  let names := if operands = [] then ["-"] else operands
  let named := (o.has 'H' || 1 < operands.length) && !o.has 'h'
  let (p, any, bad) := names.foldl (fun (p, any, bad) operand =>
    match p.content operand with
    | (.error cause, p) =>
      (if o.has 's' then p else p.complainOf cause operand, any, true)
    | (.ok cs, p) =>
      let title := if operand = "-" then "(standard input)" else operand
      let (text, found) := grepFile o r (if named then title ++ ":" else "") title cs
      (p.say text, any || found, bad)) (p, false, false)
  p.fail (if bad && !(any && o.has 'q') then 2 else if any then 0 else 1)

def grep : Routine := withOptions grepForms 2 fun o p =>
  let given := (o.flags.filter (·.1 = 'e')).map (·.2)
  let (patterns, operands) := if given = [] then (o.operands.take 1, o.operands.drop 1)
    else (given, o.operands)
  if patterns = [] then
    let usage := "Usage: grep [OPTION]... PATTERNS [FILE]...\n"
    { p with said := p.said ++ [(2, usage.toList)] }.hint 2
  else match grepRegex? o (widen ("\n".intercalate patterns)).toList with
    | none => (p.complain "Invalid regular expression").fail 2
    | some r => grepFiles o r operands p

end BuildPipeline.StockSystem.Program
