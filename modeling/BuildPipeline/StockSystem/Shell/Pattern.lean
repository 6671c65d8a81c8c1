import BuildPipeline.StockSystem.Program.Characters

set_option autoImplicit false

namespace BuildPipeline.StockSystem.Shell

/-- A character of a pattern, and whether it is quoted. -/
abbrev Marked := Char × Bool

inductive Glob where
  | any
  | one
  | among (negated : Bool) (ranges : List (Char × Char)) (classes : List String)
  | char (c : Char)
  deriving DecidableEq, Repr

def isPatternChar (m : Marked) : Bool :=
  !m.2 && (m.1 == '*' || m.1 == '?' || m.1 == '[')

def members : Nat → List Marked → Option (List (Char × Char) × List String × List Marked)
  | 0, _ => none
  | _ + 1, [] => none
  | fuel + 1, (c, quoted) :: rest =>
    if c = ']' && !quoted then some ([], [], rest)
    else
      match Program.classHead? (((c, quoted) :: rest).map (·.1)) with
      | some (_, after) =>
        let name := ((rest.map (·.1)).drop 1).takeWhile (· ≠ ':')
        (members fuel (rest.drop (rest.length - after.length))).map fun (rs, cs, rest) =>
          (rs, String.ofList name :: cs, rest)
      | none =>
        match rest with
        | ('-', false) :: (d, q) :: rest' =>
          if d = ']' && !q then
            (members fuel rest).map fun (rs, cs, rest) => ((c, c) :: rs, cs, rest)
          else (members fuel rest').map fun (rs, cs, rest) => ((c, d) :: rs, cs, rest)
        | rest => (members fuel rest).map fun (rs, cs, rest) => ((c, c) :: rs, cs, rest)

def brackets? (ms : List Marked) : Option (Glob × List Marked) :=
  let (negated, ms) := match ms with
    | ('!', false) :: rest => (true, rest)
    | ('^', false) :: rest => (true, rest)
    | ms => (false, ms)
  match ms with
  | (']', false) :: rest =>
    (members (rest.length + 1) ((']', true) :: rest)).map fun (rs, cs, rest) =>
      (.among negated rs cs, rest)
  | ms => (members (ms.length + 1) ms).map fun (rs, cs, rest) => (.among negated rs cs, rest)

def globsOf : Nat → List Marked → List Glob
  | 0, _ => []
  | _ + 1, [] => []
  | fuel + 1, (c, quoted) :: rest =>
    if quoted then .char c :: globsOf fuel rest
    else if c = '*' then .any :: globsOf fuel rest
    else if c = '?' then .one :: globsOf fuel rest
    else if c = '[' then
      match brackets? rest with
      | some (g, rest) => g :: globsOf fuel rest
      | none => .char c :: globsOf fuel rest
    else .char c :: globsOf fuel rest

def Glob.holds (g : Glob) (c : Char) : Bool :=
  match g with
  | .any => true
  | .one => true
  | .char d => c = d
  | .among negated ranges classes =>
    ((ranges.any fun r => r.1 ≤ c && c ≤ r.2)
      || classes.any fun name => ((Program.classNamed? name).map fun holds => holds c).getD false)
      != negated

def globsMatch : List Glob → List Char → Bool
  | [], cs => cs.isEmpty
  | .any :: gs, [] => globsMatch gs []
  | .any :: gs, c :: cs => globsMatch gs (c :: cs) || globsMatch (.any :: gs) cs
  | _ :: _, [] => false
  | g :: gs, c :: cs => g.holds c && globsMatch gs cs
termination_by gs cs => gs.length + cs.length

def patternMatches (pattern : List Marked) (cs : List Char) : Bool :=
  globsMatch (globsOf (pattern.length + 1) pattern) cs

def cutHead (longest : Bool) (pattern : List Marked) (cs : List Char) : List Char :=
  let sizes := List.range (cs.length + 1)
  match (if longest then sizes.reverse else sizes).find? fun n => patternMatches pattern (cs.take n) with
  | some n => cs.drop n
  | none => cs

def cutTail (longest : Bool) (pattern : List Marked) (cs : List Char) : List Char :=
  let sizes := List.range (cs.length + 1)
  match (if longest then sizes else sizes.reverse).find? fun n => patternMatches pattern (cs.drop n) with
  | some n => cs.take n
  | none => cs

end BuildPipeline.StockSystem.Shell
