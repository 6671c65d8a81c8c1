import BuildPipeline.StockSystem.Program.Characters

set_option autoImplicit false

namespace BuildPipeline.StockSystem.Program

inductive Regex where
  | empty
  | char (c : Char)
  | any
  | among (negated : Bool) (ranges : List (Char × Char)) (classes : List String)
  | start
  | finish
  | wordStart
  | wordEnd
  | wordEdge (wanted : Bool)
  | group (index : Nat) (body : Regex)
  | back (index : Nat)
  | follow (first second : Regex)
  | either (first second : Regex)
  | repeated (least : Nat) (most : Option Nat) (body : Regex)
  deriving DecidableEq, Repr

structure Spot where
  before : Option Char
  rest : List Char
  groups : List (Nat × List Char) := []
  deriving DecidableEq, Repr

namespace Regex

def isWordChar (c : Char) : Bool :=
  c.isAlphanum || c == '_' || 128 ≤ c.toNat

def sameChar (folded : Bool) (a b : Char) : Bool :=
  a = b || (folded && a.toLower = b.toLower)

def inSet (ranges : List (Char × Char)) (classes : List String) (c : Char) : Bool :=
  (ranges.any fun r => r.1 ≤ c && c ≤ r.2)
    || classes.any fun name => ((classNamed? name).map fun holds => holds c).getD false

def holdsChar (folded : Bool) (negated : Bool) (ranges : List (Char × Char))
    (classes : List String) (c : Char) : Bool :=
  (inSet ranges classes c
    || (folded && (inSet ranges classes c.toLower || inSet ranges classes c.toUpper))) != negated

def Spot.take (s : Spot) (holds : Char → Bool) : List Spot :=
  match s.rest with
  | c :: rest => if holds c then [{ s with before := some c, rest }] else []
  | [] => []

def Spot.edges (s : Spot) : Bool × Bool :=
  (s.before.any isWordChar, s.rest.head?.any isWordChar)

def when (s : Spot) (holds : Bool) : List Spot :=
  if holds then [s] else []

def literally (folded : Bool) (s : Spot) : List Char → List Spot
  | [] => [s]
  | c :: cs =>
    match s.rest with
    | d :: rest =>
      if sameChar folded c d then literally folded { s with before := some d, rest } cs else []
    | [] => []

/-- The places where a match can end, greedy ones first. -/
def ends (folded : Bool) : Nat → Regex → Spot → List Spot
  | 0, _, _ => []
  | fuel + 1, r, s =>
    match r with
    | .empty => [s]
    | .char c => Spot.take s (sameChar folded c)
    | .any => Spot.take s fun _ => true
    | .among negated ranges classes => Spot.take s (holdsChar folded negated ranges classes)
    | .start => when s s.before.isNone
    | .finish => when s s.rest.isEmpty
    | .wordStart => when s (Spot.edges s = (false, true))
    | .wordEnd => when s (Spot.edges s = (true, false))
    | .wordEdge wanted => when s (((Spot.edges s).1 != (Spot.edges s).2) = wanted)
    | .group index body =>
      (ends folded fuel body s).map fun t =>
        let text := s.rest.take (s.rest.length - t.rest.length)
        { t with groups := (index, text) :: t.groups.filter fun g => g.1 ≠ index }
    | .back index =>
      match s.groups.lookup index with
      | some text => literally folded s text
      | none => []
    | .follow a b => (ends folded fuel a s).flatMap (ends folded fuel b)
    | .either a b => ends folded fuel a s ++ ends folded fuel b s
    | .repeated (least + 1) most body =>
      (ends folded fuel body s).flatMap (ends folded fuel (.repeated least (most.map (· - 1)) body))
    | .repeated 0 most body =>
      if most = some 0 then [s]
      else
        -- Each turn must take something, so that there is an end to them.
        let once := (ends folded fuel body s).filter fun t => t.rest.length < s.rest.length
        once.flatMap (ends folded fuel (.repeated 0 (most.map (· - 1)) body)) ++ [s]

def maxSteps : Nat :=
  100000

def matchAt? (folded : Bool) (r : Regex) (s : Spot) : Option Spot :=
  match ends folded maxSteps r { s with groups := [] } with
  | [] => none
  | t :: ts => some (ts.foldl (fun best t => if t.rest.length < best.rest.length then t else best) t)

def search? (folded : Bool) (r : Regex) : List Char → Spot → Option (List Char × Spot × Spot)
  | [], s => (matchAt? folded r s).map fun t => ([], s, t)
  | c :: cs, s =>
    match matchAt? folded r s with
    | some t => some ([], s, t)
    | none => (search? folded r cs { s with before := some c, rest := cs }).map fun m => (c :: m.1, m.2)

def find? (folded : Bool) (r : Regex) (text : List Char) : Option (List Char × Spot × Spot) :=
  search? folded r text ⟨none, text, []⟩

structure Reading where
  regex : Regex
  rest : List Char
  groups : Nat

def setMembers : Nat → Bool → List Char →
    Option (List (Char × Char) × List String × List Char)
  | 0, _, _ => none
  | _ + 1, _, [] => none
  | fuel + 1, first, c :: cs =>
    if c = ']' && !first then some ([], [], cs)
    else match classHead? (c :: cs) with
      | some (_, rest) =>
        (setMembers fuel false rest).map fun (rs, ns, rest) =>
          (rs, String.ofList ((cs.drop 1).takeWhile (· ≠ ':')) :: ns, rest)
      | none =>
        match cs with
        | '-' :: d :: rest =>
          if d = ']' then (setMembers fuel false cs).map fun (rs, ns, rest) => ((c, c) :: rs, ns, rest)
          else (setMembers fuel false rest).map fun (rs, ns, rest) => ((c, d) :: rs, ns, rest)
        | cs => (setMembers fuel false cs).map fun (rs, ns, rest) => ((c, c) :: rs, ns, rest)

def set? (cs : List Char) : Option (Regex × List Char) :=
  let (negated, cs) := match cs with
    | '^' :: rest => (true, rest)
    | cs => (false, cs)
  (setMembers (cs.length + 1) true cs).map fun (rs, ns, rest) => (.among negated rs ns, rest)

def bounds? (extended : Bool) (cs : List Char) : Option (Nat × Option Nat × List Char) :=
  let low := cs.takeWhile Number.isDigit
  let (high, rest) := match cs.drop low.length with
    | ',' :: rest =>
      let ds := rest.takeWhile Number.isDigit
      (if ds = [] then none else some (Number.ofDigits ds), rest.drop ds.length)
    | rest => (some (Number.ofDigits low), rest)
  let least := Number.ofDigits low
  match extended, rest with
  | true, '\x7d' :: rest => some (least, high, rest)
  | false, '\\' :: '\x7d' :: rest => some (least, high, rest)
  | _, _ => none

def repetition? (extended : Bool) (cs : List Char) : Option (Nat × Option Nat × List Char) :=
  match extended, cs with
  | _, '*' :: rest => some (0, none, rest)
  | true, '+' :: rest => some (1, none, rest)
  | true, '?' :: rest => some (0, some 1, rest)
  | true, '\x7b' :: rest => bounds? true rest
  | false, '\\' :: '+' :: rest => some (1, none, rest)
  | false, '\\' :: '?' :: rest => some (0, some 1, rest)
  | false, '\\' :: '\x7b' :: rest => bounds? false rest
  | _, _ => none

def repeatAll (extended : Bool) : Nat → Reading → Reading
  | 0, r => r
  | fuel + 1, r =>
    match repetition? extended r.rest with
    | some (least, most, rest) =>
      repeatAll extended fuel { r with regex := .repeated least most r.regex, rest }
    | none => r

def classEscape? (c : Char) : Option Regex :=
  match c with
  | 'w' => some (.among false [('_', '_')] ["alnum"])
  | 'W' => some (.among true [('_', '_')] ["alnum"])
  | 's' => some (.among false [] ["space"])
  | 'S' => some (.among true [] ["space"])
  | '<' => some .wordStart
  | '>' => some .wordEnd
  | 'b' => some (.wordEdge true)
  | 'B' => some (.wordEdge false)
  | 'n' => some (.char '\n')
  | 't' => some (.char '\t')
  | _ => none

def endsBranch (extended : Bool) (cs : List Char) : Bool :=
  match extended, cs with
  | _, [] => true
  | true, '|' :: _ => true
  | true, ')' :: _ => true
  | false, '\\' :: '|' :: _ => true
  | false, '\\' :: ')' :: _ => true
  | _, _ => false

mutual

def alternatives (extended : Bool) : Nat → Nat → List Char → Option Reading
  | 0, _, _ => none
  | fuel + 1, groups, cs => do
    let first ← branch extended fuel groups true cs
    match extended, first.rest with
    | true, '|' :: rest =>
      let second ← alternatives extended fuel first.groups rest
      some { second with regex := .either first.regex second.regex }
    | false, '\\' :: '|' :: rest =>
      let second ← alternatives extended fuel first.groups rest
      some { second with regex := .either first.regex second.regex }
    | _, _ => some first

def branch (extended : Bool) : Nat → Nat → Bool → List Char → Option Reading
  | 0, _, _, _ => none
  | fuel + 1, groups, first, cs => do
    if endsBranch extended cs then some ⟨.empty, cs, groups⟩
    else
      let a ← piece extended fuel groups first cs
      let a := repeatAll extended (a.rest.length + 1) a
      let b ← branch extended fuel a.groups (first && a.regex = .start) a.rest
      some { b with regex := .follow a.regex b.regex }

def piece (extended : Bool) : Nat → Nat → Bool → List Char → Option Reading
  | 0, _, _, _ => none
  | fuel + 1, groups, first, cs => do
    let group (rest : List Char) : Option Reading := do
      let inner ← alternatives extended fuel (groups + 1) rest
      let closed ← match extended, inner.rest with
        | true, ')' :: rest => some rest
        | false, '\\' :: ')' :: rest => some rest
        | _, _ => none
      some ⟨.group (groups + 1) inner.regex, closed, inner.groups⟩
    match extended, cs with
    | _, '[' :: rest => (set? rest).map fun (r, rest) => ⟨r, rest, groups⟩
    | _, '.' :: rest => some ⟨.any, rest, groups⟩
    | true, '^' :: rest => some ⟨.start, rest, groups⟩
    | true, '$' :: rest => some ⟨.finish, rest, groups⟩
    | true, '(' :: rest => group rest
    | false, '^' :: rest => some ⟨if first then .start else .char '^', rest, groups⟩
    | false, '$' :: rest =>
      some ⟨if endsBranch false rest then .finish else .char '$', rest, groups⟩
    | false, '\\' :: '(' :: rest => group rest
    | _, '\\' :: c :: rest =>
      match classEscape? c with
      | some r => some ⟨r, rest, groups⟩
      | none =>
        if Number.isDigit c && c ≠ '0' then some ⟨.back (c.toNat - 48), rest, groups⟩
        else some ⟨.char c, rest, groups⟩
    | _, ['\\'] => none
    | _, c :: rest => some ⟨.char c, rest, groups⟩
    | _, [] => none

end

def read? (extended : Bool) (cs : List Char) : Option Regex :=
  match alternatives extended (8 * cs.length + 20) 0 cs with
  | some ⟨r, [], _⟩ => some r
  | _ => none

def literal (cs : List Char) : Regex :=
  cs.foldr (fun c r => .follow (.char c) r) .empty

end Regex

end BuildPipeline.StockSystem.Program
