set_option autoImplicit false

namespace BuildPipeline.StockSystem.Shell

/-- What stands in the place of a parameter. With `orEmpty` an empty one counts as not set. -/
inductive Use where
  | value
  | length
  | orElse (orEmpty : Bool)
  | orAssign (orEmpty : Bool)
  | orFail (orEmpty : Bool)
  | onlyIf (orEmpty : Bool)
  | cutHead (longest : Bool)
  | cutTail (longest : Bool)
  | wrong
  deriving DecidableEq, Repr

inductive RedirectKind where
  | read
  | write
  | append
  | copy
  | text
  deriving DecidableEq, Repr

mutual

inductive Piece where
  | char (quoted : Bool) (c : Char)
  | quotes
  | parameter (quoted : Bool) (name : String) (use : Use) (other : List Piece)
  | output (quoted : Bool) (script : Node)
  | sum (quoted : Bool) (expression : List Piece)

inductive Node where
  | nothing
  | simple (line : Nat) (assigned : List (String × List Piece)) (words : List (List Piece))
      (redirects : List Redirect)
  | pipeline (stages : List Node)
  | negated (body : Node)
  | both (first second : Node)
  | either (first second : Node)
  | sequence (first second : Node)
  | background (body : Node)
  | subshell (body : Node)
  | redirected (line : Nat) (body : Node) (redirects : List Redirect)
  | branch (condition yes no : Node)
  | loop (wanted : Bool) (condition body : Node)
  | each (line : Nat) (name : String) (items : List (List Piece)) (body : Node)
  | choose (line : Nat) (subject : List Piece) (cases : List Case)
  | define (name : String) (body : Node)

inductive Redirect where
  | mk (stream : Nat) (kind : RedirectKind) (target : List Piece)

inductive Case where
  | mk (patterns : List (List Piece)) (body : Node)

end

instance : Inhabited Node := ⟨.nothing⟩

def bareText? : List Piece → Option String
  | [] => some ""
  | .char false c :: rest => (bareText? rest).map fun s => String.ofList (c :: s.toList)
  | _ => none

def isNameStart (c : Char) : Bool :=
  c.isAlpha || c == '_'

def isNameChar (c : Char) : Bool :=
  c.isAlphanum || c == '_'

def isName (s : String) : Bool :=
  match s.toList with
  | c :: cs => isNameStart c && cs.all isNameChar
  | [] => false

def quotedText (s : List Char) : List Piece :=
  s.map (Piece.char true)

end BuildPipeline.StockSystem.Shell
