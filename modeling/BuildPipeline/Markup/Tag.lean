import BuildPipeline.Markup.Reference

set_option autoImplicit false

namespace BuildPipeline.Markup

def isSpace (c : Char) : Bool :=
  c == ' ' || c == '\t' || c == '\n' || c == '\x0c' || c == '\r'

structure Tag where
  name : String
  attributes : List (String × String)
  selfClosing : Bool
  deriving DecidableEq, Repr

def Tag.attribute? (t : Tag) (name : String) : Option String :=
  (t.attributes.find? (·.1 = name)).map (·.2)

def lowered (cs : List Char) : String :=
  String.ofList (cs.map Char.toLower)

def endsName (c : Char) : Bool :=
  isSpace c || c == '/' || c == '>'

def quotedValue? (quote : Char) (cs : List Char) : Option (List Char × List Char) :=
  match cs.dropWhile (· ≠ quote) with
  | [] => none
  | _ :: rest => some (resolveReferences (cs.takeWhile (· ≠ quote)), rest)

def value? (cs : List Char) : Option (List Char × List Char) :=
  match cs.dropWhile isSpace with
  | '"' :: rest => quotedValue? '"' rest
  | '\'' :: rest => quotedValue? '\'' rest
  | rest =>
    let ends (c : Char) := isSpace c || c == '>'
    some (resolveReferences (rest.takeWhile (!ends ·)), rest.dropWhile (!ends ·))

def attributeName : List Char → List Char × List Char
  | [] => ([], [])
  | c :: cs =>
    let ends (d : Char) := endsName d || d == '='
    (c :: cs.takeWhile (!ends ·), cs.dropWhile (!ends ·))

def readAttribute? (cs : List Char) : Option ((String × String) × List Char) :=
  let (name, rest) := attributeName cs
  match rest.dropWhile isSpace with
  | '=' :: rest => (value? rest).map fun (v, rest) => ((lowered name, String.ofList v), rest)
  | _ => some ((lowered name, ""), rest)

def readAttributes : Nat → List Char → Option (List (String × String) × Bool × List Char)
  | 0, _ => none
  | fuel + 1, cs =>
    match cs.dropWhile isSpace with
    | [] => none
    | '>' :: rest => some ([], false, rest)
    | '/' :: '>' :: rest => some ([], true, rest)
    | '/' :: rest => readAttributes fuel rest
    | rest => do
      let (first, rest) ← readAttribute? rest
      let (others, selfClosing, rest) ← readAttributes fuel rest
      some (first :: others, selfClosing, rest)

def startTag? (cs : List Char) : Option (Tag × List Char) := do
  let (attributes, selfClosing, rest) ←
    readAttributes (cs.length + 1) (cs.dropWhile (!endsName ·))
  some (⟨lowered (cs.takeWhile (!endsName ·)), attributes, selfClosing⟩, rest)

end BuildPipeline.Markup
