import BuildPipeline.SourceMap.Marker
import BuildPipeline.Text.Blank
import BuildPipeline.Text.WordChar

set_option autoImplicit false

namespace BuildPipeline.Imports

open BuildPipeline.Text (isBlank isWord dropBlanks)

def wordEnds : List Char → Bool
  | [] => true
  | c :: _ => !isWord c

def isBindingChar (c : Char) : Bool :=
  isWord c || c == '$' || c == '*' || c == '\x7b' || c == '\x7d' || isBlank c || c == ','

def isSpecifierChar (c : Char) : Bool :=
  c != '\'' && c != '"' && c != '\r' && c != '\n'

def quotedSpecifier? : List Char → Option (List Char × List Char)
  | q :: rest =>
    if q == '\'' || q == '"' then
      match rest.takeWhile isSpecifierChar, rest.dropWhile isSpecifierChar with
      | c :: cs, e :: rest => if e = q then some (c :: cs, rest) else none
      | _, _ => none
    else none
  | [] => none

def specifier? (cs : List Char) : Option (List Char × List Char) :=
  match dropBlanks cs with
  | '(' :: rest => quotedSpecifier? (dropBlanks rest)
  | rest => quotedSpecifier? rest

def fromSpecifier? (before : Char) : List Char → Option (List Char × List Char)
  | 'f' :: 'r' :: 'o' :: 'm' :: rest =>
    if !isWord before && wordEnds rest then specifier? rest else none
  | _ => none

def afterBindings? (before : Char) : List Char → Option (List Char × List Char)
  | [] => none
  | c :: cs =>
    (fromSpecifier? before (c :: cs)).or
      (if isBindingChar c then afterBindings? c cs else none)

/-- Bindings, `from` and a specifier after the word `import`. Blanks alone are bindings only where
nothing else is. -/
def boundSpecifier? (cs : List Char) : Option (List Char × List Char) :=
  match dropBlanks cs with
  | [] => none
  | c :: rest =>
    (if isBindingChar c then afterBindings? c rest else none).or
      (if rest.length + 1 < cs.length then fromSpecifier? ' ' (c :: rest) else none)

def import? (before : Option Char) (cs : List Char) : Option (List Char × List Char) :=
  match SourceMap.after? "import".toList cs with
  | some rest =>
    if (before.all fun c => !isWord c) && wordEnds rest then
      (boundSpecifier? rest).or (specifier? rest)
    else none
  | none => none

/-- The specifiers of a script from the left. The first `inside` characters belong to an import
found before them. -/
def specifiersFrom (before : Option Char) : Nat → List Char → List String
  | _, [] => []
  | 0, c :: cs =>
    match import? before (c :: cs) with
    | none => specifiersFrom (some c) 0 cs
    | some (specifier, rest) =>
      String.ofList specifier :: specifiersFrom (some c) (cs.length - rest.length) cs
  | inside + 1, c :: cs => specifiersFrom (some c) inside cs

def specifiers (script : List Char) : List String :=
  specifiersFrom none 0 script

end BuildPipeline.Imports
