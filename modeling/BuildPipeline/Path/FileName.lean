import BuildPipeline.Path.Basic
import BuildPipeline.Text.DecimalDigit
import BuildPipeline.Text.LowerCase

set_option autoImplicit false

namespace BuildPipeline.FileName

def splitExtension (cs : List Char) : List Char × List Char :=
  let tail := cs.reverse.takeWhile fun c => c ≠ '.' && c ≠ '/'
  match cs.reverse.drop tail.length with
  | '.' :: stem =>
    if (stem.takeWhile (· ≠ '/')).any (· ≠ '.') then (stem.reverse, '.' :: tail.reverse)
    else (cs, [])
  | _ => (cs, [])

/-- The lower-case base name of a bare name, a path with either separator, or an address, without
its extension. -/
def lookupKey (name : String) : String :=
  let slashed := name.toList.map fun c => if c = '\\' then '/' else c
  let base := (Path.ofText (String.ofList slashed)).name.toList
  match (splitExtension base).1 with
  | [] => Text.lower (String.ofList base)
  | stem => Text.lower (String.ofList stem)

inductive Kind where
  | script
  | markup
  | other
  deriving DecidableEq, Repr

def Kind.name : Kind → String
  | .script => "script"
  | .markup => "markup"
  | .other => "other"

structure Endings where
  script : List Char
  markup : List Char
  deriving DecidableEq, Repr

def Endings.of (script markup : String) : Endings :=
  ⟨(Text.lower script).toList, (Text.lower markup).toList⟩

def Endings.standard : Endings :=
  ⟨".js".toList, ".html".toList⟩

def cutEnding (cs ending : List Char) : List Char :=
  if ending = [] then [] else cs.take (cs.length - ending.length)

def classify (endings : Endings) (name : String) : Kind × String :=
  let lowered := (Text.lower name).toList
  if endings.script.isSuffixOf lowered then
    (.script, String.ofList (cutEnding lowered endings.script))
  else if endings.markup.isSuffixOf lowered then
    (.markup, String.ofList (cutEnding lowered endings.markup))
  else (.other, String.ofList (splitExtension lowered).1)

def outputSuffix : List Char :=
  ".js".toList

def isAnyI (c : Char) : Bool :=
  c == 'i' || c == 'I' || c == '\u0131' || c == '\u0130'

def beforeSourceSuffix? : List Char → Option (List Char)
  | a :: b :: m :: i :: '.' :: rest =>
    if a.toLower = 'a' && b.toLower = 'b' && m.toLower = 'm' && isAnyI i then some rest else none
  | _ => none

def beforeNumberedSuffix? : List Char → Option (List Char)
  | [] => none
  | d :: rest =>
    (beforeSourceSuffix? (d :: rest)).or
      (if Text.isDigit d then beforeSourceSuffix? rest else none)

def replaceSourceSuffix? (cs : List Char) : Option (List Char) :=
  match cs.reverse with
  | '\n' :: rest =>
    (beforeNumberedSuffix? rest).map fun stem => stem.reverse ++ outputSuffix ++ ['\n']
  | rest => (beforeNumberedSuffix? rest).map fun stem => stem.reverse ++ outputSuffix

/-- The file that a source is compiled to. A path that has no source suffix gets the output suffix
in place of its own; that fails for a path without a name. -/
def output? (source : Path) : Option Path :=
  match replaceSourceSuffix? source.text.toList with
  | some cs => some (Path.ofText (String.ofList cs))
  | none => source.withSuffix? outputSuffix

end BuildPipeline.FileName
