import BuildPipeline.Console
import BuildPipeline.SourceMap.InlineMap
import BuildPipeline.SourceMap.Mappings
import BuildPipeline.Text.Utf16

set_option autoImplicit false

/-!
Putting unmapped text in front of compiled code while its map stays valid: the lines of the map
move down by the lines of that text, and the first of them to the right by its last line. Where
the map cannot be rebuilt, the code stands without it.
-/

namespace BuildPipeline.SourceMap

structure Parts where
  mappings : List Char
  sources : List Value
  names : List Value
  file : Value

def listMember (map : Mapping) (key : String) : Except Fault (List Value) :=
  match map.member key with
  | .list items => .ok items
  | v => if v.truthy then .error .notLists else .ok []

/-- The file the map is for: the one given, unless it is empty, else the one the map names. -/
def target (map : Mapping) (file : Option String) : Value :=
  match file with
  | some name => if name = "" then map.member "file" else .str name
  | none => map.member "file"

def Parts.of (map : Mapping) (file : Option String) : Except Fault Parts := do
  if !((map.get? (.str "version")).getD (.int 3)).sameKey (.int 3) then
    .error (.ofVersion (map.member "version"))
  else if let .str mappings := map.member "mappings" then do
    let sources ← listMember map "sources"
    let names ← listMember map "names"
    if (target map file).truthy then
      .ok ⟨mappings.toList, sources, names, target map file⟩
    else .error .noFile
  else .error .noMappings

def Parts.counts (p : Parts) : Counts :=
  ⟨p.sources.length, p.names.length⟩

def shiftFirst (n : Int) : Lines → Lines
  | [] => []
  | line :: rest => line.map (Segment.shift n) :: rest

def lastLine (cs : List Char) : List Char :=
  (cs.reverse.takeWhile (· ≠ '\n')).reverse

def stitchLines (lead body : List Char) (lines : Lines) : Lines :=
  List.replicate (lead.count '\n') []
    ++ shiftFirst (Text.width16 (lastLine lead)) (lines.take (body.count '\n' + 1))

def contents? (map : Mapping) : Option Value :=
  match map.member "sourcesContent" with
  | .list items => some (.list items)
  | _ => none

def stitchedMap (map : Mapping) (p : Parts) (lines : Lines) : Mapping :=
  [(.str "version", .int 3), (.str "file", .str p.file.text)]
    ++ ((map.get? (.str "sourceRoot")).map fun v => (.str "sourceRoot", v)).toList
    ++ [(.str "sources", .list p.sources)]
    ++ ((contents? map).map fun v => (.str "sourcesContent", v)).toList
    ++ [(.str "names", .list p.names), (.str "mappings", .str (String.ofList lines.write))]

structure Stitched where
  code : List Char
  map : Mapping
  file : Value

def stitchMap (code : List Char) (map : Mapping) (lead : List Char) (file : Option String) :
    Except Fault Stitched := do
  let p ← Parts.of map file
  let lines ← Lines.read p.counts p.mappings
  if p.file.isTooLong then .error .tooLong
  else
    let stitched := stitchedMap map p (stitchLines lead (body code) lines)
    match mapComment stitched with
    | .error cause => .error (.unwritable cause)
    | .ok comment => .ok ⟨lead ++ body code ++ '\n' :: comment, stitched, p.file⟩

def stitch? (code : List Char) (map : Value) (lead : List Char) (file : Option String) :
    Except Fault Stitched :=
  match map with
  | .map members => stitchMap code members lead file
  | _ => .error .notMapping

structure Output where
  code : String
  map : Option Mapping
  deriving DecidableEq, Repr

/-- Never fails: a fault is told on the console, and the code is left without a map. -/
def stitch (console : Console) (code : String) (map : Value) (lead : String)
    (file : Option String) : Output × Console :=
  match stitch? code.toList map lead.toList file with
  | .ok s =>
    (⟨String.ofList s.code, some s.map⟩,
      console.debug ("Stitched " ++ Number.natText (lead.toList.count '\n')
        ++ " unmapped line(s) into debug map for " ++ s.file.text))
  | .error fault =>
    (⟨lead ++ code, none⟩,
      console.warning ("Error patching source map, emitting code without it: " ++ fault.message))

end BuildPipeline.SourceMap
