import BuildPipeline.SourceMap.Vlq
import BuildPipeline.Text.Pieces

set_option autoImplicit false

/-!
Mappings: for each generated line its segments, with absolute positions. In their text a line ends
with a semicolon and a segment with a comma, and every field is the difference to the last one of
its kind; columns of the generated line count from its start.
-/

namespace BuildPipeline.SourceMap

structure Origin where
  source : Int
  line : Int
  column : Int
  name : Option Int
  deriving DecidableEq, Repr

structure Segment where
  column : Int
  origin : Option Origin
  deriving DecidableEq, Repr

abbrev Lines := List (List Segment)

namespace Segment

def fields (s : Segment) : List Int :=
  match s.origin with
  | none => [s.column]
  | some o => s.column :: o.source :: o.line :: o.column :: o.name.toList

/-- A segment of one field, four or five. Of two or three fields the first alone counts, of more
than five the first four. -/
def ofFields? : List Int → Option Segment
  | [] => none
  | [column, source, line, col] => some ⟨column, some ⟨source, line, col, none⟩⟩
  | [column, source, line, col, name] =>
    some ⟨column, some ⟨source, line, col, some name⟩⟩
  | column :: source :: line :: col :: _ :: _ :: _ =>
    some ⟨column, some ⟨source, line, col, none⟩⟩
  | column :: _ => some ⟨column, none⟩

theorem ofFields?_fields (s : Segment) : ofFields? s.fields = some s := by
  obtain ⟨column, _ | ⟨source, line, col, _ | name⟩⟩ := s <;> rfl

def shift (n : Int) (s : Segment) : Segment :=
  { s with column := s.column + n }

end Segment

structure Totals where
  source : Int := 0
  line : Int := 0
  column : Int := 0
  name : Int := 0
  deriving DecidableEq, Repr

def Totals.after (t : Totals) (s : Segment) : Totals :=
  match s.origin with
  | none => t
  | some o => ⟨o.source, o.line, o.column, o.name.getD t.name⟩

structure Counts where
  sources : Int
  names : Int
  deriving DecidableEq, Repr

def checkColumn (column : Int) : Except Fault Unit :=
  if column < 0 then .error .negativeColumn else .ok ()

def checkOrigin (counts : Counts) (source line column : Int) : Except Fault Unit :=
  if source < 0 ∨ counts.sources ≤ source then .error (.ofIndex .sourceIndex source)
  else if line < 0 ∨ column < 0 then .error .negativePosition
  else .ok ()

def checkName (counts : Counts) (name : Int) : Except Fault Unit :=
  if name < 0 ∨ counts.names ≤ name then .error (.ofIndex .nameIndex name) else .ok ()

def readSegment (counts : Counts) (t : Totals) (generated : Int) (piece : List Char) :
    Except Fault Segment := do
  let fields ← Vlq.decode piece
  match fields with
  | [a] => do
    checkColumn (generated + a)
    .ok ⟨generated + a, none⟩
  | [a, b, c, d] => do
    checkColumn (generated + a)
    checkOrigin counts (t.source + b) (t.line + c) (t.column + d)
    .ok ⟨generated + a, some ⟨t.source + b, t.line + c, t.column + d, none⟩⟩
  | [a, b, c, d, e] => do
    checkColumn (generated + a)
    checkOrigin counts (t.source + b) (t.line + c) (t.column + d)
    checkName counts (t.name + e)
    .ok ⟨generated + a, some ⟨t.source + b, t.line + c, t.column + d, some (t.name + e)⟩⟩
  | fields => .error (.fieldCount piece fields.length)

def readPieces (counts : Counts) :
    Totals → Int → List (List Char) → Except Fault (List Segment × Totals)
  | t, _, [] => .ok ([], t)
  | t, generated, [] :: rest => readPieces counts t generated rest
  | t, generated, piece :: rest => do
    let segment ← readSegment counts t generated piece
    let (segments, t) ← readPieces counts (t.after segment) segment.column rest
    .ok (segment :: segments, t)

def readLines (counts : Counts) : Totals → List (List Char) → Except Fault Lines
  | _, [] => .ok []
  | t, line :: rest => do
    let (segments, t) ← readPieces counts t 0 (Text.pieces ',' line)
    let lines ← readLines counts t rest
    .ok (segments :: lines)

def Lines.read (counts : Counts) (mappings : List Char) : Except Fault Lines :=
  readLines counts {} (Text.pieces ';' mappings)

def writeSegment (t : Totals) (generated : Int) (s : Segment) : List Char :=
  Vlq.encode (s.column - generated) ++
    match s.origin with
    | none => []
    | some o =>
      Vlq.encode (o.source - t.source) ++ Vlq.encode (o.line - t.line)
        ++ Vlq.encode (o.column - t.column)
        ++ match o.name with
          | none => []
          | some name => Vlq.encode (name - t.name)

def writeSegments : Totals → Int → List Segment → List (List Char) × Totals
  | t, _, [] => ([], t)
  | t, generated, s :: rest =>
    let (pieces, final) := writeSegments (t.after s) s.column rest
    (writeSegment t generated s :: pieces, final)

def writeLines : Totals → Lines → List (List Char)
  | _, [] => []
  | t, line :: rest =>
    let (pieces, t) := writeSegments t 0 line
    Text.glue [','] pieces :: writeLines t rest

def Lines.write (lines : Lines) : List Char :=
  Text.glue [';'] (writeLines {} lines)

end BuildPipeline.SourceMap
