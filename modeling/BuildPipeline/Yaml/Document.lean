import BuildPipeline.Yaml.Node
import BuildPipeline.Yaml.ScalarValue

set_option autoImplicit false

/-!
The value of a text of YAML. A mapping first takes the members of the mappings it merges, then its
own; of members with the same key the last one counts, and of mappings merged together the first. Of
several faults the one nearest to the root is told, and of those at one depth the first.
-/

namespace BuildPipeline.Yaml

structure Finding where
  depth : Nat
  fault : Fault

def Finding.inside (f : Finding) : Finding :=
  { f with depth := f.depth + 1 }

def insideAll (findings : List Finding) : List Finding :=
  findings.map Finding.inside

structure Entry where
  key : Value
  value : Value
  findings : List Finding

/-- What a node was read as: its value, which counts only without findings, and of a mapping its
entries, where those it merges come first. -/
structure Reading where
  value : Value
  findings : List Finding := []
  entries : Except Fault (List Entry) := .error .malformed
  merged : Except Fault (List Entry) := .error .malformed

def isCollectionTag (tag : Tag) : Bool :=
  tag == .seq || tag == .map || tag == .set || tag == .pairs

def shapeFinding (tag : Tag) : Finding :=
  ⟨if isCollectionTag tag then 1 else 0, .malformed⟩

def Reading.ofShape (tag : Tag) : Reading :=
  { value := .list [], findings := [shapeFinding tag] }

def Reading.ofScalar (tag : Tag) (text : List Char) : Reading :=
  if isCollectionTag tag then .ofShape tag
  else
    match scalarValue tag text with
    | .ok v => { value := v }
    | .error f => { value := .null, findings := [⟨0, f⟩] }

def isKey : Value → Bool
  | .list _ => false
  | .set _ => false
  | .map _ => false
  | .enclosing _ => false
  | _ => true

def keyFindings (key : Reading) : List Finding :=
  key.findings ++ if isKey key.value then [] else [⟨0, .malformed⟩]

def mergedItems (items : List Reading) : Except Fault (List Entry) :=
  (items.reverse.mapM Reading.entries).map List.flatten

def Reading.ofItems (tag : Tag) (items : List Reading) : Reading :=
  let r : Reading :=
    if tag == .seq then
      { value := .list (items.map (·.value)), findings := insideAll (items.flatMap (·.findings)) }
    else .ofShape tag
  { r with merged := mergedItems items }

def Reading.ofPairs (pairs : List (Option (Reading × Reading))) : Reading :=
  { value := .list (pairs.filterMap fun pair => pair.map fun p => .tuple [p.1.value, p.2.value])
    findings := pairs.flatMap fun pair => match pair with
      | some (key, value) => insideAll (key.findings ++ value.findings)
      | none => [shapeFinding .pairs] }

def entriesValue (tag : Tag) (es : List Entry) : Value :=
  let members := Mapping.ofList (es.map fun e => (e.key, e.value))
  if tag == .set then .set members.keys else .map members

def Reading.ofEntries (tag : Tag) (entries : Except Fault (List Entry)) (text : Option (List Char)) :
    Reading :=
  let r : Reading :=
    if tag == .map || tag == .set then
      match entries with
      | .error f => { value := .map [], findings := [⟨1, f⟩] }
      | .ok es =>
        { value := entriesValue tag es, findings := insideAll (es.flatMap (·.findings)) }
    else match text with
      | some text =>
        if tag == .timestamp then { value := .null, findings := [⟨0, .mappingForMoment⟩] }
        else .ofScalar tag text
      | none => .ofShape tag
  { r with entries, merged := entries }

/-- A mapping that merges the one it lies in takes nothing more from it. -/
def Reading.ofEnclosing (tag : Tag) : Reading :=
  let r (c : Collection) : Reading := { value := .enclosing c }
  if tag == .map then { r .map with entries := .ok [], merged := .ok [] }
  else if tag == .set then { r .set with entries := .ok [], merged := .ok [] }
  else r .list

structure Members where
  merged : List Entry := []
  own : List Entry := []

def Members.addMerged (m : Members) (value : Reading) : Except Fault Members :=
  value.merged.map fun es => { m with merged := es ++ m.merged }

def Members.addOwn (m : Members) (key value : Reading) : Members :=
  { m with own := ⟨key.value, value.value, keyFindings key ++ value.findings⟩ :: m.own }

mutual

def Node.reading : Node → Reading
  | .scalar tag text => .ofScalar tag text
  | .sequence tag items =>
    if tag == .pairs then
      { Reading.ofPairs (pairReadings items) with merged := mergedItems (readings items) }
    else .ofItems tag (readings items)
  | .mapping tag members =>
    .ofEntries tag ((memberReadings members).map fun m => m.merged ++ m.own)
      (memberText? members)
  | .enclosing tag => .ofEnclosing tag

def readings : List Node → List Reading
  | [] => []
  | n :: ns => n.reading :: readings ns

def pairReadings : List Node → List (Option (Reading × Reading))
  | [] => []
  | .mapping _ [(key, value)] :: ns => some (key.reading, value.reading) :: pairReadings ns
  | _ :: ns => none :: pairReadings ns

def memberReadings : List (Node × Node) → Except Fault Members
  | [] => .ok {}
  | (key, value) :: rest => do
    let m ← memberReadings rest
    if key.tag == .merge then m.addMerged value.reading
    else match key with
      | .scalar .value text => .ok (m.addOwn (.ofScalar .str text) value.reading)
      | key => .ok (m.addOwn key.reading value.reading)

end

def foremost : List Finding → Option Finding
  | [] => none
  | f :: rest =>
    match foremost rest with
    | none => some f
    | some g => if g.depth < f.depth then some g else some f

def Reading.result (r : Reading) : Except Fault Value :=
  match foremost r.findings with
  | none => .ok r.value
  | some f => .error f.fault

def isTextChar (c : Char) : Bool :=
  let n := c.toNat
  n = 0x09 || n = 0x0A || n = 0x0D || 0x20 ≤ n && n ≤ 0x7E || n = 0x85 || 0xA0 ≤ n && n ≤ 0xD7FF
    || 0xE000 ≤ n && n ≤ 0xFFFD || 0x10000 ≤ n

def read (cs : List Char) : Except Fault Value :=
  if !cs.all isTextChar then .error .malformed
  else do
    match ← Node.read cs with
    | none => .ok .null
    | some n => n.reading.result

end BuildPipeline.Yaml
