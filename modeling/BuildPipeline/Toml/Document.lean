import BuildPipeline.Toml.Scalar

set_option autoImplicit false

/-!
Documents of TOML as mappings: keys that name tables within tables, arrays, inline tables, and the
headers under which the statements of a document stand. A table is declared once; what an inline
table or an array holds is closed to further statements.
-/

namespace BuildPipeline.Toml

abbrev Key := List String

def isBareChar (c : Char) : Bool :=
  c.isAlphanum || c == '-' || c == '_'

def keyPart (cs : List Char) : Except Fault (String × List Char) :=
  match cs.takeWhile isBareChar with
  | [] => (readLineString cs).map fun r => (String.ofList r.1, r.2)
  | part => .ok (String.ofList part, cs.dropWhile isBareChar)

def readKeyParts : Nat → List Char → Except Fault (Key × List Char)
  | 0, _ => .error .malformed
  | fuel + 1, cs => do
    let (part, rest) ← keyPart cs
    match skipSpace rest with
    | '.' :: rest => (readKeyParts fuel (skipSpace rest)).map fun r => (part :: r.1, r.2)
    | rest => .ok ([part], rest)

def readKey (cs : List Char) : Except Fault (Key × List Char) :=
  readKeyParts (cs.length + 1) cs

def skipComment (cs : List Char) : Except Fault (List Char) :=
  match cs with
  | '#' :: rest =>
    if (rest.takeWhile (· ≠ '\n')).any isControl then .error .malformed
    else .ok (rest.dropWhile (· ≠ '\n'))
  | cs => .ok cs

def skipBetween : Nat → List Char → Except Fault (List Char)
  | 0, cs => .ok cs
  | fuel + 1, cs => do
    match cs.dropWhile fun c => isSpace c || c == '\n' with
    | '#' :: rest => skipBetween fuel (← skipComment ('#' :: rest))
    | rest => .ok rest

def updateTable (throughLists : Bool) (change : Mapping → Except Fault Mapping) :
    Key → Mapping → Except Fault Mapping
  | [], table => change table
  | part :: rest, table =>
    let key := Value.str part
    match table.get? key with
    | none => do
      let inner ← updateTable throughLists change rest []
      .ok (table.insert key (.map inner))
    | some (.map inner) => do
      let inner ← updateTable throughLists change rest inner
      .ok (table.insert key (.map inner))
    | some (.list items) =>
      match throughLists, items.getLast? with
      | true, some (.map inner) => do
        let inner ← updateTable throughLists change rest inner
        .ok (table.insert key (.list (items.dropLast ++ [.map inner])))
      | _, _ => .error .malformed
    | some _ => .error .malformed

def addNew (part : String) (value : Value) (table : Mapping) : Except Fault Mapping :=
  if table.contains (.str part) then .error .malformed else .ok (table.insert (.str part) value)

def appendTable (part : String) (table : Mapping) : Except Fault Mapping :=
  match table.get? (.str part) with
  | none => .ok (table.insert (.str part) (.list [.map []]))
  | some (.list items) => .ok (table.insert (.str part) (.list (items ++ [.map []])))
  | some _ => .error .malformed

def lastPart (key : Key) : String :=
  key.getLast?.getD ""

def isClosed (value : Value) : Bool :=
  match value with
  | .map _ => true
  | .list _ => true
  | _ => false

def isUnder (closed : List Key) (key : Key) : Bool :=
  closed.any fun c => c.isPrefixOf key

mutual

def readValue : Nat → List Char → Except Fault (Value × List Char)
  | 0, _ => .error .malformed
  | fuel + 1, cs =>
    match cs with
    | '"' :: _ => (readString cs).map fun r => (.str (String.ofList r.1), r.2)
    | '\'' :: _ => (readString cs).map fun r => (.str (String.ofList r.1), r.2)
    | 't' :: 'r' :: 'u' :: 'e' :: rest => .ok (.bool true, rest)
    | 'f' :: 'a' :: 'l' :: 's' :: 'e' :: rest => .ok (.bool false, rest)
    | '[' :: rest => do
      let (items, rest) ← readItems fuel (← skipBetween rest.length rest)
      .ok (.list items, rest)
    | '\x7b' :: rest =>
      match skipSpace rest with
      | '\x7d' :: rest => .ok (.map [], rest)
      | rest => do
        let (table, rest) ← readMembers fuel [] [] rest
        .ok (.map table, rest)
    | cs =>
      -- The digits of a date would also be read as a number.
      match (readMoment? cs).or (readNumber? cs) with
      | some (value, rest) => value.map (·, rest)
      | none =>
        match specialNumber? cs with
        | some r => .ok r
        | none => .error .malformed

def readItems : Nat → List Char → Except Fault (List Value × List Char)
  | 0, _ => .error .malformed
  | _ + 1, ']' :: rest => .ok ([], rest)
  | fuel + 1, cs => do
    let (item, rest) ← readValue fuel cs
    match ← skipBetween rest.length rest with
    | ']' :: rest => .ok ([item], rest)
    | ',' :: rest => do
      let (items, rest) ← readItems fuel (← skipBetween rest.length rest)
      .ok (item :: items, rest)
    | _ => .error .malformed

def readMembers : Nat → List Key → Mapping → List Char → Except Fault (Mapping × List Char)
  | 0, _, _, _ => .error .malformed
  | fuel + 1, closed, table, cs => do
    let (key, value, rest) ← readPair fuel cs
    if isUnder closed key then .error .malformed
    else
      let table ← updateTable false (addNew (lastPart key) value) key.dropLast table
      match skipSpace rest with
      | '\x7d' :: rest => .ok (table, rest)
      | ',' :: rest =>
        readMembers fuel (if isClosed value then key :: closed else closed) table (skipSpace rest)
      | _ => .error .malformed

def readPair : Nat → List Char → Except Fault (Key × Value × List Char)
  | 0, _ => .error .malformed
  | fuel + 1, cs => do
    let (key, rest) ← readKey cs
    match rest with
    | '=' :: rest => (readValue fuel (skipSpace rest)).map fun r => (key, r.1, r.2)
    | _ => .error .malformed

end

/-- The tables read so far: the document, the key of the current table, the keys that can not be
declared as tables, those that will not once the current table ends, and those that are closed with
all below them. -/
structure Draft where
  table : Mapping := []
  header : Key := []
  declared : List Key := []
  pending : List Key := []
  closed : List Key := []

namespace Draft

def settle (d : Draft) : Draft :=
  { d with declared := d.pending ++ d.declared, pending := [] }

def isDeclared (d : Draft) (key : Key) : Bool :=
  d.declared.contains key

def isFrozen (d : Draft) (key : Key) : Bool :=
  isUnder d.closed key

def openTable (d : Draft) (key : Key) : Except Fault Draft := do
  let d := d.settle
  if d.isDeclared key || d.isFrozen key then .error .malformed
  else
    let table ← updateTable true .ok key d.table
    .ok { d with table, header := key, declared := key :: d.declared }

def openListTable (d : Draft) (key : Key) : Except Fault Draft := do
  let d := d.settle
  if d.isFrozen key then .error .malformed
  else
    let table ← updateTable true (appendTable (lastPart key)) key.dropLast d.table
    .ok { d with
      table
      header := key
      declared := key :: d.declared.filter fun k => !key.isPrefixOf k
      closed := d.closed.filter fun k => !key.isPrefixOf k }

def waypoints (header key : Key) : List Key :=
  (List.range (key.length - 1)).map fun i => header ++ key.take (i + 1)

def add (d : Draft) (key : Key) (value : Value) : Except Fault Draft := do
  let ways := waypoints d.header key
  let parent := d.header ++ key.dropLast
  if ways.any d.isDeclared || d.isFrozen parent then .error .malformed
  else
    let table ← updateTable true (addNew (lastPart key) value) parent d.table
    .ok { d with
      table
      pending := ways ++ d.pending
      closed := if isClosed value then (d.header ++ key) :: d.closed else d.closed }

end Draft

def readHeader (cs : List Char) : Except Fault (Key × List Char) :=
  readKey (skipSpace cs)

def readStatement (d : Draft) (cs : List Char) : Except Fault (Draft × List Char) :=
  match cs with
  | '[' :: '[' :: rest => do
    let (key, rest) ← readHeader rest
    match rest with
    | ']' :: ']' :: rest => (d.openListTable key).map (·, rest)
    | _ => .error .malformed
  | '[' :: rest => do
    let (key, rest) ← readHeader rest
    match rest with
    | ']' :: rest => (d.openTable key).map (·, rest)
    | _ => .error .malformed
  | [] => .ok (d, [])
  | c :: _ =>
    if c == '\n' || c == '#' then .ok (d, cs)
    else do
      let (key, value, rest) ← readPair (cs.length + 2) cs
      (d.add key value).map (·, rest)

def readStatements : Nat → Draft → List Char → Except Fault Mapping
  | 0, d, _ => .ok d.table
  | fuel + 1, d, cs => do
    let (d, rest) ← readStatement d (skipSpace cs)
    match ← skipComment (skipSpace rest) with
    | [] => .ok d.table
    | '\n' :: rest => readStatements fuel d rest
    | _ => .error .malformed

def joinLineEnds : List Char → List Char
  | '\r' :: '\n' :: rest => '\n' :: joinLineEnds rest
  | c :: rest => c :: joinLineEnds rest
  | [] => []

def read (cs : List Char) : Except Fault Mapping :=
  let cs := joinLineEnds cs
  readStatements (cs.length + 1) {} cs

end BuildPipeline.Toml
