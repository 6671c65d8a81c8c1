import BuildPipeline.Yaml.ScalarText

set_option autoImplicit false

namespace BuildPipeline.Yaml

inductive Token where
  | version (major : List Char)
  | handle (name lead : List Char)
  | directive
  | documentStart
  | documentEnd
  | blockSequenceStart
  | blockMappingStart
  | blockEnd
  | flowSequenceStart
  | flowSequenceEnd
  | flowMappingStart
  | flowMappingEnd
  | blockEntry
  | flowEntry
  | key
  | value
  | alias (name : List Char)
  | anchor (name : List Char)
  | tag (handle : Option (List Char)) (tail : List Char)
  | scalar (text : List Char) (plain : Bool)
  | broken (fault : Fault)
  deriving DecidableEq, Repr

inductive Item where
  | token (t : Token)
  | place (number : Nat)
  deriving DecidableEq, Repr

structure Candidate where
  number : Nat
  required : Bool
  index : Nat
  line : Nat
  column : Nat

/-- `keys` are the places found to begin a key, each with whether it begins a mapping too. The
candidates are those of the innermost collection and of the flow collections around it. -/
structure Lexer where
  cursor : Cursor
  indent : Int := -1
  indents : List Int := []
  allowKey : Bool := true
  candidate : Option Candidate := none
  outer : List (Option Candidate) := []
  items : List Item := []
  places : Nat := 0
  keys : List (Nat × Bool) := []

namespace Lexer

def inFlow (l : Lexer) : Bool :=
  !l.outer.isEmpty

def column (l : Lexer) : Int :=
  l.cursor.column

def emit (l : Lexer) (t : Token) : Lexer :=
  { l with items := .token t :: l.items }

def dropCandidate (l : Lexer) : Except Fault Lexer :=
  if l.candidate.any (·.required) then .error .malformed else .ok { l with candidate := none }

def noteCandidate (l : Lexer) : Except Fault Lexer :=
  if !l.allowKey then .ok l
  else do
    let required := !l.inFlow && l.indent == l.column
    let l ← l.dropCandidate
    .ok { l with
      items := .place l.places :: l.items
      places := l.places + 1
      candidate := some ⟨l.places, required, l.cursor.index, l.cursor.line, l.cursor.column⟩ }

/-- A key ends on the line it begins on, after 1024 characters at most. -/
def stale (l : Lexer) (c : Candidate) : Bool :=
  c.line ≠ l.cursor.line || 1024 < l.cursor.index - c.index

def refresh (l : Lexer) (c : Option Candidate) : Except Fault (Option Candidate) :=
  match c with
  | none => .ok none
  | some k =>
    if !l.stale k then .ok (some k) else if k.required then .error .malformed else .ok none

def dropStale (l : Lexer) : Except Fault Lexer := do
  let candidate ← l.refresh l.candidate
  let outer ← l.outer.mapM l.refresh
  .ok { l with candidate, outer }

def unwindFrom : List Int → Int → Int → List Item → Int × List Int × List Item
  | [], indent, _, items => (indent, [], items)
  | i :: rest, indent, column, items =>
    if column < indent then unwindFrom rest i column (.token .blockEnd :: items)
    else (indent, i :: rest, items)

def unwind (l : Lexer) (column : Int) : Lexer :=
  if l.inFlow then l
  else
    let (indent, indents, items) := unwindFrom l.indents l.indent column l.items
    { l with indent, indents, items }

def openBlock? (l : Lexer) (column : Int) : Option Lexer :=
  if l.indent < column then some { l with indent := column, indents := l.indent :: l.indents }
  else none

def openBlock (l : Lexer) (t : Token) : Lexer :=
  match l.openBlock? l.column with
  | some l => l.emit t
  | none => l

def skipToToken : Nat → Lexer → Lexer
  | 0, l => l
  | fuel + 1, l =>
    let c := l.cursor.skipSpaces
    let c := if c.peek == some '#' then (c.takeWhile (!isBreak ·)).2 else c
    match c.takeBreak? with
    | some (_, c) =>
      skipToToken fuel { l with cursor := c, allowKey := l.allowKey || !l.inFlow }
    | none => { l with cursor := c }

def skipMark (l : Lexer) : Lexer :=
  if l.cursor.index = 0 && l.cursor.peek == some '\ufeff' then
    { l with cursor := l.cursor.forward }
  else l

def isAddressChar (c : Char) : Bool :=
  c.isAlphanum || "-;/?:@&=+$,_.!~*'()[]".toList.contains c

def hexBytes : Nat → List Char → List UInt8 × List Char
  | 0, cs => ([], cs)
  | fuel + 1, '%' :: a :: b :: rest =>
    match Text.hexNumber? [a, b] with
    | some n =>
      let (bytes, rest) := hexBytes fuel rest
      (n.toUInt8 :: bytes, rest)
    | none => ([], '%' :: a :: b :: rest)
  | _, cs => ([], cs)

def readAddress : Nat → Cursor → Except Fault (List Char × Cursor)
  | 0, c => .ok ([], c)
  | fuel + 1, c =>
    match c.rest with
    | '%' :: _ =>
      match hexBytes c.rest.length c.rest with
      | ([], _) => .error .malformed
      | (bytes, _) =>
        match Text.Utf8.decode bytes with
        | .error _ => .error .malformed
        | .ok cs => (readAddress fuel (c.forwardBy (3 * bytes.length))).map fun r => (cs ++ r.1, r.2)
    | ch :: _ =>
      if isAddressChar ch then (readAddress fuel c.forward).map fun r => (ch :: r.1, r.2)
      else .ok ([], c)
    | [] => .ok ([], c)

def readTail (c : Cursor) : Except Fault (List Char × Cursor) := do
  match ← readAddress (c.rest.length + 1) c with
  | ([], _) => .error .malformed
  | r => .ok r

def readHandle (c : Cursor) : Except Fault (List Char × Cursor) :=
  if c.peek != some '!' then .error .malformed
  else
    let (name, after) := c.forward.takeWhile isNameChar
    if after.peek == some '!' then .ok ('!' :: name ++ ['!'], after.forward)
    else if name.isEmpty && after.peek == some ' ' then .ok (['!'], after)
    else .error .malformed

def readDigits (c : Cursor) : Except Fault (List Char × Cursor) :=
  match c.takeWhile Char.isDigit with
  | ([], _) => .error .malformed
  | r => .ok r

def readVersion (c : Cursor) : Except Fault (Token × Cursor) := do
  let (major, c) ← readDigits c.skipSpaces
  if c.peek != some '.' then .error .malformed
  else
    let (_, c) ← readDigits c.forward
    if isGapButTab c.peek then .ok (.version major, c) else .error .malformed

def readHandleDirective (c : Cursor) : Except Fault (Token × Cursor) := do
  let (name, c) ← readHandle c.skipSpaces
  if c.peek != some ' ' then .error .malformed
  else
    let (lead, c) ← readTail c.skipSpaces
    if isGapButTab c.peek then .ok (.handle name lead, c) else .error .malformed

def readDirective (c : Cursor) : Except Fault (Token × Cursor) := do
  let (name, c) := c.takeWhile isNameChar
  if name.isEmpty || !isGapButTab c.peek then .error .malformed
  else
    let (t, c) ←
      if name == "YAML".toList then readVersion c
      else if name == "TAG".toList then readHandleDirective c
      else .ok (.directive, (c.takeWhile (!isBreak ·)).2)
    match c.restOfLine? with
    | some c => .ok (t, c)
    | none => .error .malformed

def readName (c : Cursor) : Except Fault (List Char × Cursor) :=
  let (name, c) := c.takeWhile isNameChar
  let ends := isGap c.peek || c.peek.any fun ch => "?:,]\x7d%@`".toList.contains ch
  if name.isEmpty || !ends then .error .malformed else .ok (name, c)

def readTag (c : Cursor) : Except Fault (Token × Cursor) := do
  let (t, c) ← match c.peekAt 1 with
    | some '<' => do
      let (tail, c) ← readTail (c.forwardBy 2)
      if c.peek == some '>' then .ok (Token.tag none tail, c.forward) else .error .malformed
    | next =>
      if isGap next then .ok (Token.tag none ['!'], c.forward)
      else if (c.forward.rest.takeWhile fun ch => !isGapButTab (some ch)).contains '!' then do
        let (handle, c) ← readHandle c
        let (tail, c) ← readTail c
        .ok (Token.tag (some handle) tail, c)
      else do
        let (tail, c) ← readTail c.forward
        .ok (Token.tag (some ['!']) tail, c)
  if isGapButTab c.peek then .ok (t, c) else .error .malformed

def streamToken (l : Lexer) : Except Fault Lexer := do
  let l ← (l.unwind (-1)).dropCandidate
  .ok { l with allowKey := false }

def documentMark (l : Lexer) (t : Token) : Except Fault Lexer := do
  let l ← l.streamToken
  .ok ({ l with cursor := l.cursor.forwardBy 3 }.emit t)

def openFlow (l : Lexer) (t : Token) : Except Fault Lexer := do
  let l ← l.noteCandidate
  .ok ({ l with
    outer := l.candidate :: l.outer
    candidate := none
    allowKey := true
    cursor := l.cursor.forward }.emit t)

def closeFlow (l : Lexer) (t : Token) : Except Fault Lexer := do
  let l ← l.dropCandidate
  match l.outer with
  | [] => .error .malformed
  | candidate :: outer =>
    .ok ({ l with candidate, outer, allowKey := false, cursor := l.cursor.forward }.emit t)

def flowEntry (l : Lexer) : Except Fault Lexer := do
  let l ← l.dropCandidate
  .ok ({ l with allowKey := true, cursor := l.cursor.forward }.emit .flowEntry)

def headOfBlock (l : Lexer) (opening : Token) : Except Fault Lexer :=
  if l.inFlow then .ok l
  else if !l.allowKey then .error .malformed
  else .ok (l.openBlock opening)

def blockEntry (l : Lexer) : Except Fault Lexer := do
  let l ← l.headOfBlock .blockSequenceStart
  let l ← l.dropCandidate
  .ok ({ l with allowKey := true, cursor := l.cursor.forward }.emit .blockEntry)

def explicitKey (l : Lexer) : Except Fault Lexer := do
  let l ← l.headOfBlock .blockMappingStart
  let l ← l.dropCandidate
  .ok ({ l with allowKey := !l.inFlow, cursor := l.cursor.forward }.emit .key)

def valueMark (l : Lexer) : Except Fault Lexer := do
  match l.candidate with
  | some k =>
    let opened := if l.inFlow then none else l.openBlock? k.column
    let l := opened.getD l
    .ok ({ l with
      keys := (k.number, opened.isSome) :: l.keys
      candidate := none
      allowKey := false
      cursor := l.cursor.forward }.emit .value)
  | none =>
    let l ← l.headOfBlock .blockMappingStart
    .ok ({ l with allowKey := !l.inFlow, cursor := l.cursor.forward }.emit .value)

def nodeToken (l : Lexer) (read : Cursor → Except Fault (Token × Cursor)) : Except Fault Lexer := do
  let l ← l.noteCandidate
  let (t, cursor) ← read l.cursor
  .ok ({ l with allowKey := false, cursor }.emit t)

def blockScalar (l : Lexer) (fold : Bool) : Except Fault Lexer := do
  let l ← l.dropCandidate
  let (text, cursor) ← readBlock fold (max 1 (l.indent + 1).toNat) l.cursor.forward
  .ok ({ l with allowKey := true, cursor }.emit (.scalar text false))

def quotedScalar (double : Bool) (c : Cursor) : Except Fault (Token × Cursor) :=
  (readQuoted double (c.rest.length + 1) c.forward).map fun r => (.scalar r.1 false, r.2)

def plainScalar (l : Lexer) : Except Fault Lexer := do
  let l ← l.noteCandidate
  let p := readPlain l.inFlow (l.indent + 1).toNat (l.cursor.rest.length + 1) false [] l.cursor
  .ok ({ l with allowKey := p.broken, cursor := p.cursor }.emit (.scalar p.text true))

def isIndicator (c : Char) : Bool :=
  "-?:,[]\x7b\x7d#&*!|>'\"%@`".toList.contains c

def startsPlain (l : Lexer) (c : Char) : Bool :=
  !(isGap (some c) || isIndicator c) ||
    !isGap (l.cursor.peekAt 1) && (c == '-' || !l.inFlow && (c == '?' || c == ':'))

def readToken (l : Lexer) (c : Char) : Except Fault Lexer :=
  let next := l.cursor.peekAt 1
  let marks (document : Char) := c == document && l.cursor.column = 0 && l.cursor.atDocumentMark
  if c == '%' && l.cursor.column = 0 then do
    let l ← l.streamToken
    let (t, cursor) ← readDirective l.cursor.forward
    .ok ({ l with cursor }.emit t)
  else if marks '-' then l.documentMark .documentStart
  else if marks '.' then l.documentMark .documentEnd
  else if c == '[' then l.openFlow .flowSequenceStart
  else if c == '\x7b' then l.openFlow .flowMappingStart
  else if c == ']' then l.closeFlow .flowSequenceEnd
  else if c == '\x7d' then l.closeFlow .flowMappingEnd
  else if c == ',' then l.flowEntry
  else if c == '-' && isGap next then l.blockEntry
  else if c == '?' && (l.inFlow || isGap next) then l.explicitKey
  else if c == ':' && (l.inFlow || isGap next) then l.valueMark
  else if c == '*' then
    l.nodeToken fun c => (readName c.forward).map fun r => (.alias r.1, r.2)
  else if c == '&' then
    l.nodeToken fun c => (readName c.forward).map fun r => (.anchor r.1, r.2)
  else if c == '!' then l.nodeToken readTag
  else if c == '|' && !l.inFlow then l.blockScalar false
  else if c == '>' && !l.inFlow then l.blockScalar true
  else if c == '\'' then l.nodeToken (quotedScalar false)
  else if c == '"' then l.nodeToken (quotedScalar true)
  else if l.startsPlain c then l.plainScalar
  else .error .malformed

def step (l : Lexer) : Except Fault (Lexer × Bool) := do
  let l := skipToToken (l.cursor.rest.length + 1) l
  let l ← l.dropStale
  let l := l.unwind l.column
  match l.cursor.peek with
  | none => (l.streamToken).map (·, true)
  | some c => (l.readToken c).map (·, false)

def pending (l : Lexer) : List Nat :=
  ((l.candidate :: l.outer).filterMap id).map (·.number)

def settled (l : Lexer) : List Item :=
  match l.pending.min? with
  | none => l.items.reverse
  | some number => l.items.reverse.takeWhile (· ≠ .place number)

end Lexer

def Item.tokens (keys : List (Nat × Bool)) : Item → List Token
  | .token t => [t]
  | .place number =>
    match keys.lookup number with
    | none => []
    | some opens => if opens then [.blockMappingStart, .key] else [.key]

def Lexer.tokens : Nat → Lexer → List Token
  | 0, l => l.items.reverse.flatMap (Item.tokens l.keys)
  | fuel + 1, l =>
    match l.dropStale.bind step with
    | .error fault =>
      let l := (l.dropStale).toOption.getD l
      l.settled.flatMap (Item.tokens l.keys) ++ [.broken fault]
    | .ok (l, finished) =>
      if finished then l.items.reverse.flatMap (Item.tokens l.keys) else tokens fuel l

def tokens (cs : List Char) : List Token :=
  Lexer.tokens (cs.length + 2) { cursor := { rest := cs } : Lexer }.skipMark

end BuildPipeline.Yaml
