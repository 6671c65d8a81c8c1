import BuildPipeline.Text.Hex
import BuildPipeline.Yaml.Cursor
import BuildPipeline.Yaml.Fault

set_option autoImplicit false

namespace BuildPipeline.Yaml

def folded (lineBreak : Char) (breaks : List Char) : List Char :=
  if lineBreak != '\n' then lineBreak :: breaks else if breaks.isEmpty then [' '] else breaks

def isFlowMark (c : Char) : Bool :=
  c == ',' || c == '[' || c == ']' || c == '\x7b' || c == '\x7d'

def endsKey (flow : Bool) (next : Option Char) : Bool :=
  isGap next || flow && next.any isFlowMark

def plainPiece (flow : Bool) : List Char → List Char
  | [] => []
  | c :: rest =>
    if isGap (some c) || c == ':' && endsKey flow rest.head? || flow && (isFlowMark c || c == '?')
    then []
    else c :: plainPiece flow rest

def plainBreaks : Nat → Cursor → Option (List Char) × Cursor
  | 0, c => (some [], c)
  | fuel + 1, c =>
    if c.peek == some ' ' then plainBreaks fuel c.forward
    else match c.takeBreak? with
      | none => (some [], c)
      | some (b, c) =>
        if c.atDocumentMark then (none, c)
        else
          let (breaks, c) := plainBreaks fuel c
          (breaks.map (b :: ·), c)

structure Gap where
  text : List Char
  cursor : Cursor
  broken : Bool

def plainGap (c : Cursor) : Gap :=
  let (spaces, c) := c.takeWhile (· == ' ')
  match c.takeBreak? with
  | none => ⟨spaces, c, false⟩
  | some (b, c) =>
    if c.atDocumentMark then ⟨[], c, true⟩
    else match plainBreaks (c.rest.length + 1) c with
      | (none, c) => ⟨[], c, true⟩
      | (some breaks, c) => ⟨folded b breaks, c, true⟩

structure Plain where
  text : List Char
  cursor : Cursor
  broken : Bool

def readPlain (flow : Bool) (indent : Nat) : Nat → Bool → List Char → Cursor → Plain
  | 0, broken, _, c => ⟨[], c, broken⟩
  | fuel + 1, broken, gap, c =>
    match if c.peek == some '#' then [] else plainPiece flow c.rest with
    | [] => ⟨[], c, broken⟩
    | piece =>
      let next := plainGap (c.forwardBy piece.length)
      if next.text.isEmpty || next.cursor.peek == some '#'
          || !flow && next.cursor.column < indent then
        ⟨gap ++ piece, next.cursor, next.broken⟩
      else
        let more := readPlain flow indent fuel next.broken next.text next.cursor
        ⟨gap ++ piece ++ more.text, more.cursor, more.broken⟩

def simpleEscape? (c : Char) : Option Char :=
  match c with
  | '0' => some '\x00'
  | 'a' => some '\x07'
  | 'b' => some '\x08'
  | 't' => some '\t'
  | '\t' => some '\t'
  | 'n' => some '\n'
  | 'v' => some '\x0b'
  | 'f' => some '\x0c'
  | 'r' => some '\r'
  | 'e' => some '\x1b'
  | ' ' => some ' '
  | '"' => some '"'
  | '\\' => some '\\'
  | '/' => some '/'
  | 'N' => some '\x85'
  | '_' => some '\xa0'
  | 'L' => some '\u2028'
  | 'P' => some '\u2029'
  | _ => none

def codeWidth? (c : Char) : Option Nat :=
  match c with
  | 'x' => some 2
  | 'u' => some 4
  | 'U' => some 8
  | _ => none

def codeChar (n : Nat) : Except Fault Char :=
  if n < 0x110000 then .ok (Char.ofNat n)
  else if n < 0x80000000 then .error (.scalar .codeOutOfRange)
  else .error (.misfit .codeTooLarge)

def readCode (width : Nat) (c : Cursor) : Except Fault (Char × Cursor) :=
  if c.rest.length < width then .error .malformed
  else match Text.hexNumber? (c.rest.take width) with
    | none => .error .malformed
    | some n => (codeChar n).map (·, c.forwardBy width)

def quotedBreaks : Nat → Cursor → Except Fault (List Char × Cursor)
  | 0, _ => .error .malformed
  | fuel + 1, c =>
    if c.atDocumentMark then .error .malformed
    else
      let (_, c) := c.takeWhile fun ch => ch == ' ' || ch == '\t'
      match c.takeBreak? with
      | none => .ok ([], c)
      | some (b, c) => (quotedBreaks fuel c).map fun r => (b :: r.1, r.2)

def quotedGap (c : Cursor) : Except Fault (List Char × Cursor) :=
  let (blanks, c) := c.takeWhile fun ch => ch == ' ' || ch == '\t'
  match c.takeBreak? with
  | none => .ok (blanks, c)
  | some (b, c) => (quotedBreaks (c.rest.length + 1) c).map fun r => (folded b r.1, r.2)

def readEscape (c : Cursor) : Except Fault (List Char × Cursor) :=
  match c.peek with
  | none => .error .malformed
  | some e =>
    match simpleEscape? e with
    | some ch => .ok ([ch], c.forward)
    | none =>
      match codeWidth? e with
      | some width => (readCode width c.forward).map fun r => ([r.1], r.2)
      | none =>
        match c.takeBreak? with
        | some (_, c) => quotedBreaks (c.rest.length + 1) c
        | none => .error .malformed

def readQuoted (double : Bool) : Nat → Cursor → Except Fault (List Char × Cursor)
  | 0, _ => .error .malformed
  | fuel + 1, c =>
    match c.rest with
    | [] => .error .malformed
    | '\'' :: next =>
      if double then (readQuoted double fuel c.forward).map fun r => ('\'' :: r.1, r.2)
      -- Two quotes stand for one.
      else if next.head? == some '\'' then
        (readQuoted double fuel (c.forwardBy 2)).map fun r => ('\'' :: r.1, r.2)
      else .ok ([], c.forward)
    | '"' :: _ =>
      if double then .ok ([], c.forward)
      else (readQuoted double fuel c.forward).map fun r => ('"' :: r.1, r.2)
    | ch :: _ =>
      if ch == '\\' && double then do
        let (cs, c) ← readEscape c.forward
        (readQuoted double fuel c).map fun r => (cs ++ r.1, r.2)
      else if isGap (some ch) then do
        let (cs, c) ← quotedGap c
        if c.peek.isNone then .error .malformed
        else (readQuoted double fuel c).map fun r => (cs ++ r.1, r.2)
      else (readQuoted double fuel c.forward).map fun r => (ch :: r.1, r.2)

inductive Chomping where
  | clip
  | strip
  | keep
  deriving DecidableEq, Repr

def chomping? (c : Char) : Option Chomping :=
  if c == '+' then some .keep else if c == '-' then some .strip else none

def blockDigit? (c : Char) : Option Nat :=
  if '0' ≤ c && c ≤ '9' then some (c.toNat - 48) else none

structure BlockHeader where
  chomping : Chomping := .clip
  indent : Option Nat := none

def readBlockHeader (c : Cursor) : Except Fault (BlockHeader × Cursor) :=
  let ofDigit (c : Cursor) : Option Nat × Cursor :=
    match c.peek.bind blockDigit? with
    | some n => (some n, c.forward)
    | none => (none, c)
  let ofMark (c : Cursor) : Option Chomping × Cursor :=
    match c.peek.bind chomping? with
    | some m => (some m, c.forward)
    | none => (none, c)
  let (first, c) := ofMark c
  let (indent, c) := ofDigit c
  let (second, c) := if first.isNone && indent.isSome then ofMark c else (none, c)
  if indent == some 0 || !isGapButTab c.peek then .error .malformed
  else match c.restOfLine? with
    | none => .error .malformed
    | some c => .ok (⟨(first.or second).getD .clip, indent⟩, c)

def blockIndentation : Nat → Nat → Cursor → List Char × Nat × Cursor
  | 0, widest, c => ([], widest, c)
  | fuel + 1, widest, c =>
    if c.peek == some ' ' then blockIndentation fuel (max widest c.forward.column) c.forward
    else match c.takeBreak? with
      | none => ([], widest, c)
      | some (b, c) =>
        let (breaks, widest, c) := blockIndentation fuel widest c
        (b :: breaks, widest, c)

def skipIndent : Nat → Nat → Cursor → Cursor
  | 0, _, c => c
  | fuel + 1, indent, c =>
    if c.column < indent && c.peek == some ' ' then skipIndent fuel indent c.forward else c

def blockBreaks (indent : Nat) : Nat → Cursor → List Char × Cursor
  | 0, c => ([], c)
  | fuel + 1, c =>
    let c := skipIndent indent indent c
    match c.takeBreak? with
    | none => ([], c)
    | some (b, c) =>
      let (breaks, c) := blockBreaks indent fuel c
      (b :: breaks, c)

def isBlankStart (c : Option Char) : Bool :=
  c == some ' ' || c == some '\t'

def blockJoint (fold : Bool) (lineBreak : List Char) (indented : Bool) (breaks : List Char) :
    List Char :=
  if fold && lineBreak == ['\n'] && !indented then if breaks.isEmpty then [' '] else []
  else lineBreak

def chomped (mark : Chomping) (lineBreak breaks : List Char) : List Char :=
  match mark with
  | .strip => []
  | .clip => lineBreak
  | .keep => lineBreak ++ breaks

def readLines (fold : Bool) (mark : Chomping) (indent : Nat) :
    Nat → List Char → Cursor → List Char × Cursor
  | 0, _, c => ([], c)
  | fuel + 1, breaks, c =>
    let indented := isBlankStart c.peek
    let (line, c) := c.takeWhile (!isBreak ·)
    let (lineBreak, c) := match c.takeBreak? with
      | some (b, c) => ([b], c)
      | none => ([], c)
    let (next, c) := blockBreaks indent (c.rest.length + 1) c
    if c.column == indent && c.peek.isSome then
      let joint := blockJoint fold lineBreak (indented || isBlankStart c.peek) next
      let (more, c) := readLines fold mark indent fuel next c
      (breaks ++ line ++ joint ++ more, c)
    else (breaks ++ line ++ chomped mark lineBreak next, c)

def readBlock (fold : Bool) (least : Nat) (c : Cursor) : Except Fault (List Char × Cursor) := do
  let (header, c) ← readBlockHeader c
  let (breaks, indent, c) := match header.indent with
    | some n =>
      let indent := least + n - 1
      let (breaks, c) := blockBreaks indent (c.rest.length + 1) c
      (breaks, indent, c)
    | none =>
      let (breaks, widest, c) := blockIndentation (c.rest.length + 1) 0 c
      (breaks, max least widest, c)
  if c.column == indent && c.peek.isSome then
    .ok (readLines fold header.chomping indent (c.rest.length + 1) breaks c)
  else .ok (chomped header.chomping [] breaks, c)

end BuildPipeline.Yaml
