import BuildPipeline.Yaml.Tag
import BuildPipeline.Yaml.Token

set_option autoImplicit false

namespace BuildPipeline.Yaml

inductive Node where
  | scalar (tag : Tag) (text : List Char)
  | sequence (tag : Tag) (items : List Node)
  | mapping (tag : Tag) (members : List (Node × Node))
  | enclosing (tag : Tag)
  deriving Repr

instance : Inhabited Node := ⟨.scalar .null []⟩

def Node.tag : Node → Tag
  | .scalar tag _ => tag
  | .sequence tag _ => tag
  | .mapping tag _ => tag
  | .enclosing tag => tag

mutual

def Node.text? : Node → Option (List Char)
  | .scalar _ text => some text
  | .sequence .. => none
  | .mapping _ members => memberText? members
  | .enclosing _ => none

def memberText? : List (Node × Node) → Option (List Char)
  | [] => none
  | (key, value) :: rest => if key.tag == .value then value.text? else memberText? rest

end

def Node.empty : Node :=
  .scalar .null []

structure Scope where
  handles : List (List Char × List Char)
  anchors : List (List Char × Node) := []
  rest : List Token

/-- Where a node stands. A sequence that is the key or the value of a block mapping need not be
indented. -/
inductive Position where
  | block
  | member
  | flow
  deriving DecidableEq, Repr

def defaultHandles : List (List Char × List Char) :=
  [(['!'], ['!']), (['!', '!'], standardLead)]

structure Properties where
  anchor : Option (List Char) := none
  address : Option (List Char) := none

namespace Scope

def refuse {α : Type} (s : Scope) : Except Fault α :=
  match s.rest with
  | .broken fault :: _ => .error fault
  | _ => .error .malformed

def skip (s : Scope) : Scope :=
  { s with rest := s.rest.tail }

def address (s : Scope) (handle : Option (List Char)) (tail : List Char) :
    Except Fault (List Char) :=
  match handle with
  | none => .ok tail
  | some h =>
    match s.handles.lookup h with
    | some lead => .ok (lead ++ tail)
    | none => .error .malformed

def takeProperties (s : Scope) : Except Fault (Properties × Scope) := do
  match s.rest with
  | .anchor name :: .tag handle tail :: rest =>
    .ok (⟨some name, some (← s.address handle tail)⟩, { s with rest })
  | .tag handle tail :: .anchor name :: rest =>
    .ok (⟨some name, some (← s.address handle tail)⟩, { s with rest })
  | .anchor name :: rest => .ok (⟨some name, none⟩, { s with rest })
  | .tag handle tail :: rest => .ok (⟨none, some (← s.address handle tail)⟩, { s with rest })
  | _ => .ok ({}, s)

def openAnchor (s : Scope) (tag : Tag) : Option (List Char) → Except Fault Scope
  | none => .ok s
  | some name =>
    if (s.anchors.lookup name).isSome then .error .malformed
    else .ok { s with anchors := (name, .enclosing tag) :: s.anchors }

def shape (s : Scope) : Tag :=
  match s.rest with
  | .flowMappingStart :: _ | .blockMappingStart :: _ => .map
  | _ => .seq

def closeAnchor (s : Scope) (anchor : Option (List Char)) (n : Node) : Scope :=
  match anchor with
  | none => s
  | some name => { s with anchors := (name, n) :: s.anchors }

end Scope

namespace Properties

def isPresent (p : Properties) : Bool :=
  p.anchor.isSome || p.address.isSome

def collectionTag (p : Properties) (own : Tag) : Tag :=
  match p.address with
  | none => own
  | some ['!'] => own
  | some address => .ofAddress address

def scalarTag (p : Properties) (text : List Char) (plain : Bool) : Tag :=
  match p.address with
  | none => if plain then .ofPlain text else .str
  | some ['!'] => .ofPlain text
  | some address => .ofAddress address

end Properties

def endsItem (t : Token) : Bool :=
  t == .blockEntry || t == .blockEnd

def endsLooseItem (t : Token) : Bool :=
  endsItem t || t == .key || t == .value

def endsMember (t : Token) : Bool :=
  t == .key || t == .value || t == .blockEnd

def endsFlowItem (t : Token) : Bool :=
  t == .flowEntry || t == .flowSequenceEnd

def endsFlowMember (t : Token) : Bool :=
  t == .flowEntry || t == .flowMappingEnd

def isValue (t : Token) : Bool :=
  t == .value

def separated (first : Bool) (s : Scope) : Except Fault Scope :=
  if first then .ok s
  else match s.rest with
    | .flowEntry :: rest => .ok { s with rest }
    | _ => s.refuse

mutual

def readNode : Nat → Position → Scope → Except Fault (Node × Scope)
  | 0, _, _ => .error .malformed
  | fuel + 1, position, s =>
    match s.rest with
    | .alias name :: rest =>
      match s.anchors.lookup name with
      | some n => .ok (n, { s with rest })
      | none => .error .malformed
    | _ => do
      let (properties, s) ← s.takeProperties
      let s ← s.openAnchor (properties.collectionTag s.shape) properties.anchor
      let (n, s) ← readContent fuel position properties s
      .ok (n, s.closeAnchor properties.anchor n)

def readContent : Nat → Position → Properties → Scope → Except Fault (Node × Scope)
  | 0, _, _, _ => .error .malformed
  | fuel + 1, position, p, s =>
    let empty : Except Fault (Node × Scope) :=
      if p.isPresent then .ok (.scalar (p.scalarTag [] true) [], s) else s.refuse
    let sequence (r : List Node × Scope) : Node × Scope :=
      (.sequence (p.collectionTag .seq) r.1, r.2)
    let mapping (r : List (Node × Node) × Scope) : Node × Scope :=
      (.mapping (p.collectionTag .map) r.1, r.2)
    match s.rest with
    | .scalar text plain :: _ => .ok (.scalar (p.scalarTag text plain) text, s.skip)
    | .flowSequenceStart :: _ => (readFlowItems fuel true s.skip).map sequence
    | .flowMappingStart :: _ => (readFlowMembers fuel true s.skip).map mapping
    | .blockSequenceStart :: _ =>
      if position == .flow then empty else (readItems fuel s.skip).map sequence
    | .blockMappingStart :: _ =>
      if position == .flow then empty else (readMembers fuel s.skip).map mapping
    | .blockEntry :: _ =>
      -- The items of a member may stand in the column of its key.
      if position == .member then (readLooseItems fuel s).map sequence else empty
    | _ => empty

def readOptional : Nat → (Token → Bool) → Position → Scope → Except Fault (Node × Scope)
  | 0, _, _, _ => .error .malformed
  | fuel + 1, ends, position, s =>
    if s.rest.head?.any ends then .ok (.empty, s) else readNode fuel position s

def readMemberValue : Nat → (Token → Bool) → Position → Scope → Except Fault (Node × Scope)
  | 0, _, _, _ => .error .malformed
  | fuel + 1, ends, position, s =>
    if s.rest.head?.any isValue then readOptional fuel ends position s.skip else .ok (.empty, s)

def readMember : Nat → (Token → Bool) → Position → Scope → Except Fault ((Node × Node) × Scope)
  | 0, _, _, _ => .error .malformed
  | fuel + 1, ends, position, s => do
    let (key, s) ← readOptional fuel (fun t => isValue t || ends t) position s
    let (value, s) ← readMemberValue fuel ends position s
    .ok ((key, value), s)

def readItems : Nat → Scope → Except Fault (List Node × Scope)
  | 0, _ => .error .malformed
  | fuel + 1, s =>
    match s.rest with
    | .blockEntry :: _ => do
      let (n, s) ← readOptional fuel endsItem .block s.skip
      let (ns, s) ← readItems fuel s
      .ok (n :: ns, s)
    | .blockEnd :: _ => .ok ([], s.skip)
    | _ => s.refuse

def readLooseItems : Nat → Scope → Except Fault (List Node × Scope)
  | 0, _ => .error .malformed
  | fuel + 1, s =>
    match s.rest with
    | .blockEntry :: _ => do
      let (n, s) ← readOptional fuel endsLooseItem .block s.skip
      let (ns, s) ← readLooseItems fuel s
      .ok (n :: ns, s)
    | _ => .ok ([], s)

def readMembers : Nat → Scope → Except Fault (List (Node × Node) × Scope)
  | 0, _ => .error .malformed
  | fuel + 1, s =>
    match s.rest with
    | .key :: _ => do
      let (m, s) ← readMember fuel endsMember .member s.skip
      let (ms, s) ← readMembers fuel s
      .ok (m :: ms, s)
    | .blockEnd :: _ => .ok ([], s.skip)
    | _ => s.refuse

def readFlowItem : Nat → Scope → Except Fault (Node × Scope)
  | 0, _ => .error .malformed
  | fuel + 1, s =>
    match s.rest with
    | .key :: _ =>
      (readMember fuel endsFlowItem .flow s.skip).map fun r => (.mapping .map [r.1], r.2)
    | _ => readNode fuel .flow s

def readFlowItems : Nat → Bool → Scope → Except Fault (List Node × Scope)
  | 0, _, _ => .error .malformed
  | fuel + 1, first, s =>
    if s.rest.head? == some .flowSequenceEnd then .ok ([], s.skip)
    else do
      let s ← separated first s
      if s.rest.head? == some .flowSequenceEnd then .ok ([], s.skip)
      else
        let (n, s) ← readFlowItem fuel s
        let (ns, s) ← readFlowItems fuel false s
        .ok (n :: ns, s)

def readFlowMember : Nat → Scope → Except Fault ((Node × Node) × Scope)
  | 0, _ => .error .malformed
  | fuel + 1, s =>
    match s.rest with
    | .key :: _ => readMember fuel endsFlowMember .flow s.skip
    | _ => (readNode fuel .flow s).map fun r => ((r.1, .empty), r.2)

def readFlowMembers : Nat → Bool → Scope → Except Fault (List (Node × Node) × Scope)
  | 0, _, _ => .error .malformed
  | fuel + 1, first, s =>
    if s.rest.head? == some .flowMappingEnd then .ok ([], s.skip)
    else do
      let s ← separated first s
      if s.rest.head? == some .flowMappingEnd then .ok ([], s.skip)
      else
        let (m, s) ← readFlowMember fuel s
        let (ms, s) ← readFlowMembers fuel false s
        .ok (m :: ms, s)

end

structure Directives where
  versioned : Bool := false
  handles : List (List Char × List Char) := []

def readDirectives (d : Directives) : List Token → Except Fault (Directives × List Token)
  | .version major :: rest =>
    if d.versioned || Number.ofDigits major ≠ 1 then .error .malformed
    else readDirectives { d with versioned := true } rest
  | .handle name lead :: rest =>
    if (d.handles.lookup name).isSome then .error .malformed
    else readDirectives { d with handles := (name, lead) :: d.handles } rest
  | .directive :: rest => readDirectives d rest
  | rest => .ok (d, rest)

def beginsDocument (t : Token) : Bool :=
  match t with
  | .version _ | .handle .. | .directive | .documentStart => true
  | _ => false

def endsDocument (t : Token) : Bool :=
  beginsDocument t || t == .documentEnd

def finished (r : Node × Scope) : Except Fault Node :=
  let s : Scope := { r.2 with rest := r.2.rest.dropWhile (· == Token.documentEnd) }
  if s.rest.isEmpty then .ok r.1 else s.refuse

def readBareDocument (ts : List Token) : Except Fault Node := do
  finished (← readNode (6 * ts.length + 6) .block { handles := defaultHandles, rest := ts })

def readMarkedDocument (ts : List Token) : Except Fault Node := do
  let (d, ts) ← readDirectives {} ts
  match ts with
  | .documentStart :: rest =>
    let s : Scope := { handles := d.handles ++ defaultHandles, rest }
    if rest.all (· == .documentEnd) || rest.head?.any endsDocument then finished (.empty, s)
    else finished (← readNode (6 * rest.length + 6) .block s)
  | rest => Scope.refuse { handles := defaultHandles, rest }

def Node.read (cs : List Char) : Except Fault (Option Node) := do
  let ts := tokens cs
  if ts.isEmpty then .ok none
  else if ts.head?.any beginsDocument then (readMarkedDocument ts).map some
  else (readBareDocument ts).map some

end BuildPipeline.Yaml
