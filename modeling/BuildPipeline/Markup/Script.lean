import BuildPipeline.Markup.OpenElements
import BuildPipeline.Markup.Tag
import BuildPipeline.Page
import BuildPipeline.Text.Blank
import BuildPipeline.Text.Pieces

set_option autoImplicit false

namespace BuildPipeline.Markup

open BuildPipeline.Page (Script)

def isLetter (c : Char) : Bool :=
  c.isAlpha

def textElements : List String :=
  ["title", "textarea", "style", "xmp", "iframe", "noembed", "noframes"]

def startsName (name cs : List Char) : Bool :=
  (cs.take name.length).map Char.toLower = name &&
    match cs.drop name.length with
    | c :: _ => endsName c
    | [] => false

inductive Depth where
  | plain
  | comment
  | scriptInComment
  deriving DecidableEq, Repr

def scriptName : List Char :=
  "script".toList

def elementText (name : List Char) : List Char → List Char × List Char
  | [] => ([], [])
  | '<' :: '/' :: cs =>
    if startsName name cs then ([], '<' :: '/' :: cs)
    else
      let (text, rest) := elementText name cs
      ('<' :: '/' :: text, rest)
  | c :: cs =>
    let (text, rest) := elementText name cs
    (c :: text, rest)

def scriptText : Depth → Nat → List Char → List Char × List Char
  | _, _, [] => ([], [])
  | .plain, _, '<' :: '!' :: '-' :: '-' :: cs =>
    let (text, rest) := scriptText .comment 2 cs
    ('<' :: '!' :: '-' :: '-' :: text, rest)
  | .scriptInComment, _, '<' :: '/' :: cs =>
    let depth := if startsName scriptName cs then .comment else .scriptInComment
    let (text, rest) := scriptText depth 0 cs
    ('<' :: '/' :: text, rest)
  | depth, _, '<' :: '/' :: cs =>
    if startsName scriptName cs then ([], '<' :: '/' :: cs)
    else
      let (text, rest) := scriptText depth 0 cs
      ('<' :: '/' :: text, rest)
  | depth, _, '<' :: cs =>
    let depth := if depth = .comment && startsName scriptName cs then .scriptInComment else depth
    let (text, rest) := scriptText depth 0 cs
    ('<' :: text, rest)
  | depth, dashes, '-' :: cs =>
    let (text, rest) := scriptText depth (dashes + 1) cs
    ('-' :: text, rest)
  | depth, dashes, c :: cs =>
    -- An arrow also ends a script that has begun within the comment.
    let depth := if c = '>' && 2 ≤ dashes then .plain else depth
    let (text, rest) := scriptText depth 0 cs
    (c :: text, rest)

def afterBracket (cs : List Char) : List Char :=
  (cs.dropWhile (· ≠ '>')).drop 1

def afterComment : List Char → List Char
  | [] => []
  | '-' :: '-' :: '>' :: rest => rest
  | '-' :: '-' :: '!' :: '>' :: rest => rest
  | _ :: rest => afterComment rest

def afterCommentOpening : List Char → List Char
  | '>' :: rest => rest
  | '-' :: '>' :: rest => rest
  | cs => afterComment cs

def contentOf (tag : Tag) (rest : List Char) : List Char × List Char :=
  if tag.selfClosing then ([], rest)
  else if tag.name = "script" then scriptText .plain 0 rest
  else if tag.name = "plaintext" then (rest, [])
  else if textElements.contains tag.name then elementText tag.name.toList rest
  else ([], rest)

def scriptsFrom : Nat → OpenElements → List Char → List Script
  | 0, _, _ => []
  | _ + 1, _, [] => []
  | fuel + 1, o, '<' :: '!' :: '-' :: '-' :: rest => scriptsFrom fuel o (afterCommentOpening rest)
  | fuel + 1, o, '<' :: '!' :: rest => scriptsFrom fuel o (afterBracket rest)
  | fuel + 1, o, '<' :: '?' :: rest => scriptsFrom fuel o (afterBracket rest)
  | fuel + 1, o, '<' :: '/' :: c :: rest =>
    if isLetter c then
      match startTag? (c :: rest) with
      | none => []
      | some (tag, rest) =>
        let left := o.leave tag.name
        -- Nothing is read behind the end of the outermost element.
        if o.names ≠ [] && left.names = [] then [] else scriptsFrom fuel left rest
    else scriptsFrom fuel o (afterBracket (c :: rest))
  | fuel + 1, o, '<' :: c :: rest =>
    if isLetter c then
      match startTag? (c :: rest) with
      | none => []
      | some (tag, rest) =>
        let (body, rest) := contentOf tag rest
        let entered := o.enter tag.name tag.selfClosing
        let later := if entered.names = [] then [] else scriptsFrom fuel entered rest
        if tag.name = "script" then ⟨tag.attribute? "src", body⟩ :: later else later
    else scriptsFrom fuel o.text (c :: rest)
  | fuel + 1, o, c :: rest => scriptsFrom fuel (if isSpace c then o else o.text) rest

def encodingName : List Char :=
  "encoding".toList

def namesEncoding (cs : List Char) : Bool :=
  let rest := cs.dropWhile Text.isBlank
  rest.length < cs.length && encodingName.isPrefixOf rest &&
    match (rest.drop encodingName.length).dropWhile Text.isBlank with
    | '=' :: rest =>
      match rest.dropWhile Text.isBlank with
      | q :: rest =>
        let isQuote (c : Char) := c == '"' || c == '\''
        isQuote q && (rest.dropWhile (!isQuote ·)) ≠ []
      | [] => false
    | _ => false

def encodingWithin : List Char → Bool
  | [] => false
  | c :: cs => c ≠ '>' && (namesEncoding cs || encodingWithin cs)

def declaresEncoding (cs : List Char) : Bool :=
  match cs with
  | '<' :: '?' :: 'x' :: 'm' :: 'l' :: rest => encodingWithin rest
  | _ => false

def withoutNulls (cs : List Char) : List Char :=
  cs.map fun c => if c = '\x00' then '\ufffd' else c

/-- Markup that declares an encoding of its own is refused. -/
def parse : Page.Parser := fun markup =>
  if declaresEncoding markup then none
  else some (scriptsFrom (markup.length + 1) {} (withoutNulls (Text.unifyNewlines markup)))

end BuildPipeline.Markup
