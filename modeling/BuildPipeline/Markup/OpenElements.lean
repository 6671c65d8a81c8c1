set_option autoImplicit false

namespace BuildPipeline.Markup

/-- `owed` counts the end tags that are passed over because their start tags were out of place. -/
structure OpenElements where
  names : List String := []
  owed : Nat := 0
  headSeen : Bool := false
  bodySeen : Bool := false
  deriving DecidableEq, Repr

def voidElements : List String :=
  ["area", "base", "basefont", "br", "col", "embed", "frame", "hr", "img", "input", "isindex",
   "link", "meta", "param"]

def headElements : List String :=
  ["script", "style", "meta", "link", "title", "base"]

def frameElements : List String :=
  ["noframes", "frame", "frameset"]

def frameworkElements : List String :=
  ["html", "head", "body"]

def headEnders : List String :=
  ["a", "abbr", "acronym", "address", "b", "bdo", "big", "blockquote", "body", "br", "center",
   "cite", "code", "dd", "dfn", "dir", "div", "dl", "dt", "em", "fieldset", "font", "form",
   "frameset", "h1", "h2", "h3", "h4", "h5", "h6", "hr", "i", "iframe", "img", "kbd", "li",
   "listing", "map", "menu", "ol", "p", "pre", "q", "s", "samp", "small", "span", "strike",
   "strong", "sub", "sup", "table", "tt", "u", "ul", "var", "xmp"]

def paragraphEnders : List String :=
  ["address", "blockquote", "body", "caption", "center", "col", "colgroup", "dd", "dir", "div",
   "dl", "dt", "fieldset", "form", "frameset", "h1", "h2", "h3", "h4", "h5", "h6", "head", "hr",
   "li", "listing", "menu", "ol", "p", "pre", "table", "tbody", "td", "tfoot", "th", "title",
   "tr", "ul", "xmp"]

def endRank (name : String) : Nat :=
  match name with
  | "div" => 150
  | "td" | "th" => 160
  | "tr" => 170
  | "thead" | "tbody" | "tfoot" => 180
  | "table" => 190
  | "head" | "body" => 200
  | "html" => 220
  | _ => 100

namespace OpenElements

def push (o : OpenElements) (name : String) : OpenElements :=
  { o with
    names := name :: o.names
    headSeen := o.headSeen || name = "head" || name = "body"
    bodySeen := o.bodySeen || name = "body" }

def pop (o : OpenElements) : OpenElements :=
  { o with names := o.names.tail }

def makeRoom (o : OpenElements) (name : String) : OpenElements :=
  match o.names with
  | "head" :: _ => if headEnders.contains name then o.pop else o
  | "p" :: _ => if paragraphEnders.contains name then o.pop else o
  | _ => o

def withImplied (o : OpenElements) (name : String) : OpenElements :=
  if name = "html" then o
  else
    let o := if o.names = [] then o.push "html" else o
    if frameworkElements.contains name then o
    else if o.names.length ≤ 1 && headElements.contains name then
      if o.headSeen then o else o.push "head"
    else if frameElements.contains name || o.bodySeen || o.names.contains "head" then o
    else o.push "body"

def misplaced (o : OpenElements) (name : String) : Nat :=
  match name with
  | "html" => if o.names = [] then 0 else 1
  | "head" => if o.names.length = 1 then 0 else 1
  | "body" => o.names.count "body"
  | _ => 0

def enter (o : OpenElements) (name : String) (selfClosing : Bool) : OpenElements :=
  let o := (o.makeRoom name).withImplied name
  let owed := o.misplaced name
  let o := if owed = 0 then o.push name else { o with owed := o.owed + owed }
  if selfClosing || (owed = 0 && voidElements.contains name) then o.pop else o

def leave (o : OpenElements) (name : String) : OpenElements :=
  if o.owed ≠ 0 && frameworkElements.contains name then { o with owed := o.owed - 1 }
  else match o.names.dropWhile (· ≠ name) with
    | [] => o
    | _ :: outer =>
      if (o.names.takeWhile (· ≠ name)).any fun inner => endRank name < endRank inner then o
      else { o with names := outer }

def text (o : OpenElements) : OpenElements :=
  if ["", "html", "head"].contains (o.names.headD "") then
    ((o.makeRoom "p").withImplied "p").push "p"
  else o

theorem names_push (o : OpenElements) (name : String) : (o.push name).names = name :: o.names := rfl

end OpenElements

end BuildPipeline.Markup
