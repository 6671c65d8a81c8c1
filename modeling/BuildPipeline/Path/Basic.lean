import BuildPipeline.Text.Pieces

set_option autoImplicit false

/-!
Paths as an anchor and components. Empty components and single dots are dropped when a text is
read, double dots are kept. Exactly two slashes at the start are an anchor of their own.
-/

namespace BuildPipeline

inductive Anchor where
  | relative
  | root
  | doubleRoot
  deriving DecidableEq, Repr

def Anchor.text : Anchor → String
  | .relative => ""
  | .root => "/"
  | .doubleRoot => "//"

structure Path where
  anchor : Anchor
  parts : List String
  deriving DecidableEq, Repr

namespace Path

def here : Path := ⟨.relative, []⟩

def anchorOf : List Char → Anchor
  | '/' :: '/' :: '/' :: _ => .root
  | '/' :: '/' :: _ => .doubleRoot
  | '/' :: _ => .root
  | _ => .relative

def isPart (part : List Char) : Bool :=
  part ≠ [] && part ≠ ['.']

def partsOf (cs : List Char) : List String :=
  ((Text.pieces '/' cs).filter isPart).map String.ofList

def ofText (s : String) : Path :=
  ⟨anchorOf s.toList, partsOf s.toList⟩

def text (p : Path) : String :=
  match p.anchor, p.parts with
  | .relative, [] => "."
  | anchor, parts => anchor.text ++ "/".intercalate parts

def isAbsolute (p : Path) : Bool :=
  p.anchor ≠ .relative

def join (p q : Path) : Path :=
  if q.isAbsolute then q else ⟨p.anchor, p.parts ++ q.parts⟩

def child (p : Path) (name : String) : Path :=
  ⟨p.anchor, p.parts ++ [name]⟩

def name (p : Path) : String :=
  p.parts.getLast?.getD ""

def parent (p : Path) : Path :=
  ⟨p.anchor, p.parts.dropLast⟩

def absolute (cwd p : Path) : Path :=
  if p.isAbsolute then p else ⟨cwd.anchor, cwd.parts ++ p.parts⟩

def textBelow (base tail : String) : String :=
  if base = "" || base.toList.getLast? = some '/' then base ++ tail else base ++ "/" ++ tail

def namesake (p dir : Path) : Path :=
  ⟨dir.anchor, dir.parts ++ p.parts.getLast?.toList⟩

def above (p : Path) : List Path :=
  go p.anchor p.parts.reverse.tail p.parts
where
  go (anchor : Anchor) : List String → List String → List Path
    | _, [] => []
    | [], _ => [⟨anchor, []⟩]
    | name :: rest, parts => ⟨anchor, (name :: rest).reverse⟩ :: go anchor rest parts

/-- Whether `p` is `root` or below it, by its components alone. -/
def isWithin (p root : Path) : Bool :=
  p.anchor = root.anchor && root.parts.isPrefixOf p.parts

def suffixOf (name : List Char) : List Char :=
  match name.reverse.dropWhile (· ≠ '.') with
  | '.' :: _ :: _ =>
    match (name.reverse.takeWhile (· ≠ '.')).reverse with
    | [] => []
    | extension => '.' :: extension
  | _ => []

def suffix (p : Path) : String :=
  String.ofList (suffixOf p.name.toList)

def withSuffix? (p : Path) (suffix : List Char) : Option Path :=
  if p.name = "" then none
  else
    let name := p.name.toList
    let stem := name.take (name.length - (suffixOf name).length)
    some (p.parent.child (String.ofList (stem ++ suffix)))

theorem isWithin_refl (p : Path) : p.isWithin p = true := by
  simp [isWithin]

theorem isWithin_child {p root : Path} (name : String) (h : p.isWithin root = true) :
    (p.child name).isWithin root = true := by
  simp only [isWithin, child, Bool.and_eq_true, List.isPrefixOf_iff_prefix] at h ⊢
  exact ⟨h.1, h.2.trans (List.prefix_append _ _)⟩

end Path

end BuildPipeline
