import BuildPipeline.Path.Basic

set_option autoImplicit false

namespace BuildPipeline.Path

def collapseFrom (done : List String) : List String → List String
  | [] => done.reverse
  | part :: rest => if part = ".." then collapseFrom done.tail rest else collapseFrom (part :: done) rest

def collapse (parts : List String) : List String :=
  collapseFrom [] parts

def wayBetween : List String → List String → List String
  | b :: base, p :: parts =>
    if b = p then wayBetween base parts
    else List.replicate (base.length + 1) ".." ++ p :: parts
  | base, parts => List.replicate base.length ".." ++ parts

/-- The path from the directory `base` to `p`, which is taken below `base` if it is relative. -/
def relativeTo (cwd p base : Path) : Path :=
  let start := collapse (absolute cwd base).parts
  let goal := collapse (absolute cwd (join base p)).parts
  ⟨.relative, wayBetween start goal⟩

end BuildPipeline.Path
