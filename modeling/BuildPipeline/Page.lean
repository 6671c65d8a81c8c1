import BuildPipeline.Imports

set_option autoImplicit false

namespace BuildPipeline.Page

structure Script where
  src : Option String
  body : List Char
  deriving DecidableEq, Repr

/-- What finds the scripts in the markup of a page, in document order, or refuses the markup. -/
abbrev Parser := List Char → Option (List Script)

def scriptReferences (script : Script) : List String :=
  match script.src with
  | some src => [src]
  | none => Imports.specifiers script.body

def references (parse : Parser) (markup : String) : List String :=
  if markup.toList.all Text.isBlank then []
  else ((parse markup.toList).getD []).flatMap scriptReferences

end BuildPipeline.Page
