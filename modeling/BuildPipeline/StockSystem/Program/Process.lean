import BuildPipeline.StockSystem.ByteText
import BuildPipeline.FileSystem.Access

set_option autoImplicit false

namespace BuildPipeline.StockSystem.Program

/-- `said` are the pieces written, each with the number of its stream: one for output, two for
complaints. -/
structure Process where
  name : String := ""
  files : FileSystem := {}
  env : List (String × String) := []
  input : List Char := []
  inputIsFile : Bool := false
  code : Int := 0
  said : List (Nat × List Char) := []
  deriving DecidableEq, Repr

abbrev Routine := List String → Process → Process

def pathOf (operand : String) : Path :=
  let wide := widen operand
  ⟨(Path.ofText wide).anchor, FileSystem.linkNames wide⟩

def isShownBare (c : Char) : Bool :=
  c.isAlphanum || 128 ≤ c.toNat || "%+,-./:=@_]^".toList.contains c

def shownName (name : String) : String :=
  if name ≠ "" && name.toList.all isShownBare then name
  else if name.toList.contains '\'' then "\"" ++ name ++ "\""
  else "'" ++ name ++ "'"

def inQuotes (name : String) : String :=
  let shown := shownName name
  if shown = name then "'" ++ name ++ "'" else shown

def inCurls (text : String) : String :=
  narrow "\u2018" ++ text ++ narrow "\u2019"

namespace Process

def sayChars (p : Process) (cs : List Char) : Process :=
  if cs = [] then p else { p with said := p.said ++ [(1, cs)] }

def say (p : Process) (s : String) : Process :=
  p.sayChars s.toList

def fail (p : Process) (code : Int) : Process :=
  { p with code }

def complain (p : Process) (text : String) : Process :=
  { p with said := p.said ++ [(2, (p.name ++ ": " ++ text ++ "\n").toList)], code := 1 }

def complainOf (p : Process) (cause : FileSystem.Cause) (subject : String) : Process :=
  p.complain (subject ++ ": " ++ cause.text)

def hint (p : Process) (code : Int) : Process :=
  let text := "Try '" ++ p.name ++ " --help' for more information.\n"
  { p with said := p.said ++ [(2, text.toList)], code }

def takeInput (p : Process) : List Char × Process :=
  (p.input, { p with input := [] })

def spot (p : Process) (last : Bool) (operand : String) : Except FileSystem.Cause FileSystem.Spot :=
  if operand = "" then .error .missing else p.files.locate last (pathOf operand)

def entry (p : Process) (last : Bool) (operand : String) : Except FileSystem.Cause Entry :=
  match p.spot last operand with
  | .ok (.taken _ e) => .ok e
  | .ok (.free _) => .error .missing
  | .error cause => .error cause

def content (p : Process) (operand : String) : Except FileSystem.Cause (List Char) × Process :=
  if operand = "-" || operand = "/dev/stdin" then (.ok p.input, { p with input := [] })
  else if operand = "/dev/null" then (.ok [], p)
  else match p.entry true operand with
    | .ok (.file bs) => (.ok (ofBytes bs), p)
    | .ok _ => (.error .isDirectory, p)
    | .error cause => (.error cause, p)

def onEach (p : Process) (operands : List String)
    (work : Process → String → List Char → Process) : Process :=
  (if operands = [] then ["-"] else operands).foldl (fun p operand =>
    match p.content operand with
    | (.ok cs, p) => work p operand cs
    | (.error cause, p) => p.complainOf cause (shownName operand)) p

def joined (p : Process) (operands : List String) : List Char × Process :=
  (if operands = [] then ["-"] else operands).foldl (fun (cs, p) operand =>
    match p.content operand with
    | (.ok more, p) => (cs ++ more, p)
    | (.error cause, p) => (cs, p.complainOf cause (shownName operand))) ([], p)

end Process

end BuildPipeline.StockSystem.Program
