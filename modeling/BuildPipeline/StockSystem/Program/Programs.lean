import BuildPipeline.StockSystem.Program.Characters
import BuildPipeline.StockSystem.Program.Condition
import BuildPipeline.StockSystem.Program.Directories
import BuildPipeline.StockSystem.Program.Editing
import BuildPipeline.StockSystem.Program.Fields
import BuildPipeline.StockSystem.Program.Numbers

set_option autoImplicit false

namespace BuildPipeline.StockSystem.Program

def printenv : Routine := fun words p =>
  if words = [] then p.env.foldl (fun p v => p.say (v.1 ++ "=" ++ v.2 ++ "\n")) p
  else words.foldl (fun p name =>
    match p.env.lookup name with
    | some value => p.say (value ++ "\n")
    | none => p.fail 1) p

def programs : List (String × Routine) :=
  [("[", judge true), ("basename", basename), ("cat", cat), ("cp", cp), ("cut", cut),
   ("dirname", dirname), ("echo", echo), ("false", fun _ p => p.fail 1), ("fold", foldLines),
   ("grep", grep), ("head", head), ("ln", ln), ("ls", ls), ("mkdir", mkdir), ("mv", mv), ("nl", nl),
   ("paste", paste), ("printenv", printenv), ("printf", printf), ("pwd", pwd),
   ("readlink", readlink), ("realpath", realpath), ("rev", rev), ("rm", rm), ("rmdir", rmdir),
   ("sed", sed), ("seq", seq), ("sleep", fun _ p => p), ("sort", sort), ("tac", tac), ("tail", tail),
   ("tee", tee), ("test", judge false), ("touch", touch), ("tr", tr), ("true", fun _ p => p),
   ("uniq", uniq), ("wc", wc)]

def starters : List String :=
  ["dash", "env", "nice", "nohup", "sh", "timeout", "xargs"]

def isProgram (name : String) : Bool :=
  (programs.lookup name).isSome || starters.contains name

def binaryDirectories : List String :=
  ["/bin", "/usr/bin"]

def directoryOf? (path : String) (name : String) : Option String :=
  if isProgram name then (path.splitOn ":").find? binaryDirectories.contains else none

def atPath? (path : String) : Option String :=
  (binaryDirectories.findSome? fun dir =>
    let lead := (dir ++ "/").toList
    if lead.isPrefixOf path.toList then some (String.ofList (path.toList.drop lead.length))
    else none).filter isProgram

end BuildPipeline.StockSystem.Program
