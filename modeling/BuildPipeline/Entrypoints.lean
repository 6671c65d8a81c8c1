import BuildPipeline.BuildTree.Walk
import BuildPipeline.Console
import BuildPipeline.Page
import BuildPipeline.Settings.StringList
import BuildPipeline.Value.Rendering

set_option autoImplicit false

namespace BuildPipeline.Entrypoints

def hint : String :=
  "Add one or multiple entrypoints to the plugin configuration, e.g.\n"
  ++ "  \"plugins\": [ [\"imbapack\", \x7b\"entrypoints\": [\"main.imba\"]\x7d] ]"

inductive Fault where
  | names (cause : Settings.ListFault)
  | walk (cause : BuildTree.WalkFault)
  | markup (path : Path) (cause : FileSystem.AccessFault)
  | noneNamed
  deriving DecidableEq, Repr

def Fault.message : Fault → String
  | .names cause => cause.message
  | .walk cause => cause.message
  | .markup path cause => "Cannot read markup file '" ++ path.text ++ "': " ++ cause.message
  | .noneNamed => "Missing entrypoints.\n" ++ hint

def pageReferences (parse : Page.Parser) (content : List UInt8) : List String :=
  Page.references parse (String.ofList (Text.unifyNewlines (Text.Utf8.decodeLenient content)))

def foundMessage (page : Path) (found : List String) : String :=
  page.text ++ ": " ++ Number.natText found.length ++ " script reference(s) "
    ++ (Value.list (found.map .str)).quoted

/-- The references of pages in turn. What has been told before a page cannot be read stays told. -/
def scanPages (parse : Page.Parser) (fs : FileSystem) (console : Console) : List Path →
    Except Fault (List String) × Console
  | [] => (.ok [], console)
  | page :: rest =>
    match fs.read page with
    | .error cause => (.error (.markup page cause), console)
    | .ok content =>
      let found := pageReferences parse content
      let (more, console) := scanPages parse fs (console.debug (foundMessage page found)) rest
      (more.map (found ++ ·), console)

def pick (scripts : String → Option Path) (console : Console) (seen : List Path) :
    List String → List Path × Console
  | [] => ([], console)
  | candidate :: rest =>
    match scripts (FileName.lookupKey candidate) with
    | none =>
      pick scripts (console.debug ("Entrypoint candidate '" ++ candidate
        ++ "' matches no script, skipped")) seen rest
    | some path =>
      if seen.contains path then pick scripts console seen rest
      else
        let told := console.debug ("Entrypoint '" ++ candidate ++ "' -> " ++ path.text)
        let (more, console) := pick scripts told (path :: seen) rest
        (path :: more, console)

/-- To find nothing is a fault where nothing was named. -/
def resolve (parse : Page.Parser) (fs : FileSystem) (console : Console) (configured : Value)
    (root : Path) (scanMarkup : Bool) : Except Fault (List Path) × Console :=
  match Settings.stringList "entrypoints" configured with
  | .error cause => (.error (.names cause), console)
  | .ok named =>
    match BuildTree.walk fs .standard root with
    | .error cause => (.error (.walk cause), console)
    | .ok files =>
      let pages := if scanMarkup then BuildTree.markupFiles files else []
      match scanPages parse fs console pages with
      | (.error fault, console) => (.error fault, console)
      | (.ok found, console) =>
        let (picked, console) := pick (BuildTree.script? files) console [] (named ++ found)
        if picked = [] && named = [] then (.error .noneNamed, console) else (.ok picked, console)

end BuildPipeline.Entrypoints
