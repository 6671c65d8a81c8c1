import BuildPipeline.Path.Basic
import BuildPipeline.Settings.StringList
import BuildPipeline.Value.Rendering

set_option autoImplicit false

namespace BuildPipeline.Settings

inductive ValueFault where
  | section (name : String)
  | flag (field : String)
  | names (cause : ListFault)
  | tooLong
  deriving DecidableEq, Repr

def ValueFault.message : ValueFault → String
  | .section name => "[" ++ name ++ "] must be a mapping"
  | .flag field => field ++ " must be a boolean if specified"
  | .names cause => cause.message
  | .tooLong => Number.tooLongMessage

def sectionOf (data : Mapping) (name : String) : Except ValueFault Mapping :=
  match data.member name with
  | .null => .ok []
  | .map members => .ok members
  | _ => .error (.section name)

def flag? (field : String) : Value → Except ValueFault (Option Bool)
  | .null => .ok none
  | .bool b => .ok (some b)
  | _ => .error (.flag field)

structure Host where
  sourceMap : Option Bool := none
  webModulesUrl : String := "/web_modules"
  metaDir : String := "__snowpack__"
  buildMinify : Bool := false
  outDir : String := "build"
  bundle : Bool := false
  deriving DecidableEq, Repr

def textOf (v : Value) : Except ValueFault String :=
  if v.isTooLong then .error .tooLong else .ok v.text

def textMember (data : Mapping) (key default : String) : Except ValueFault String :=
  match data.get? (.str key) with
  | none => .ok default
  | some v => textOf v

def truthMember (data : Mapping) (key : String) : Bool :=
  (data.member key).truthy

namespace Host

def ofMapping (data : Mapping) : Except ValueFault Host := do
  let install ← sectionOf data "installOptions"
  let build ← sectionOf data "buildOptions"
  let dev ← sectionOf data "devOptions"
  let sourceMap ← flag? "installOptions.sourceMap" (install.member "sourceMap")
  let webModulesUrl ← textMember build "webModulesUrl" "/web_modules"
  let metaDir ← textMember build "metaDir" "__snowpack__"
  let outDir ← textMember dev "out" "build"
  .ok {
    sourceMap := sourceMap
    webModulesUrl := webModulesUrl
    metaDir := metaDir
    buildMinify := truthMember build "minify"
    outDir := outDir
    bundle := truthMember dev "bundle" }

def below (host : Host) (dir file : String) : Path :=
  let dir := String.ofList (dir.toList.dropWhile (· = '/'))
  ((Path.ofText host.outDir).join (Path.ofText dir)).child file

def importMapPath (host : Host) : Path :=
  host.below host.webModulesUrl "import-map.json"

def envScriptPath (host : Host) : Path :=
  host.below host.metaDir "env.js"

end Host

end BuildPipeline.Settings
