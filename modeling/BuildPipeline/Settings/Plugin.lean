import BuildPipeline.Settings.Host
import BuildPipeline.Settings.Layers

set_option autoImplicit false

namespace BuildPipeline.Settings

def stageKeys : List String :=
  ["entrypoints", "splitting", "target", "minify", "debug", "smartscan"]

def isStageKey (key : Value) : Bool :=
  stageKeys.any fun name => key.sameKey (.str name)

structure Options where
  entrypoints : List String := []
  splitting : Option Bool := none
  target : Option String := none
  minify : Option Bool := none
  debug : Bool := false
  smartscan : Bool := true
  compiler : Mapping := []
  deriving DecidableEq, Repr

def textKey (member : Value × Value) : Except ValueFault (Value × Value) :=
  (textOf member.1).map fun key => (.str key, member.2)

def forwarded (data : Mapping) : Except ValueFault Mapping :=
  ((data.filter fun m => !isStageKey m.1).mapM textKey).map Mapping.ofList

def targetOf : Value → Except ValueFault (Option String)
  | .null => .ok none
  | v => (textOf v).map some

def Options.ofMapping (data : Mapping) : Except ValueFault Options := do
  let entrypoints ← (stringList "entrypoints" (data.member "entrypoints")).mapError .names
  let smartscan ← flag? "smartscan" (data.member "smartscan")
  let splitting ← flag? "splitting" (data.member "splitting")
  let target ← targetOf (data.member "target")
  let minify ← flag? "minify" (data.member "minify")
  let compiler ← forwarded data
  .ok {
    entrypoints := entrypoints
    splitting := splitting
    target := target
    minify := minify
    debug := truthMember data "debug"
    smartscan := smartscan.getD true
    compiler := compiler }

def compilerDefaults : Mapping :=
  [(.str "standalone", .bool true), (.str "sourceMap", .bool true), (.str "evaling", .bool true),
   (.str "target", .str "web"), (.str "format", .str "esm"), (.str "es6", .bool true),
   (.str "sourceRoot", .str "")]

def bundlerDefaults : Mapping :=
  [(.str "splitting", .bool false), (.str "target", .str "es2017"), (.str "minify", .bool false)]

structure FilePaths where
  filename : String
  sourcePath : String
  targetPath : String

def FilePaths.members (f : FilePaths) : Mapping :=
  [(.str "filename", .str f.filename), (.str "sourcePath", .str f.sourcePath),
   (.str "targetPath", .str f.targetPath)]

/-- The record for one file; its paths win over any option. -/
def compilerRecord (host : Host) (options : Options) (paths : FilePaths) : Mapping :=
  let defaults := match host.sourceMap with
    | none => compilerDefaults
    | some b => compilerDefaults.insert (.str "sourceMap") (.bool b)
  (resolveLayers [some defaults, some options.compiler]).insertAll paths.members

def boolValue (b : Option Bool) : Value :=
  match b with
  | none => .null
  | some b => .bool b

def textValue (s : Option String) : Value :=
  match s with
  | none => .null
  | some s => .str s

def bundlerSettings (host : Host) (options : Options) : Mapping :=
  resolveLayers [some bundlerDefaults, some [(.str "minify", .bool host.buildMinify)],
    some [(.str "splitting", boolValue options.splitting),
      (.str "target", textValue options.target), (.str "minify", boolValue options.minify)]]

end BuildPipeline.Settings
