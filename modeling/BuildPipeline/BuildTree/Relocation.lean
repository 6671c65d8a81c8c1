import BuildPipeline.Bundler.Manifest

set_option autoImplicit false

namespace BuildPipeline.BuildTree

open BuildPipeline.Bundler (Manifest)

structure EntryPointFault where
  value : Value
  deriving DecidableEq, Repr

/-- One move per source, in the order of the sources. -/
abbrev Relocation := List (Path × Path)

def Relocation.insert (source destination : Path) : Relocation → Relocation
  | [] => [(source, destination)]
  | (s, d) :: rest =>
    if s = source then (s, destination) :: rest
    else (s, d) :: Relocation.insert source destination rest

def inputNamed? (cwd : Path) (m : Manifest) (name : String) : Option Path :=
  ((Manifest.keysOf m.inputs).reverse.find? fun key => (Path.ofText key).name = name).map
    fun key => Path.absolute cwd (m.absolute key)

def entryPoint? (metadata : Value) : Except EntryPointFault (Option String) :=
  match metadata with
  | .map members =>
    match Mapping.member members "entryPoint" with
    | .str s => .ok (if s = "" then none else some s)
    | v => if v.truthy then .error ⟨v⟩ else .ok none
  | _ => .ok none

/-- The path that an output would return to, wherever that is. -/
def origin? (cwd : Path) (m : Manifest) (output : Path) (metadata : Value) :
    Except EntryPointFault (Option Path) :=
  match inputNamed? cwd m output.name with
  | some path => .ok (some path)
  | none => (entryPoint? metadata).map fun entry => entry.map fun key =>
      output.namesake (Path.absolute cwd (m.absolute key)).parent

def withinOrTop (root output : Path) : Option Path → Path
  | some path => if path.isWithin root then path else output.namesake root
  | none => output.namesake root

def planFrom (cwd : Path) (m : Manifest) (root : Path) (moves : Relocation) :
    List (Value × Value) → Except EntryPointFault Relocation
  | [] => .ok moves
  | (key, metadata) :: rest => do
    let output := m.absolute key.text
    let origin ← origin? cwd m output metadata
    planFrom cwd m root (moves.insert output (withinOrTop root output origin)) rest

def plan (cwd : Path) (m : Manifest) (root : Path) : Except EntryPointFault Relocation :=
  planFrom cwd m (Path.absolute cwd root) [] m.outputs

end BuildPipeline.BuildTree
