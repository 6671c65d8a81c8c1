import BuildPipeline.BuildTree.Pruning
import BuildPipeline.BuildTree.Relocation
import BuildPipeline.FileSystem.Move

set_option autoImplicit false

/-!
Bringing a build tree in line with a bundle: the inputs that were bundled are deleted, the outputs
move to their destinations, and files of passing use go. A move that fails is reported, and the
others go on.
-/

namespace BuildPipeline.BuildTree

open BuildPipeline.Bundler (Manifest)
open FileSystem (AccessFault MoveFault)

structure FailedMove where
  source : Path
  destination : Path
  reason : String
  deriving DecidableEq, Repr

def FailedMove.message (f : FailedMove) : String :=
  "Could not move " ++ f.source.text ++ " to " ++ f.destination.text ++ ": " ++ f.reason

structure Report where
  moves : Relocation
  deleted : List Path
  failures : List FailedMove
  deriving DecidableEq, Repr

inductive ReconcileFault where
  | plan (cause : EntryPointFault)
  | access (cause : AccessFault)
  deriving DecidableEq, Repr

def deleteInputs (root : Path) (w : World) :
    List Path → World × Except AccessFault (List Path)
  | [] => (w, .ok [])
  | input :: rest =>
    if !input.isWithin root then
      deleteInputs root
        (w.debug ("Keeping bundler input outside the build tree: " ++ input.text)) rest
    else match unlinkPrune w input root with
      | .error fault => (w, .error fault)
      | .ok (w, _) =>
        match w.files.pathExists input with
        | .error fault => (w, .error (.system fault))
        | .ok there =>
          let (w, gone) := deleteInputs root w rest
          (w, gone.map fun ps => if there then ps else input :: ps)

def clear (fs : FileSystem) (p : Path) : Except AccessFault FileSystem := do
  let isFile ← (fs.isFile p).mapError .system
  let isLink ← (if isFile then .ok false else (fs.isLink p).mapError .system)
  if isFile || isLink then fs.unlink p else .ok fs

/-- What has been made or removed on the way to a fault stays so. -/
def moveOutput (fs : FileSystem) (source destination : Path) :
    FileSystem × Except MoveFault Unit :=
  match fs.makeDirectories destination.parent with
  | (fs, .error fault) => (fs, .error (.access fault))
  | (fs, .ok ()) =>
    match clear fs destination with
    | .error fault => (fs, .error (.access fault))
    | .ok fs =>
      match fs.move source destination with
      | .error fault => (fs, .error fault)
      | .ok fs => (fs, .ok ())

def moveOutputs (w : World) : Relocation → World × Except AccessFault (List FailedMove)
  | [] => (w, .ok [])
  | (source, destination) :: rest =>
    match moveOutput w.files source destination with
    | (files, .ok ()) =>
      moveOutputs
        (({ w with files } : World).debug ("Moved " ++ source.name ++ " -> " ++ destination.text))
        rest
    | (files, .error (.access .nullCharacter)) => ({ w with files }, .error .nullCharacter)
    | (files, .error fault) =>
      let failed : FailedMove := ⟨source, destination, fault.message⟩
      let (w, more) := moveOutputs (({ w with files } : World).warning failed.message) rest
      (w, more.map (failed :: ·))

def removeTransient (root : Path) (w : World) : List Path → World × Except AccessFault Unit
  | [] => (w, .ok ())
  | artifact :: rest =>
    let path := Path.absolute ⟨.root, w.files.cwd⟩ artifact
    if path.isWithin root then
      match unlinkPrune w path root with
      | .error fault => (w, .error fault)
      | .ok (w, _) => removeTransient root w rest
    else removeTransient root w rest

def deletedMessage (gone : List Path) : String :=
  "Removed " ++ Number.natText gone.length ++ " bundled input(s)"

/-- Nothing is changed before all moves are planned. -/
def reconcile (w : World) (m : Manifest) (root : Path) (transient : List Path) :
    World × Except ReconcileFault Report :=
  let cwd : Path := ⟨.root, w.files.cwd⟩
  let root := Path.absolute cwd root
  match plan cwd m root with
  | .error fault => (w, .error (.plan fault))
  | .ok moves =>
    let inputs := (Manifest.keysOf m.inputs).map fun key => Path.absolute cwd (m.absolute key)
    -- From here on the tree is changed, also where a later stage ends in a fault.
    match deleteInputs root w inputs with
    | (w, .error fault) => (w, .error (.access fault))
    | (w, .ok gone) =>
      match moveOutputs (w.debug (deletedMessage gone)) moves with
      | (w, .error fault) => (w, .error (.access fault))
      | (w, .ok failures) =>
        match removeTransient root w transient with
        | (w, .error fault) => (w, .error (.access fault))
        | (w, .ok ()) => (w, .ok ⟨moves, gone, failures⟩)

end BuildPipeline.BuildTree
