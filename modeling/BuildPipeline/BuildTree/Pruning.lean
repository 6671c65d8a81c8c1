import BuildPipeline.World

set_option autoImplicit false

namespace BuildPipeline.BuildTree

/-- The directories above a path that may be pruned, nearest first: those strictly below the
root. -/
def prunable (path root : Path) : List Path :=
  path.above.takeWhile fun dir => dir ≠ root && dir.isWithin root

def pruneOne (fs : FileSystem) (dir : Path) : Except FileSystem.AccessFault (Option FileSystem) := do
  if (← fs.list dir) ≠ [] then .ok none
  else .ok (some (← fs.removeDirectory dir))

def pruneEach (w : World) : List Path → World × List Path
  | [] => (w, [])
  | dir :: rest =>
    match pruneOne w.files dir with
    | .ok none => (w, [])
    | .ok (some files) =>
      let (w, removed) := pruneEach { w with files } rest
      (w, dir :: removed)
    | .error fault =>
      if fault.isMissing then
        let (w, removed) := pruneEach w rest
        (w, dir :: removed)
      else (w.warning ("Cannot prune " ++ dir.text ++ ": " ++ fault.message), [])

/-- The removed directories are returned, nearest first. A missing file is no obstacle; one that
cannot be removed is told, and nothing is pruned. The fault is a null character in the path. -/
def unlinkPrune (w : World) (path root : Path) :
    Except FileSystem.AccessFault (World × List Path) :=
  let cwd : Path := ⟨.root, w.files.cwd⟩
  let root := Path.absolute cwd root
  let path := Path.absolute cwd path
  match w.files.unlink path with
  | .ok files => .ok (pruneEach { w with files } (prunable path root))
  | .error .nullCharacter => .error .nullCharacter
  | .error (.system fault) =>
    if fault.cause = .missing then .ok (pruneEach w (prunable path root))
    else .ok (w.warning ("Cannot remove " ++ path.text ++ ": " ++ fault.message), [])

end BuildPipeline.BuildTree
