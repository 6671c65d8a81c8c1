import BuildPipeline.FileSystem.Access
import BuildPipeline.Path.FileName

set_option autoImplicit false

/-!
The files of a build tree, those of a directory before those of the ones below it, each directory's
names in order. Links to directories are not entered; links to files count as files, and links that
lead nowhere are passed over.
-/

namespace BuildPipeline.BuildTree

structure TreeFile where
  path : Path
  name : String
  stem : String
  kind : FileName.Kind
  deriving DecidableEq, Repr

inductive WalkFault where
  | directory (path : Path) (cause : FileSystem.Fault)
  | nullCharacter
  deriving DecidableEq, Repr

def WalkFault.message : WalkFault → String
  | .directory path cause => "Cannot read directory '" ++ path.text ++ "': " ++ cause.message
  | .nullCharacter => "embedded null byte"

def WalkFault.of (path : Path) : FileSystem.AccessFault → WalkFault
  | .system cause => .directory path cause
  | .nullCharacter => .nullCharacter

inductive Found where
  | directory (path : Path)
  | file (f : TreeFile)
  | nothing
  deriving DecidableEq, Repr

def fileOf (endings : FileName.Endings) (path : Path) (name : String) : TreeFile :=
  let (kind, stem) := FileName.classify endings name
  ⟨path, Text.lower name, stem, kind⟩

/-- Whether what an entry leads to is a file; only an entry that leads to nothing is no fault. -/
def leadsToFile (fs : FileSystem) (path : Path) : Except FileSystem.AccessFault Bool :=
  match fs.entry true path with
  | .ok e => .ok e.isFile
  | .error fault => if fault.isMissing then .ok false else .error fault

def look (fs : FileSystem) (endings : FileName.Endings) (dir : Path) (place : Location)
    (name : String) : Except FileSystem.AccessFault Found :=
  let path := dir.child name
  match fs.get? (place ++ [name]) with
  | none => .ok .nothing
  | some .directory => .ok (.directory path)
  | some (.file _) => .ok (.file (fileOf endings path name))
  | some (.link _) => do
    .ok (if ← leadsToFile fs path then .file (fileOf endings path name) else .nothing)

def scan (fs : FileSystem) (endings : FileName.Endings) (dir : Path) :
    Except WalkFault (List Found) :=
  (do
    let place ← fs.findDirectory dir
    (fs.names place).mapM (look fs endings dir place)).mapError (WalkFault.of dir)

def Found.file? : Found → Option TreeFile
  | .file f => some f
  | _ => none

def Found.directory? : Found → Option Path
  | .directory path => some path
  | _ => none

/-- The files of the directories in a queue and of all below them. Those found in a directory are
put at the end of the queue. No more than `rounds` directories are read. -/
def drain (fs : FileSystem) (endings : FileName.Endings) : (rounds : Nat) → List Path →
    Except WalkFault (List TreeFile)
  | _, [] => .ok []
  | 0, _ :: _ => .ok []
  | rounds + 1, dir :: queue => do
    let found ← scan fs endings dir
    let later ← drain fs endings rounds (queue ++ found.filterMap Found.directory?)
    .ok (found.filterMap Found.file? ++ later)

def walk (fs : FileSystem) (endings : FileName.Endings) (root : Path) :
    Except WalkFault (List TreeFile) :=
  drain fs endings (fs.entries.length + 1) [Path.absolute ⟨.root, fs.cwd⟩ root]

def markupFiles (files : List TreeFile) : List Path :=
  (files.filter (·.kind = .markup)).map (·.path)

def script? (files : List TreeFile) (stem : String) : Option Path :=
  (files.reverse.find? fun f => f.kind = .script && f.stem = stem).map (·.path)

def stems (files : List TreeFile) : List String :=
  ((files.filter (·.kind = .script)).map (·.stem)).eraseDups

end BuildPipeline.BuildTree
