import BuildPipeline.FileSystem.Basic

set_option autoImplicit false

namespace BuildPipeline.FileSystem

inductive AccessFault where
  | system (fault : Fault)
  | nullCharacter
  deriving DecidableEq, Repr

def AccessFault.message : AccessFault → String
  | .system fault => fault.message
  | .nullCharacter => "embedded null byte"

def holdsNull (p : Path) : Bool :=
  p.parts.any fun part => part.toList.contains '\x00'

def refuse {α : Type} (cause : Cause) (p : Path) : Except AccessFault α :=
  .error (.system { cause, path := p.text })

def spot (fs : FileSystem) (last : Bool) (p : Path) : Except AccessFault Spot :=
  if holdsNull p then .error .nullCharacter
  else (fs.locate last p).mapError fun cause => .system { cause, path := p.text }

def entry (fs : FileSystem) (last : Bool) (p : Path) : Except AccessFault Entry := do
  match ← fs.spot last p with
  | .taken _ e => .ok e
  | .free _ => refuse .missing p

def read (fs : FileSystem) (p : Path) : Except AccessFault (List UInt8) := do
  match ← fs.entry true p with
  | .file content => .ok content
  | _ => refuse .isDirectory p

def findDirectory (fs : FileSystem) (p : Path) : Except AccessFault Location := do
  match ← fs.spot true p with
  | .taken place .directory => .ok place
  | .taken .. => refuse .notDirectory p
  | .free _ => refuse .missing p

def list (fs : FileSystem) (p : Path) : Except AccessFault (List String) := do
  let place ← fs.findDirectory p
  .ok (fs.names place)

def unlink (fs : FileSystem) (p : Path) : Except AccessFault FileSystem := do
  match ← fs.spot false p with
  | .taken _ .directory => refuse .isDirectory p
  | .taken place _ => .ok (fs.erase place)
  | .free _ => refuse .missing p

def removeDirectory (fs : FileSystem) (p : Path) : Except AccessFault FileSystem := do
  match ← fs.spot false p with
  | .taken place .directory =>
    if place = [] then refuse .busy p
    else if p.name = ".." || fs.names place ≠ [] then refuse .notEmpty p
    else .ok (fs.erase place)
  | .taken .. => refuse .notDirectory p
  | .free _ => refuse .missing p

def makeDirectory (fs : FileSystem) (p : Path) : Except AccessFault FileSystem := do
  match ← fs.spot false p with
  | .taken .. => refuse .alreadyThere p
  | .free place => .ok (fs.set place .directory)

def leadsNowhere : Cause → Bool
  | .missing => true
  | .notDirectory => true
  | .tooManyLinks => true
  | _ => false

/-- Whether a path leads to an entry that satisfies `holds`. Only faults that do not answer this
are passed on. -/
def leadsTo (fs : FileSystem) (last : Bool) (holds : Entry → Bool) (p : Path) : Except Fault Bool :=
  match fs.entry last p with
  | .ok e => .ok (holds e)
  | .error .nullCharacter => .ok false
  | .error (.system fault) => if leadsNowhere fault.cause then .ok false else .error fault

def pathExists (fs : FileSystem) (p : Path) : Except Fault Bool :=
  fs.leadsTo true (fun _ => true) p

def isFile (fs : FileSystem) (p : Path) : Except Fault Bool :=
  fs.leadsTo true Entry.isFile p

def isLink (fs : FileSystem) (p : Path) : Except Fault Bool :=
  fs.leadsTo false Entry.isLink p

def isDirectory (fs : FileSystem) (p : Path) : Except Fault Bool :=
  fs.leadsTo true Entry.isDirectory p

def makeDirectoryIfNew (fs : FileSystem) (p : Path) : Except AccessFault FileSystem :=
  match fs.makeDirectory p with
  | .ok fs => .ok fs
  | .error (.system fault) =>
    if fault.cause = .missing then .error (.system fault)
    else match fs.isDirectory p with
      | .ok true => .ok fs
      | .ok false => .error (.system fault)
      | .error fault => .error (.system fault)
  | .error fault => .error fault

def attemptDirectory (fs : FileSystem) (p : Path) : FileSystem × Except AccessFault Unit :=
  match fs.makeDirectoryIfNew p with
  | .ok fs => (fs, .ok ())
  | .error fault => (fs, .error fault)

def AccessFault.isMissing : AccessFault → Bool
  | .system fault => fault.cause = .missing
  | .nullCharacter => false

/-- Makes a directory, and those above it first where they are missing. The names are read
backwards. Directories made before a fault stay. -/
def makeDirectoriesFrom (anchor : Anchor) (fs : FileSystem) :
    List String → FileSystem × Except AccessFault Unit
  | [] => fs.attemptDirectory ⟨anchor, []⟩
  | name :: above =>
    match fs.attemptDirectory ⟨anchor, (name :: above).reverse⟩ with
    | (fs, .ok ()) => (fs, .ok ())
    | (fs, .error fault) =>
      if fault.isMissing then
        match makeDirectoriesFrom anchor fs above with
        | (fs, .ok ()) => fs.attemptDirectory ⟨anchor, (name :: above).reverse⟩
        | r => r
      else (fs, .error fault)

def makeDirectories (fs : FileSystem) (p : Path) : FileSystem × Except AccessFault Unit :=
  makeDirectoriesFrom p.anchor fs p.parts.reverse

def write (fs : FileSystem) (p : Path) (content : List UInt8) : Except AccessFault FileSystem := do
  match ← fs.spot true p with
  | .taken _ .directory => refuse .isDirectory p
  | .taken place _ => .ok (fs.set place (.file content))
  | .free place => .ok (fs.set place (.file content))

def makeLink (fs : FileSystem) (p : Path) (target : String) : Except AccessFault FileSystem := do
  match ← fs.spot false p with
  | .taken .. => refuse .alreadyThere p
  | .free place => .ok (fs.set place (.link target))

def removeTree (fs : FileSystem) (p : Path) : FileSystem :=
  match fs.spot false p with
  | .ok (.taken place .directory) => fs.eraseBelow place
  | _ => fs

end BuildPipeline.FileSystem
