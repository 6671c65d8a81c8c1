import BuildPipeline.FileSystem.Access
import BuildPipeline.Path.Relative

set_option autoImplicit false

namespace BuildPipeline.FileSystem

def Spot.place : Spot → Location
  | .taken place _ => place
  | .free place => place

def endsInName (p : Path) : Bool :=
  p.name ≠ "" && p.name ≠ ".."

def replace (fs : FileSystem) (source : Location) (e : Entry) (destination : Location) :
    Entry → Except Cause FileSystem
  | .directory =>
    if e ≠ .directory then .error .isDirectory
    else if fs.names destination ≠ [] then .error .notEmpty
    else .ok (fs.relocate source destination)
  | _ => if e = .directory then .error .notDirectory else .ok (fs.relocate source destination)

def renameSpots (fs : FileSystem) (source destination : Path) : Except Cause FileSystem := do
  let start ← fs.locate false source
  let goal ← fs.locate false destination
  match start with
  | .free _ => .error .missing
  | .taken place e =>
    if !endsInName source || !endsInName destination then .error .busy
    else if place = goal.place then .ok fs
    else if isBelow goal.place place then .error .invalid
    else if isBelow place goal.place then .error .notEmpty
    else match goal with
      | .free target => .ok (fs.relocate place target)
      | .taken target old => fs.replace place e target old

def rename (fs : FileSystem) (source destination : Path) : Except AccessFault FileSystem :=
  if holdsNull source || holdsNull destination then .error .nullCharacter
  else (fs.renameSpots source destination).mapError fun cause =>
    .system { cause, path := source.text, destination := some destination.text }

inductive MoveFault where
  | access (fault : AccessFault)
  | nameTaken (path : String)
  | intoItself (source destination : String)
  deriving DecidableEq, Repr

def MoveFault.message : MoveFault → String
  | .access fault => fault.message
  | .nameTaken path => "Destination path '" ++ path ++ "' already exists"
  | .intoItself source destination =>
    "Cannot move a directory '" ++ source ++ "' into itself '" ++ destination ++ "'."

def surely (answer : Except Fault Bool) : Bool :=
  answer.toOption.getD false

def sameEntry (fs : FileSystem) (p q : Path) : Bool :=
  match fs.locate true p, fs.locate true q with
  | .ok (.taken a _), .ok (.taken b _) => a = b
  | _, _ => false

def liesBelow (fs : FileSystem) (p top : Path) : Bool :=
  let cwd : Path := ⟨.root, fs.cwd⟩
  (Path.collapse (Path.absolute cwd top).parts).isPrefixOf
    (Path.collapse (Path.absolute cwd p).parts)

/-- Why a move that the system refuses fails: for a file the fault is that of reading it, for a
directory that it would go into itself, or that its place is taken. -/
def refusedMove (fs : FileSystem) (source target destination : Path) : MoveFault :=
  if surely (fs.isDirectory source) then
    if fs.liesBelow destination source then .intoItself source.text destination.text
    else .access (.system { cause := .alreadyThere, path := target.text })
  else match fs.read source with
    | .error fault => .access fault
    | .ok _ => .access (.system { cause := .invalid, path := target.text })

def transfer (fs : FileSystem) (source target destination : Path) :
    Except MoveFault FileSystem :=
  match fs.rename source target with
  | .ok fs => .ok fs
  | .error .nullCharacter => .error (.access .nullCharacter)
  | .error (.system _) => .error (fs.refusedMove source target destination)

def ownName (p : Path) : String :=
  if p.parts = [] && !p.isAbsolute then "." else p.name

def move (fs : FileSystem) (source destination : Path) : Except MoveFault FileSystem :=
  if surely (fs.isDirectory destination) then
    if fs.sameEntry source destination then (fs.rename source destination).mapError .access
    else
      let inside := Path.textBelow destination.text (ownName source)
      if surely (fs.pathExists (Path.ofText inside)) then .error (.nameTaken inside)
      else fs.transfer source (Path.ofText inside) destination
  else fs.transfer source destination destination

end BuildPipeline.FileSystem
