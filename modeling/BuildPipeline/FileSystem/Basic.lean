import BuildPipeline.FileSystem.Fault
import BuildPipeline.Path.Basic
import BuildPipeline.Text.Utf8

set_option autoImplicit false

/-!
Files as a map from locations to entries. A location is the list of the names that lead to it from
the root, which is always a directory. A path is followed name by name: double dots lead to the
directory above, and a link leads to what its target names, through forty links at most.
-/

namespace BuildPipeline

abbrev Location := List String

inductive Entry where
  | file (content : List UInt8)
  | link (target : String)
  | directory
  deriving DecidableEq, Repr

def Entry.isFile : Entry → Bool
  | .file _ => true
  | _ => false

def Entry.isLink : Entry → Bool
  | .link _ => true
  | _ => false

def Entry.isDirectory : Entry → Bool
  | .directory => true
  | _ => false

structure FileSystem where
  cwd : Location := []
  entries : List (Location × Entry) := []
  deriving DecidableEq, Repr

namespace FileSystem

def get? (fs : FileSystem) : Location → Option Entry
  | [] => some .directory
  | l => fs.entries.lookup l

def erase (fs : FileSystem) (l : Location) : FileSystem :=
  { fs with entries := fs.entries.filter fun e => e.1 ≠ l }

def set (fs : FileSystem) (l : Location) (e : Entry) : FileSystem :=
  { fs with entries := (l, e) :: (fs.erase l).entries }

theorem lookup_filter_ne {l m : Location} (h : m ≠ l) (es : List (Location × Entry)) :
    (es.filter fun e => e.1 ≠ l).lookup m = es.lookup m := by
  induction es with
  | nil => rfl
  | cons e es ih =>
    by_cases he : e.1 = l
    · rw [List.filter_cons_of_neg (by simp [he]), ih]
      have : (m == e.1) = false := by simp [he, h]
      rw [List.lookup_cons, this]
    · rw [List.filter_cons_of_pos (by simp [he]), List.lookup_cons, List.lookup_cons, ih]

theorem lookup_filter_self (l : Location) (es : List (Location × Entry)) :
    (es.filter fun e => e.1 ≠ l).lookup l = none := by
  rw [List.lookup_eq_none_iff]
  intro e he
  simp only [List.mem_filter, decide_eq_true_eq] at he
  simpa using fun h => he.2 h.symm

@[simp] theorem get?_nil (fs : FileSystem) : fs.get? [] = some .directory := rfl

theorem get?_erase_self (fs : FileSystem) {l : Location} (h : l ≠ []) :
    (fs.erase l).get? l = none := by
  cases l with
  | nil => exact absurd rfl h
  | cons name rest => exact lookup_filter_self _ _

theorem get?_erase_ne (fs : FileSystem) {l m : Location} (h : m ≠ l) :
    (fs.erase l).get? m = fs.get? m := by
  cases m with
  | nil => rfl
  | cons name rest => exact lookup_filter_ne h _

theorem get?_set_self (fs : FileSystem) {l : Location} (h : l ≠ []) (e : Entry) :
    (fs.set l e).get? l = some e := by
  cases l with
  | nil => exact absurd rfl h
  | cons name rest => simp [get?, set]

theorem get?_set_ne (fs : FileSystem) {l m : Location} (h : m ≠ l) (e : Entry) :
    (fs.set l e).get? m = fs.get? m := by
  cases m with
  | nil => rfl
  | cons name rest =>
    have : ((name :: rest) == l) = false := by simpa using h
    simp only [get?, set, List.lookup_cons, this]
    exact lookup_filter_ne h _

def nameIn? (dir l : Location) : Option String :=
  if l.dropLast = dir then l.getLast? else none

def names (fs : FileSystem) (dir : Location) : List String :=
  (fs.entries.filterMap fun e => nameIn? dir e.1).mergeSort fun a b => a ≤ b

def isBelow (l top : Location) : Bool :=
  top.isPrefixOf l

def eraseBelow (fs : FileSystem) (top : Location) : FileSystem :=
  { fs with entries := fs.entries.filter fun e => !isBelow e.1 top }

def movedLocation (source destination l : Location) : Location :=
  if isBelow l source then destination ++ l.drop source.length else l

def relocate (fs : FileSystem) (source destination : Location) : FileSystem :=
  { fs with entries := (fs.eraseBelow destination).entries.map fun e =>
      (movedLocation source destination e.1, e.2) }

/-- Where a path leads: to an entry, or to a name that its directory does not hold. -/
inductive Spot where
  | taken (place : Location) (entry : Entry)
  | free (place : Location)
  deriving DecidableEq, Repr

def maxNameBytes : Nat := 255

def maxPathBytes : Nat := 4095

def byteLength (s : String) : Nat :=
  (Text.Utf8.encode s.toList).length

def linkNames (target : String) : List String :=
  let names := ((Text.pieces '/' target.toList).filter (· ≠ [])).map String.ofList
  if target.toList.getLast? = some '/' then names ++ ["."] else names

/-- Follows names from a directory. `through` follows what is left behind a link. -/
def follow (fs : FileSystem) (last : Bool) (through : Location → List String → Except Cause Spot) :
    Location → List String → Except Cause Spot
  | dir, [] => .ok (.taken dir .directory)
  | dir, name :: rest =>
    if name = ".." then follow fs last through dir.dropLast rest
    else if name = "." then follow fs last through dir rest
    else if maxNameBytes < byteLength name then .error .nameTooLong
    else match fs.get? (dir ++ [name]) with
      | none => if rest = [] then .ok (.free (dir ++ [name])) else .error .missing
      | some .directory => follow fs last through (dir ++ [name]) rest
      | some (.file content) =>
        if rest = [] then .ok (.taken (dir ++ [name]) (.file content)) else .error .notDirectory
      | some (.link target) =>
        if rest = [] && !last then .ok (.taken (dir ++ [name]) (.link target))
        else through (if (Path.ofText target).isAbsolute then [] else dir) (linkNames target ++ rest)

def followFrom (fs : FileSystem) (last : Bool) : Nat → Location → List String → Except Cause Spot
  | 0 => follow fs last fun _ _ => .error .tooManyLinks
  | links + 1 => follow fs last (followFrom fs last links)

def maxLinks : Nat := 40

def start (fs : FileSystem) (p : Path) : Location :=
  if p.isAbsolute then [] else fs.cwd

def locate (fs : FileSystem) (last : Bool) (p : Path) : Except Cause Spot :=
  if maxPathBytes < byteLength p.text then .error .nameTooLong
  else followFrom fs last maxLinks (fs.start p) p.parts

end FileSystem

end BuildPipeline
