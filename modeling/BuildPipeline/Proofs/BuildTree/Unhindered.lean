import BuildPipeline.Proofs.BuildTree.Outputs
import BuildPipeline.Proofs.BuildTree.Settling
import Mathlib.Data.List.Infix

set_option autoImplicit false

namespace BuildPipeline.BuildTree

open BuildPipeline.Bundler (Manifest)
open FileSystem Sequencing

/-- The outputs are files outside the root, the inputs and transient files in it are files or
missing, and no path of a manifest or of a transient file has double dots. -/
structure Orderly (fs : FileSystem) (m : Manifest) (root : Path) (transient : List Path) :
    Prop where
  tree : fs.IsTree
  directory : fs.get? fs.cwd = some .directory
  directoryPlain : (Path.mk .root fs.cwd).IsPlain
  top : fs.isDirectory (Path.absolute ⟨.root, fs.cwd⟩ root) = .ok true
  plain : ∀ key, Mentions m key → (m.absolute key).IsPlain
  transientPlain : ∀ artifact ∈ transient, artifact.IsPlain
  entries : ∀ output ∈ m.outputs, NamesEntry output.2
  outputs : ∀ key ∈ Manifest.keysOf m.outputs, fs.isFile (m.absolute key) = .ok true ∧
    ¬ placeOf fs.cwd root <+: placeOf fs.cwd (m.absolute key)
  deleted : ∀ p ∈ inputPaths ⟨.root, fs.cwd⟩ m ++ transient.map (Path.absolute ⟨.root, fs.cwd⟩),
    p.isWithin (Path.absolute ⟨.root, fs.cwd⟩ root) = true → FileOrMissing fs p

/-- The destinations differ from each other and from transient files, none is a directory, and none
is below a file or below another one. -/
structure Spaced (fs : FileSystem) (transient : List Path) (moves : Relocation) : Prop where
  distinct : (moves.map Prod.snd).Nodup
  notTransient : ∀ move ∈ moves, move.2 ∉ transient.map (Path.absolute ⟨.root, fs.cwd⟩)
  vacant : ∀ move ∈ moves, fs.get? (placeOf [] move.2) ≠ some .directory
  way : ∀ move ∈ moves, ∀ l, l <+: placeOf [] move.2 → l ≠ placeOf [] move.2 →
    ∀ content, fs.get? l ≠ some (.file content)
  apart : ∀ a ∈ moves, ∀ b ∈ moves, a.2 ≠ b.2 → ¬ placeOf [] a.2 <+: placeOf [] b.2

/-- What is to be deleted in the tree and where files are to go can be named, and different outputs
are different files. -/
structure Unhindered (fs : FileSystem) (m : Manifest) (root : Path) (transient : List Path)
    (moves : Relocation) : Prop where
  inputs : ∀ p ∈ inputPaths ⟨.root, fs.cwd⟩ m,
    p.isWithin (Path.absolute ⟨.root, fs.cwd⟩ root) = true → Nameable p
  transient : ∀ p ∈ transient.map (Path.absolute ⟨.root, fs.cwd⟩),
    p.isWithin (Path.absolute ⟨.root, fs.cwd⟩ root) = true → IsNullFree p
  destinations : ∀ move ∈ moves, Nameable move.2
  sources : ∀ a ∈ moves, ∀ b ∈ moves, placeOf fs.cwd a.1 = placeOf fs.cwd b.1 → a.1 = b.1

section

variable {fs : FileSystem} {m : Manifest} {root : Path} {transient : List Path}
  {moves : Relocation}

theorem Orderly.leads (orderly : Orderly fs m root transient) :
    Leads fs (Path.absolute ⟨.root, fs.cwd⟩ root) (placeOf fs.cwd root) := by
  have leads := leads_of_isDirectory orderly.tree (Path.isAbsolute_absolute rfl root) orderly.top
  rwa [placeOf_absolute orderly.directoryPlain] at leads

theorem Orderly.input_names (orderly : Orderly fs m root transient) :
    ∀ p ∈ inputPaths ⟨.root, fs.cwd⟩ m, ∀ name ∈ p.parts, IsName name :=
  names_of_inputPaths orderly.directoryPlain orderly.plain

theorem Orderly.transient_names (orderly : Orderly fs m root transient) :
    ∀ p ∈ transient.map (Path.absolute ⟨.root, fs.cwd⟩), ∀ name ∈ p.parts, IsName name :=
  names_of_absolute orderly.directoryPlain orderly.transientPlain

theorem Orderly.exists_under (orderly : Orderly fs m root transient) {move : Path × Path}
    (planned : Planned ⟨.root, fs.cwd⟩ m (Path.absolute ⟨.root, fs.cwd⟩ root) move) :
    ∃ names, move.2 = (Path.absolute ⟨.root, fs.cwd⟩ root).under names ∧
      ∀ name ∈ names, Path.IsPart name ∧ name ≠ ".." := by
  obtain ⟨names, same⟩ := exists_under_of_isWithin planned.isWithin
  obtain ⟨tail, parts, plain⟩ := planned.exists_below fun key mentions =>
    Path.forall_join orderly.directoryPlain (orderly.plain key mentions)
  rw [same] at parts
  exact ⟨names, same, List.append_cancel_left parts ▸ plain⟩

theorem Orderly.not_placesOf (orderly : Orderly fs m root transient) (spaced : Spaced fs transient moves)
    {move : Path × Path} (member : move ∈ moves)
    (planned : Planned ⟨.root, fs.cwd⟩ m (Path.absolute ⟨.root, fs.cwd⟩ root) move) :
    ¬ PlacesOf (Path.absolute ⟨.root, fs.cwd⟩ root) (transient.map (Path.absolute ⟨.root, fs.cwd⟩))
      (placeOf [] move.2) := by
  rintro ⟨p, artifact, within, same⟩
  obtain ⟨names, under, plain⟩ := orderly.exists_under planned
  obtain ⟨others, rfl⟩ := exists_under_of_isWithin within
  have otherNames := orderly.transient_names _ artifact
  rw [under, orderly.leads.placeOf_under fun name part =>
      ⟨(plain name part).2, (plain name part).1.ne_dot⟩,
    orderly.leads.placeOf_under fun name part =>
      otherNames name (List.mem_append_right (Path.absolute ⟨.root, fs.cwd⟩ root).parts part)] at same
  have notTransient := spaced.notTransient move member
  rw [under, List.append_cancel_left same] at notTransient
  exact notTransient artifact

theorem Orderly.hasRoom {deleted : FileSystem} (orderly : Orderly fs m root transient)
    (spaced : Spaced fs transient moves) (unhindered : Unhindered fs m root transient moves)
    (leads : Leads deleted (Path.absolute ⟨.root, fs.cwd⟩ root) (placeOf fs.cwd root))
    (fewer : Fewer fs deleted) {move : Path × Path} (member : move ∈ moves)
    (planned : Planned ⟨.root, fs.cwd⟩ m (Path.absolute ⟨.root, fs.cwd⟩ root) move) :
    HasRoom deleted (Path.absolute ⟨.root, fs.cwd⟩ root) (placeOf fs.cwd root) move.2 := by
  obtain ⟨names, under, plain⟩ := orderly.exists_under planned
  have nameable := unhindered.destinations move member
  have vacant := spaced.vacant move member
  have isName (name : String) (part : name ∈ names) : IsName name :=
    ⟨(plain name part).2, (plain name part).1.ne_dot⟩
  have nonempty : names ≠ [] := by
    rintro rfl
    rw [under, orderly.leads.placeOf_under (by simp), List.append_nil] at vacant
    exact vacant orderly.leads.directory
  refine ⟨⟨names, nonempty, under, leads, fun name part => ⟨isName name part, ?_⟩, ?_⟩, ?_, ?_, ?_⟩
  · refine (nameable.names name ?_).2
    rw [under]
    exact List.mem_append_right _ part
  · rw [← under]
    exact ⟨nameable.isNullFree, nameable.text⟩
  · rw [under]
    exact endsInName_under _ plain nonempty
  · -- What is in the way after a deletion was there before.
    intro l above content file
    exact spaced.way move member l above.2.1 above.2.2 content (fewer.kept _ _ file)
  · intro directory
    exact vacant (fewer.kept _ _ directory)

theorem Orderly.placeable {deleted : FileSystem} (orderly : Orderly fs m root transient)
    (spaced : Spaced fs transient moves) (unhindered : Unhindered fs m root transient moves)
    (swept : Swept (Path.absolute ⟨.root, fs.cwd⟩ root) (placeOf fs.cwd root)
      (PlacesOf (Path.absolute ⟨.root, fs.cwd⟩ root) (inputPaths ⟨.root, fs.cwd⟩ m)) fs deleted)
    {move : Path × Path} (member : move ∈ moves)
    (planned : Planned ⟨.root, fs.cwd⟩ m (Path.absolute ⟨.root, fs.cwd⟩ root) move) :
    Placeable deleted (Path.absolute ⟨.root, fs.cwd⟩ root) (placeOf fs.cwd root) move := by
  obtain ⟨key, output, source⟩ := planned.source
  obtain ⟨file, outside⟩ := orderly.outputs key output
  have plain := orderly.plain key (mentions_of_output output)
  rw [← source] at file outside plain
  have start : fs.HasStart move.1 := by
    rw [HasStart, FileSystem.start]
    split
    · exact get?_nil fs
    · exact orderly.directory
  obtain ⟨content, stands⟩ := exists_stands orderly.tree start plain file
  refine ⟨⟨content, { stands with file := ?_ }⟩, ?_,
    orderly.hasRoom spaced unhindered swept.leads swept.fewer member planned⟩
  · rw [swept.fewer.cwd]
    refine (swept.files _ content stands.file).resolve_left ?_
    rintro ⟨p, input, within, same⟩
    apply outside
    rw [same]
    exact inside_of_isWithin orderly.leads within (orderly.input_names p input)
  · rwa [swept.fewer.cwd]

theorem pairwise_of_nodup_map {α β : Type} {f : α → β} {l : List α} {holds : α → α → Prop}
    (nodup : (l.map f).Nodup) (other : ∀ a ∈ l, ∀ b ∈ l, f a ≠ f b → holds a b) :
    l.Pairwise holds :=
  (List.pairwise_map.1 nodup).imp_of_mem fun first second => other _ first _ second

theorem Orderly.exists_course {w : World} (orderly : Orderly w.files m root transient)
    (planned : plan ⟨.root, w.files.cwd⟩ m root = .ok moves) (sources : (moves.map Prod.fst).Nodup)
    (spaced : Spaced w.files transient moves)
    (unhindered : Unhindered w.files m root transient moves) :
    ∃ gone deleted moved, (reconcile w m root transient).2 = .ok ⟨moves, gone, []⟩ ∧
      Course (Path.absolute ⟨.root, w.files.cwd⟩ root) (placeOf w.files.cwd root)
        (inputPaths ⟨.root, w.files.cwd⟩ m) (transient.map (Path.absolute ⟨.root, w.files.cwd⟩))
        moves w.files deleted moved (reconcile w m root transient).1.files := by
  have plans := planned_of_plan planned
  obtain ⟨left, gone, deletes, first⟩ := sweeps_deleteInputs orderly.leads
    (fun p member _ => orderly.input_names p member) unhindered.inputs
  have placeable (move : Path × Path) (member : move ∈ moves) :=
    orderly.placeable spaced unhindered first.swept member (plans move member)
  -- Sources differ as paths; that they are different files as well has to be asked.
  have distinct : moves.Pairwise fun a b =>
      placeOf left.files.cwd a.1 ≠ placeOf left.files.cwd b.1 := by
    rw [first.swept.fewer.cwd]
    exact pairwise_of_nodup_map sources fun a first b second other same =>
      other (unhindered.sources a first b second same)
  have apart : moves.Pairwise fun a b => Apart (placeOf [] a.2) (placeOf [] b.2) :=
    pairwise_of_nodup_map spaced.distinct fun a first b second other =>
      ⟨spaced.apart a first b second other, spaced.apart b second a first (Ne.symm other)⟩
  obtain ⟨moved, moving, placed⟩ := placed_moveOutputs (w := left.debug (deletedMessage gone))
    first.swept.leads.tree placeable distinct apart
  have cwd : moved.files.cwd = w.files.cwd := placed.cwd.trans first.swept.fewer.cwd
  have leads := first.swept.leads.of_directories placed.tree placed.directories
  have plain : ∀ p ∈ transient.map (Path.absolute ⟨.root, moved.files.cwd⟩),
      p.isWithin (Path.absolute ⟨.root, w.files.cwd⟩ root) = true → ∀ name ∈ p.parts, IsName name := by
    rw [cwd]
    exact fun p member _ => orderly.transient_names p member
  have free : ∀ p ∈ transient.map (Path.absolute ⟨.root, moved.files.cwd⟩),
      p.isWithin (Path.absolute ⟨.root, w.files.cwd⟩ root) = true → IsNullFree p := by
    rw [cwd]
    exact unhindered.transient
  obtain ⟨cleaned, cleaning, last⟩ := sweeps_removeTransient leads plain free
  rw [cwd] at last
  have done : reconcile w m root transient = (cleaned, .ok ⟨moves, gone, []⟩) := by
    rw [inputPaths] at deletes
    simp only [reconcile, plan_absolute, planned, deletes, moving, cleaning]
  refine ⟨gone, left.files, moved.files, by rw [done], ?_⟩
  rw [done]
  exact {
    leads := orderly.leads
    names := fun p member _ => orderly.transient_names p member
    either := orderly.deleted
    way := fun move member l above => spaced.way move member l above.2.1 above.2.2
    notTransient := fun move member => orderly.not_placesOf spaced member (plans move member)
    placeable, first, placed, last }

end

theorem not_file_of_inits {fs : FileSystem} {place : Location}
    (free : ∀ l ∈ place.inits, l ≠ place → fs.get? l = none ∨ fs.get? l = some .directory) :
    ∀ l, l <+: place → l ≠ place → ∀ content, fs.get? l ≠ some (.file content) := by
  intro l part other content file
  rcases free l ((List.mem_inits _ _).2 part) other with missing | directory
  · simp [file] at missing
  · simp [file] at directory

def workshop : World where
  files := ⟨["w"], [(["w"], .directory), (["w", "build"], .directory),
    (["w", "build", "lib"], .directory), (["w", "build", "lib", "a.js"], .file [1]),
    (["w", "build", "t.js"], .file [2]), (["w", "build", "keep.js"], .file [3]),
    (["w", "out"], .directory), (["w", "out", "a.js"], .file [4])]⟩
  console := .named "none"

def workshopManifest : Manifest :=
  ⟨[(.str "build/lib/a.js", .map [])], [(.str "out/a.js", .map [])], ⟨.root, ["w"]⟩⟩

def workshopMoves : Relocation :=
  [(⟨.root, ["w", "out", "a.js"]⟩, ⟨.root, ["w", "build", "lib", "a.js"]⟩)]

def workshopArtifacts : List Path :=
  [⟨.relative, ["build", "t.js"]⟩]

structure InOrder (m : Manifest) (transient : List Path) (moves : Relocation) : Prop where
  orderly : Orderly workshop.files m ⟨.root, ["w", "build"]⟩ transient
  planned : plan ⟨.root, ["w"]⟩ m ⟨.root, ["w", "build"]⟩ = .ok moves
  spaced : Spaced workshop.files transient moves

theorem inOrder_of_checks {m : Manifest} {transient : List Path} {moves : Relocation}
    (manifest : (∀ key, Mentions m key → (m.absolute key).IsPlain) ∧
      (∀ output ∈ m.outputs, NamesEntry output.2) ∧
      (∀ key ∈ Manifest.keysOf m.outputs, workshop.files.isFile (m.absolute key) = .ok true ∧
        ¬ placeOf ["w"] ⟨.root, ["w", "build"]⟩ <+: placeOf ["w"] (m.absolute key)) ∧
      plan ⟨.root, ["w"]⟩ m ⟨.root, ["w", "build"]⟩ = .ok moves)
    (artifacts : (∀ artifact ∈ transient, artifact.IsPlain) ∧
      (∀ p ∈ inputPaths ⟨.root, ["w"]⟩ m ++ transient.map (Path.absolute ⟨.root, ["w"]⟩),
        p.isWithin ⟨.root, ["w", "build"]⟩ = true → FileOrMissing workshop.files p) ∧
      ∀ move ∈ moves, move.2 ∉ transient.map (Path.absolute ⟨.root, ["w"]⟩))
    (destinations : (moves.map Prod.snd).Nodup ∧
      (∀ move ∈ moves, workshop.files.get? (placeOf [] move.2) ≠ some .directory) ∧
      (∀ move ∈ moves, ∀ l ∈ (placeOf [] move.2).inits, l ≠ placeOf [] move.2 →
        workshop.files.get? l = none ∨ workshop.files.get? l = some .directory) ∧
      ∀ a ∈ moves, ∀ b ∈ moves, a.2 ≠ b.2 → ¬ placeOf [] a.2 <+: placeOf [] b.2) :
    InOrder m transient moves := by
  obtain ⟨plain, entries, outputs, planned⟩ := manifest
  obtain ⟨transientPlain, deleted, notTransient⟩ := artifacts
  obtain ⟨distinct, vacant, way, apart⟩ := destinations
  have directoryPlain : (Path.mk .root workshop.files.cwd).IsPlain := by decide
  have top : workshop.files.isDirectory ⟨.root, ["w", "build"]⟩ = .ok true := by decide +kernel
  exact ⟨⟨isTree_of_entries (by decide), rfl, directoryPlain, top, plain, transientPlain, entries,
    outputs, deleted⟩, planned, distinct, notTransient, vacant,
    fun move member => not_file_of_inits (way move member), apart⟩

def workshopBundle (inputs : List String) (outputs : List (String × String)) : Manifest :=
  ⟨inputs.map fun key => (.str key, .map []),
    outputs.map fun output => (.str output.1, .map [(.str "entryPoint", .str output.2)]),
    ⟨.root, ["w"]⟩⟩

def reconcileWorkshop (m : Manifest) (transient : List Path) :
    World × Except ReconcileFault Report :=
  reconcile workshop m ⟨.root, ["w", "build"]⟩ transient

theorem inOrder_workshop : InOrder workshopManifest workshopArtifacts workshopMoves :=
  inOrder_of_checks (by decide +kernel) (by decide +kernel) (by decide +kernel)

end BuildPipeline.BuildTree
