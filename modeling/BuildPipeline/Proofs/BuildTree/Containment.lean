import BuildPipeline.Proofs.BuildTree.Reconciling
import BuildPipeline.Proofs.BuildTree.Relocation
import Mathlib.Data.List.Infix

set_option autoImplicit false

namespace BuildPipeline.BuildTree

open BuildPipeline.Bundler (Manifest)
open FileSystem

def Passes (root p : Path) (l : Location) : Prop :=
  p.isWithin root = true ∧ ∃ names ∈ p.parts.inits,
    root.parts <+: names ∧ names.getLast? ≠ some ".." ∧ settle [] names = l

instance (root p : Path) (l : Location) : Decidable (Passes root p l) :=
  inferInstanceAs (Decidable (_ ∧ _))

theorem passes_of_names {root p : Path} {l : Location} {names : List String}
    (within : p.isWithin root = true) (below : root.parts <+: names) (part : names <+: p.parts)
    (last : names.getLast? ≠ some "..") (place : settle [] names = l) : Passes root p l :=
  ⟨within, names, (List.mem_inits _ _).2 part, below, last, place⟩

theorem passes_of_reaches {root p : Path} {l : Location} (within : p.isWithin root = true)
    (reaches : Reaches [] p l) : Passes root p l := by
  obtain ⟨place, last⟩ := reaches
  refine passes_of_names within (prefix_of_isWithin within) List.prefix_rfl last ?_
  simpa [placeOf] using place

theorem passes_of_prunes {root p : Path} {l : Location} (within : p.isWithin root = true)
    (prunes : Prunes p root l) : Passes root p l := by
  obtain ⟨dir, member, place, last⟩ := prunes
  obtain ⟨-, below, part⟩ := mem_prunable member
  refine passes_of_names within below part last ?_
  simpa [placeOf] using place

theorem settle_parts {p : Path} (plain : p.IsPlain) {names : List String} (part : names <+: p.parts) :
    settle [] names = names := by
  rw [settle_of_names fun name member => isName_of_isPlain plain name (part.subset member)]
  rfl

theorem passes_of_onWay {root p : Path} {l : Location} (plain : root.IsPlain)
    (within : p.isWithin root = true) (way : OnWay p.parent.parts l) :
    l <+: root.parts ∨ Passes root p l := by
  obtain ⟨names, part, last, rfl⟩ := way
  have beginning : names <+: p.parts := part.trans (List.dropLast_prefix p.parts)
  -- Names that end above the root are among its own, which have no double dots.
  rcases List.prefix_or_prefix_of_prefix beginning (prefix_of_isWithin within) with above | below
  · rw [settle_parts plain above]
    exact .inl above
  · exact .inr (passes_of_names within below beginning last rfl)

/-- Everything stays except at free places; new things come to free or fresh places, and the
directories above the root may be made. -/
def Spares (free fresh : Location → Prop) (root : Path) : Change := fun l x y =>
  free l ∨ y = x ∨ x = none ∧ (fresh l ∨ y = some .directory ∧ l <+: root.parts)

theorem Spares.trans {free fresh : Location → Prop} {root : Path} (l : Location)
    (x y z : Option Entry) (first : Spares free fresh root l x y)
    (second : Spares free fresh root l y z) : Spares free fresh root l x z := by
  -- What was not there and is made above the root may be followed by anything at a free place.
  rcases first with free | rfl | ⟨missing, fresh | ⟨rfl, above⟩⟩
  · exact .inl free
  · exact second
  · exact .inr (.inr ⟨missing, .inl fresh⟩)
  · rcases second with free | rfl | ⟨impossible, -⟩
    · exact .inl free
    · exact .inr (.inr ⟨missing, .inr ⟨rfl, above⟩⟩)
    · cases impossible

theorem Spares.mono {free free' fresh fresh' : Location → Prop} {root : Path} {l : Location}
    {x y : Option Entry} (spares : Spares free fresh root l x y) (more : free l → free' l)
    (newer : fresh l → fresh' l) : Spares free' fresh' root l x y := by
  rcases spares with there | same | ⟨missing, there | above⟩
  · exact .inl (more there)
  · exact .inr (.inl same)
  · exact .inr (.inr ⟨missing, .inl (newer there)⟩)
  · exact .inr (.inr ⟨missing, .inr above⟩)

theorem spares_of_deletesAll {free fresh : Location → Prop} {paths : List Path} {root : Path}
    {l : Location} {x y : Option Entry} (passed : ∀ p ∈ paths, Passes root p l → free l)
    (deletes : DeletesAll paths root l x y) : Spares free fresh root l x y := by
  rcases deletes with same | ⟨-, ⟨-, p, member, within, reaches⟩ | ⟨-, p, member, within, prunes⟩⟩
  · exact .inr (.inl same)
  · exact .inl (passed p member (passes_of_reaches within reaches))
  · exact .inl (passed p member (passes_of_prunes within prunes))

structure Proper (root : Path) (move : Path × Path) : Prop where
  absolute : move.1.isAbsolute = true
  clean : move.1.IsClean
  within : move.2.isWithin root = true
  destinationClean : move.2.IsClean

def Freed (root : Path) (moves : Relocation) (l : Location) : Prop :=
  ∃ move ∈ moves, settle [] move.1.parts <+: l ∨ Passes root move.2 l

def Filled (moves : Relocation) (l : Location) : Prop :=
  ∃ move ∈ moves, settle [] move.2.parts <+: l

theorem spares_of_readies {root : Path} {source destination : Path} {l : Location}
    {x y : Option Entry} {moves : Relocation} (plain : root.IsPlain)
    (within : destination.isWithin root = true) (member : (source, destination) ∈ moves)
    (readies : Readies destination l x y) : Spares (Freed root moves) (Filled moves) root l x y := by
  rcases readies with (same | ⟨missing, directory, way⟩) | ⟨-, -, reaches⟩
  · exact .inr (.inl same)
  · rcases passes_of_onWay plain within way with above | passes
    · exact .inr (.inr ⟨missing, .inr ⟨directory, above⟩⟩)
    · exact .inl ⟨_, member, .inr passes⟩
  · exact .inl ⟨_, member, .inr (passes_of_reaches within reaches)⟩

theorem spares_of_moves {root : Path} {source destination : Path} {cwd l : Location}
    {x y : Option Entry} {moves : Relocation} (absolute : root.isAbsolute = true)
    (proper : Proper root (source, destination)) (member : (source, destination) ∈ moves)
    (change : Moves cwd source destination l x y) :
    Spares (Freed root moves) (Filled moves) root l x y := by
  have destinationAbsolute := isAbsolute_of_isWithin absolute proper.within
  rw [Moves, placeOf_of_isAbsolute proper.absolute, placeOf_of_isAbsolute destinationAbsolute,
    reaches_of_isAbsolute destinationAbsolute] at change
  rcases change with below | reaches | ⟨missing, below⟩ | same
  · exact .inl ⟨_, member, .inl below⟩
  · exact .inl ⟨_, member, .inr (passes_of_reaches proper.within reaches)⟩
  · exact .inr (.inr ⟨missing, .inl ⟨_, member, below⟩⟩)
  · exact .inr (.inl same)

theorem evolves_moveOutput {root : Path} {fs : FileSystem} {source destination : Path}
    {moves : Relocation} (absolute : root.isAbsolute = true) (plain : root.IsPlain)
    (tree : fs.IsTree) (proper : Proper root (source, destination))
    (member : (source, destination) ∈ moves) :
    Evolves (Spares (Freed root moves) (Filled moves) root) fs
      (moveOutput fs source destination).1 := by
  have destinationAbsolute := isAbsolute_of_isWithin absolute proper.within
  have readied {after : FileSystem} (readies : Evolves (Readies destination) fs after) :
      Evolves (Spares (Freed root moves) (Filled moves) root) fs after :=
    readies.mono fun l x y => spares_of_readies plain proper.within member
  obtain ⟨fault, after, outcome, readies⟩ | ⟨ready, after, outcome, readies, moved⟩ :=
    moveOutput_spec source tree destinationAbsolute
  · rw [outcome]
    exact readied readies
  · rw [outcome]
    have start := ready.hasStart_of_isAbsolute proper.absolute
    have moves := evolves_move readies.tree start destinationAbsolute proper.clean
      proper.destinationClean moved
    -- The way that was made ready is followed by the move itself.
    exact (readied readies).trans Spares.trans
      (moves.mono fun l x y => spares_of_moves absolute proper member)

theorem evolves_moveOutputs {root : Path} {w : World} {all moves : Relocation}
    (absolute : root.isAbsolute = true) (plain : root.IsPlain) (tree : w.files.IsTree)
    (proper : ∀ move ∈ all, Proper root move) (part : moves ⊆ all) :
    Evolves (Spares (Freed root all) (Filled all) root) w.files
      (moveOutputs w moves).1.files := by
  induction moves generalizing w with
  | nil => exact .refl tree fun _ _ => .inr (.inl rfl)
  | cons move rest ih =>
    obtain ⟨source, destination⟩ := move
    have member := part List.mem_cons_self
    have first := evolves_moveOutput absolute plain tree (proper _ member) member
    obtain ⟨w', same, stopped⟩ | ⟨w', told, same, goesOn, -⟩ :=
      moveOutputs_cons w source destination rest
    · rw [stopped, same]
      exact first
    · rw [← same] at first
      rw [goesOn]
      exact first.trans Spares.trans (ih first.tree (List.subset_of_cons_subset part))

theorem isAbsolute_manifest {m : Manifest} (workingDir : m.workingDir.isAbsolute = true)
    (key : String) : (m.absolute key).isAbsolute = true := by
  rw [Manifest.absolute, Path.join]
  split
  next already => exact already
  next => exact workingDir

theorem reconcile_induction (holds : FileSystem → Prop) {w : World} {m : Manifest} {root : Path}
    {transient : List Path} {moves : Relocation} (absolute : root.isAbsolute = true)
    (planned : plan ⟨.root, w.files.cwd⟩ m root = .ok moves)
    (deleted : holds (deleteInputs root w (inputPaths ⟨.root, w.files.cwd⟩ m)).1.files)
    (moved : ∀ w : World, holds w.files → holds (moveOutputs w moves).1.files)
    (cleaned : ∀ w : World, holds w.files → holds (removeTransient root w transient).1.files) :
    holds (reconcile w m root transient).1.files := by
  have stages := reconcile_stages transient planned
  rw [Path.absolute_of_isAbsolute absolute] at stages
  obtain ⟨fault, ended⟩ | ⟨gone, ⟨fault, ended⟩ | ⟨failures, -, ended, -⟩⟩ := stages
  · rwa [ended]
  · rw [ended]
    exact moved _ deleted
  · rw [ended]
    exact cleaned _ (moved _ deleted)

theorem Planned.proper {cwd root : Path} {m : Manifest} {move : Path × Path}
    (planned : Planned cwd m root move) (plain : root.IsPlain)
    (workingDir : m.workingDir.isAbsolute = true) (workingDirPlain : m.workingDir.IsPlain) :
    Proper root move := by
  have clean (key : String) : (m.absolute key).IsClean :=
    Path.forall_join workingDirPlain.isClean (Path.isClean_ofText key)
  have keysClean : ∀ key, Mentions m key →
      ∀ name ∈ (Path.absolute cwd (m.absolute key)).parts, Path.IsPart name := by
    intro key _
    rw [Path.absolute_of_isAbsolute (isAbsolute_manifest workingDir key)]
    exact clean key
  obtain ⟨key, -, source⟩ := planned.source
  refine ⟨?_, ?_, planned.isWithin, planned.forall_destination plain.isClean keysClean⟩
  · rw [source]
    exact isAbsolute_manifest workingDir key
  · rw [source]
    exact clean key

def destinations (cwd : Path) (m : Manifest) (root : Path) : List Path :=
  ((plan cwd m root).toOption.getD []).map Prod.snd

theorem mem_destinations {cwd : Path} {m : Manifest} {root : Path} {moves : Relocation}
    {move : Path × Path} (planned : plan cwd m root = .ok moves) (member : move ∈ moves) :
    move.2 ∈ destinations cwd m root := by
  rw [destinations, planned]
  exact List.mem_map_of_mem member

def handled (cwd : Path) (m : Manifest) (root : Path) (transient : List Path) : List Path :=
  inputPaths cwd m ++ destinations cwd m root ++ transient.map (Path.absolute cwd)

theorem proper_of_plan {cwd root : Path} {m : Manifest} {moves : Relocation}
    (absolute : root.isAbsolute = true) (plain : root.IsPlain)
    (workingDir : m.workingDir.isAbsolute = true) (workingDirPlain : m.workingDir.IsPlain)
    (planned : plan cwd m root = .ok moves) : ∀ move ∈ moves, Proper root move := by
  have plans := planned_of_plan planned
  rw [Path.absolute_of_isAbsolute absolute] at plans
  exact fun move member => (plans move member).proper plain workingDir workingDirPlain

theorem evolves_reconcile {w : World} {m : Manifest} {root : Path} {moves : Relocation}
    (transient : List Path) (tree : w.files.IsTree) (absolute : root.isAbsolute = true)
    (plain : root.IsPlain) (proper : ∀ move ∈ moves, Proper root move)
    (planned : plan ⟨.root, w.files.cwd⟩ m root = .ok moves) :
    Evolves (Spares
        (fun l => Freed root moves l ∨
          ∃ p ∈ handled ⟨.root, w.files.cwd⟩ m root transient, Passes root p l)
        (Filled moves) root) w.files (reconcile w m root transient).1.files := by
  refine reconcile_induction _ absolute planned ?_ ?_ ?_
  · have absolutes : ∀ p ∈ inputPaths ⟨.root, w.files.cwd⟩ m, p.isAbsolute = true :=
      fun p => isAbsolute_of_mem_inputPaths rfl
    refine (evolves_deleteInputs absolute tree absolutes).mono fun l x y =>
      spares_of_deletesAll fun p member passes => .inr ⟨p, ?_, passes⟩
    exact List.mem_append_left _ (List.mem_append_left _ member)
  · intro w' before
    have moved := evolves_moveOutputs absolute plain before.tree proper (List.Subset.refl _)
    exact before.trans Spares.trans (moved.mono fun l x y spares => spares.mono .inl id)
  · intro w' before
    have cleaned := evolves_removeTransient absolute transient before.tree
    refine before.trans Spares.trans (cleaned.mono fun l x y =>
      spares_of_deletesAll fun p member passes => .inr ⟨p, ?_, passes⟩)
    rw [before.cwd] at member
    exact List.mem_append_right _ member

theorem deleteInputs_of_outside {root : Path} {before : List Path} (rest : List Path) (w : World)
    (outside : ∀ p ∈ before, p.isWithin root = false) :
    ∃ w', w'.files = w.files ∧ deleteInputs root w (before ++ rest) = deleteInputs root w' rest := by
  induction before generalizing w with
  | nil => exact ⟨w, rfl, rfl⟩
  | cons p before ih =>
    simp only [List.mem_cons, forall_eq_or_imp] at outside
    obtain ⟨w', same, later⟩ := ih (w.debug ("Keeping bundler input outside the build tree: " ++ p.text))
      outside.2
    refine ⟨w', same, ?_⟩
    rw [List.cons_append, deleteInputs, outside.1]
    exact later

theorem get?_deleteInputs_first {root : Path} {before rest : List Path} {p : Path} {w : World}
    {l : Location} {content : List UInt8} (tree : w.files.IsTree)
    (absolute : root.isAbsolute = true) (restAbsolute : ∀ q ∈ rest, q.isAbsolute = true)
    (outside : ∀ q ∈ before, q.isWithin root = false) (within : p.isWithin root = true)
    (leads : w.files.spot false p = .ok (.taken l (.file content))) :
    (deleteInputs root w (before ++ p :: rest)).1.files.get? l = none := by
  obtain ⟨w', same, later⟩ := deleteInputs_of_outside (p :: rest) w outside
  rw [← same] at tree leads
  have pAbsolute := isAbsolute_of_isWithin absolute within
  have unlinked : w'.files.unlink p = .ok (w'.files.erase l) := by
    simp [unlink, leads, bind, Except.bind]
  have removes := evolves_unlink tree (w'.files.hasStart_of_isAbsolute pAbsolute) unlinked
  have prunes := evolves_prunable (w := { w' with files := w'.files.erase l }) removes.tree
    pAbsolute root
  have file : w'.files.get? l = some (.file content) :=
    (locate_spec tree (w'.files.hasStart_of_isAbsolute pAbsolute) (locate_of_spot leads)).2
  have nonempty : l ≠ [] := by
    rintro rfl
    simp at file
  have gone := none_of_cleared (get?_erase_self w'.files nonempty) prunes
  -- Neither pruning nor the other inputs bring the file back.
  rw [later, deleteInputs, within, unlinkPrune_of_unlink pAbsolute absolute unlinked]
  simp only [Bool.not_true, Bool.false_eq_true, if_false]
  split
  next => exact gone
  next => exact none_of_cleared gone (evolves_deleteInputs absolute prunes.tree restAbsolute)

/-- Whether a path that is handled leads to a place outside the root, or passes it, because it is
below the root by its names only. -/
def Strays (cwd : Path) (m : Manifest) (root : Path) (transient : List Path) (l : Location) : Prop :=
  ¬ root.parts <+: l ∧ ∃ p ∈ handled cwd m root transient, Passes root p l

instance (cwd : Path) (m : Manifest) (root : Path) (transient : List Path) (l : Location) :
    Decidable (Strays cwd m root transient l) :=
  inferInstanceAs (Decidable (_ ∧ _))

theorem not_strays_of_isPlain {cwd : Path} {m : Manifest} {root : Path} {transient : List Path}
    (plain : ∀ p ∈ handled cwd m root transient, p.isWithin root = true → p.IsPlain) (l : Location) :
    ¬ Strays cwd m root transient l := by
  rintro ⟨outside, p, member, within, names, inits, below, -, rfl⟩
  rw [settle_parts (plain p member within) ((List.mem_inits _ _).1 inits)] at outside
  exact outside below

theorem get?_reconcile_of_not_strays {w : World} {m : Manifest} {root : Path} {transient : List Path}
    {moves : Relocation} {l : Location} (tree : w.files.IsTree) (absolute : root.isAbsolute = true)
    (plain : root.IsPlain) (proper : ∀ move ∈ moves, Proper root move)
    (planned : plan ⟨.root, w.files.cwd⟩ m root = .ok moves) (outside : ¬ root.parts <+: l)
    (noSource : ∀ move ∈ moves, ¬ settle [] move.1.parts <+: l)
    (stays : ¬ Strays ⟨.root, w.files.cwd⟩ m root transient l) :
    (reconcile w m root transient).1.files.get? l = w.files.get? l ∨
      w.files.get? l = none ∧
        ((∃ d ∈ destinations ⟨.root, w.files.cwd⟩ m root, settle [] d.parts <+: l) ∨
          (reconcile w m root transient).1.files.get? l = some .directory ∧ l <+: root.parts) := by
  have free : ∀ p ∈ handled ⟨.root, w.files.cwd⟩ m root transient, ¬ Passes root p l :=
    fun p member passes => stays ⟨outside, p, member, passes⟩
  rcases (evolves_reconcile transient tree absolute plain proper planned).change l with
    (⟨move, member, below | passes⟩ | ⟨p, member, passes⟩) | same | ⟨missing, new⟩
  · exact absurd below (noSource move member)
  · refine absurd passes (free _ ?_)
    exact List.mem_append_left _ (List.mem_append_right _ (mem_destinations planned member))
  · exact absurd passes (free p member)
  · exact .inl same
  · refine .inr ⟨missing, new.imp_left ?_⟩
    rintro ⟨move, member, below⟩
    exact ⟨_, mem_destinations planned member, below⟩

theorem get?_reconcile_first {w : World} {m : Manifest} {root p : Path} {transient : List Path}
    {moves : Relocation} {l : Location} {content : List UInt8} (tree : w.files.IsTree)
    (absolute : root.isAbsolute = true) (plain : root.IsPlain)
    (proper : ∀ move ∈ moves, Proper root move)
    (planned : plan ⟨.root, w.files.cwd⟩ m root = .ok moves)
    (noSource : ∀ move ∈ moves, ¬ settle [] move.1.parts <+: l)
    (noDestination : ∀ d ∈ destinations ⟨.root, w.files.cwd⟩ m root,
      ¬ Passes root d l ∧ ¬ settle [] d.parts <+: l)
    (first : (inputPaths ⟨.root, w.files.cwd⟩ m).find? (·.isWithin root) = some p)
    (leads : w.files.spot false p = .ok (.taken l (.file content))) (other : List UInt8) :
    (reconcile w m root transient).1.files.get? l ≠ some (.file other) := by
  obtain ⟨within, before, rest, inputs, outside⟩ := List.find?_eq_some_iff_append.1 first
  have absolutes : ∀ p ∈ inputPaths ⟨.root, w.files.cwd⟩ m, p.isAbsolute = true :=
    fun p => isAbsolute_of_mem_inputPaths rfl
  have away : ∀ move ∈ moves, ¬ Passes root move.2 l ∧ ¬ settle [] move.2.parts <+: l :=
    fun move member => noDestination _ (mem_destinations planned member)
  suffices final : (reconcile w m root transient).1.files.IsTree ∧
      (reconcile w m root transient).1.files.get? l ≠ some (.file other) from final.2
  refine reconcile_induction (fun fs => fs.IsTree ∧ fs.get? l ≠ some (.file other)) absolute
    planned ?_ ?_ ?_
  · refine ⟨(evolves_deleteInputs absolute tree absolutes).tree, ?_⟩
    rw [inputs] at absolutes ⊢
    have restAbsolute : ∀ q ∈ rest, q.isAbsolute = true := fun q member => absolutes q (by simp [member])
    rw [get?_deleteInputs_first tree absolute restAbsolute (by simpa using outside) within leads]
    simp
  -- A directory may be made above the root, but no file comes to a place that no move goes to.
  · rintro w' ⟨tree', gone⟩
    have moved := evolves_moveOutputs absolute plain tree' proper (List.Subset.refl _)
    refine ⟨moved.tree, ?_⟩
    rcases moved.change l with
      ⟨move, member, below | passes⟩ | same | ⟨-, ⟨move, member, below⟩ | ⟨directory, -⟩⟩
    · exact absurd below (noSource move member)
    · exact absurd passes (away move member).1
    · rwa [same]
    · exact absurd below (away move member).2
    · simp [directory]
  · rintro w' ⟨tree', gone⟩
    have cleaned := evolves_removeTransient absolute transient tree'
    refine ⟨cleaned.tree, ?_⟩
    rcases cleaned.change l with same | ⟨missing, -⟩
    · rwa [same]
    · simp [missing]

def libraryBeside : World where
  files := ⟨["w"], [(["w"], .directory), (["w", "build"], .directory), (["w", "src"], .directory),
    (["w", "src", "lib.js"], .file [1]), (["w", "src", "other.js"], .file [2])]⟩
  console := .named "none"

def libraryManifest : Manifest :=
  ⟨[(.str "../src/lib.js", .map [])], [(.str "../out/main.js", .map [])], ⟨.root, ["w", "build"]⟩⟩

end BuildPipeline.BuildTree
