import BuildPipeline.Proofs.BuildTree.Reconciling
import BuildPipeline.Proofs.BuildTree.Relocation
import BuildPipeline.Proofs.FileSystem.Naming
import BuildPipeline.Proofs.FileSystem.Scratch

set_option autoImplicit false

namespace BuildPipeline.BuildTree

open BuildPipeline.Bundler (Manifest)
open FileSystem Sequencing

structure Fewer (before after : FileSystem) : Prop where
  cwd : after.cwd = before.cwd
  kept : ∀ l e, after.get? l = some e → before.get? l = some e

theorem Fewer.refl (fs : FileSystem) : Fewer fs fs :=
  ⟨rfl, fun _ _ => id⟩

theorem Fewer.trans {a b c : FileSystem} (first : Fewer a b) (second : Fewer b c) : Fewer a c :=
  ⟨second.cwd.trans first.cwd, fun l e there => first.kept l e (second.kept l e there)⟩

theorem Fewer.missing {before after : FileSystem} (fewer : Fewer before after) {l : Location}
    (missing : before.get? l = none) : after.get? l = none := by
  by_contra there
  obtain ⟨e, left⟩ := Option.ne_none_iff_exists'.1 there
  simp [fewer.kept l e left] at missing

theorem Fewer.hasShortLinks {before after : FileSystem} (fewer : Fewer before after)
    (links : before.HasShortLinks) : after.HasShortLinks :=
  fun l target there => links l target (fewer.kept l _ there)

theorem fewer_erase (fs : FileSystem) (l : Location) : Fewer fs (fs.erase l) := by
  refine ⟨rfl, fun m e there => ?_⟩
  by_cases same : m = l
  · cases l with
    | nil => rwa [same] at there ⊢
    | cons name rest => simp [same, get?_erase_self] at there
  · rwa [get?_erase_ne fs same] at there

theorem fewer_unlink {fs after : FileSystem} {p : Path} (done : fs.unlink p = .ok after) :
    Fewer fs after := by
  obtain ⟨spot, -, done⟩ := bind_eq_ok_iff.1 done
  split at done
  · cases done
  · cases done
    exact fewer_erase fs _
  · cases done

theorem fewer_pruneOne {fs after : FileSystem} {dir : Path}
    (done : pruneOne fs dir = .ok (some after)) : Fewer fs after := by
  obtain ⟨names, -, done⟩ := bind_eq_ok_iff.1 done
  split at done
  · cases done
  · obtain ⟨left, removed, last⟩ := bind_eq_ok_iff.1 done
    cases last
    obtain ⟨spot, -, removed⟩ := bind_eq_ok_iff.1 removed
    split at removed
    · split at removed
      · cases removed
      split at removed
      · cases removed
      · cases removed
        exact fewer_erase fs _
    · cases removed
    · cases removed

theorem fewer_pruneEach (w : World) (dirs : List Path) :
    Fewer w.files (pruneEach w dirs).1.files := by
  induction dirs generalizing w with
  | nil => exact .refl _
  | cons dir rest ih =>
    rw [pruneEach]
    split
    · exact .refl _
    next files removed => exact (fewer_pruneOne removed).trans (ih { w with files })
    next =>
      split
      · exact ih w
      · exact .refl _

theorem fewer_unlinkPrune {w after : World} {p root : Path} {removed : List Path}
    (done : unlinkPrune w p root = .ok (after, removed)) : Fewer w.files after.files := by
  simp only [unlinkPrune] at done
  split at done
  next files unlinked =>
    have pruned := fewer_pruneEach { w with files } (prunable
      (Path.absolute ⟨.root, w.files.cwd⟩ p) (Path.absolute ⟨.root, w.files.cwd⟩ root))
    rw [Except.ok.inj done] at pruned
    exact (fewer_unlink unlinked).trans pruned
  · cases done
  next =>
    split at done
    · have pruned := fewer_pruneEach w (prunable
        (Path.absolute ⟨.root, w.files.cwd⟩ p) (Path.absolute ⟨.root, w.files.cwd⟩ root))
      rwa [Except.ok.inj done] at pruned
    · cases done
      exact .refl _

theorem exists_unlinkPrune {w : World} {p : Path} (root : Path)
    (free : IsNullFree (Path.absolute ⟨.root, w.files.cwd⟩ p)) :
    ∃ after removed, unlinkPrune w p root = .ok (after, removed) ∧ Fewer w.files after.files := by
  have never := unlink_ne_null w.files free
  have done : ∃ r, unlinkPrune w p root = .ok r := by
    simp only [unlinkPrune]
    split
    · exact ⟨_, rfl⟩
    next refused => exact absurd refused never
    · split <;> exact ⟨_, rfl⟩
  obtain ⟨⟨after, removed⟩, done⟩ := done
  exact ⟨after, removed, done, fewer_unlinkPrune done⟩

theorem exists_deleteInputs (root : Path) {inputs : List Path} {w : World}
    (links : w.files.HasShortLinks)
    (nameable : ∀ p ∈ inputs, p.isWithin root = true → p.isAbsolute = true ∧ Nameable p) :
    ∃ after gone, deleteInputs root w inputs = (after, .ok gone) ∧ Fewer w.files after.files := by
  induction inputs generalizing w with
  | nil => exact ⟨w, [], rfl, .refl _⟩
  | cons input rest ih =>
    simp only [List.mem_cons, forall_eq_or_imp] at nameable
    obtain ⟨here, later⟩ := nameable
    rw [deleteInputs]
    split
    next => exact ih links later
    next within =>
      obtain ⟨absolute, named⟩ := here (by simpa using within)
      have free : IsNullFree (Path.absolute ⟨.root, w.files.cwd⟩ input) := by
        rw [Path.absolute, if_pos absolute]
        exact named.isNullFree
      obtain ⟨next, removed, done, fewer⟩ := exists_unlinkPrune root free
      -- Entries only go, so that the links that are left are short as well.
      have links' := fewer.hasShortLinks links
      obtain ⟨there, asked⟩ := exists_pathExists links' named
      obtain ⟨after, gone, deleted, fewer'⟩ := ih links' later
      rw [done]
      simp only [asked, deleted]
      exact ⟨after, _, rfl, fewer.trans fewer'⟩

theorem exists_removeTransient (root : Path) {transient : List Path} {w : World}
    (free : ∀ artifact ∈ transient, (Path.absolute ⟨.root, w.files.cwd⟩ artifact).isWithin root = true →
      IsNullFree (Path.absolute ⟨.root, w.files.cwd⟩ artifact)) :
    ∃ after, removeTransient root w transient = (after, .ok ()) := by
  induction transient generalizing w with
  | nil => exact ⟨w, rfl⟩
  | cons artifact rest ih =>
    simp only [List.mem_cons, forall_eq_or_imp] at free
    rw [removeTransient]
    split
    next within =>
      have free' : IsNullFree (Path.absolute ⟨.root, w.files.cwd⟩
          (Path.absolute ⟨.root, w.files.cwd⟩ artifact)) := by
        rw [Path.absolute_of_isAbsolute (Path.isAbsolute_absolute rfl artifact)]
        exact free.1 within
      obtain ⟨next, removed, done, fewer⟩ := exists_unlinkPrune root free'
      rw [done]
      exact ih (by rw [fewer.cwd]; exact free.2)
    next => exact ih free.2

theorem cwd_makeDirectory {fs after : FileSystem} {p : Path}
    (done : fs.makeDirectory p = .ok after) : after.cwd = fs.cwd := by
  obtain ⟨place, -, rfl⟩ := spot_of_makeDirectory done
  rfl

theorem cwd_attemptDirectory (fs : FileSystem) (p : Path) :
    (fs.attemptDirectory p).1.cwd = fs.cwd := by
  rw [attemptDirectory]
  split
  next after made =>
    rw [makeDirectoryIfNew] at made
    split at made
    next directory =>
      cases made
      exact cwd_makeDirectory directory
    · split at made
      · cases made
      · split at made
        · cases made
          rfl
        · cases made
        · cases made
    · cases made
  next => rfl

theorem cwd_makeDirectoriesFrom (anchor : Anchor) (fs : FileSystem) (backward : List String) :
    (makeDirectoriesFrom anchor fs backward).1.cwd = fs.cwd := by
  induction backward generalizing fs with
  | nil => exact cwd_attemptDirectory fs _
  | cons name above ih =>
    have first := cwd_attemptDirectory fs ⟨anchor, (name :: above).reverse⟩
    rw [makeDirectoriesFrom]
    split
    next made => rwa [made] at first
    next after fault made =>
      rw [made] at first
      split
      next =>
        have upper := (ih after).trans first
        split
        next made =>
          rw [made] at upper
          exact (cwd_attemptDirectory _ _).trans upper
        next => exact upper
      next => exact first

theorem cwd_rename {fs after : FileSystem} {source destination : Path}
    (done : fs.rename source destination = .ok after) : after.cwd = fs.cwd := by
  obtain ⟨start, -, done⟩ := bind_eq_ok_iff.1 (renameSpots_of_rename done).2
  obtain ⟨goal, -, done⟩ := bind_eq_ok_iff.1 done
  split at done
  · cases done
  · split at done
    · cases done
    split at done
    · cases done
      rfl
    split at done
    · cases done
    split at done
    · cases done
    split at done
    · cases done
      rfl
    · rw [(replace_eq_ok done).2]
      rfl

theorem cwd_move {fs after : FileSystem} {source destination : Path}
    (done : fs.move source destination = .ok after) : after.cwd = fs.cwd := by
  rw [move] at done
  split at done
  · split at done
    · exact cwd_rename (mapError_eq_ok_iff.1 done)
    · simp only at done
      split at done
      · cases done
      · exact cwd_rename (rename_of_transfer done)
  · exact cwd_rename (rename_of_transfer done)

theorem mapError_system_ne_null {α : Type} (answer : Except Fault α) :
    answer.mapError AccessFault.system ≠ .error .nullCharacter := by
  cases answer <;> simp

theorem clear_ne_null (fs : FileSystem) {p : Path} (free : IsNullFree p) :
    clear fs p ≠ .error .nullCharacter := by
  refine bind_ne_null (mapError_system_ne_null _) fun isFile => bind_ne_null ?_ fun isLink => ?_
  · split
    · simp
    · exact mapError_system_ne_null _
  · split
    · exact unlink_ne_null fs free
    · simp

theorem fewer_clear {fs after : FileSystem} {p : Path} (done : clear fs p = .ok after) :
    Fewer fs after := by
  obtain ⟨isFile, -, done⟩ := bind_eq_ok_iff.1 done
  obtain ⟨isLink, -, done⟩ := bind_eq_ok_iff.1 done
  split at done
  · exact fewer_unlink done
  · cases done
    exact .refl fs

theorem moveOutput_ne_null (fs : FileSystem) {source destination : Path}
    (sourceFree : IsNullFree source) (free : IsNullFree destination) :
    (moveOutput fs source destination).1.cwd = fs.cwd ∧
      (moveOutput fs source destination).2 ≠ .error (.access .nullCharacter) := by
  have parentFree : IsNullFree destination.parent :=
    fun name member => free name (List.dropLast_subset _ member)
  -- Each step keeps the working directory, which relative paths are taken from.
  have way := makeDirectories_ne_null fs parentFree
  have cwd : (fs.makeDirectories destination.parent).1.cwd = fs.cwd :=
    cwd_makeDirectoriesFrom _ fs _
  rw [moveOutput]
  split
  next after fault made =>
    rw [made] at way cwd
    exact ⟨cwd, by simpa using way⟩
  next made wayMade =>
    rw [wayMade] at cwd
    have never := clear_ne_null made free
    split
    next fault cleared =>
      rw [cleared] at never
      exact ⟨cwd, by simpa using never⟩
    next ready cleared =>
      have moved := move_ne_null ready sourceFree free
      have cwd' := (fewer_clear cleared).cwd.trans cwd
      split
      next fault refused =>
        rw [refused] at moved
        exact ⟨cwd', by simpa using moved⟩
      next after done => exact ⟨(cwd_move done).trans cwd', by simp⟩

theorem exists_moveOutputs {moves : Relocation} (w : World)
    (free : ∀ move ∈ moves, IsNullFree move.1 ∧ IsNullFree move.2) :
    ∃ after failures, moveOutputs w moves = (after, .ok failures) ∧
      after.files.cwd = w.files.cwd := by
  induction moves generalizing w with
  | nil => exact ⟨w, [], rfl, rfl⟩
  | cons move rest ih =>
    obtain ⟨source, destination⟩ := move
    simp only [List.mem_cons, forall_eq_or_imp] at free
    obtain ⟨cwd, never⟩ := moveOutput_ne_null w.files free.1.1 free.1.2
    -- Another fault is told of, and the run goes on.
    rw [moveOutputs]
    split
    next files moved =>
      rw [moved] at cwd
      obtain ⟨after, failures, done, same⟩ := ih (({ w with files } : World).debug
        ("Moved " ++ source.name ++ " -> " ++ destination.text)) free.2
      exact ⟨after, failures, done, same.trans cwd⟩
    next files moved =>
      rw [moved] at never
      exact absurd rfl never
    next files fault other moved =>
      rw [moved] at cwd
      obtain ⟨after, failures, done, same⟩ := ih (({ w with files } : World).warning
        (FailedMove.message ⟨source, destination, fault.message⟩)) free.2
      simp only [done]
      exact ⟨after, _, rfl, same.trans cwd⟩

/-- All that reconciling names can be named, and so can what links lead through. -/
structure AllNameable (fs : FileSystem) (m : Manifest) (root : Path) (transient : List Path) :
    Prop where
  links : fs.HasShortLinks
  keys : ∀ key, Mentions m key → Nameable (Path.absolute ⟨.root, fs.cwd⟩ (m.absolute key))
  top : Nameable (Path.absolute ⟨.root, fs.cwd⟩ root)
  transient : ∀ artifact ∈ transient, Nameable (Path.absolute ⟨.root, fs.cwd⟩ artifact)

theorem AllNameable.isNullFree_of_planned {fs : FileSystem} {m : Manifest} {root : Path}
    {transient : List Path} (all : AllNameable fs m root transient) {move : Path × Path}
    (planned : Planned ⟨.root, fs.cwd⟩ m (Path.absolute ⟨.root, fs.cwd⟩ root) move) :
    IsNullFree move.1 ∧ IsNullFree move.2 := by
  have free (key : String) (mentions : Mentions m key) :
      ∀ name ∈ (Path.absolute ⟨.root, fs.cwd⟩ (m.absolute key)).parts, IsProper name :=
    (all.keys key mentions).isNullFree
  constructor
  · obtain ⟨key, output, same⟩ := planned.source
    obtain ⟨entry, there, rfl⟩ := List.mem_map.1 output
    rw [same]
    exact fun name part => free _ (.inr ⟨entry, there, .inl rfl⟩) name (mem_parts_absolute part)
  · exact planned.forall_destination all.top.isNullFree free

/-- Only an entry point that is no text ends reconciling, and that before anything is changed. -/
theorem AllNameable.reconcile_ne_access {w : World} {m : Manifest} {root : Path}
    {transient : List Path} (all : AllNameable w.files m root transient) (cause : AccessFault) :
    (reconcile w m root transient).2 ≠ .error (.access cause) := by
  rw [reconcile]
  simp only [plan_absolute]
  split
  · simp
  next moves planned =>
    have inputs : ∀ p ∈ inputPaths ⟨.root, w.files.cwd⟩ m, p.isAbsolute = true ∧ Nameable p := by
      intro p member
      refine ⟨isAbsolute_of_mem_inputPaths rfl member, ?_⟩
      obtain ⟨key, input, rfl⟩ := List.mem_map.1 member
      exact all.keys key (.inl input)
    -- No stage fails, each in the state that the one before leaves.
    obtain ⟨left, gone, deleted, fewer⟩ := exists_deleteInputs
      (Path.absolute ⟨.root, w.files.cwd⟩ root) all.links fun p member _ => inputs p member
    obtain ⟨moved, failures, done, cwd⟩ := exists_moveOutputs (left.debug (deletedMessage gone))
      fun move member => all.isNullFree_of_planned (planned_of_plan planned move member)
    have free : ∀ artifact ∈ transient,
        IsNullFree (Path.absolute ⟨.root, moved.files.cwd⟩ artifact) := by
      rw [cwd, World.files_debug, fewer.cwd]
      exact fun artifact member => (all.transient artifact member).isNullFree
    obtain ⟨cleaned, last⟩ := exists_removeTransient (Path.absolute ⟨.root, w.files.cwd⟩ root)
      fun artifact member _ => free artifact member
    rw [inputPaths] at deleted
    rw [deleted]
    simp [done, last]

theorem reconcile_cases (w : World) (m : Manifest) (root : Path) (transient : List Path) :
    (∃ report, (reconcile w m root transient).2 = .ok report) ∨
      (reconcile w m root transient).1 = w ∨
      ∃ cause, (reconcile w m root transient).2 = .error (.access cause) := by
  rw [reconcile]
  simp only
  split
  · exact .inr (.inl rfl)
  split
  next fault _ => exact .inr (.inr ⟨fault, rfl⟩)
  split
  next fault _ => exact .inr (.inr ⟨fault, rfl⟩)
  split
  next fault _ => exact .inr (.inr ⟨fault, rfl⟩)
  · exact .inl ⟨_, rfl⟩

end BuildPipeline.BuildTree
