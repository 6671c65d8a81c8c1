import BuildPipeline.BuildTree.Reconciling
import BuildPipeline.Proofs.BuildTree.Pruning
import BuildPipeline.Proofs.FileSystem.Moving
import BuildPipeline.Proofs.Path.Text

set_option autoImplicit false

namespace BuildPipeline.BuildTree

open BuildPipeline.Bundler (Manifest)
open FileSystem Sequencing

abbrev DeletesAll (paths : List Path) (root : Path) : Change :=
  Cleared (fun l => ∃ p ∈ paths, p.isWithin root = true ∧ Reaches [] p l)
    (fun l => ∃ p ∈ paths, p.isWithin root = true ∧ Prunes p root l)

theorem DeletesAll.of_mem {paths : List Path} {p root : Path} (member : p ∈ paths)
    (within : p.isWithin root = true) {l : Location} {x y : Option Entry}
    (deletes : Deletes p root l x y) : DeletesAll paths root l x y :=
  Cleared.mono deletes (fun reaches => ⟨p, member, within, reaches⟩)
    fun pruned => ⟨p, member, within, pruned⟩

theorem DeletesAll.of_tail {p root : Path} {paths : List Path} {l : Location} {x y : Option Entry}
    (deletes : DeletesAll paths root l x y) : DeletesAll (p :: paths) root l x y := by
  refine Cleared.mono deletes ?_ ?_
  · rintro ⟨q, member, rest⟩
    exact ⟨q, List.mem_cons_of_mem p member, rest⟩
  · rintro ⟨q, member, rest⟩
    exact ⟨q, List.mem_cons_of_mem p member, rest⟩

theorem evolves_deleteInputs {root : Path} (rootAbsolute : root.isAbsolute = true)
    {inputs : List Path} {w : World} (tree : w.files.IsTree)
    (absolute : ∀ p ∈ inputs, p.isAbsolute = true) :
    Evolves (DeletesAll inputs root) w.files (deleteInputs root w inputs).1.files := by
  induction inputs generalizing w with
  | nil => exact .refl tree fun _ _ => .inl rfl
  | cons input rest ih =>
    simp only [List.mem_cons, forall_eq_or_imp] at absolute
    have later {w : World} (tree : w.files.IsTree) :
        Evolves (DeletesAll (input :: rest) root) w.files (deleteInputs root w rest).1.files :=
      (ih tree absolute.2).mono fun l x y => DeletesAll.of_tail
    rw [deleteInputs]
    split
    next => exact later (w := w.debug _) tree
    next within =>
      rw [Bool.not_eq_true, Bool.not_eq_false'] at within
      split
      next => exact .refl tree fun _ _ => .inl rfl
      next after removed done =>
        have first : Evolves (DeletesAll (input :: rest) root) w.files after.files :=
          (evolves_unlinkPrune tree absolute.1 rootAbsolute done).mono fun l x y =>
            DeletesAll.of_mem List.mem_cons_self within
        -- The question whether it is still there may fail, but changes nothing.
        split
        next => exact first
        next => exact first.trans Cleared.trans (later first.tree)

theorem evolves_removeTransient {root : Path} {w : World} (rootAbsolute : root.isAbsolute = true)
    (transient : List Path) (tree : w.files.IsTree) :
    Evolves (DeletesAll (transient.map (Path.absolute ⟨.root, w.files.cwd⟩)) root) w.files
      (removeTransient root w transient).1.files := by
  induction transient generalizing w with
  | nil => exact .refl tree fun _ _ => .inl rfl
  | cons artifact rest ih =>
    have path : (Path.absolute ⟨.root, w.files.cwd⟩ artifact).isAbsolute = true :=
      Path.isAbsolute_absolute rfl artifact
    rw [removeTransient, List.map_cons]
    split
    next within =>
      split
      next => exact .refl tree fun _ _ => .inl rfl
      next after removed done =>
        have first : Evolves (DeletesAll (_ :: rest.map (Path.absolute ⟨.root, w.files.cwd⟩)) root)
            w.files after.files :=
          (evolves_unlinkPrune tree path rootAbsolute done).mono fun l x y =>
            DeletesAll.of_mem List.mem_cons_self within
        have second := ih first.tree
        rw [first.cwd] at second
        exact first.trans Cleared.trans (second.mono fun l x y => DeletesAll.of_tail)
    next => exact (ih tree).mono fun l x y => DeletesAll.of_tail

/-- Before a move the way to the destination is made, and a file that stands there goes. -/
def Readies (destination : Path) : Change := fun l x y =>
  Made (OnWay destination.parent.parts) l x y ∨
    (∃ content, x = some (.file content)) ∧ y = none ∧ Reaches [] destination l

theorem evolves_clear {fs after : FileSystem} {p : Path} (tree : fs.IsTree)
    (absolute : p.isAbsolute = true) (done : clear fs p = .ok after) :
    Evolves (Cleared (Reaches [] p) fun _ => False) fs after := by
  obtain ⟨isFile, -, done⟩ := bind_eq_ok_iff.1 done
  obtain ⟨isLink, -, done⟩ := bind_eq_ok_iff.1 done
  split at done
  next =>
    have evolves := evolves_unlink tree (fs.hasStart_of_isAbsolute absolute) done
    rwa [reaches_of_isAbsolute absolute] at evolves
  next =>
    cases done
    exact .refl tree fun _ _ => .inl rfl

theorem Readies.of_made {destination : Path} {before made after : FileSystem}
    (first : Evolves (Made (OnWay destination.parent.parts)) before made)
    (second : Evolves (Cleared (Reaches [] destination) fun _ => False) made after) :
    Evolves (Readies destination) before after := by
  refine ⟨second.cwd.trans first.cwd, second.tree, fun l => ?_⟩
  -- A file that goes was there before, since only directories have been made.
  rcases second.change l with same | ⟨gone, ⟨⟨content, file⟩, reaches⟩ | ⟨-, impossible⟩⟩
  · rw [same]
    exact .inl (first.change l)
  · rcases first.change l with kept | ⟨-, directory, -⟩
    · exact .inr ⟨⟨content, kept ▸ file⟩, gone, reaches⟩
    · simp [file] at directory
  · exact impossible.elim

theorem isAbsolute_parent {p : Path} (absolute : p.isAbsolute = true) :
    p.parent.isAbsolute = true := absolute

theorem moveOutput_spec {fs : FileSystem} {destination : Path} (source : Path) (tree : fs.IsTree)
    (absolute : destination.isAbsolute = true) :
    (∃ fault after, moveOutput fs source destination = (after, .error fault) ∧
        Evolves (Readies destination) fs after) ∨
      ∃ ready after, moveOutput fs source destination = (after, .ok ()) ∧
        Evolves (Readies destination) fs ready ∧ ready.move source destination = .ok after := by
  have way := evolves_makeDirectories tree (isAbsolute_parent absolute)
  rw [moveOutput]
  split
  next after fault made =>
    rw [made] at way
    exact .inl ⟨_, after, rfl, way.mono fun l x y => .inl⟩
  next made wayMade =>
    rw [wayMade] at way
    split
    next => exact .inl ⟨_, made, rfl, way.mono fun l x y => .inl⟩
    next ready cleared =>
      have readied := Readies.of_made way (evolves_clear way.tree absolute cleared)
      split
      next fault moved => exact .inl ⟨fault, ready, rfl, readied⟩
      next after moved => exact .inr ⟨ready, after, rfl, readied, moved⟩

structure Attempt where
  before : FileSystem
  source : Path
  destination : Path
  deriving DecidableEq, Repr

namespace Attempt

def after (a : Attempt) : FileSystem :=
  (moveOutput a.before a.source a.destination).1

def fault? (a : Attempt) : Option MoveFault :=
  match (moveOutput a.before a.source a.destination).2 with
  | .ok () => none
  | .error fault => some fault

def failure? (a : Attempt) : Option FailedMove :=
  a.fault?.map fun fault => ⟨a.source, a.destination, fault.message⟩

end Attempt

-- Only a null character in the paths of a move keeps the others from following it.
theorem moveOutputs_attempt (w : World) (source destination : Path) (rest : Relocation) :
    let attempt : Attempt := ⟨w.files, source, destination⟩
    attempt.fault? = some (.access .nullCharacter) ∧
        moveOutputs w ((source, destination) :: rest) =
          ({ w with files := attempt.after }, .error .nullCharacter) ∨
      attempt.fault? ≠ some (.access .nullCharacter) ∧ ∃ w', w'.files = attempt.after ∧
        moveOutputs w ((source, destination) :: rest) =
          ((moveOutputs w' rest).1, (moveOutputs w' rest).2.map (attempt.failure?.toList ++ ·)) := by
  have unchanged (told : Except AccessFault (List FailedMove)) : told.map ([] ++ ·) = told := by
    cases told <;> rfl
  simp only [Attempt.failure?, Attempt.fault?, Attempt.after]
  rw [moveOutputs]
  rcases moveOutput w.files source destination with ⟨files, ⟨fault⟩ | ⟨⟨⟩⟩⟩
  · by_cases null : fault = .access .nullCharacter
    · subst null
      exact .inl ⟨rfl, rfl⟩
    · refine .inr ⟨by simpa using null, ?_⟩
      split
      next same => cases same
      next same => cases same; exact absurd rfl null
      next same =>
        cases same
        exact ⟨({ w with files } : World).warning _, rfl, rfl⟩
  · refine .inr ⟨by simp, ({ w with files } : World).debug
      ("Moved " ++ source.name ++ " -> " ++ destination.text), rfl, ?_⟩
    simp only [Option.map_none, Option.toList_none, unchanged]

theorem moveOutputs_cons (w : World) (source destination : Path) (rest : Relocation) :
    (∃ w', w'.files = (moveOutput w.files source destination).1 ∧
        moveOutputs w ((source, destination) :: rest) = (w', .error .nullCharacter)) ∨
      ∃ w' own, w'.files = (moveOutput w.files source destination).1 ∧
        moveOutputs w ((source, destination) :: rest) =
          ((moveOutputs w' rest).1, (moveOutputs w' rest).2.map (own ++ ·)) ∧
        ((moveOutput w.files source destination).2 ≠ .ok () →
          ∃ f ∈ own, f.source = source ∧ f.destination = destination) := by
  obtain ⟨-, run⟩ | ⟨-, w', files, run⟩ := moveOutputs_attempt w source destination rest
  · exact .inl ⟨_, rfl, run⟩
  · refine .inr ⟨w', _, files, run, fun failed => ?_⟩
    cases outcome : (moveOutput w.files source destination).2 with
    | ok done => exact absurd outcome failed
    | error fault =>
      exact ⟨⟨source, destination, fault.message⟩,
        by simp [Attempt.failure?, Attempt.fault?, outcome], rfl, rfl⟩

def inputPaths (cwd : Path) (m : Manifest) : List Path :=
  (Manifest.keysOf m.inputs).map fun key => Path.absolute cwd (m.absolute key)

theorem isAbsolute_of_mem_inputPaths {cwd : Path} {m : Manifest} {p : Path}
    (absolute : cwd.isAbsolute = true) (member : p ∈ inputPaths cwd m) : p.isAbsolute = true := by
  obtain ⟨key, -, rfl⟩ := List.mem_map.1 member
  exact Path.isAbsolute_absolute absolute _

theorem plan_absolute (cwd : Location) (m : Manifest) (root : Path) :
    plan ⟨.root, cwd⟩ m (Path.absolute ⟨.root, cwd⟩ root) = plan ⟨.root, cwd⟩ m root := by
  rw [plan, plan, Path.absolute_of_isAbsolute (Path.isAbsolute_absolute rfl root)]

/-- How far reconciling gets once there is a plan: the inputs are deleted, the outputs move, and
what is transient goes; each stage may be the last. -/
theorem reconcile_stages {w : World} {m : Manifest} {root : Path} {moves : Relocation}
    (transient : List Path) (planned : plan ⟨.root, w.files.cwd⟩ m root = .ok moves) :
    let top := Path.absolute ⟨.root, w.files.cwd⟩ root
    let deleted := deleteInputs top w (inputPaths ⟨.root, w.files.cwd⟩ m)
    (∃ fault, reconcile w m root transient = (deleted.1, .error (.access fault))) ∨
      ∃ gone,
        let moved := moveOutputs (deleted.1.debug (deletedMessage gone)) moves
        (∃ fault, reconcile w m root transient = (moved.1, .error (.access fault))) ∨
          ∃ failures, moved.2 = .ok failures ∧
            (reconcile w m root transient).1 = (removeTransient top moved.1 transient).1 ∧
            ∀ report, (reconcile w m root transient).2 = .ok report →
              report = ⟨moves, gone, failures⟩ := by
  simp only [reconcile, plan_absolute, planned, inputPaths]
  split
  next w' fault deletes => exact .inl ⟨fault, by rw [deletes]⟩
  next w' gone deletes =>
    refine .inr ⟨gone, ?_⟩
    rw [deletes]
    split
    next w'' fault moved => exact .inl ⟨fault, by rw [moved]⟩
    next w'' failures moved =>
      refine .inr ⟨failures, by rw [moved], ?_⟩
      rw [moved]
      split
      next cleaned => simp [cleaned]
      next cleaned => simp [cleaned, eq_comm]

end BuildPipeline.BuildTree
