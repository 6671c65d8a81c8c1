import BuildPipeline.Proofs.BuildTree.Outputs
import BuildPipeline.Proofs.BuildTree.Sweeping
import BuildPipeline.Proofs.FileSystem.Making

set_option autoImplicit false

namespace BuildPipeline.BuildTree

open BuildPipeline.Bundler (Manifest)
open FileSystem Sequencing

/-- The moves that are tried in turn. A null character in a path ends the run. -/
def attempts (fs : FileSystem) : Relocation → List Attempt
  | [] => []
  | (source, destination) :: rest =>
    let attempt : Attempt := ⟨fs, source, destination⟩
    if attempt.fault? = some (.access .nullCharacter) then [attempt]
    else attempt :: attempts attempt.after rest

def filesAfter (fs : FileSystem) : List Attempt → FileSystem
  | [] => fs
  | attempt :: rest => filesAfter attempt.after rest

theorem moveOutputs_spec (w : World) (moves : Relocation) :
    (moveOutputs w moves).1.files = filesAfter w.files (attempts w.files moves) ∧
      ∀ failures, (moveOutputs w moves).2 = .ok failures →
        failures = (attempts w.files moves).filterMap Attempt.failure? ∧
        (attempts w.files moves).map (fun a => (a.source, a.destination)) = moves := by
  induction moves generalizing w with
  | nil => exact ⟨rfl, fun failures told => ⟨(Except.ok.inj told).symm, rfl⟩⟩
  | cons move rest ih =>
    obtain ⟨source, destination⟩ := move
    rw [attempts]
    obtain ⟨null, run⟩ | ⟨other, w', files, run⟩ := moveOutputs_attempt w source destination rest
    · -- A null character ends the run, and then no failures are told.
      rw [run]
      simp only [null, if_true]
      exact ⟨rfl, fun failures told => by cases told⟩
    · obtain ⟨ends, tells⟩ := ih w'
      rw [files] at ends tells
      rw [run]
      simp only [other, if_false]
      refine ⟨ends, fun failures told => ?_⟩
      obtain ⟨more, later, rfl⟩ := map_eq_ok_iff.1 told
      obtain ⟨rfl, moves⟩ := tells more later
      refine ⟨?_, by rw [List.map_cons, moves]⟩
      rw [List.filterMap_cons]
      split
      next none => rw [none, Option.toList_none, List.nil_append]
      next failed some => rw [some, Option.toList_some, List.singleton_append]

structure Guided (move : Path × Path) : Prop where
  plain : move.1.IsPlain
  absolute : move.2.isAbsolute = true
  clean : move.2.IsClean

theorem tree_moveOutput {fs : FileSystem} {source destination : Path} (tree : fs.IsTree)
    (guided : Guided (source, destination)) :
    (moveOutput fs source destination).1.IsTree ∧
      (moveOutput fs source destination).1.cwd = fs.cwd := by
  obtain ⟨fault, after, outcome, readies⟩ | ⟨ready, after, outcome, readies, moved⟩ :=
    moveOutput_spec source tree guided.absolute
  · rw [outcome]
    exact ⟨readies.tree, readies.cwd⟩
  · rw [outcome]
    have start := hasStart_of_move readies.tree guided.plain moved
    have moves := evolves_move readies.tree start guided.absolute guided.plain.isClean guided.clean
      moved
    exact ⟨moves.tree, moves.cwd.trans readies.cwd⟩

theorem attempts_induction (holds : List Attempt → FileSystem → Prop) (fs : FileSystem)
    (moves : Relocation) (start : holds [] fs)
    (step : ∀ tried (a : Attempt), (a.source, a.destination) ∈ moves → holds tried a.before →
      holds (tried ++ [a]) a.after) :
    holds (attempts fs moves) (filesAfter fs (attempts fs moves)) := by
  suffices run : ∀ tried, holds tried fs →
      holds (tried ++ attempts fs moves) (filesAfter fs (attempts fs moves)) from run [] start
  clear start
  induction moves generalizing fs with
  | nil => simp [attempts, filesAfter]
  | cons move rest ih =>
    intro tried now
    obtain ⟨source, destination⟩ := move
    have next := step tried ⟨fs, source, destination⟩ List.mem_cons_self now
    rw [attempts]
    split
    · exact next
    · rw [filesAfter, List.append_cons]
      exact ih _ (fun tried a member => step tried a (List.mem_cons_of_mem _ member)) _ next

theorem tree_attempts {fs : FileSystem} {moves : Relocation} (tree : fs.IsTree)
    (guided : ∀ move ∈ moves, Guided move) :
    (filesAfter fs (attempts fs moves)).IsTree ∧ (filesAfter fs (attempts fs moves)).cwd = fs.cwd ∧
      ∀ a ∈ attempts fs moves,
        a.before.IsTree ∧ a.before.cwd = fs.cwd ∧ (a.source, a.destination) ∈ moves := by
  refine attempts_induction (fun tried now => now.IsTree ∧ now.cwd = fs.cwd ∧ ∀ a ∈ tried,
    a.before.IsTree ∧ a.before.cwd = fs.cwd ∧ (a.source, a.destination) ∈ moves)
    fs moves ⟨tree, rfl, by simp⟩ ?_
  rintro tried a member ⟨before, cwd, earlier⟩
  obtain ⟨after, same⟩ := tree_moveOutput before (guided _ member)
  refine ⟨after, same.trans cwd, fun other there => ?_⟩
  rcases List.mem_append.1 there with there | there
  · exact earlier other there
  · cases List.mem_singleton.1 there
    exact ⟨before, cwd, member⟩

/-- No entry goes but the file at the destination, if there is one that can be seen. -/
structure Forfeits (before after : FileSystem) (destination : Path) : Prop where
  others : ∀ l e, before.get? l = some e → l ≠ placeOf before.cwd destination → after.get? l = some e
  lost : before.isFile destination = .ok true → after.get? (placeOf before.cwd destination) = none
  unseen : destination.IsPlain → before.isFile destination ≠ .ok true →
    ∀ l e, before.get? l = some e → after.get? l = some e

theorem kept_of_made {places : Location → Prop} {before after : FileSystem} {l : Location} {e : Entry}
    (made : Evolves (Made places) before after) (there : before.get? l = some e) :
    after.get? l = some e := by
  rcases made.change l with same | ⟨missing, -⟩
  · rw [same, there]
  · rw [there] at missing
    cases missing

theorem moveOutput_of_isFile {fs : FileSystem} {destination : Path} (source : Path) (tree : fs.IsTree)
    (absolute : destination.isAbsolute = true) (file : fs.isFile destination = .ok true) :
    (∃ content, fs.get? (placeOf fs.cwd destination) = some (.file content)) ∧
      moveOutput fs source destination =
        match (fs.erase (placeOf fs.cwd destination)).move source destination with
        | .error fault => (fs.erase (placeOf fs.cwd destination), .error fault)
        | .ok after => (after, .ok ()) := by
  obtain ⟨free, place, e, spot, isFile⟩ := exists_spot_of_leadsTo file
  have located := locate_of_spot spot
  obtain ⟨rfl, there⟩ := locate_spec tree (fs.hasStart_of_isAbsolute absolute) located
  cases e with
  | link _ | directory => simp [Entry.isFile] at isFile
  | file content =>
    -- The directories that it is in are there, so that making them changes nothing.
    have made := makeDirectories_parent tree absolute free spot
    have spot' : fs.spot false destination = fs.spot true destination := by
      rw [FileSystem.spot, FileSystem.spot, locate_congr tree false true]
    have unlinked : fs.unlink destination = .ok (fs.erase (placeOf fs.cwd destination)) := by
      rw [unlink, spot', spot]
      rfl
    have cleared : clear fs destination = .ok (fs.erase (placeOf fs.cwd destination)) := by
      simp [clear, file, bind, Except.bind, unlinked]
    refine ⟨⟨content, there⟩, ?_⟩
    cases moved : (fs.erase (placeOf fs.cwd destination)).move source destination <;>
      simp [moveOutput, made, cleared, moved]

theorem eq_of_clear {fs after : FileSystem} {p : Path} (tree : fs.IsTree)
    (absolute : p.isAbsolute = true) (noFile : fs.isFile p ≠ .ok true)
    (done : clear fs p = .ok after) : after = fs := by
  obtain ⟨isFile, found, done⟩ := bind_eq_ok_iff.1 done
  obtain ⟨isLink, asked, done⟩ := bind_eq_ok_iff.1 done
  cases isFile with
  | true => exact absurd (mapError_eq_ok_iff.1 found) noFile
  | false =>
    cases isLink with
    | false =>
      cases done
      rfl
    | true =>
      -- No path leads to a link, as there is none.
      obtain ⟨-, place, e, spot, link⟩ := exists_spot_of_leadsTo (mapError_eq_ok_iff.1 asked)
      obtain ⟨-, there⟩ := locate_spec tree (fs.hasStart_of_isAbsolute absolute) (locate_of_spot spot)
      cases e with
      | link target => exact absurd there (tree.noLink _ _)
      | file _ | directory => simp [Entry.isLink] at link

theorem moveOutput_of_not_isFile {fs : FileSystem} {destination : Path} (source : Path)
    (tree : fs.IsTree) (absolute : destination.isAbsolute = true) (plain : destination.IsPlain)
    (noFile : fs.isFile destination ≠ .ok true) :
    ∃ ready, Evolves (Made (OnWay destination.parent.parts)) fs ready ∧
      ((∃ fault, moveOutput fs source destination = (ready, .error fault)) ∨
        ∃ after, moveOutput fs source destination = (after, .ok ()) ∧
          ready.move source destination = .ok after) := by
  have way := evolves_makeDirectories tree (isAbsolute_parent absolute)
  rw [moveOutput]
  split
  next ready fault made =>
    rw [made] at way
    exact ⟨ready, way, .inl ⟨_, rfl⟩⟩
  next ready made =>
    rw [made] at way
    dsimp only at way
    -- Directories that are made do not bring a file into sight.
    have stillNone : ready.isFile destination ≠ .ok true := by
      have names := isName_of_isPlain plain
      have parts : destination = Path.under ⟨destination.anchor, []⟩ destination.parts := rfl
      rw [parts, Ne, isFile_under_iff (leads_anchor tree absolute) names] at noFile
      rw [parts, Ne, isFile_under_iff (leads_anchor way.tree absolute) names]
      rintro ⟨given, content, file⟩
      refine noFile ⟨given, content, ?_⟩
      rcases way.change ([] ++ destination.parts) with same | ⟨-, directory, -⟩
      · rw [← same, file]
      · rw [file] at directory
        cases directory
    refine ⟨ready, way, ?_⟩
    split
    next fault cleared => exact .inl ⟨_, rfl⟩
    next cleared done =>
      cases eq_of_clear way.tree absolute stillNone done
      split
      next fault refused => exact .inl ⟨fault, rfl⟩
      next after moved => exact .inr ⟨after, rfl, moved⟩

theorem forfeits_moveOutput {fs : FileSystem} {source destination : Path} {fault : MoveFault}
    (tree : fs.IsTree) (absolute : destination.isAbsolute = true)
    (failed : (moveOutput fs source destination).2 = .error fault) :
    Forfeits fs (moveOutput fs source destination).1 destination where
  others l e there other := by
    obtain ⟨fault, after, outcome, readies⟩ | ⟨ready, after, outcome, -⟩ :=
      moveOutput_spec source tree absolute
    · rw [outcome]
      rcases readies.change l with (same | ⟨missing, -⟩) | ⟨-, -, place, -⟩
      · rw [same, there]
      · rw [there] at missing
        cases missing
      · refine absurd ?_ other
        rw [placeOf_of_isAbsolute absolute, ← place, placeOf_of_isAbsolute absolute]
    · rw [outcome] at failed
      cases failed
  lost file := by
    obtain ⟨⟨content, there⟩, outcome⟩ := moveOutput_of_isFile source tree absolute file
    have notRoot : placeOf fs.cwd destination ≠ [] := by
      intro root
      rw [root] at there
      cases there
    rw [outcome] at failed ⊢
    split at failed
    next refused => exact get?_erase_self fs notRoot
    next => cases failed
  -- A path may be too long to be followed: then the file is not seen, and not cleared either.
  unseen plain noFile l e there := by
    obtain ⟨ready, way, ⟨fault, outcome⟩ | ⟨after, outcome, -⟩⟩ :=
      moveOutput_of_not_isFile source tree absolute plain noFile
    · rw [outcome]
      exact kept_of_made way there
    · rw [outcome] at failed
      cases failed

structure Straight (fs : FileSystem) (m : Manifest) (root : Path) : Prop where
  tree : fs.IsTree
  directoryPlain : (Path.mk .root fs.cwd).IsPlain
  clean : root.IsClean
  plain : ∀ key, Mentions m key → (m.absolute key).IsPlain
  entries : ∀ output ∈ m.outputs, NamesEntry output.2

def triedMoves (w : World) (m : Manifest) (root : Path) (moves : Relocation) : List Attempt :=
  attempts (deleteInputs (Path.absolute ⟨.root, w.files.cwd⟩ root) w
    (inputPaths ⟨.root, w.files.cwd⟩ m)).1.files moves

theorem Straight.guided {fs : FileSystem} {m : Manifest} {root : Path} {move : Path × Path}
    (straight : Straight fs m root)
    (planned : Planned ⟨.root, fs.cwd⟩ m (Path.absolute ⟨.root, fs.cwd⟩ root) move) :
    Guided move := by
  have top : (Path.absolute ⟨.root, fs.cwd⟩ root).isAbsolute = true := Path.isAbsolute_absolute rfl root
  have topClean : (Path.absolute ⟨.root, fs.cwd⟩ root).IsClean :=
    Path.forall_join straight.directoryPlain.isClean straight.clean
  obtain ⟨key, output, source⟩ := planned.source
  have destination : move.2.IsClean := planned.forall_destination topClean fun key mentions =>
    Path.forall_join straight.directoryPlain.isClean (straight.plain key mentions).isClean
  refine ⟨?_, isAbsolute_of_isWithin top planned.isWithin, destination⟩
  rw [source]
  exact straight.plain key (mentions_of_output output)

def settled : World where
  files := ⟨["w"], [(["w"], .directory), (["w", "build"], .directory),
    (["w", "build", "x.js"], .file [1]), (["w", "build", "y.js"], .file [2])]⟩
  console := .named "none"

def settledManifest : Manifest :=
  ⟨[], [(.str "out/x.js", .map []), (.str "build/y.js", .map [])], ⟨.root, ["w"]⟩⟩

def settledMoves : Relocation :=
  [(⟨.root, ["w", "out", "x.js"]⟩, ⟨.root, ["w", "build", "x.js"]⟩),
    (⟨.root, ["w", "build", "y.js"]⟩, ⟨.root, ["w", "build", "y.js"]⟩)]

end BuildPipeline.BuildTree
