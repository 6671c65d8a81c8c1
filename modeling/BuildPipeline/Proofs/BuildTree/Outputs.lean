import BuildPipeline.Proofs.BuildTree.Landing
import BuildPipeline.Proofs.BuildTree.Relocation

set_option autoImplicit false

namespace BuildPipeline.BuildTree

open BuildPipeline.Bundler (Manifest)
open FileSystem Sequencing

theorem get?_of_deletesAll {paths : List Path} {root : Path} {before after : FileSystem}
    {l : Location} {content : List UInt8} (deletes : Evolves (DeletesAll paths root) before after)
    (file : before.get? l = some (.file content))
    (elsewhere : ∀ p ∈ paths, p.isWithin root = true → placeOf [] p ≠ l) :
    after.get? l = some (.file content) := by
  have change := deletes.change l
  rw [file] at change
  rcases change with same | ⟨-, ⟨-, p, member, within, place, -⟩ | ⟨impossible, -⟩⟩
  · exact same
  · exact absurd place (elsewhere p member within)
  · cases impossible

theorem prefix_placeOf {p root : Path} {tail : List String} (absolute : root.isAbsolute = true)
    (within : p.isWithin root = true) (parts : p.parts = root.parts ++ tail)
    (names : ∀ name ∈ tail, IsName name) (cwd : Location) : placeOf cwd root <+: placeOf cwd p := by
  rw [placeOf_of_isAbsolute (isAbsolute_of_isWithin absolute within), placeOf_of_isAbsolute absolute,
    parts, settle_append, settle_of_names names]
  exact List.prefix_append _ _

theorem placeOf_absolute {cwd : Location} (plain : (Path.mk .root cwd).IsPlain) (p : Path)
    (other : Location) : placeOf other (Path.absolute ⟨.root, cwd⟩ p) = placeOf cwd p := by
  rw [placeOf_of_isAbsolute (Path.isAbsolute_absolute rfl p), Path.absolute, placeOf]
  split
  · rfl
  · rw [settle_append, settle_of_names (isName_of_isPlain plain), List.nil_append]

/-- The outputs are different files outside the root, the entry points are texts, and no path of the
manifest has double dots. -/
structure Reconcilable (fs : FileSystem) (m : Manifest) (root : Path) : Prop where
  tree : fs.IsTree
  directory : fs.get? fs.cwd = some .directory
  directoryPlain : (Path.mk .root fs.cwd).IsPlain
  clean : root.IsClean
  plain : ∀ key, Mentions m key → (m.absolute key).IsPlain
  entries : ∀ output ∈ m.outputs, NamesEntry output.2
  files : ∀ key ∈ Manifest.keysOf m.outputs,
    ∃ content, fs.get? (placeOf fs.cwd (m.absolute key)) = some (.file content)
  outside : ∀ key ∈ Manifest.keysOf m.outputs,
    ¬ placeOf fs.cwd root <+: placeOf fs.cwd (m.absolute key)
  distinct : (Manifest.keysOf m.outputs).Pairwise fun a b =>
    placeOf fs.cwd (m.absolute a) ≠ placeOf fs.cwd (m.absolute b)

theorem names_of_inputPaths {cwd : Path} {m : Manifest} (cwdPlain : cwd.IsPlain)
    (plain : ∀ key, Mentions m key → (m.absolute key).IsPlain) :
    ∀ p ∈ inputPaths cwd m, ∀ name ∈ p.parts, IsName name := by
  intro p member
  obtain ⟨key, input, rfl⟩ := List.mem_map.1 member
  exact isName_of_isPlain (Path.forall_join cwdPlain (plain key (.inl input)))

theorem names_of_absolute {cwd : Path} {paths : List Path} (cwdPlain : cwd.IsPlain)
    (plain : ∀ p ∈ paths, p.IsPlain) :
    ∀ p ∈ paths.map (Path.absolute cwd), ∀ name ∈ p.parts, IsName name := by
  intro p member
  obtain ⟨path, there, rfl⟩ := List.mem_map.1 member
  exact isName_of_isPlain (Path.forall_join cwdPlain (plain path there))

theorem mentions_of_output {m : Manifest} {key : String} (member : key ∈ Manifest.keysOf m.outputs) :
    Mentions m key := by
  obtain ⟨output, there, rfl⟩ := List.mem_map.1 member
  exact .inr ⟨output, there, .inl rfl⟩

theorem Reconcilable.enters {fs : FileSystem} {m : Manifest} {root : Path}
    (ready : Reconcilable fs m root) {move : Path × Path}
    (planned : Planned ⟨.root, fs.cwd⟩ m (Path.absolute ⟨.root, fs.cwd⟩ root) move) :
    Enters fs.cwd (placeOf fs.cwd root) move := by
  have top : (Path.absolute ⟨.root, fs.cwd⟩ root).isAbsolute = true := Path.isAbsolute_absolute rfl root
  have topClean : (Path.absolute ⟨.root, fs.cwd⟩ root).IsClean :=
    Path.forall_join ready.directoryPlain.isClean ready.clean
  obtain ⟨key, output, source⟩ := planned.source
  obtain ⟨content, file⟩ := ready.files key output
  have keysPlain (key : String) (mentions : Mentions m key) :
      (Path.absolute ⟨.root, fs.cwd⟩ (m.absolute key)).IsPlain :=
    Path.forall_join ready.directoryPlain (ready.plain key mentions)
  obtain ⟨tail, parts, tailPlain⟩ := planned.exists_below keysPlain
  rw [← placeOf_absolute ready.directoryPlain root fs.cwd]
  refine ⟨?_, ?_, ?_, isAbsolute_of_isWithin top planned.isWithin,
    planned.forall_destination topClean fun key mentions => (keysPlain key mentions).isClean, ?_⟩
  · rw [source]
    exact ready.plain key (mentions_of_output output)
  -- Without a name the source would be the current directory, or the root.
  · intro empty
    rw [source] at empty
    rw [placeOf, empty, settle] at file
    split at file
    · cases file
    · rw [ready.directory] at file
      cases file
  · rw [source, placeOf_absolute ready.directoryPlain]
    exact ready.outside key output
  · refine prefix_placeOf top planned.isWithin parts (fun name member => ?_) fs.cwd
    exact ⟨(tailPlain name member).2, (tailPlain name member).1.ne_dot⟩

theorem Reconcilable.input_within {fs : FileSystem} {m : Manifest} {root p : Path}
    (ready : Reconcilable fs m root) (member : p ∈ inputPaths ⟨.root, fs.cwd⟩ m)
    (within : p.isWithin (Path.absolute ⟨.root, fs.cwd⟩ root) = true) :
    placeOf fs.cwd root <+: placeOf [] p := by
  obtain ⟨key, input, rfl⟩ := List.mem_map.1 member
  have plain : (Path.absolute ⟨.root, fs.cwd⟩ (m.absolute key)).IsPlain :=
    Path.forall_join ready.directoryPlain (ready.plain key (.inl input))
  obtain ⟨tail, parts, tailNames⟩ := exists_below_of_isWithin within (isName_of_isPlain plain)
  rw [← placeOf_absolute ready.directoryPlain root []]
  exact prefix_placeOf (Path.isAbsolute_absolute rfl root) within parts tailNames []

theorem Reconcilable.pending {fs after : FileSystem} {m : Manifest} {root : Path} {moves : Relocation}
    (ready : Reconcilable fs m root) (planned : plan ⟨.root, fs.cwd⟩ m root = .ok moves)
    (sources : moves.map Prod.fst = (Manifest.keysOf m.outputs).map m.absolute)
    (deletes : Evolves (DeletesAll (inputPaths ⟨.root, fs.cwd⟩ m)
      (Path.absolute ⟨.root, fs.cwd⟩ root)) fs after) :
    Pending (placeOf fs.cwd root) after moves ∧
      ∀ move ∈ moves, ∀ content, fs.get? (placeOf fs.cwd move.1) = some (.file content) →
        after.get? (placeOf fs.cwd move.1) = some (.file content) := by
  have plans := planned_of_plan planned
  have enters : ∀ move ∈ moves, Enters fs.cwd (placeOf fs.cwd root) move :=
    fun move member => ready.enters (plans move member)
  have kept : ∀ move ∈ moves, ∀ content, fs.get? (placeOf fs.cwd move.1) = some (.file content) →
      after.get? (placeOf fs.cwd move.1) = some (.file content) := by
    -- Inputs of the tree have no double dots, and so are in the region; outputs are outside.
    intro move member content file
    refine get?_of_deletesAll deletes file fun p input within same => ?_
    exact (enters move member).outside (same ▸ ready.input_within input within)
  refine ⟨⟨deletes.tree, deletes.cwd ▸ enters, ?_, ?_⟩, kept⟩
  · rw [deletes.cwd]
    intro move member
    obtain ⟨key, output, source⟩ := (plans move member).source
    obtain ⟨content, file⟩ := ready.files key output
    exact ⟨content, kept move member content (source ▸ file)⟩
  · rw [deletes.cwd]
    have keys : (moves.map Prod.fst).Pairwise fun a b => placeOf fs.cwd a ≠ placeOf fs.cwd b := by
      rw [sources]
      exact List.pairwise_map.2 ready.distinct
    rwa [List.pairwise_map] at keys

def Clears (cwd : Location) (root : Path) (transient : List Path) (move : Path × Path) : Prop :=
  ∀ artifact ∈ transient,
    (Path.absolute ⟨.root, cwd⟩ artifact).isWithin (Path.absolute ⟨.root, cwd⟩ root) = true →
    placeOf cwd artifact ≠ placeOf cwd move.1 ∧ ¬ Lands cwd move (placeOf cwd artifact)

instance (cwd : Location) (root : Path) (transient : List Path) (move : Path × Path) :
    Decidable (Clears cwd root transient move) :=
  inferInstanceAs (Decidable (∀ artifact ∈ transient, _ → _ ∧ _))

theorem outcome_of_removeTransient {fs after : FileSystem} {cwd : Location} {root : Path}
    {transient : List Path} {move : Path × Path} {content : List UInt8} {ε : Type}
    {failures : Except ε (List FailedMove)} (same : fs.cwd = cwd) (plain : (Path.mk .root cwd).IsPlain)
    (clears : Clears cwd root transient move)
    (deletes : Evolves (DeletesAll (transient.map (Path.absolute ⟨.root, cwd⟩))
      (Path.absolute ⟨.root, cwd⟩ root)) fs after)
    (outcome : Arrived fs move content ∨ Remains fs move content failures) :
    Arrived after move content ∨ Remains after move content failures := by
  subst same
  have elsewhere {l : Location} (away : ∀ artifact ∈ transient,
      (Path.absolute ⟨.root, fs.cwd⟩ artifact).isWithin (Path.absolute ⟨.root, fs.cwd⟩ root) = true →
        placeOf fs.cwd artifact ≠ l) :
      ∀ p ∈ transient.map (Path.absolute ⟨.root, fs.cwd⟩),
        p.isWithin (Path.absolute ⟨.root, fs.cwd⟩ root) = true → placeOf [] p ≠ l := by
    intro p member within
    obtain ⟨artifact, there, rfl⟩ := List.mem_map.1 member
    rw [placeOf_absolute plain]
    exact away artifact there within
  rw [Arrived, Remains, deletes.cwd]
  rcases outcome with ⟨l, lands, file⟩ | ⟨file, told⟩
  · refine .inl ⟨l, lands, get?_of_deletesAll deletes file (elsewhere ?_)⟩
    rintro artifact there within rfl
    exact (clears artifact there within).2 lands
  · refine .inr ⟨get?_of_deletesAll deletes file (elsewhere ?_), told⟩
    exact fun artifact there within => (clears artifact there within).1

/-- No output is lost but to a later one that is planned for the same place. Each lands, or it stays
and its failure is told; where there is no report, it lands or stays. -/
theorem reconcile_keeps_outputs (w : World) (m : Manifest) (root : Path) (transient : List Path)
    (ready : Reconcilable w.files m root) :
    ∃ moves, plan ⟨.root, w.files.cwd⟩ m root = .ok moves ∧
      moves.map Prod.fst = (Manifest.keysOf m.outputs).map m.absolute ∧
      (∀ report, (reconcile w m root transient).2 = .ok report → report.moves = moves) ∧
      ∀ before move after content, moves = before ++ move :: after →
        w.files.get? (placeOf w.files.cwd move.1) = some (.file content) →
        (∀ later ∈ after, ¬ Lands w.files.cwd move (placeOf w.files.cwd later.2)) →
        Clears w.files.cwd root transient move →
        Arrived (reconcile w m root transient).1.files move content ∨
          Remains (reconcile w m root transient).1.files move content
            ((reconcile w m root transient).2.map Report.failures) := by
  have distinct : ((Manifest.keysOf m.outputs).map m.absolute).Nodup := by
    refine List.pairwise_map.2 (ready.distinct.imp fun different same => different ?_)
    rw [same]
  obtain ⟨moves, planned, sources⟩ := exists_plan ⟨.root, w.files.cwd⟩ root ready.entries distinct
  have top : (Path.absolute ⟨.root, w.files.cwd⟩ root).isAbsolute = true :=
    Path.isAbsolute_absolute rfl root
  have inputs : ∀ p ∈ inputPaths ⟨.root, w.files.cwd⟩ m, p.isAbsolute = true :=
    fun p => isAbsolute_of_mem_inputPaths rfl
  have deletes := evolves_deleteInputs top ready.tree inputs
  have stages := reconcile_stages transient planned
  dsimp only at stages
  generalize deleteInputs (Path.absolute ⟨.root, w.files.cwd⟩ root) w
    (inputPaths ⟨.root, w.files.cwd⟩ m) = deleted at deletes stages
  obtain ⟨pending, kept⟩ := ready.pending planned sources deletes
  refine ⟨moves, planned, sources, ?_, ?_⟩
  · intro report reported
    obtain ⟨fault, ended⟩ | ⟨gone, ⟨fault, ended⟩ | ⟨failures, -, -, only⟩⟩ := stages
    · simp [ended] at reported
    · simp [ended] at reported
    · rw [only report reported]
  · rintro before move after content rfl file notReplaced clears
    have still := kept move (by simp) content file
    rw [← deletes.cwd] at still notReplaced
    have run (gone : List Path) := moveOutputs_output (w := deleted.1.debug (deletedMessage gone))
      pending still notReplaced
    obtain ⟨fault, ended⟩ | ⟨gone, ⟨fault, ended⟩ | ⟨failures, moved, ended, only⟩⟩ := stages
    · rw [ended]
      exact .inr ⟨still, by simp [Except.map]⟩
    · rw [ended]
      exact (run gone).kept.imp_right fun remains => ⟨remains.1, by simp [Except.map]⟩
    · have cleaned := evolves_removeTransient top transient (run gone).tree
      have same := (run gone).cwd.trans deletes.cwd
      rw [same] at cleaned
      have last := outcome_of_removeTransient same ready.directoryPlain clears cleaned (run gone).kept
      rw [ended]
      refine last.imp_right fun remains => ⟨remains.1, fun told ok => ?_⟩
      obtain ⟨report, reported, rfl⟩ := map_eq_ok_iff.1 ok
      rw [only report reported]
      exact remains.2 failures moved

def crowded : World where
  files := ⟨["w"], [(["w"], .directory), (["w", "build"], .directory),
    (["w", "build", "v.js"], .directory), (["w", "build", "v.js", "v.js"], .file [6]),
    (["w", "build", "y.js"], .directory), (["w", "out"], .directory), (["w", "out", "a"], .directory),
    (["w", "out", "b"], .directory), (["w", "out", "c"], .directory),
    (["w", "out", "a", "x.js"], .file [1]), (["w", "out", "b", "x.js"], .file [2]),
    (["w", "out", "y.js"], .file [3]), (["w", "out", "z.js"], .file [4]),
    (["w", "out", "c", "v.js"], .file [5]), (["w", "out", "c", "k.js"], .file [7])]⟩
  console := .named "none"

def crowdedManifest : Manifest :=
  ⟨[(.str "build/d/z.js", .map [])],
    [(.str "out/a/x.js", .map []), (.str "out/b/x.js", .map []), (.str "out/y.js", .map []),
      (.str "out/z.js", .map []), (.str "out/c/v.js", .map [])], ⟨.root, ["w"]⟩⟩

def crowdedMoves : Relocation :=
  [(⟨.root, ["w", "out", "a", "x.js"]⟩, ⟨.root, ["w", "build", "x.js"]⟩),
    (⟨.root, ["w", "out", "b", "x.js"]⟩, ⟨.root, ["w", "build", "x.js"]⟩),
    (⟨.root, ["w", "out", "y.js"]⟩, ⟨.root, ["w", "build", "y.js"]⟩),
    (⟨.root, ["w", "out", "z.js"]⟩, ⟨.root, ["w", "build", "d", "z.js"]⟩),
    (⟨.root, ["w", "out", "c", "v.js"]⟩, ⟨.root, ["w", "build", "v.js"]⟩)]

def crowdedArtifacts : List Path :=
  [⟨.root, ["w", "build", "d", "..", "d", "z.js"]⟩,
    ⟨.root, ["w", "build", "..", "out", "c", "v.js"]⟩]

def reconcileCrowded (transient : List Path) : World × Except ReconcileFault Report :=
  reconcile crowded crowdedManifest ⟨.root, ["w", "build"]⟩ transient

theorem reconcilable_crowded :
    Reconcilable crowded.files crowdedManifest ⟨.root, ["w", "build"]⟩ := by
  have bare : ∀ output ∈ crowdedManifest.outputs, output.2 = .map [] := by decide +kernel
  refine ⟨isTree_of_entries (by decide), rfl, by decide, by decide, ?_, ?_, ?_, by decide +kernel,
    by decide +kernel⟩
  · rintro key (member | ⟨output, member, rfl | entry⟩)
    · revert key
      decide +kernel
    · revert output
      decide +kernel
    · rw [bare output member] at entry
      cases entry
  · intro output member
    rw [bare output member]
    rintro members ⟨⟩
    exact .inl rfl
  · intro key member
    simp only [Manifest.keysOf, crowdedManifest, List.map_cons, List.map_nil, List.mem_cons,
      List.not_mem_nil, or_false] at member
    rcases member with rfl | rfl | rfl | rfl | rfl
    · exact ⟨[1], by decide +kernel⟩
    · exact ⟨[2], by decide +kernel⟩
    · exact ⟨[3], by decide +kernel⟩
    · exact ⟨[4], by decide +kernel⟩
    · exact ⟨[5], by decide +kernel⟩

/-- The first output of one name is overwritten, the third one goes into a directory, and the
artifacts take the last two along, one from where it landed and one, which could not move, from its
source. Only that one is told, and it too is not told where an artifact ends the run. -/
theorem reconcile_loses_namesake :
    Reconcilable crowded.files crowdedManifest ⟨.root, ["w", "build"]⟩ ∧
      plan ⟨.root, ["w"]⟩ crowdedManifest ⟨.root, ["w", "build"]⟩ = .ok crowdedMoves ∧
      (reconcileCrowded crowdedArtifacts).2.map (fun report => report.failures.map (·.source)) =
        .ok [⟨.root, ["w", "out", "c", "v.js"]⟩] ∧
      (reconcileCrowded crowdedArtifacts).1.files.get? ["w", "build", "x.js"] =
        some (.file [2]) ∧
      (reconcileCrowded crowdedArtifacts).1.files.get? ["w", "build", "y.js"] = some .directory ∧
      (reconcileCrowded crowdedArtifacts).1.files.get? ["w", "build", "d", "z.js"] = none ∧
      (reconcileCrowded crowdedArtifacts).1.files.get? ["w", "out", "c", "v.js"] = none ∧
      (reconcileCrowded [⟨.root, ["w", "build", "\x00"]⟩]).2 = .error (.access .nullCharacter) :=
  ⟨reconcilable_crowded, by decide +kernel⟩

theorem reconcile_keeps_crowded :
    Arrived (reconcileCrowded crowdedArtifacts).1.files
        (⟨.root, ["w", "out", "y.js"]⟩, ⟨.root, ["w", "build", "y.js"]⟩) [3] ∨
      Remains (reconcileCrowded crowdedArtifacts).1.files
        (⟨.root, ["w", "out", "y.js"]⟩, ⟨.root, ["w", "build", "y.js"]⟩) [3]
        ((reconcileCrowded crowdedArtifacts).2.map Report.failures) := by
  rw [reconcileCrowded]
  obtain ⟨moves, planned, -, -, keeps⟩ :=
    reconcile_keeps_outputs crowded crowdedManifest ⟨.root, ["w", "build"]⟩ crowdedArtifacts
      reconcilable_crowded
  have same : moves = crowdedMoves := Except.ok.inj (planned.symm.trans (by decide +kernel))
  exact keeps (crowdedMoves.take 2) _ (crowdedMoves.drop 3) [3] same (by decide +kernel)
    (by decide +kernel) (by decide +kernel)

end BuildPipeline.BuildTree
