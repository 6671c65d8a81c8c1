import BuildPipeline.Proofs.BuildTree.Reconciling

set_option autoImplicit false

namespace BuildPipeline.BuildTree

open FileSystem Sequencing

def Lands (cwd : Location) (move : Path × Path) (l : Location) : Prop :=
  l = placeOf cwd move.2 ∨ l = placeOf cwd move.2 ++ [move.1.name]

instance (cwd : Location) (move : Path × Path) (l : Location) : Decidable (Lands cwd move l) :=
  inferInstanceAs (Decidable (_ ∨ _))

theorem Lands.below {cwd : Location} {move : Path × Path} {l : Location} (lands : Lands cwd move l) :
    placeOf cwd move.2 <+: l := by
  rcases lands with rfl | rfl
  · exact List.prefix_rfl
  · exact List.prefix_append _ _

structure Enters (cwd region : Location) (move : Path × Path) : Prop where
  plain : move.1.IsPlain
  named : move.1.parts ≠ []
  outside : ¬ region <+: placeOf cwd move.1
  absolute : move.2.isAbsolute = true
  clean : move.2.IsClean
  within : region <+: placeOf cwd move.2

theorem Enters.ne_destination {cwd region : Location} {move other : Path × Path}
    (enters : Enters cwd region move) (second : Enters cwd region other) :
    placeOf cwd move.1 ≠ placeOf cwd other.2 := by
  intro same
  exact enters.outside (same ▸ second.within)

theorem Enters.not_lands {cwd region : Location} {move other : Path × Path}
    (enters : Enters cwd region move) (second : Enters cwd region other) :
    ¬ Lands cwd other (placeOf cwd move.1) := by
  intro lands
  exact enters.outside (second.within.trans lands.below)

theorem hasStart_of_file {fs : FileSystem} {p : Path} {content : List UInt8} (tree : fs.IsTree)
    (plain : p.IsPlain) (named : p.parts ≠ [])
    (file : fs.get? (placeOf fs.cwd p) = some (.file content)) : fs.HasStart p := by
  rw [placeOf, settle_of_names (isName_of_isPlain plain)] at file
  rw [HasStart, start]
  exact tree.directory_of_append named (by simp [file])

theorem get?_of_readies {destination : Path} {before after : FileSystem} {l : Location}
    {content : List UInt8} (absolute : destination.isAbsolute = true)
    (readies : Evolves (Readies destination) before after)
    (file : before.get? l = some (.file content)) (other : l ≠ placeOf before.cwd destination) :
    after.get? l = some (.file content) := by
  have change := readies.change l
  rw [file] at change
  rcases change with (same | ⟨missing, -⟩) | ⟨-, -, reaches⟩
  · exact same
  · cases missing
  · rw [← reaches_of_isAbsolute absolute before.cwd] at reaches
    exact absurd reaches.1.symm other

theorem move_file {fs after : FileSystem} {source destination : Path} {content : List UInt8}
    (tree : fs.IsTree) (plain : source.IsPlain) (sourceStart : fs.HasStart source)
    (absolute : destination.isAbsolute = true) (clean : destination.IsClean)
    (different : placeOf fs.cwd source ≠ placeOf fs.cwd destination)
    (notInside : placeOf fs.cwd source ≠ placeOf fs.cwd destination ++ [source.name])
    (file : fs.get? (placeOf fs.cwd source) = some (.file content))
    (done : fs.move source destination = .ok after) :
    after.IsTree ∧ after.cwd = fs.cwd ∧
      (∃ l, Lands fs.cwd (source, destination) l ∧ after.get? l = some (.file content)) ∧
      ∀ l other, fs.get? l = some (.file other) → l ≠ placeOf fs.cwd source →
        l ≠ placeOf fs.cwd destination → after.get? l = some (.file other) := by
  have start := fs.hasStart_of_isAbsolute absolute
  have insideStart := fs.hasStart_of_isAbsolute (isAbsolute_insidePath absolute source)
  have moved := evolves_move tree sourceStart absolute plain.isClean clean done
  refine ⟨moved.tree, moved.cwd, ?_⟩
  obtain ⟨renamed, vacant⟩ | ⟨renamed, directory, new⟩ :=
    rename_of_move tree sourceStart absolute done
  -- No directory stands at the destination, and the file takes its place.
  · have noDirectory := vacant.resolve_left different
    obtain ⟨-, -, ⟨same, -⟩ | ⟨apart, -, -, rfl⟩⟩ := rename_eq_ok tree sourceStart start renamed
    · exact absurd same different
    have places := get?_relocate_file tree apart file noDirectory
    refine ⟨⟨_, .inl rfl, by simp [places]⟩, fun l other there notSource notDestination => ?_⟩
    rw [places, if_neg notDestination, if_neg notSource, there]
  -- The directory there takes the file in, where it has nothing of that name.
  · obtain ⟨named, -, landed⟩ := rename_eq_ok tree sourceStart insideStart renamed
    rw [placeOf_insidePath absolute plain.isClean clean named] at landed new
    obtain ⟨same, -⟩ | ⟨apart, -, -, rfl⟩ := landed
    · exact absurd same notInside
    have places := get?_relocate_file tree apart file (by simp [new])
    refine ⟨⟨_, .inr rfl, by simp [places]⟩, fun l other there notSource _ => ?_⟩
    have notTarget : l ≠ placeOf fs.cwd destination ++ [source.name] := by
      rintro rfl
      simp [new] at there
    rw [places, if_neg notTarget, if_neg notSource, there]

theorem moveOutput_file {fs : FileSystem} {region : Location} {source destination : Path}
    {content : List UInt8} (tree : fs.IsTree)
    (enters : Enters fs.cwd region (source, destination))
    (file : fs.get? (placeOf fs.cwd source) = some (.file content)) :
    (moveOutput fs source destination).1.IsTree ∧
      (moveOutput fs source destination).1.cwd = fs.cwd ∧
      (∀ l other, fs.get? l = some (.file other) → l ≠ placeOf fs.cwd source →
        l ≠ placeOf fs.cwd destination →
        (moveOutput fs source destination).1.get? l = some (.file other)) ∧
      ((moveOutput fs source destination).1.get? (placeOf fs.cwd source) = some (.file content) ∧
          (moveOutput fs source destination).2 ≠ .ok () ∨
        ∃ l, Lands fs.cwd (source, destination) l ∧
          (moveOutput fs source destination).1.get? l = some (.file content)) := by
  have different := enters.ne_destination enters
  have notInside := fun same => enters.not_lands enters (.inr same)
  obtain ⟨fault, after, outcome, readies⟩ | ⟨ready, after, outcome, readies, moved⟩ :=
    moveOutput_spec source tree enters.absolute
  · rw [outcome]
    refine ⟨readies.tree, readies.cwd, fun l other there _ => get?_of_readies enters.absolute readies there,
      .inl ⟨get?_of_readies enters.absolute readies file different, by simp⟩⟩
  · rw [outcome]
    -- The source is outside the region, so that making ready for the move does not touch it.
    have still := get?_of_readies enters.absolute readies file different
    rw [← readies.cwd] at still different notInside
    have start := hasStart_of_file readies.tree enters.plain enters.named still
    obtain ⟨tree', cwd, landed, others⟩ := move_file readies.tree enters.plain start
      enters.absolute enters.clean different notInside still moved
    rw [readies.cwd] at cwd landed others
    exact ⟨tree', cwd, fun l other there notSource notDestination => others l other
      (get?_of_readies enters.absolute readies there notDestination) notSource notDestination,
      .inr landed⟩

/-- The moves that are still to come find their files, each its own. -/
structure Pending (region : Location) (fs : FileSystem) (moves : Relocation) : Prop where
  tree : fs.IsTree
  enters : ∀ move ∈ moves, Enters fs.cwd region move
  files : ∀ move ∈ moves, ∃ content, fs.get? (placeOf fs.cwd move.1) = some (.file content)
  distinct : moves.Pairwise fun a b => placeOf fs.cwd a.1 ≠ placeOf fs.cwd b.1

theorem Pending.step {region : Location} {fs : FileSystem} {source destination : Path}
    {rest : Relocation} (pending : Pending region fs ((source, destination) :: rest)) :
    Pending region (moveOutput fs source destination).1 rest := by
  have first := pending.enters _ List.mem_cons_self
  have later (move : Path × Path) (member : move ∈ rest) := List.mem_cons_of_mem (source, destination) member
  obtain ⟨content, file⟩ := pending.files _ List.mem_cons_self
  obtain ⟨tree, cwd, others, -⟩ := moveOutput_file pending.tree first file
  refine ⟨tree, ?_, ?_, ?_⟩
  · rw [cwd]
    exact fun move member => pending.enters move (later move member)
  · rw [cwd]
    intro move member
    obtain ⟨own, there⟩ := pending.files move (later move member)
    refine ⟨own, others _ own there ?_ ?_⟩
    · exact Ne.symm (List.rel_of_pairwise_cons pending.distinct member)
    · exact (pending.enters move (later move member)).ne_destination first
  · rw [cwd]
    exact pending.distinct.of_cons

theorem get?_moveOutputs {region : Location} {w : World} {moves : Relocation} {l : Location}
    {content : List UInt8} (pending : Pending region w.files moves)
    (file : w.files.get? l = some (.file content))
    (notSource : ∀ move ∈ moves, l ≠ placeOf w.files.cwd move.1)
    (notDestination : ∀ move ∈ moves, l ≠ placeOf w.files.cwd move.2) :
    (moveOutputs w moves).1.files.IsTree ∧ (moveOutputs w moves).1.files.cwd = w.files.cwd ∧
      (moveOutputs w moves).1.files.get? l = some (.file content) := by
  induction moves generalizing w with
  | nil => exact ⟨pending.tree, rfl, file⟩
  | cons move rest ih =>
    obtain ⟨source, destination⟩ := move
    simp only [List.mem_cons, forall_eq_or_imp] at notSource notDestination
    obtain ⟨own, there⟩ := pending.files _ List.mem_cons_self
    obtain ⟨tree, cwd, others, -⟩ :=
      moveOutput_file pending.tree (pending.enters _ List.mem_cons_self) there
    have kept := others l content file notSource.1 notDestination.1
    obtain ⟨w', same, stopped⟩ | ⟨w', told, same, goesOn, -⟩ :=
      moveOutputs_cons w source destination rest
    · rw [stopped, same]
      exact ⟨tree, cwd, kept⟩
    · have follows := ih (w := w') (same ▸ pending.step) (same ▸ kept)
      rw [same, cwd] at follows
      rw [goesOn]
      exact follows notSource.2 notDestination.2

def Arrived (fs : FileSystem) (move : Path × Path) (content : List UInt8) : Prop :=
  ∃ l, Lands fs.cwd move l ∧ fs.get? l = some (.file content)

def Remains {ε : Type} (fs : FileSystem) (move : Path × Path) (content : List UInt8)
    (failures : Except ε (List FailedMove)) : Prop :=
  fs.get? (placeOf fs.cwd move.1) = some (.file content) ∧
    ∀ told, failures = .ok told → ∃ f ∈ told, f.source = move.1 ∧ f.destination = move.2

theorem Remains.map {ε : Type} {fs : FileSystem} {move : Path × Path} {content : List UInt8}
    {failures : Except ε (List FailedMove)} (remains : Remains fs move content failures)
    (own : List FailedMove) : Remains fs move content (failures.map (own ++ ·)) := by
  refine ⟨remains.1, fun told ok => ?_⟩
  obtain ⟨more, found, rfl⟩ := map_eq_ok_iff.1 ok
  obtain ⟨f, member, paths⟩ := remains.2 more found
  exact ⟨f, List.mem_append_right own member, paths⟩

/-- What a run of moves has done with the file of one of them. -/
structure Outcome (cwd : Location) (run : World × Except AccessFault (List FailedMove))
    (move : Path × Path) (content : List UInt8) : Prop where
  tree : run.1.files.IsTree
  cwd : run.1.files.cwd = cwd
  kept : Arrived run.1.files move content ∨ Remains run.1.files move content run.2

theorem moveOutputs_first {region : Location} {w : World} {source destination : Path}
    {after : Relocation} {content : List UInt8}
    (pending : Pending region w.files ((source, destination) :: after))
    (file : w.files.get? (placeOf w.files.cwd source) = some (.file content))
    (notReplaced : ∀ later ∈ after,
      ¬ Lands w.files.cwd (source, destination) (placeOf w.files.cwd later.2)) :
    Outcome w.files.cwd (moveOutputs w ((source, destination) :: after)) (source, destination)
      content := by
  have enters := pending.enters _ List.mem_cons_self
  have later (other : Path × Path) (member : other ∈ after) :=
    pending.enters other (List.mem_cons_of_mem (source, destination) member)
  obtain ⟨tree, cwd, -, outcome⟩ := moveOutput_file pending.tree enters file
  obtain ⟨w', same, stopped⟩ | ⟨w', told, same, goesOn, failed⟩ :=
    moveOutputs_cons w source destination after
  · rw [← same] at tree cwd outcome
    rw [stopped]
    refine ⟨tree, cwd, ?_⟩
    rw [Arrived, Remains, cwd]
    exact outcome.symm.imp_right fun stays => ⟨stays.1, by simp⟩
  have next : Pending region w'.files after := same ▸ pending.step
  rw [goesOn]
  rcases outcome with ⟨stays, notOk⟩ | ⟨l, lands, arrived⟩
  -- The file stays at its source, which belongs to no other move and is no destination.
  · rw [← same] at stays cwd
    obtain ⟨tree', cwd', kept⟩ := get?_moveOutputs next stays
      (fun other member => cwd ▸ List.rel_of_pairwise_cons pending.distinct member)
      fun other member => cwd ▸ enters.ne_destination (later other member)
    refine ⟨tree', cwd'.trans cwd, .inr ⟨?_, fun all ok => ?_⟩⟩
    · rw [cwd', cwd]
      exact kept
    · obtain ⟨more, -, rfl⟩ := map_eq_ok_iff.1 ok
      obtain ⟨f, member, paths⟩ := failed notOk
      exact ⟨f, List.mem_append_left more member, paths⟩
  -- The file lands in the region, where no source is, and no later destination is at that place.
  · rw [← same] at arrived cwd
    have notTaken : ∀ other ∈ after, l ≠ placeOf w'.files.cwd other.1 := by
      rintro other member rfl
      rw [cwd] at lands
      exact (later other member).not_lands enters lands
    have notCovered : ∀ other ∈ after, l ≠ placeOf w'.files.cwd other.2 := by
      rintro other member rfl
      rw [cwd] at lands
      exact notReplaced other member lands
    obtain ⟨tree', cwd', kept⟩ := get?_moveOutputs next arrived notTaken notCovered
    refine ⟨tree', cwd'.trans cwd, .inl ⟨l, ?_, kept⟩⟩
    rw [cwd', cwd]
    exact lands

theorem moveOutputs_output {region : Location} {w : World} {before after : Relocation}
    {move : Path × Path} {content : List UInt8}
    (pending : Pending region w.files (before ++ move :: after))
    (file : w.files.get? (placeOf w.files.cwd move.1) = some (.file content))
    (notReplaced : ∀ later ∈ after, ¬ Lands w.files.cwd move (placeOf w.files.cwd later.2)) :
    Outcome w.files.cwd (moveOutputs w (before ++ move :: after)) move content := by
  induction before generalizing w with
  | nil => exact moveOutputs_first pending file notReplaced
  | cons first before ih =>
    obtain ⟨source, destination⟩ := first
    have member : move ∈ before ++ move :: after := by simp
    have enters := pending.enters _ (List.mem_cons_of_mem _ member)
    have ahead := pending.enters (source, destination) List.mem_cons_self
    obtain ⟨own, there⟩ := pending.files (source, destination) List.mem_cons_self
    obtain ⟨tree, cwd, others, -⟩ := moveOutput_file pending.tree ahead there
    -- The first move takes and replaces other files than this one.
    have different := Ne.symm (List.rel_of_pairwise_cons pending.distinct member)
    have kept := others _ content file different (enters.ne_destination ahead)
    rw [List.cons_append]
    obtain ⟨w', same, stopped⟩ | ⟨w', told, same, goesOn, -⟩ :=
      moveOutputs_cons w source destination (before ++ move :: after)
    · rw [← same] at tree cwd kept
      rw [stopped]
      refine ⟨tree, cwd, .inr ⟨?_, by simp⟩⟩
      rw [cwd]
      exact kept
    · rw [← cwd, ← same] at kept notReplaced
      have follows := ih (same ▸ pending.step) kept notReplaced
      rw [goesOn]
      exact ⟨follows.tree, follows.cwd.trans (same ▸ cwd), follows.kept.imp_right (Remains.map · told)⟩

end BuildPipeline.BuildTree
