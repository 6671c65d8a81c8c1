import BuildPipeline.BuildTree.Relocation
import BuildPipeline.Proofs.Path.Text
import BuildPipeline.Proofs.Sequencing

set_option autoImplicit false

namespace BuildPipeline.BuildTree

open BuildPipeline.Bundler (Manifest)
open Sequencing

theorem Relocation.forall_insert {holds : Path × Path → Prop} {source destination : Path}
    {moves : Relocation} (others : ∀ move ∈ moves, holds move) (new : holds (source, destination)) :
    ∀ move ∈ moves.insert source destination, holds move := by
  induction moves with
  | nil => simpa [Relocation.insert] using new
  | cons move rest ih =>
    obtain ⟨s, d⟩ := move
    simp only [List.mem_cons, forall_eq_or_imp] at others
    rw [Relocation.insert]
    split
    next same =>
      subst same
      simp only [List.mem_cons, forall_eq_or_imp]
      exact ⟨new, others.2⟩
    next =>
      simp only [List.mem_cons, forall_eq_or_imp]
      exact ⟨others.1, ih others.2⟩

/-- A move of an output to where it is to go. -/
def Planned (cwd : Path) (m : Manifest) (root : Path) (move : Path × Path) : Prop :=
  ∃ output ∈ m.outputs, ∃ origin, origin? cwd m (m.absolute output.1.text) output.2 = .ok origin ∧
    move = (m.absolute output.1.text, withinOrTop root (m.absolute output.1.text) origin)

theorem planned_of_planFrom {cwd : Path} {m : Manifest} {root : Path} {moves all : Relocation}
    {outputs : List (Value × Value)} (part : outputs ⊆ m.outputs)
    (before : ∀ move ∈ moves, Planned cwd m root move)
    (done : planFrom cwd m root moves outputs = .ok all) :
    ∀ move ∈ all, Planned cwd m root move := by
  induction outputs generalizing moves with
  | nil => cases done; exact before
  | cons output rest ih =>
    obtain ⟨origin, found, later⟩ := bind_eq_ok_iff.1 done
    refine ih (List.subset_of_cons_subset part) (Relocation.forall_insert before ?_) later
    exact ⟨output, part List.mem_cons_self, origin, found, rfl⟩

theorem planned_of_plan {cwd : Path} {m : Manifest} {root : Path} {moves : Relocation}
    (done : plan cwd m root = .ok moves) :
    ∀ move ∈ moves, Planned cwd m (Path.absolute cwd root) move :=
  planned_of_planFrom (List.Subset.refl _) (by simp) done

theorem isWithin_namesake (p root : Path) : (p.namesake root).isWithin root = true := by
  simp [Path.namesake, Path.isWithin]

theorem isWithin_withinOrTop (root output : Path) (origin : Option Path) :
    (withinOrTop root output origin).isWithin root = true := by
  simp only [withinOrTop]
  split
  · split
    next within => exact within
    next => exact isWithin_namesake output root
  · exact isWithin_namesake output root

theorem isAbsolute_of_isWithin {p root : Path} (absolute : root.isAbsolute = true)
    (within : p.isWithin root = true) : p.isAbsolute = true := by
  rw [Path.isWithin, Bool.and_eq_true, decide_eq_true_eq] at within
  rwa [Path.isAbsolute, within.1]

theorem prefix_of_isWithin {p root : Path} (within : p.isWithin root = true) :
    root.parts <+: p.parts := by
  rw [Path.isWithin, Bool.and_eq_true, List.isPrefixOf_iff_prefix] at within
  exact within.2

theorem Planned.isWithin {cwd : Path} {m : Manifest} {root : Path} {move : Path × Path}
    (planned : Planned cwd m root move) : move.2.isWithin root = true := by
  obtain ⟨output, -, origin, -, rfl⟩ := planned
  exact isWithin_withinOrTop _ _ _

theorem Planned.source {cwd : Path} {m : Manifest} {root : Path} {move : Path × Path}
    (planned : Planned cwd m root move) : ∃ key ∈ Manifest.keysOf m.outputs, move.1 = m.absolute key := by
  obtain ⟨output, member, origin, -, rfl⟩ := planned
  exact ⟨_, List.mem_map_of_mem member, rfl⟩

def Mentions (m : Manifest) (key : String) : Prop :=
  key ∈ Manifest.keysOf m.inputs ∨
    ∃ output ∈ m.outputs, key = output.1.text ∨ entryPoint? output.2 = .ok (some key)

def mentioned (m : Manifest) : List String :=
  Manifest.keysOf m.inputs ++
    m.outputs.flatMap fun output => output.1.text :: (entryPoint? output.2).toOption.join.toList

theorem mem_mentioned {m : Manifest} {key : String} : key ∈ mentioned m ↔ Mentions m key := by
  simp only [mentioned, Mentions, List.mem_append, List.mem_flatMap, List.mem_cons, Option.mem_toList]
  refine or_congr_right (exists_congr fun output => and_congr_right fun _ => or_congr_right ?_)
  cases entryPoint? output.2 <;> simp [Except.toOption]

instance {m : Manifest} {holds : String → Prop} [DecidablePred holds] :
    Decidable (∀ key, Mentions m key → holds key) :=
  decidable_of_iff (∀ key ∈ mentioned m, holds key) (by simp only [mem_mentioned])

theorem exists_key_of_origin? {cwd : Path} {m : Manifest} {output : Value × Value} {path : Path}
    (member : output ∈ m.outputs)
    (found : origin? cwd m (m.absolute output.1.text) output.2 = .ok (some path)) :
    ∃ key, Mentions m key ∧ (path = Path.absolute cwd (m.absolute key) ∨
      path = (m.absolute output.1.text).namesake (Path.absolute cwd (m.absolute key)).parent) := by
  rw [origin?] at found
  -- The path is that of an input of the same name, or is beside an entry point.
  split at found
  next named =>
    cases found
    obtain ⟨key, first, rfl⟩ := Option.map_eq_some_iff.1 named
    have input := List.mem_reverse.1 (List.mem_of_find?_eq_some first)
    exact ⟨key, .inl input, .inl rfl⟩
  next =>
    obtain ⟨entry, entryFound, same⟩ := map_eq_ok_iff.1 found
    obtain ⟨key, rfl, rfl⟩ := Option.map_eq_some_iff.1 same
    exact ⟨key, .inr ⟨output, member, .inr entryFound⟩, .inr rfl⟩

theorem mem_parts_absolute {cwd p : Path} {name : String} (member : name ∈ p.parts) :
    name ∈ (Path.absolute cwd p).parts := by
  rw [Path.absolute]
  split
  · exact member
  · exact List.mem_append_right cwd.parts member

theorem exists_below_of_isWithin {p root : Path} {holds : String → Prop}
    (within : p.isWithin root = true) (pHolds : ∀ name ∈ p.parts, holds name) :
    ∃ tail, p.parts = root.parts ++ tail ∧ ∀ name ∈ tail, holds name := by
  obtain ⟨tail, parts⟩ := prefix_of_isWithin within
  refine ⟨tail, parts.symm, fun name member => pHolds name ?_⟩
  rw [← parts]
  exact List.mem_append_right root.parts member

theorem Planned.exists_below {cwd : Path} {m : Manifest} {root : Path} {move : Path × Path}
    {holds : String → Prop} (planned : Planned cwd m root move)
    (keysHold : ∀ key, Mentions m key →
      ∀ name ∈ (Path.absolute cwd (m.absolute key)).parts, holds name) :
    ∃ tail, move.2.parts = root.parts ++ tail ∧ ∀ name ∈ tail, holds name := by
  obtain ⟨output, member, origin, found, rfl⟩ := planned
  have outputHolds : ∀ name ∈ (m.absolute output.1.text).parts.getLast?.toList, holds name := by
    intro name part
    have last := List.mem_of_getLast? (Option.mem_toList.1 part)
    exact keysHold _ (.inr ⟨output, member, .inl rfl⟩) name (mem_parts_absolute last)
  simp only [withinOrTop]
  split
  next path =>
    split
    next within =>
      refine exists_below_of_isWithin within ?_
      obtain ⟨key, mentions, rfl | rfl⟩ := exists_key_of_origin? member found
      · exact keysHold key mentions
      · intro name part
        rcases List.mem_append.1 part with part | part
        · exact keysHold key mentions name (List.dropLast_subset _ part)
        · exact outputHolds name part
    next => exact ⟨_, rfl, outputHolds⟩
  next => exact ⟨_, rfl, outputHolds⟩

theorem Planned.forall_destination {cwd : Path} {m : Manifest} {root : Path} {move : Path × Path}
    {holds : String → Prop} (planned : Planned cwd m root move)
    (rootHolds : ∀ name ∈ root.parts, holds name)
    (keysHold : ∀ key, Mentions m key →
      ∀ name ∈ (Path.absolute cwd (m.absolute key)).parts, holds name) :
    ∀ name ∈ move.2.parts, holds name := by
  obtain ⟨tail, parts, tailHolds⟩ := planned.exists_below keysHold
  intro name member
  rw [parts, List.mem_append] at member
  exact member.elim (rootHolds name) (tailHolds name)

def NamesEntry (metadata : Value) : Prop :=
  ∀ members : Mapping, metadata = .map members → members.get? (.str "entryPoint") = none ∨
    ∃ text, members.get? (.str "entryPoint") = some (.str text)

instance (metadata : Value) : Decidable (NamesEntry metadata) :=
  match metadata with
  | .map members =>
    decidable_of_iff ((match Mapping.get? members (.str "entryPoint") with
      | none | some (.str _) => true
      | some _ => false) = true) (by
        simp only [NamesEntry, Value.map.injEq, forall_eq']
        split <;> simp_all)
  | .null | .bool _ | .int _ | .float _ | .str _ | .bytes _ | .moment _ | .list _ | .tuple _
  | .set _ | .enclosing _ => .isTrue nofun

theorem exists_entryPoint? {metadata : Value} (names : NamesEntry metadata) :
    ∃ entry, entryPoint? metadata = .ok entry := by
  cases metadata with
  | map members =>
    rcases names members rfl with absent | ⟨text, there⟩
    · simp [entryPoint?, Mapping.member, absent, Value.truthy]
    · simp [entryPoint?, Mapping.member, there]
  | _ => exact ⟨none, rfl⟩

theorem exists_origin? {metadata : Value} (names : NamesEntry metadata) (cwd : Path) (m : Manifest)
    (output : Path) : ∃ origin, origin? cwd m output metadata = .ok origin := by
  obtain ⟨entry, found⟩ := exists_entryPoint? names
  rw [origin?]
  split
  next path _ => exact ⟨some path, rfl⟩
  next => exact ⟨_, by rw [found]; rfl⟩

theorem exists_planFrom {cwd : Path} {m : Manifest} {root : Path} {moves : Relocation}
    {outputs : List (Value × Value)} (names : ∀ output ∈ outputs, NamesEntry output.2) :
    ∃ all, planFrom cwd m root moves outputs = .ok all := by
  induction outputs generalizing moves with
  | nil => exact ⟨moves, rfl⟩
  | cons output rest ih =>
    simp only [List.mem_cons, forall_eq_or_imp] at names
    obtain ⟨origin, found⟩ := exists_origin? names.1 cwd m (m.absolute output.1.text)
    rw [planFrom, found]
    exact ih names.2

theorem sources_insert (source destination : Path) (moves : Relocation) :
    (moves.insert source destination).map Prod.fst =
      if source ∈ moves.map Prod.fst then moves.map Prod.fst
      else moves.map Prod.fst ++ [source] := by
  induction moves with
  | nil => simp [Relocation.insert]
  | cons move rest ih =>
    obtain ⟨s, d⟩ := move
    rw [Relocation.insert]
    by_cases same : s = source
    · simp [same]
    · rw [if_neg same, List.map_cons, ih, List.map_cons]
      simp only [List.mem_cons, Ne.symm same, false_or]
      split <;> simp

theorem sources_of_planFrom_of_nodup {cwd : Path} {m : Manifest} {root : Path}
    {moves all : Relocation} {outputs : List (Value × Value)}
    (planned : planFrom cwd m root moves outputs = .ok all)
    (distinct : (moves.map Prod.fst ++ outputs.map (m.absolute ·.1.text)).Nodup) :
    all.map Prod.fst = moves.map Prod.fst ++ outputs.map (m.absolute ·.1.text) := by
  induction outputs generalizing moves with
  | nil =>
    cases planned
    simp
  | cons output rest ih =>
    obtain ⟨origin, -, later⟩ := bind_eq_ok_iff.1 planned
    have new : m.absolute output.1.text ∉ moves.map Prod.fst := by
      intro member
      exact (List.nodup_append.1 distinct).2.2 _ member _ (by simp) rfl
    have sources := sources_insert (m.absolute output.1.text)
      (withinOrTop root (m.absolute output.1.text) origin) moves
    rw [if_neg new] at sources
    rw [ih later (by rw [sources]; simpa using distinct), sources]
    simp

/-- With entry points that are texts, there is a plan: for pairwise different outputs, one move for
each in turn. -/
theorem exists_plan {m : Manifest} (cwd root : Path)
    (names : ∀ output ∈ m.outputs, NamesEntry output.2)
    (distinct : ((Manifest.keysOf m.outputs).map m.absolute).Nodup) :
    ∃ moves, plan cwd m root = .ok moves ∧
      moves.map Prod.fst = (Manifest.keysOf m.outputs).map m.absolute := by
  have keys : (Manifest.keysOf m.outputs).map m.absolute = m.outputs.map (m.absolute ·.1.text) := by
    simp [Manifest.keysOf]
  rw [keys] at distinct ⊢
  obtain ⟨moves, planned⟩ : ∃ moves, plan cwd m root = .ok moves := exists_planFrom names
  exact ⟨moves, planned, sources_of_planFrom_of_nodup planned (by simpa using distinct)⟩

theorem sources_of_planFrom {cwd : Path} {m : Manifest} {root : Path} {moves all : Relocation}
    {outputs : List (Value × Value)} (planned : planFrom cwd m root moves outputs = .ok all)
    (distinct : (moves.map Prod.fst).Nodup) :
    (all.map Prod.fst).Nodup ∧ moves.map Prod.fst ⊆ all.map Prod.fst ∧
      ∀ output ∈ outputs, m.absolute output.1.text ∈ all.map Prod.fst := by
  induction outputs generalizing moves with
  | nil =>
    cases planned
    exact ⟨distinct, List.Subset.refl _, by simp⟩
  | cons output rest ih =>
    obtain ⟨origin, -, later⟩ := bind_eq_ok_iff.1 planned
    have sources := sources_insert (m.absolute output.1.text)
      (withinOrTop root (m.absolute output.1.text) origin) moves
    have distinct' : ((moves.insert (m.absolute output.1.text)
        (withinOrTop root (m.absolute output.1.text) origin)).map Prod.fst).Nodup := by
      -- Another key for the same output takes the place of the one before.
      rw [sources]
      split
      · exact distinct
      next new =>
        refine List.nodup_append.2 ⟨distinct, by simp, ?_⟩
        rintro p there q last rfl
        exact new (List.mem_singleton.1 last ▸ there)
    obtain ⟨nodup, before, others⟩ := ih later distinct'
    rw [sources] at before
    have kept : m.absolute output.1.text ∈ all.map Prod.fst ∧
        moves.map Prod.fst ⊆ all.map Prod.fst := by
      split at before
      next there => exact ⟨before there, before⟩
      next => exact ⟨before (by simp), List.append_subset.1 before |>.1⟩
    refine ⟨nodup, kept.2, ?_⟩
    simp only [List.mem_cons, forall_eq_or_imp]
    exact ⟨kept.1, others⟩

theorem exists_plan_of_names {m : Manifest} (cwd root : Path)
    (names : ∀ output ∈ m.outputs, NamesEntry output.2) :
    ∃ moves, plan cwd m root = .ok moves ∧ (moves.map Prod.fst).Nodup ∧
      ∀ key ∈ Manifest.keysOf m.outputs, m.absolute key ∈ moves.map Prod.fst := by
  obtain ⟨moves, planned⟩ : ∃ moves, plan cwd m root = .ok moves := exists_planFrom names
  obtain ⟨nodup, -, sources⟩ := sources_of_planFrom planned (by simp)
  refine ⟨moves, planned, nodup, fun key member => ?_⟩
  obtain ⟨output, there, rfl⟩ := List.mem_map.1 member
  exact sources output there

end BuildPipeline.BuildTree
