import BuildPipeline.Proofs.BuildTree.Relocation

set_option autoImplicit false

namespace BuildPipeline.BuildTree

open BuildPipeline.Bundler (Manifest)
open Sequencing

theorem mem_insert_of_ne {source other destination d : Path} (ne : other ≠ source)
    (moves : Relocation) : (other, d) ∈ moves.insert source destination ↔ (other, d) ∈ moves := by
  induction moves with
  | nil => simp [Relocation.insert, ne]
  | cons move rest ih =>
    obtain ⟨s, d'⟩ := move
    rw [Relocation.insert]
    split
    next same => simp [same, ne]
    next => simp [ih]

theorem mem_insert_self_iff {source destination d : Path} {moves : Relocation}
    (distinct : (moves.map Prod.fst).Nodup) :
    (source, d) ∈ moves.insert source destination ↔ d = destination := by
  induction moves with
  | nil => simp [Relocation.insert]
  | cons move rest ih =>
    obtain ⟨s, d'⟩ := move
    simp only [List.map_cons, List.nodup_cons] at distinct
    rw [Relocation.insert]
    split
    next same =>
      subst same
      have absent : (s, d) ∉ rest := fun member => distinct.1 (List.mem_map_of_mem member)
      simp [absent]
    next other => simp [ih distinct.2, Ne.symm other]

theorem planFrom_append {cwd : Path} {m : Manifest} {root : Path} {moves : Relocation}
    (outputs later : List (Value × Value)) :
    planFrom cwd m root moves (outputs ++ later) =
      planFrom cwd m root moves outputs >>= fun moves => planFrom cwd m root moves later := by
  induction outputs generalizing moves with
  | nil => rfl
  | cons output rest ih =>
    obtain ⟨key, metadata⟩ := output
    rw [List.cons_append, planFrom, planFrom]
    cases origin? cwd m (m.absolute key.text) metadata with
    | error fault => rfl
    | ok origin => exact ih

theorem mem_planFrom_of_ne {cwd : Path} {m : Manifest} {root source d : Path} {moves all : Relocation}
    {outputs : List (Value × Value)} (others : ∀ output ∈ outputs, m.absolute output.1.text ≠ source)
    (planned : planFrom cwd m root moves outputs = .ok all) :
    (source, d) ∈ all ↔ (source, d) ∈ moves := by
  induction outputs generalizing moves with
  | nil =>
    cases planned
    rfl
  | cons output rest ih =>
    simp only [List.mem_cons, forall_eq_or_imp] at others
    obtain ⟨origin, -, later⟩ := bind_eq_ok_iff.1 planned
    rw [ih others.2 later, mem_insert_of_ne others.1.symm]

theorem mem_plan_iff (cwd root : Path) {m : Manifest} {before after : List (Value × Value)}
    {key metadata : Value} (names : ∀ output ∈ m.outputs, NamesEntry output.2)
    (listed : m.outputs = before ++ (key, metadata) :: after)
    (last : ∀ output ∈ after, m.absolute output.1.text ≠ m.absolute key.text) :
    ∃ moves origin, plan cwd m root = .ok moves ∧
      origin? cwd m (m.absolute key.text) metadata = .ok origin ∧
      ∀ d, (m.absolute key.text, d) ∈ moves ↔
        d = withinOrTop (Path.absolute cwd root) (m.absolute key.text) origin := by
  obtain ⟨moves, planned⟩ :
      ∃ moves, plan cwd m root = .ok moves := exists_planFrom names
  have parted := planned
  rw [plan, listed, planFrom_append] at parted
  obtain ⟨first, earlier, rest⟩ := bind_eq_ok_iff.1 parted
  obtain ⟨origin, found, later⟩ := bind_eq_ok_iff.1 rest
  have distinct : (first.map Prod.fst).Nodup := (sources_of_planFrom earlier (by simp)).1
  refine ⟨moves, origin, planned, found, fun d => ?_⟩
  rw [mem_planFrom_of_ne last later, mem_insert_self_iff distinct]

theorem inputNamed?_eq_none {cwd : Path} {m : Manifest} {name : String}
    (none : ∀ key ∈ Manifest.keysOf m.inputs, (Path.ofText key).name ≠ name) :
    inputNamed? cwd m name = .none := by
  rw [inputNamed?, Option.map_eq_none_iff, List.find?_eq_none]
  simpa using none

theorem inputNamed?_of_last {cwd : Path} {m : Manifest} {name key : String} {before after : List String}
    (listed : Manifest.keysOf m.inputs = before ++ key :: after) (named : (Path.ofText key).name = name)
    (last : ∀ other ∈ after, (Path.ofText other).name ≠ name) :
    inputNamed? cwd m name = some (Path.absolute cwd (m.absolute key)) := by
  have found : (Manifest.keysOf m.inputs).reverse.find? (fun key => (Path.ofText key).name = name) =
      some key := by
    rw [List.find?_eq_some_iff_append]
    exact ⟨by simpa using named, after.reverse, before.reverse, by simp [listed], by simpa using last⟩
  rw [inputNamed?, found]
  rfl

theorem parent_namesake {p : Path} (named : p.parts ≠ []) (dir : Path) :
    (p.namesake dir).parent = dir := by
  rw [Path.namesake, Path.parent, List.getLast?_eq_some_getLast named]
  simp

theorem isWithin_parent {p root : Path} (within : p.isWithin root = true) (below : p ≠ root) :
    p.parent.isWithin root = true := by
  simp only [Path.isWithin, Bool.and_eq_true, decide_eq_true_eq, List.isPrefixOf_iff_prefix] at within ⊢
  obtain ⟨anchor, tail, parts⟩ := within
  have nonempty : tail ≠ [] := by
    rintro rfl
    refine below ?_
    cases p
    cases root
    simp_all
  refine ⟨anchor, ?_⟩
  rw [Path.parent, ← parts, List.dropLast_append_of_ne_nil nonempty]
  exact List.prefix_append _ _

theorem isWithin_namesake_of_isWithin {dir root : Path} (within : dir.isWithin root = true) (p : Path) :
    (p.namesake dir).isWithin root = true := by
  simp only [Path.isWithin, Bool.and_eq_true, decide_eq_true_eq, List.isPrefixOf_iff_prefix] at within ⊢
  exact ⟨within.1, within.2.trans (List.prefix_append _ _)⟩

theorem origin?_of_entry {cwd : Path} {m : Manifest} {output : Path} {metadata : Mapping}
    {entry : String} (unnamed : inputNamed? cwd m output.name = none)
    (entered : metadata.get? (.str "entryPoint") = some (.str entry)) (nonempty : entry ≠ "") :
    origin? cwd m output (.map metadata) =
      .ok (some (output.namesake (Path.absolute cwd (m.absolute entry)).parent)) := by
  have found : entryPoint? (.map metadata) = .ok (some entry) := by
    simp [entryPoint?, Mapping.member, entered, nonempty]
  rw [origin?, unnamed, found]
  rfl

/-- An output with an entry point below the root goes to one place. That is in the directory of the
entry point if no input has the output's name; else the last input that has it decides. -/
theorem plan_returns_entry (cwd root : Path) (m : Manifest) {before after : List (Value × Value)}
    {key : Value} {metadata : Mapping} {entry : String}
    (names : ∀ output ∈ m.outputs, NamesEntry output.2)
    (listed : m.outputs = before ++ (key, .map metadata) :: after)
    (last : ∀ output ∈ after, m.absolute output.1.text ≠ m.absolute key.text)
    (named : (m.absolute key.text).parts ≠ [])
    (entered : metadata.get? (.str "entryPoint") = some (.str entry)) (nonempty : entry ≠ "")
    (within : (Path.absolute cwd (m.absolute entry)).isWithin (Path.absolute cwd root) = true)
    (below : Path.absolute cwd (m.absolute entry) ≠ Path.absolute cwd root) :
    ∃ moves destination, plan cwd m root = .ok moves ∧
      (∀ d, (m.absolute key.text, d) ∈ moves ↔ d = destination) ∧
      ((∀ input ∈ Manifest.keysOf m.inputs, (Path.ofText input).name ≠ (m.absolute key.text).name) →
        destination.parent = (Path.absolute cwd (m.absolute entry)).parent) ∧
      ∀ first input later, Manifest.keysOf m.inputs = first ++ input :: later →
        (Path.ofText input).name = (m.absolute key.text).name →
        (∀ other ∈ later, (Path.ofText other).name ≠ (m.absolute key.text).name) →
        (destination.parent = (Path.absolute cwd (m.absolute entry)).parent ↔
          if (Path.absolute cwd (m.absolute input)).isWithin (Path.absolute cwd root) then
            (Path.absolute cwd (m.absolute input)).parent =
              (Path.absolute cwd (m.absolute entry)).parent
          else Path.absolute cwd root = (Path.absolute cwd (m.absolute entry)).parent) := by
  obtain ⟨moves, origin, planned, found, goes⟩ := mem_plan_iff cwd root names listed last
  refine ⟨moves, _, planned, goes, fun others => ?_, fun first input later inputs same others => ?_⟩
  · rw [origin?_of_entry (inputNamed?_eq_none others) entered nonempty] at found
    cases found
    rw [withinOrTop, if_pos (isWithin_namesake_of_isWithin (isWithin_parent within below) _),
      parent_namesake named]
  · rw [origin?, inputNamed?_of_last inputs same others] at found
    cases found
    rw [withinOrTop]
    split
    · rfl
    · rw [parent_namesake named]

def entryAt (path : String) : Value :=
  .map [(.str "entryPoint", .str path)]

def twoMains : Manifest where
  inputs := [(.str "lib/main.js", .map []), (.str "build/app/main.js", .map [])]
  outputs := [(.str "out/main.js", entryAt "build/app/main.js")]
  workingDir := ⟨.root, ["w"]⟩

theorem plan_returns_entry_twoMains :
    ∃ moves destination, plan ⟨.root, ["w"]⟩ twoMains ⟨.relative, ["build"]⟩ = .ok moves ∧
      (∀ d, (⟨.root, ["w", "out", "main.js"]⟩, d) ∈ moves ↔ d = destination) ∧
      destination.parent = ⟨.root, ["w", "build", "app"]⟩ := by
  have listed : twoMains.outputs =
      [] ++ (.str "out/main.js", .map [(.str "entryPoint", .str "build/app/main.js")]) :: [] := rfl
  obtain ⟨moves, destination, planned, goes, -, returns⟩ :=
    plan_returns_entry ⟨.root, ["w"]⟩ ⟨.relative, ["build"]⟩ twoMains (by decide +kernel) listed
      (by simp) (by decide +kernel) rfl (by decide) (by decide +kernel) (by decide +kernel)
  have back := returns [_] "build/app/main.js" [] rfl (by decide +kernel) (by simp)
  exact ⟨moves, destination, planned, goes, back.2 (by decide +kernel)⟩

/-- The entry point does not decide where another input has the output's name, nor where the output
is named again, has no name or has an entry point that is an empty text. -/
theorem plan_not_returns_entry :
    plan ⟨.root, ["w"]⟩
        { inputs := [(.str "build/a/main.js", .map []), (.str "build/b/main.js", .map [])]
          outputs := [(.str "out/main.js", entryAt "build/a/main.js")]
          workingDir := ⟨.root, ["w"]⟩ } ⟨.root, ["w", "build"]⟩ =
      .ok [(⟨.root, ["w", "out", "main.js"]⟩, ⟨.root, ["w", "build", "b", "main.js"]⟩)] ∧
    plan ⟨.root, ["w"]⟩
        { inputs := [(.str "build/a/main.js", .map [])]
          outputs := [(.str "out/x.js", entryAt "build/a/main.js"), (.str "./out/x.js", .map [])]
          workingDir := ⟨.root, ["w"]⟩ } ⟨.root, ["w", "build"]⟩ =
      .ok [(⟨.root, ["w", "out", "x.js"]⟩, ⟨.root, ["w", "build", "x.js"]⟩)] ∧
    plan ⟨.root, ["w"]⟩
        { inputs := [(.str "build/a/main.js", .map [])]
          outputs := [(.str "/", entryAt "build/a/main.js")]
          workingDir := ⟨.root, ["w"]⟩ } ⟨.root, ["w", "build"]⟩ =
      .ok [(⟨.root, []⟩, ⟨.root, ["w", "build", "a"]⟩)] ∧
    plan ⟨.root, ["w"]⟩
        { inputs := [(.str "", .map [])]
          outputs := [(.str "x.js", entryAt "")]
          workingDir := ⟨.root, ["w", "build", "u", "v"]⟩ } ⟨.root, ["w", "build"]⟩ =
      .ok [(⟨.root, ["w", "build", "u", "v", "x.js"]⟩, ⟨.root, ["w", "build", "x.js"]⟩)] :=
  ⟨rfl, rfl, rfl, rfl⟩

end BuildPipeline.BuildTree
