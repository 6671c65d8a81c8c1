import BuildPipeline.Proofs.BuildTree.Vacating

set_option autoImplicit false

namespace BuildPipeline.BuildTree

open BuildPipeline.Bundler (Manifest)
open FileSystem Sequencing

theorem pairwise_prunable_under (root : Path) (names : List String) :
    (prunable (root.under names) root).Pairwise fun dir above =>
      above.parts <+: dir.parts ∧ above ≠ dir := by
  induction names using List.reverseRecOn with
  | nil =>
    rw [prunable_under_nil]
    exact .nil
  | append_singleton names name ih =>
    rw [prunable_under]
    split
    · exact .nil
    · refine .cons (fun above member => ?_) ih
      obtain ⟨-, -, part, other⟩ := mem_prunable_under_iff.1 member
      exact ⟨part, fun same => other (congrArg Path.parts same)⟩

structure Reports (root p : Path) (before after : FileSystem) (removed : List Path) : Prop where
  listed : ∀ dir, dir ∈ removed ↔ IsDeletable before p ∧ dir.anchor = root.anchor ∧
    IsBetween root.parts p.parts dir.parts ∧ after.get? dir.parts = none
  upwards : removed.Pairwise fun dir above => above.parts <+: dir.parts ∧ above ≠ dir
  gone : ∀ l, before.get? l = some .directory →
    (after.get? l = none ↔ ∃ dir ∈ removed, dir.parts = l)

theorem reports_of_not_isDeletable {root p : Path} {fs : FileSystem} (kept : ¬ IsDeletable fs p) :
    Reports root p fs fs [] where
  listed dir := by simp [kept]
  upwards := .nil
  gone l directory := by simp [directory]

theorem reports_of_isDeletable {root p : Path} {before after : FileSystem}
    (within : p.isWithin root = true) (deletable : IsDeletable before p)
    (loses : Loses (fun l => l = p.parts ∨ Emptied before root.parts p.parts l) before after) :
    Reports root p before after (prunedOf after p root) := by
  obtain ⟨names, rfl⟩ := exists_under_of_isWithin within
  have listed (dir : Path) : dir ∈ prunedOf after (root.under names) root ↔
      IsDeletable before (root.under names) ∧ dir.anchor = root.anchor ∧
        IsBetween root.parts (root.under names).parts dir.parts ∧ after.get? dir.parts = none := by
    rw [prunedOf, List.mem_filter, mem_prunable_under_iff, Option.isNone_iff_eq_none, and_assoc,
      and_iff_right deletable]
    rfl
  refine ⟨listed, (pairwise_prunable_under root names).filter _, fun l directory => ?_⟩
  constructor
  · intro missing
    have lost :
        l = (root.under names).parts ∨ Emptied before root.parts (root.under names).parts l :=
      by_contra fun stays => by simp [← loses.kept l stays, missing] at directory
    rcases lost with rfl | emptied
    · have file := (deletable.2 _ List.prefix_rfl (by simp [directory])).2
      simp [directory, Entry.isFile] at file
    · exact ⟨⟨root.anchor, l⟩, (listed _).2 ⟨deletable, rfl, emptied.1, missing⟩, rfl⟩
  · rintro ⟨dir, member, rfl⟩
    exact ((listed dir).1 member).2.2.2

theorem unlinkPrune_absolute (w : World) (p root : Path) :
    unlinkPrune w (Path.absolute ⟨.root, w.files.cwd⟩ p) (Path.absolute ⟨.root, w.files.cwd⟩ root) =
      unlinkPrune w p root := by
  have twice (q : Path) :
      Path.absolute ⟨.root, w.files.cwd⟩ (Path.absolute ⟨.root, w.files.cwd⟩ q) =
        Path.absolute ⟨.root, w.files.cwd⟩ q :=
    Path.absolute_of_isAbsolute (Path.isAbsolute_absolute rfl q) _
  simp only [unlinkPrune, twice]

theorem exists_reports {w : World} {p root : Path} (tree : w.files.IsTree)
    (absolute : root.isAbsolute = true) (plain : p.IsPlain) (within : p.isWithin root = true)
    (free : IsNullFree p) :
    ∃ after removed, unlinkPrune w p root = .ok (after, removed) ∧
      Reports root p w.files after.files removed := by
  by_cases deletable : IsDeletable w.files p
  · obtain ⟨after, removed, done, loses, rfl⟩ :=
      unlinkPrune_of_isDeletable tree absolute plain within deletable
    exact ⟨after, _, done, reports_of_isDeletable within deletable loses⟩
  · obtain ⟨told, done, same⟩ :=
      unlinkPrune_of_not_isDeletable tree absolute plain within free deletable
    refine ⟨told, [], done, ?_⟩
    rw [same]
    exact reports_of_not_isDeletable deletable

theorem exists_split_cons {α : Type} {a b : α} {rest : List α} {holds : List α → Prop} :
    (∃ first later, a :: rest = first ++ b :: later ∧ holds first) ↔
      b = a ∧ holds [] ∨ ∃ first later, rest = first ++ b :: later ∧ holds (a :: first) := by
  constructor
  · rintro ⟨first, later, same, all⟩
    rcases List.cons_eq_append_iff.1 same with ⟨rfl, here⟩ | ⟨first, rfl, there⟩
    · exact .inl ⟨(List.cons.inj here).1, all⟩
    · exact .inr ⟨first, later, there, all⟩
  · rintro (⟨rfl, all⟩ | ⟨first, later, rfl, all⟩)
    · exact ⟨[], rest, rfl, all⟩
    · exact ⟨a :: first, later, rfl, all⟩

section

variable {fs : FileSystem} {top p : Path} {before inputs : List Path}

theorem mem_goneInputs_iff : p ∈ goneInputs fs top before inputs ↔
    p.isWithin top = true ∧ ∃ first later, inputs = first ++ p :: later ∧
      Vacates fs top (before ++ first ++ [p]) p.parts := by
  induction inputs generalizing before with
  | nil => simp [goneInputs]
  | cons input rest ih =>
    have later : p ∈ goneInputs fs top (before ++ [input]) rest ↔ p.isWithin top = true ∧
        ∃ first later, rest = first ++ p :: later ∧
          Vacates fs top (before ++ input :: first ++ [p]) p.parts := by
      simpa using @ih (before ++ [input])
    rw [exists_split_cons, and_or_left, ← later, List.append_nil, goneInputs]
    split
    next both =>
      rw [List.mem_cons]
      refine or_congr_left ⟨?_, fun same => same.2.1⟩
      rintro rfl
      exact ⟨both.1, rfl, both.2⟩
    next neither =>
      rw [or_iff_right]
      rintro ⟨within, rfl, vacates⟩
      exact neither ⟨within, vacates⟩

theorem mem_goneInputs_of_missing (tree : fs.IsTree) (member : p ∈ inputs)
    (within : p.isWithin top = true) (missing : fs.get? p.parts = none) :
    p ∈ goneInputs fs top before inputs := by
  obtain ⟨first, later, same⟩ := List.append_of_mem member
  exact mem_goneInputs_iff.2 ⟨within, first, later, same, vacates_of_missing tree missing⟩

theorem vacates_file_iff {content : List UInt8} (tree : fs.IsTree) (within : p.isWithin top = true)
    (file : fs.get? p.parts = some (.file content)) :
    Vacates fs top inputs p.parts ↔ p ∈ inputs ∧ Vacates fs top [p] p.parts := by
  constructor
  · intro vacates
    obtain ⟨q, member, ⟨within', given⟩, ⟨part, crosses⟩, inside⟩ :=
      vacates p.parts List.prefix_rfl (by simp [file])
    have parts : p.parts = q.parts := by
      rcases crosses.2 with ⟨same, -⟩ | ⟨-, directory⟩
      · exact same
      · simp [file] at directory
    -- Below one root, a place has one path.
    have same : q = p := by
      obtain ⟨names, rfl⟩ := exists_under_of_isWithin within
      obtain ⟨names', rfl⟩ := exists_under_of_isWithin within'
      simpa [Path.under] using parts.symm
    subst same
    refine ⟨member, fun m below there => ?_⟩
    by_cases last : m = q.parts
    · rw [last]
      exact ⟨q, List.mem_singleton_self q, ⟨within', given⟩, ⟨part, crosses⟩, inside⟩
    · exact absurd (tree.none_below (by simp [file]) below last) there
  · rintro ⟨member, vacates⟩
    exact vacates.mono (by simpa using member)

theorem mem_goneInputs_of_file {content : List UInt8} (tree : fs.IsTree) (member : p ∈ inputs)
    (within : p.isWithin top = true) (file : fs.get? p.parts = some (.file content)) :
    p ∈ goneInputs fs top [] inputs ↔ Vacates fs top inputs p.parts := by
  rw [mem_goneInputs_iff, and_iff_right within, vacates_file_iff tree within file,
    and_iff_right member]
  constructor
  · rintro ⟨first, later, -, vacates⟩
    exact ((vacates_file_iff tree within file).1 vacates).2
  · intro vacates
    obtain ⟨first, later, same⟩ := List.append_of_mem member
    exact ⟨first, later, same, (vacates_file_iff tree within file).2 ⟨by simp, vacates⟩⟩

end

theorem deleted_of_reconcile {w : World} {m : Manifest} {root : Path} {transient : List Path}
    {report : Report} (done : (reconcile w m root transient).2 = .ok report) :
    (deleteInputsOf (Path.absolute ⟨.root, w.files.cwd⟩ root) w m).2 = .ok report.deleted := by
  rw [deleteInputsOf, inputPaths]
  simp only [reconcile] at done
  split at done
  · cases done
  split at done
  · cases done
  next gone deleted =>
    rw [deleted]
    split at done
    · cases done
    split at done
    · cases done
    · rw [← Except.ok.inj done]

/-- The directories told to be removed with a path are those between it and the root that are
missing then, and the inputs told to be deleted those that are missing after their own deletion. An
input that was a file is told just when it has gone, one that was missing always. -/
theorem deletions_report (w : World) (root : Path) (tree : w.files.IsTree) :
    let here := Path.absolute ⟨.root, w.files.cwd⟩
    (∀ p, (here p).IsPlain → (here p).isWithin (here root) = true → IsNullFree (here p) →
      ∃ after removed, unlinkPrune w p root = .ok (after, removed) ∧
        Reports (here root) (here p) w.files after.files removed) ∧
    ∀ m transient report,
      (∀ input ∈ inputPaths ⟨.root, w.files.cwd⟩ m, input.isWithin (here root) = true →
        input.IsPlain) →
      (reconcile w m root transient).2 = .ok report →
      report.deleted = goneInputs w.files (here root) [] (inputPaths ⟨.root, w.files.cwd⟩ m) ∧
      ∀ input ∈ inputPaths ⟨.root, w.files.cwd⟩ m, input.isWithin (here root) = true →
        (input ∈ report.deleted →
          (deleteInputsOf (here root) w m).1.files.get? input.parts = none) ∧
        (w.files.get? input.parts = none → input ∈ report.deleted) ∧
        ∀ content, w.files.get? input.parts = some (.file content) →
          ((deleteInputsOf (here root) w m).1.files.get? input.parts = none →
            input ∈ report.deleted) := by
  intro here
  have absolute : (here root).isAbsolute = true := Path.isAbsolute_absolute rfl root
  constructor
  · intro p plain within free
    rw [← unlinkPrune_absolute w p root]
    exact exists_reports tree absolute plain within free
  · intro m transient report plain done
    have deleted := deleted_of_reconcile done
    obtain ⟨loses, told⟩ := deleteInputs_removes tree absolute plain (loses_vacates_nil tree)
      (Prod.ext rfl deleted)
    refine ⟨told, fun input member within => ?_⟩
    rw [told, deleteInputsOf, get?_eq_none_iff_vacates tree loses, List.nil_append]
    refine ⟨fun gone => ?_, mem_goneInputs_of_missing tree member within, fun content file =>
      (mem_goneInputs_of_file tree member within file).2⟩
    obtain ⟨-, first, later, same, vacates⟩ := mem_goneInputs_iff.1 gone
    rw [same, List.append_cons]
    exact vacates.mono fun p => List.mem_append_left later

/-- A directory and an input that never were are told to be gone, and one that goes is not told. -/
theorem deletions_report_orchard :
    (∃ after removed, unlinkPrune orchard ⟨.root, ["w", "build", "gone", "x.js"]⟩
        ⟨.root, ["w", "build"]⟩ = .ok (after, removed) ∧
      ⟨.root, ["w", "build", "gone"]⟩ ∈ removed) ∧
    ∃ report, (reconcile orchard (picks ["build/gone.js", "build/d", "build/d/f.js"])
        ⟨.root, ["w", "build"]⟩ []).2 = .ok report ∧
      report.deleted =
        [⟨.root, ["w", "build", "gone.js"]⟩, ⟨.root, ["w", "build", "d", "f.js"]⟩] := by
  have tree : orchard.files.IsTree := isTree_of_entries (by decide)
  obtain ⟨paths, inputs⟩ := deletions_report orchard ⟨.root, ["w", "build"]⟩ tree
  constructor
  · obtain ⟨after, removed, done, reports⟩ := paths ⟨.root, ["w", "build", "gone", "x.js"]⟩
      (by decide) (by decide) (by decide)
    have deletable : IsDeletable orchard.files ⟨.root, ["w", "build", "gone", "x.js"]⟩ :=
      (isDeletable_iff_of_nameable tree (by decide +kernel)).2 (.inr ⟨by decide, by decide⟩)
    refine ⟨after, removed, done, (reports.listed _).2 ⟨deletable, rfl, by decide, ?_⟩⟩
    exact (fewer_unlinkPrune done).missing (by decide)
  · have done : (reconcile orchard (picks ["build/gone.js", "build/d", "build/d/f.js"])
        ⟨.root, ["w", "build"]⟩ []).2 = .ok ⟨[], [⟨.root, ["w", "build", "gone.js"]⟩,
          ⟨.root, ["w", "build", "d", "f.js"]⟩], []⟩ := by
      decide +kernel
    have told := (inputs _ _ _ (by decide +kernel) done).1
    exact ⟨_, done, told.trans (by decide +kernel)⟩

end BuildPipeline.BuildTree
