import BuildPipeline.Proofs.FileSystem.Descending
import Mathlib.Data.List.Infix

set_option autoImplicit false

namespace BuildPipeline.FileSystem

variable {fs : FileSystem} {top : Path} {region : Location} {names : List String}

/-- What is asked or changed at a path below a directory is decided by where its names lead from
there. -/
structure Below (fs : FileSystem) (top : Path) (region : Location) (names : List String) : Prop where
  leads : Leads fs top region
  entryNames : ∀ name ∈ names, IsEntryName name
  given : IsGiven (top.under names)

theorem Below.of_append {more : List String} (below : Below fs top region (names ++ more)) :
    Below fs top region names where
  leads := below.leads
  entryNames name member := below.entryNames name (List.mem_append_left more member)
  given := below.given.of_append below.leads.absolute

theorem Below.of_directories {after : FileSystem} (below : Below fs top region names)
    (tree : after.IsTree) (kept : ∀ l, fs.get? l = some .directory → after.get? l = some .directory) :
    Below after top region names :=
  { below with leads := below.leads.of_directories tree kept }

theorem Below.spot_taken (below : Below fs top region names) {e : Entry}
    (there : fs.get? (region ++ names) = some e) (last : Bool) :
    fs.spot last (top.under names) = .ok (.taken (region ++ names) e) := by
  have found := descend_taken below.leads.tree below.leads.directory below.entryNames there
  rw [below.leads.spot below.given, found]
  rfl

theorem Below.spot_free {name : String} (below : Below fs top region (names ++ [name]))
    (parent : fs.get? (region ++ names) = some .directory)
    (missing : fs.get? (region ++ (names ++ [name])) = none) (last : Bool) :
    fs.spot last (top.under (names ++ [name])) = .ok (.free (region ++ (names ++ [name]))) := by
  have found := descend_free below.leads.tree below.leads.directory below.of_append.entryNames
    (below.entryNames name (by simp)) parent (by simpa using missing)
  rw [below.leads.spot below.given, found, List.append_assoc]
  rfl

def HasWay (fs : FileSystem) (region : Location) (names : List String) : Prop :=
  ∀ first content, first <+: names → fs.get? (region ++ first) ≠ some (.file content)

instance (fs : FileSystem) (region : Location) (names : List String) :
    Decidable (HasWay fs region names) :=
  decidable_of_iff
    (∀ first ∈ names.inits, (fs.get? (region ++ first)).any Entry.isFile = false) <| by
    refine forall_congr' fun first => ?_
    rw [List.mem_inits, forall_comm]
    refine forall_congr' fun _ => ?_
    cases fs.get? (region ++ first) with
    | none => simp
    | some e => cases e <;> simp [Entry.isFile]

theorem HasWay.of_append {more : List String} (way : HasWay fs region (names ++ more)) :
    HasWay fs region names :=
  fun first content part => way first content (part.trans (List.prefix_append _ _))

theorem Below.spot_missing {name : String} (below : Below fs top region (names ++ [name]))
    (way : HasWay fs region names) (missing : fs.get? (region ++ names) = none) (last : Bool) :
    fs.spot last (top.under (names ++ [name])) =
      .error (.system ⟨.missing, (top.under (names ++ [name])).text, none⟩) := by
  have found := descend_missing name below.leads.tree below.leads.directory
    below.of_append.entryNames way missing
  rw [below.leads.spot below.given, found]
  rfl

theorem attemptDirectory_of_spot {p : Path} {place : Location}
    (spot : ∀ last, fs.spot last p = .ok (.taken place .directory)) :
    fs.attemptDirectory p = (fs, .ok ()) := by
  have made : fs.makeDirectory p = .error (.system ⟨.alreadyThere, p.text, none⟩) := by
    rw [makeDirectory, spot]
    rfl
  have directory : fs.isDirectory p = .ok true := by
    rw [isDirectory, leadsTo, entry, spot]
    rfl
  simp [attemptDirectory, makeDirectoryIfNew, made, directory]

theorem Below.attemptDirectory_there (below : Below fs top region names)
    (there : fs.get? (region ++ names) = some .directory) :
    fs.attemptDirectory (top.under names) = (fs, .ok ()) :=
  attemptDirectory_of_spot (below.spot_taken there)

theorem Below.attemptDirectory_free {name : String} (below : Below fs top region (names ++ [name]))
    (parent : fs.get? (region ++ names) = some .directory)
    (missing : fs.get? (region ++ (names ++ [name])) = none) :
    fs.attemptDirectory (top.under (names ++ [name])) =
      (fs.set (region ++ (names ++ [name])) .directory, .ok ()) := by
  have made : fs.makeDirectory (top.under (names ++ [name])) =
      .ok (fs.set (region ++ (names ++ [name])) .directory) := by
    rw [makeDirectory, below.spot_free parent missing]
    rfl
  simp [attemptDirectory, makeDirectoryIfNew, made]

theorem Below.attemptDirectory_missing {name : String}
    (below : Below fs top region (names ++ [name])) (way : HasWay fs region names)
    (missing : fs.get? (region ++ names) = none) :
    fs.attemptDirectory (top.under (names ++ [name])) =
      (fs, .error (.system ⟨.missing, (top.under (names ++ [name])).text, none⟩)) := by
  have made : fs.makeDirectory (top.under (names ++ [name])) =
      .error (.system ⟨.missing, (top.under (names ++ [name])).text, none⟩) := by
    rw [makeDirectory, below.spot_missing way missing]
    rfl
  simp [attemptDirectory, makeDirectoryIfNew, made]

theorem makeDirectoriesFrom_of_attempt {anchor : Anchor} {after : FileSystem}
    {backward : List String}
    (done : fs.attemptDirectory ⟨anchor, backward.reverse⟩ = (after, .ok ())) :
    makeDirectoriesFrom anchor fs backward = (after, .ok ()) := by
  cases backward with
  | nil => exact done
  | cons name above => rw [makeDirectoriesFrom, done]

theorem leads_anchor {p : Path} (tree : fs.IsTree) (absolute : p.isAbsolute = true) :
    Leads fs ⟨p.anchor, []⟩ [] :=
  ⟨tree, absolute, rfl⟩

theorem makeDirectories_parent {p : Path} {place : Location} {e : Entry} (tree : fs.IsTree)
    (absolute : p.isAbsolute = true) (free : IsNullFree p)
    (spot : fs.spot true p = .ok (.taken place e)) :
    fs.makeDirectories p.parent = (fs, .ok ()) := by
  obtain ⟨anchor, parts⟩ := p
  have leads := leads_anchor tree absolute
  have located := locate_of_spot spot
  rw [locate_eq_descend tree] at located
  split at located
  · cases located
  next short =>
    have given : IsGiven (Path.under ⟨anchor, []⟩ parts) := ⟨free, Nat.not_lt.1 short⟩
    apply makeDirectoriesFrom_of_attempt
    rw [List.reverse_reverse]
    cases parts using List.reverseRecOn with
    | nil => exact attemptDirectory_of_spot fun last => leads.spot given last
    | append_singleton names name =>
      rw [start, if_pos absolute] at located
      obtain ⟨above, found⟩ := descend_parent located
      have parent : Path.parent ⟨anchor, names ++ [name]⟩ = Path.under ⟨anchor, []⟩ names := by
        simp [Path.parent, Path.under]
      have spot (last : Bool) : fs.spot last (Path.parent ⟨anchor, names ++ [name]⟩) =
          .ok (.taken above .directory) := by
        rw [parent, leads.spot (given.of_append absolute), found]
        rfl
      exact attemptDirectory_of_spot spot

structure Paved (region : Location) (names : List String) (before after : FileSystem) : Prop where
  cwd : after.cwd = before.cwd
  tree : after.IsTree
  places : ∀ l, after.get? l =
    if region <+: l ∧ l <+: region ++ names then some .directory else before.get? l

theorem Paved.refl (tree : fs.IsTree)
    (there : fs.get? (region ++ names) = some .directory) : Paved region names fs fs := by
  refine ⟨rfl, tree, fun l => ?_⟩
  split
  next on =>
    obtain ⟨-, rest, same⟩ := on
    by_cases last : rest = []
    · rw [last, List.append_nil] at same
      rw [same, there]
    · exact tree.directory_of_append last (by simp [same, there])
  next => rfl

theorem Paved.concat {after : FileSystem} {name : String} (paved : Paved region names fs after)
    (missing : after.get? (region ++ (names ++ [name])) = none) :
    Paved region (names ++ [name]) fs (after.set (region ++ (names ++ [name])) .directory) := by
  have nonempty : region ++ (names ++ [name]) ≠ [] := by simp
  have parent : after.get? (region ++ (names ++ [name])).dropLast = some .directory := by
    rw [← List.append_assoc, List.dropLast_concat, paved.places, if_pos (by simp)]
  refine ⟨paved.cwd, paved.tree.set_directory missing parent, fun l => ?_⟩
  rw [get?_set after nonempty, paved.places, ← List.append_assoc]
  by_cases last : l = region ++ names ++ [name]
  · simp [last]
  · rw [if_neg last]
    have same : l <+: region ++ names ++ [name] ↔ l <+: region ++ names := by
      rw [List.prefix_concat_iff, or_iff_right last]
    simp only [same]

theorem exists_makeDirectoriesFrom (below : Below fs top region names)
    (way : HasWay fs region names) :
    ∃ after, makeDirectoriesFrom top.anchor fs (top.parts ++ names).reverse = (after, .ok ()) ∧
      Paved region names fs after := by
  induction names using List.reverseRecOn generalizing fs with
  | nil =>
    have there : fs.get? (region ++ []) = some .directory := by simpa using below.leads.directory
    refine ⟨fs, makeDirectoriesFrom_of_attempt ?_, .refl below.leads.tree there⟩
    simpa [Path.under] using below.attemptDirectory_there there
  | append_singleton names name ih =>
    have attempted {after before : FileSystem} (done : before.attemptDirectory
        (top.under (names ++ [name])) = (after, .ok ())) :
        makeDirectoriesFrom top.anchor before (top.parts ++ (names ++ [name])).reverse =
          (after, .ok ()) := by
      apply makeDirectoriesFrom_of_attempt
      rwa [List.reverse_reverse]
    cases there : fs.get? (region ++ (names ++ [name])) with
    | some e =>
      cases e with
      | directory => exact ⟨fs, attempted (below.attemptDirectory_there there),
          .refl below.leads.tree there⟩
      | file content => exact absurd there (way _ content List.prefix_rfl)
      | link target => exact absurd there (below.leads.tree.noLink _ _)
    | none =>
      cases above : fs.get? (region ++ names) with
      | some e =>
        cases e with
        | directory =>
          have paved := Paved.refl below.leads.tree above
          exact ⟨_, attempted (below.attemptDirectory_free above there), paved.concat there⟩
        | file content => exact absurd above (way.of_append _ content List.prefix_rfl)
        | link target => exact absurd above (below.leads.tree.noLink _ _)
      | none =>
        -- The directories above come first, and then there is a second attempt.
        obtain ⟨between, made, paved⟩ := ih below.of_append way.of_append
        have kept (l : Location) (directory : fs.get? l = some .directory) :
            between.get? l = some .directory := by
          rw [paved.places, directory, ite_self]
        have missing : between.get? (region ++ (names ++ [name])) = none := by
          rw [paved.places, if_neg, there]
          rintro ⟨-, longer⟩
          rw [← List.append_assoc] at longer
          exact not_concat_prefix _ _ longer
        have parent : between.get? (region ++ names) = some .directory := by
          rw [paved.places, if_pos (by simp)]
        have again := (below.of_directories paved.tree kept).attemptDirectory_free parent missing
        refine ⟨_, ?_, paved.concat missing⟩
        have first := below.attemptDirectory_missing way.of_append above
        simp only [Path.under, ← List.append_assoc] at first again
        rw [← List.append_assoc, List.reverse_append, List.reverse_singleton, List.singleton_append,
          makeDirectoriesFrom, List.reverse_cons, List.reverse_reverse, first]
        simp only [AccessFault.isMissing, decide_true, if_true, made, again]
        rw [List.append_assoc]

end BuildPipeline.FileSystem
