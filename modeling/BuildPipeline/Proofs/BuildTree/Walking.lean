import BuildPipeline.BuildTree.Walk
import BuildPipeline.Proofs.BuildTree.Pruning
import BuildPipeline.Proofs.FileSystem.Listing

set_option autoImplicit false

namespace BuildPipeline.BuildTree

open FileSystem Sequencing

def Precedes (a b : List String) : Prop :=
  a.length < b.length ∨ a.length = b.length ∧ List.Lex (fun s t : String => s < t) a b

section

variable {a b : List String}

theorem lex_append (lex : List.Lex (fun s t : String => s < t) a b) (same : a.length = b.length)
    (s t : List String) : List.Lex (fun s t : String => s < t) (a ++ s) (b ++ t) := by
  induction lex with
  | nil => simp at same
  | rel less => exact .rel less
  | cons _ ih => exact .cons (ih (by simpa using same))

theorem lex_concat {s t : String} (less : s < t) (a : List String) :
    List.Lex (fun s t : String => s < t) (a ++ [s]) (a ++ [t]) := by
  induction a with
  | nil => exact .rel less
  | cons _ _ ih => exact .cons ih

theorem not_lex_self (a : List String) : ¬ List.Lex (fun s t : String => s < t) a a := by
  induction a with
  | nil => rintro ⟨⟩
  | cons s rest ih =>
    rintro (_ | less | further)
    · exact String.lt_irrefl s less
    · exact ih further

theorem Precedes.concat {s t : String} (less : s < t) (a : List String) :
    Precedes (a ++ [s]) (a ++ [t]) :=
  .inr ⟨by simp, lex_concat less a⟩

theorem Precedes.below (before : Precedes a b) (s : String) (more : List String) (t : String) :
    Precedes (a ++ [s]) (b ++ more ++ [t]) := by
  rcases before with shorter | ⟨same, lex⟩
  · exact .inl (by simp; omega)
  · cases more with
    | nil =>
      rw [List.append_nil]
      exact .inr ⟨by simp [same], lex_append lex same _ _⟩
    | cons _ _ => exact .inl (by simp; omega)

theorem Precedes.not_beginning (before : Precedes a b) : ¬ b <+: a := by
  intro beginning
  rcases before with shorter | ⟨same, lex⟩
  · exact absurd beginning.length_le (Nat.not_le.2 shorter)
  · rw [beginning.eq_of_length same.symm] at lex
    exact not_lex_self _ lex

end

def isFileAt (fs : FileSystem) (path : Path) (place : Location) : Bool :=
  match fs.get? place with
  | some (.link _) => (leadsToFile fs path matches .ok true)
  | some e => e.isFile
  | none => false

def IsWalked (fs : FileSystem) (top : Path) (region : Location) (names : List String) : Prop :=
  ∃ dir name, names = dir ++ [name] ∧ fs.IsBranch region dir ∧
    isFileAt fs (top.under names) (region ++ names) = true

/-- A directory whose path the system takes, and in which every link leads to an entry or to a
missing one. -/
structure Readable (fs : FileSystem) (top : Path) (region : Location) (names : List String) :
    Prop where
  short : byteLength (top.under names).text ≤ maxPathBytes
  links : ∀ name target, fs.get? (region ++ names ++ [name]) = some (.link target) →
    ∃ leads, leadsToFile fs (top.under (names ++ [name])) = .ok leads

def fileAt (endings : FileName.Endings) (path : Path) : TreeFile :=
  fileOf endings path path.name

def seen (fs : FileSystem) (endings : FileName.Endings) (top : Path) (region : Location)
    (names : List String) : Found :=
  if fs.get? (region ++ names) = some .directory then .directory (top.under names)
  else if isFileAt fs (top.under names) (region ++ names) then
    .file (fileAt endings (top.under names))
  else .nothing

structure Walkable (fs : FileSystem) (top : Path) (region : Location) : Prop where
  stored : fs.IsStored
  found : fs.findDirectory top = .ok region

section

variable {fs : FileSystem} {endings : FileName.Endings} {top : Path} {region : Location}
  {dir names : List String} {name : String}

theorem under_child (top : Path) (dir : List String) (name : String) :
    (top.under dir).child name = top.under (dir ++ [name]) := by
  simp [Path.under, Path.child]

theorem name_under (top : Path) (dir : List String) (name : String) :
    (top.under (dir ++ [name])).name = name := by
  simp [Path.under, Path.name]

theorem look_eq_ok (readable : Readable fs top region dir) :
    look fs endings (top.under dir) (region ++ dir) name =
      .ok (seen fs endings top region (dir ++ [name])) := by
  have links := readable.links name
  rw [look, seen, fileAt, name_under, under_child, isFileAt, ← List.append_assoc]
  cases there : fs.get? (region ++ dir ++ [name]) with
  | none => simp
  | some e =>
    cases e with
    | directory => simp
    | file content => simp [Entry.isFile]
    | link target =>
      obtain ⟨leads, follows⟩ := links target there
      cases leads <;> simp [follows, ok_bind]

theorem scan_eq_ok (walkable : Walkable fs top region) (branch : fs.IsBranch region dir)
    (readable : Readable fs top region dir) :
    scan fs endings (top.under dir) =
      .ok (((fs.names (region ++ dir)).map (dir ++ [·])).map (seen fs endings top region)) := by
  rw [scan, findDirectory_under walkable.stored walkable.found branch, if_pos readable.short,
    ok_bind, mapM_eq_ok (g := fun name => seen fs endings top region (dir ++ [name]))
      fun _ _ => look_eq_ok readable, List.map_map]
  rfl

theorem look_ne_null (walkable : Walkable fs top region) :
    look fs endings (top.under dir) (region ++ dir) name ≠ .error .nullCharacter := by
  rw [look, under_child]
  intro fails
  split at fails
  · cases fails
  · cases fails
  · cases fails
  next target link =>
    -- Only a link is asked for by its path, and stored names hold no null character.
    have free : IsNullFree (top.under (dir ++ [name])) :=
      isNullFree_under walkable.stored walkable.found (by simp [← List.append_assoc, link])
    have never : fs.entry true (top.under (dir ++ [name])) ≠ .error .nullCharacter :=
      bind_ne_null (spot_ne_null fs free true) fun spot => by cases spot <;> simp [refuse]
    rcases bind_eq_error_iff.1 fails with fails | ⟨_, -, fails⟩
    · rw [leadsToFile] at fails
      split at fails
      · cases fails
      next fault refused =>
        split at fails
        · cases fails
        · cases fails
          exact never refused
    · cases fails

theorem scan_eq_error (endings : FileName.Endings) (walkable : Walkable fs top region)
    (branch : fs.IsBranch region dir) (unreadable : ¬ Readable fs top region dir) :
    ∃ cause, scan fs endings (top.under dir) = .error (.directory (top.under dir) cause) := by
  rw [scan, findDirectory_under walkable.stored walkable.found branch]
  by_cases short : byteLength (top.under dir).text ≤ maxPathBytes
  · rw [if_pos short, ok_bind]
    cases looked : (fs.names (region ++ dir)).mapM (look fs endings (top.under dir) (region ++ dir)) with
    | ok found =>
      refine absurd ⟨short, fun name target link => ?_⟩ unreadable
      have member : name ∈ fs.names (region ++ dir) := mem_names_iff.2 (by rw [link]; simp)
      obtain ⟨f, looks⟩ := exists_of_mapM_eq_ok looked name member
      rw [look, under_child, link] at looks
      obtain ⟨leads, follows, -⟩ := bind_eq_ok_iff.1 looks
      exact ⟨leads, follows⟩
    | error fault =>
      cases fault with
      | system cause => exact ⟨cause, rfl⟩
      | nullCharacter =>
        obtain ⟨name, -, fails⟩ := exists_of_mapM_eq_error looked
        exact absurd fails (look_ne_null walkable)
  · rw [if_neg short]
    exact ⟨_, rfl⟩

def children (fs : FileSystem) (region : Location) (dir : List String)
    (keep : List String → Bool) : List (List String) :=
  ((fs.names (region ++ dir)).map (dir ++ [·])).filter keep

theorem mem_children_iff {keep : List String → Bool} :
    names ∈ children fs region dir keep ↔
      ∃ name, names = dir ++ [name] ∧ fs.get? (region ++ names) ≠ none ∧ keep names = true := by
  simp only [children, List.mem_filter, List.mem_map, mem_names_iff]
  constructor
  · rintro ⟨⟨name, there, rfl⟩, kept⟩
    exact ⟨name, rfl, by rwa [← List.append_assoc], kept⟩
  · rintro ⟨name, rfl, there, kept⟩
    exact ⟨⟨name, by rwa [List.append_assoc], rfl⟩, kept⟩

theorem pairwise_children (stored : fs.IsStored) (region : Location) (dir : List String)
    (keep : List String → Bool) : (children fs region dir keep).Pairwise Precedes :=
  (List.pairwise_map.2 ((names_sorted stored.distinct _).imp fun less => .concat less dir)).filter _

def isDirectoryAt (fs : FileSystem) (region : Location) (names : List String) : Bool :=
  fs.get? (region ++ names) = some .directory

def isFileBelow (fs : FileSystem) (top : Path) (region : Location) (names : List String) : Bool :=
  isFileAt fs (top.under names) (region ++ names)

theorem not_directory_of_isFileAt {path : Path} {place : Location}
    (file : isFileAt fs path place = true) : fs.get? place ≠ some .directory := by
  intro directory
  simp [isFileAt, directory, Entry.isFile] at file

theorem filterMap_directory_seen (all : List (List String)) :
    (all.map (seen fs endings top region)).filterMap Found.directory? =
      (all.filter (isDirectoryAt fs region)).map top.under := by
  induction all with
  | nil => rfl
  | cons names rest ih =>
    rw [List.map_cons, List.filterMap_cons, ih, List.filter_cons, seen, isDirectoryAt]
    by_cases directory : fs.get? (region ++ names) = some .directory
    · simp [directory, Found.directory?]
    · by_cases file : isFileAt fs (top.under names) (region ++ names) = true <;>
        simp [directory, file, Found.directory?]

theorem filterMap_file_seen (all : List (List String)) :
    (all.map (seen fs endings top region)).filterMap Found.file? =
      (all.filter (isFileBelow fs top region)).map fun names => fileAt endings (top.under names) := by
  induction all with
  | nil => rfl
  | cons names rest ih =>
    rw [List.map_cons, List.filterMap_cons, ih, List.filter_cons, seen, isFileBelow]
    by_cases file : isFileAt fs (top.under names) (region ++ names) = true
    · simp [not_directory_of_isFileAt file, file, Found.file?]
    · by_cases directory : fs.get? (region ++ names) = some .directory <;>
        simp [directory, file, Found.file?]

def Follows (a b : List String) : Prop :=
  Precedes a b ∧ ∀ name, Precedes b (a ++ [name])

def advanced (fs : FileSystem) (region : Location) (dir : List String)
    (queue : List (List String)) : List (List String) :=
  queue ++ children fs region dir (isDirectoryAt fs region)

def IsDue (queue : List (List String)) (names : List String) : Prop :=
  ∃ first ∈ queue, first <+: names

def Suffices (fs : FileSystem) (region : Location) (queue : List (List String))
    (rounds : Nat) : Prop :=
  ∀ branches : List (List String), branches.Nodup →
    (∀ names ∈ branches, fs.IsBranch region names ∧ IsDue queue names) → branches.length ≤ rounds

/-- A queue of directories that can be read, with all below them, in some rounds. -/
structure IsQueue (fs : FileSystem) (region : Location) (queue : List (List String))
    (rounds : Nat) : Prop where
  ordered : queue.Pairwise Follows
  branches : ∀ names ∈ queue, fs.IsBranch region names
  enough : Suffices fs region queue rounds

variable {queue : List (List String)} {rounds : Nat}

theorem precedes_of_mem_advanced (ordered : (dir :: queue).Pairwise Follows) {first : List String}
    (member : first ∈ advanced fs region dir queue) : Precedes dir first := by
  rcases List.mem_append.1 member with waiting | child
  · exact (List.rel_of_pairwise_cons ordered waiting).1
  · obtain ⟨name, rfl, -⟩ := mem_children_iff.1 child
    exact .inl (by simp)

theorem pairwise_advanced (stored : fs.IsStored) (ordered : (dir :: queue).Pairwise Follows) :
    (advanced fs region dir queue).Pairwise Follows := by
  refine List.pairwise_append.2 ⟨ordered.of_cons, ?_, ?_⟩
  · -- Two of the same directory: what lies in one of them is deeper than both.
    refine (pairwise_children stored region dir _).imp_of_mem fun child other before => ⟨before, ?_⟩
    obtain ⟨_, rfl, -⟩ := mem_children_iff.1 child
    obtain ⟨_, rfl, -⟩ := mem_children_iff.1 other
    exact fun _ => .inl (by simp)
  · intro first waiting names child
    obtain ⟨name, rfl, -⟩ := mem_children_iff.1 child
    have follows := List.rel_of_pairwise_cons ordered waiting
    exact ⟨follows.2 name, fun next => by simpa using follows.1.below name [] next⟩

theorem isBranch_advanced (branches : ∀ names ∈ dir :: queue, fs.IsBranch region names) :
    ∀ names ∈ advanced fs region dir queue, fs.IsBranch region names := by
  simp only [List.mem_cons, forall_eq_or_imp] at branches
  intro names member
  rcases List.mem_append.1 member with waiting | child
  · exact branches.2 names waiting
  · obtain ⟨name, rfl, -, directory⟩ := mem_children_iff.1 child
    exact branches.1.concat (by simpa [isDirectoryAt] using directory)

theorem isDue_advanced (branch : fs.IsBranch region names) (due : IsDue (dir :: queue) names) :
    names = dir ∨ IsDue (advanced fs region dir queue) names := by
  obtain ⟨first, member, beginning⟩ := due
  rcases List.mem_cons.1 member with rfl | waiting
  · obtain ⟨more, rfl⟩ := beginning
    cases more with
    | nil => simp
    | cons name rest =>
      have child : first ++ [name] <+: first ++ name :: rest := by simp
      refine .inr ⟨_, List.mem_append_right _ (mem_children_iff.2 ⟨name, rfl, ?_, ?_⟩), child⟩
      · simp [branch _ child]
      · simp [isDirectoryAt, branch _ child]
  · exact .inr ⟨first, List.mem_append_left _ waiting, beginning⟩

theorem IsDue.of_advanced (due : IsDue (advanced fs region dir queue) names) :
    IsDue (dir :: queue) names := by
  obtain ⟨first, member, beginning⟩ := due
  rcases List.mem_append.1 member with waiting | child
  · exact ⟨first, by simp [waiting], beginning⟩
  · obtain ⟨name, rfl, -⟩ := mem_children_iff.1 child
    exact ⟨dir, by simp, (List.prefix_append _ _).trans beginning⟩

theorem isDue_first (dir : List String) (queue : List (List String)) : IsDue (dir :: queue) dir :=
  ⟨dir, by simp, List.prefix_refl dir⟩

theorem IsQueue.first (waits : IsQueue fs region (dir :: queue) rounds) : fs.IsBranch region dir :=
  waits.branches dir (by simp)

theorem IsQueue.advanced (stored : fs.IsStored)
    (waits : IsQueue fs region (dir :: queue) (rounds + 1)) :
    IsQueue fs region (advanced fs region dir queue) rounds where
  ordered := pairwise_advanced stored waits.ordered
  branches := isBranch_advanced waits.branches
  enough := by
    intro branches once due
    -- `dir` is none of those that stay due, all of which come after it.
    have fresh : dir ∉ branches := by
      intro member
      obtain ⟨first, waiting, beginning⟩ := (due dir member).2
      exact (precedes_of_mem_advanced waits.ordered waiting).not_beginning beginning
    have all := waits.enough (dir :: branches) (List.nodup_cons.2 ⟨fresh, once⟩) fun names member => by
      rcases List.mem_cons.1 member with rfl | later
      · exact ⟨waits.first, isDue_first names queue⟩
      · exact ⟨(due names later).1, (due names later).2.of_advanced⟩
    simpa using all

theorem IsQueue.eq_nil (waits : IsQueue fs region queue 0) : queue = [] := by
  cases queue with
  | nil => rfl
  | cons dir queue =>
    have none := waits.enough [dir] (by simp) (by simpa using ⟨waits.first, isDue_first dir queue⟩)
    simp at none

theorem mem_files_iff {dir : List String} :
    names ∈ children fs region dir (isFileBelow fs top region) ↔
      ∃ name, names = dir ++ [name] ∧ isFileAt fs (top.under names) (region ++ names) = true := by
  rw [mem_children_iff]
  refine exists_congr fun name => and_congr_right fun _ => ⟨And.right, fun file => ⟨?_, file⟩⟩
  intro missing
  simp [isFileAt, missing] at file

theorem IsDue.of_file (due : IsDue queue (dir ++ [name]))
    (branches : ∀ names ∈ queue, fs.IsBranch region names)
    (file : isFileAt fs (top.under (dir ++ [name])) (region ++ (dir ++ [name])) = true) :
    IsDue queue dir := by
  obtain ⟨first, member, beginning⟩ := due
  refine ⟨first, member, ?_⟩
  rcases List.prefix_concat_iff.1 beginning with rfl | shorter
  · exact absurd (branches _ member).get? (not_directory_of_isFileAt file)
  · exact shorter

theorem isWalked_due_iff (waits : IsQueue fs region (dir :: queue) rounds) :
    IsWalked fs top region names ∧ IsDue (dir :: queue) names ↔
      names ∈ children fs region dir (isFileBelow fs top region) ∨
        IsWalked fs top region names ∧ IsDue (advanced fs region dir queue) names := by
  rw [mem_files_iff]
  constructor
  · rintro ⟨⟨parent, name, rfl, branch, file⟩, due⟩
    rcases isDue_advanced branch (due.of_file waits.branches file) with rfl | ⟨first, member, beginning⟩
    · exact .inl ⟨name, rfl, file⟩
    · exact .inr ⟨⟨parent, name, rfl, branch, file⟩, first, member,
        beginning.trans (List.prefix_append _ _)⟩
  · rintro (⟨name, rfl, file⟩ | ⟨walked, due⟩)
    · exact ⟨⟨dir, name, rfl, waits.first, file⟩, dir, by simp, List.prefix_append _ _⟩
    · exact ⟨walked, due.of_advanced⟩

theorem precedes_of_isDue_advanced (waits : IsQueue fs region (dir :: queue) rounds)
    {later : List String} (walked : IsWalked fs top region later)
    (due : IsDue (advanced fs region dir queue) later) (name : String) :
    Precedes (dir ++ [name]) later := by
  obtain ⟨parent, last, rfl, -, file⟩ := walked
  obtain ⟨first, member, more, rfl⟩ := due.of_file (isBranch_advanced waits.branches) file
  exact (precedes_of_mem_advanced waits.ordered member).below name more last

theorem drain_cons (endings : FileName.Endings) (walkable : Walkable fs top region)
    (branch : fs.IsBranch region dir) (readable : Readable fs top region dir) (rounds : Nat)
    (queue : List (List String)) :
    drain fs endings (rounds + 1) ((dir :: queue).map top.under) =
      (drain fs endings rounds ((advanced fs region dir queue).map top.under)).map
        (((children fs region dir (isFileBelow fs top region)).map fun names =>
          fileAt endings (top.under names)) ++ ·) := by
  rw [List.map_cons, drain, scan_eq_ok walkable branch readable, ok_bind,
    filterMap_directory_seen, filterMap_file_seen, advanced, List.map_append]
  rfl

theorem drain_eq_ok (endings : FileName.Endings) (walkable : Walkable fs top region)
    (readable : ∀ names, fs.IsBranch region names → Readable fs top region names)
    (waits : IsQueue fs region queue rounds) :
    ∃ walked : List (List String), walked.Pairwise Precedes ∧
      (∀ names, names ∈ walked ↔ IsWalked fs top region names ∧ IsDue queue names) ∧
      drain fs endings rounds (queue.map top.under) =
        .ok (walked.map fun names => fileAt endings (top.under names)) := by
  induction rounds generalizing queue with
  | zero =>
    obtain rfl := waits.eq_nil
    exact ⟨[], .nil, by simp [IsDue], rfl⟩
  | succ rounds ih =>
    cases queue with
    | nil => exact ⟨[], .nil, by simp [IsDue], rfl⟩
    | cons dir queue =>
      obtain ⟨later, sorted, exact', drained⟩ := ih (waits.advanced walkable.stored)
      refine ⟨children fs region dir (isFileBelow fs top region) ++ later, ?_, ?_, ?_⟩
      · -- What is found in one directory comes before what lies in those still to be read.
        refine List.pairwise_append.2 ⟨pairwise_children walkable.stored region dir _, sorted, ?_⟩
        intro names file other member
        obtain ⟨name, rfl, -⟩ := mem_files_iff.1 file
        obtain ⟨walked, due⟩ := (exact' other).1 member
        exact precedes_of_isDue_advanced waits walked due name
      · intro names
        rw [isWalked_due_iff waits, List.mem_append, exact']
      · rw [drain_cons endings walkable waits.first (readable dir waits.first), drained,
          List.map_append]
        rfl

theorem drain_eq_error (endings : FileName.Endings) (walkable : Walkable fs top region)
    (waits : IsQueue fs region queue rounds) (branch : fs.IsBranch region names)
    (due : IsDue queue names) (unreadable : ¬ Readable fs top region names) :
    ∃ path cause, drain fs endings rounds (queue.map top.under) = .error (.directory path cause) := by
  induction rounds generalizing queue with
  | zero =>
    obtain rfl := waits.eq_nil
    simp [IsDue] at due
  | succ rounds ih =>
    cases queue with
    | nil => simp [IsDue] at due
    | cons dir queue =>
      by_cases readable : Readable fs top region dir
      · -- The first one is not to blame, so that `names` stays due.
        have left : IsDue (advanced fs region dir queue) names := by
          refine (isDue_advanced branch due).resolve_left ?_
          rintro rfl
          exact unreadable readable
        obtain ⟨path, cause, fails⟩ := ih (waits.advanced walkable.stored) left
        exact ⟨path, cause, by rw [drain_cons endings walkable waits.first readable, fails]; rfl⟩
      · obtain ⟨cause, fails⟩ := scan_eq_error endings walkable waits.first readable
        exact ⟨_, cause, by rw [List.map_cons, drain, fails]; rfl⟩

end

def IsScript (endings : FileName.Endings) (path : Path) (stem : String) : Prop :=
  FileName.classify endings path.name = (.script, stem)

def IsLastScript (endings : FileName.Endings) (paths : List Path) (stem : String) (path : Path) :
    Prop :=
  ∃ before after, paths = before ++ path :: after ∧ IsScript endings path stem ∧
    ∀ later ∈ after, ¬ IsScript endings later stem

/-- All the files that directories lead to, in order, with the markup among them and the last
script of each stem. -/
structure IsListing (fs : FileSystem) (endings : FileName.Endings) (top : Path) (region : Location)
    (files : List TreeFile) (walked : List (List String)) : Prop where
  ordered : walked.Pairwise Precedes
  complete : ∀ names, names ∈ walked ↔ IsWalked fs top region names
  units : files = walked.map fun names => fileAt endings (top.under names)
  markup : markupFiles files =
    (walked.map top.under).filter fun path => (FileName.classify endings path.name).1 = .markup
  scripts : ∀ stem path,
    script? files stem = some path ↔ IsLastScript endings (walked.map top.under) stem path
  keys : ∀ stem, stem ∈ stems files ↔ (script? files stem).isSome

section

variable {endings : FileName.Endings} {paths : List Path} {stem : String}

theorem markupFiles_map_fileAt : markupFiles (paths.map (fileAt endings)) =
    paths.filter fun path => (FileName.classify endings path.name).1 = .markup := by
  rw [markupFiles, List.filter_map, List.map_map]
  exact List.map_id _

theorem isScript_iff {path : Path} : IsScript endings path stem ↔
    (fileAt endings path).kind = .script ∧ (fileAt endings path).stem = stem :=
  Prod.ext_iff

theorem script?_map_fileAt {path : Path} : script? (paths.map (fileAt endings)) stem = some path ↔
    IsLastScript endings paths stem path := by
  have same : (fun path : Path => path) = TreeFile.path ∘ fileAt endings := rfl
  rw [script?, ← List.map_reverse, List.find?_map, Option.map_map, ← same, Option.map_id',
    List.find?_eq_some_iff_append]
  simp only [Function.comp, decide_eq_true_eq, ← isScript_iff,
    Bool.not_eq_true', decide_eq_false_iff_not, ← Bool.decide_and]
  constructor
  · rintro ⟨script, after, before, reversed, others⟩
    refine ⟨before.reverse, after.reverse, ?_, script, fun later member => ?_⟩
    · rw [← List.reverse_reverse paths, reversed]
      simp
    · exact others later (List.mem_reverse.1 member)
  · rintro ⟨before, after, rfl, script, others⟩
    exact ⟨script, after.reverse, before.reverse, by simp, fun later member =>
      others later (List.mem_reverse.1 member)⟩

theorem mem_stems_iff {files : List TreeFile} :
    stem ∈ stems files ↔ (script? files stem).isSome := by
  simp only [stems, script?, List.mem_eraseDups, List.mem_map, List.mem_filter, Option.isSome_map,
    List.find?_isSome, List.mem_reverse, Bool.and_eq_true, decide_eq_true_eq, and_assoc]

end

theorem readable_of_entries {fs : FileSystem} {top : Path} {region : Location}
    (root : byteLength top.text ≤ maxPathBytes)
    (short : ∀ e ∈ fs.entries, e.2 = .directory →
      byteLength (top.under (e.1.drop region.length)).text ≤ maxPathBytes)
    (links : ∀ e ∈ fs.entries, e.2.isLink = true →
      (leadsToFile fs (top.under (e.1.drop region.length))).isOk = true) :
    ∀ names, fs.IsBranch region names → Readable fs top region names := by
  intro names branch
  constructor
  · by_cases here : names = []
    · simpa [here, Path.under] using root
    · simpa using short _ (mem_entries_of_get? (by simp [here]) branch.get?) rfl
  · intro name target link
    have leads := links _ (mem_entries_of_get? (by simp) link) rfl
    rw [List.append_assoc, List.drop_left] at leads
    cases follows : leadsToFile fs (top.under (names ++ [name])) with
    | ok leads => exact ⟨leads, rfl⟩
    | error fault => simp [follows, Except.isOk, Except.toBool] at leads

section

variable {fs : FileSystem} {root : Path} {region : Location}

theorem Walkable.start (walkable : Walkable fs (Path.absolute ⟨.root, fs.cwd⟩ root) region) :
    fs.IsBranch region [] :=
  .nil (get?_of_findDirectory (Path.isAbsolute_absolute rfl root) walkable.found)

theorem Walkable.isQueue (walkable : Walkable fs (Path.absolute ⟨.root, fs.cwd⟩ root) region) :
    IsQueue fs region [[]] (fs.entries.length + 1) where
  ordered := List.pairwise_singleton _ _
  branches := by simpa using walkable.start
  enough := fun _ once all => length_le_of_branches once fun names member => (all names member).1

theorem isDue_root (names : List String) : IsDue [[]] names :=
  ⟨[], by simp, List.nil_prefix⟩

theorem walk_eq_drain (fs : FileSystem) (endings : FileName.Endings) (root : Path) :
    walk fs endings root = drain fs endings (fs.entries.length + 1)
      ([[]].map (Path.absolute ⟨.root, fs.cwd⟩ root).under) := by
  simp [walk, Path.under]

theorem walk_eq_ok (endings : FileName.Endings)
    (walkable : Walkable fs (Path.absolute ⟨.root, fs.cwd⟩ root) region)
    (readable : ∀ names, fs.IsBranch region names →
      Readable fs (Path.absolute ⟨.root, fs.cwd⟩ root) region names) :
    ∃ files walked, walk fs endings root = .ok files ∧
      IsListing fs endings (Path.absolute ⟨.root, fs.cwd⟩ root) region files walked := by
  obtain ⟨walked, ordered, complete, drained⟩ :=
    drain_eq_ok endings walkable readable walkable.isQueue
  rw [walk_eq_drain]
  refine ⟨_, walked, drained, ordered, fun names => ?_, rfl, ?_, fun stem path => ?_,
    fun _ => mem_stems_iff⟩
  · rw [complete, and_iff_left (isDue_root names)]
  · rw [← markupFiles_map_fileAt, List.map_map]
    rfl
  · rw [← script?_map_fileAt, List.map_map]
    rfl

theorem walk_eq_error (endings : FileName.Endings)
    (walkable : Walkable fs (Path.absolute ⟨.root, fs.cwd⟩ root) region) {names : List String}
    (branch : fs.IsBranch region names)
    (unreadable : ¬ Readable fs (Path.absolute ⟨.root, fs.cwd⟩ root) region names) :
    ∃ path cause, walk fs endings root = .error (.directory path cause) := by
  rw [walk_eq_drain]
  exact drain_eq_error endings walkable walkable.isQueue branch (isDue_root names) unreadable

/-- If everything below the root can be read, a walk lists the files there, whatever the order is in
which the system returns them; otherwise it lists none. -/
theorem walk_canonical (endings : FileName.Endings)
    (walkable : Walkable fs (Path.absolute ⟨.root, fs.cwd⟩ root) region) :
    ((∀ names, fs.IsBranch region names →
        Readable fs (Path.absolute ⟨.root, fs.cwd⟩ root) region names) →
      ∃ files walked, walk fs endings root = .ok files ∧
        IsListing fs endings (Path.absolute ⟨.root, fs.cwd⟩ root) region files walked) ∧
    ((∃ names, fs.IsBranch region names ∧
        ¬ Readable fs (Path.absolute ⟨.root, fs.cwd⟩ root) region names) →
      ∃ path cause, walk fs endings root = .error (.directory path cause)) :=
  ⟨walk_eq_ok endings walkable,
    fun ⟨_, branch, unreadable⟩ => walk_eq_error endings walkable branch unreadable⟩

end

def linkedTree : FileSystem :=
  ⟨["w"], [(["w"], .directory), (["w", "b"], .directory), (["w", "b", "sub"], .directory),
    (["w", "b", "sub", "Main.js"], .file []), (["w", "b", "main.js"], .file []),
    (["w", "b", "sub", "text"], .file (Text.Utf8.encode "<script src='main.js'></script>".toList)),
    (["w", "b", "again"], .link "sub"), (["w", "b", "gone"], .link "nowhere"),
    (["w", "b", "page.html"], .link "sub/text")]⟩

theorem walkable_linkedTree : Walkable linkedTree ⟨.root, ["w", "b"]⟩ ["w", "b"] :=
  ⟨⟨by decide, by decide +kernel⟩, by decide +kernel⟩

theorem readable_linkedTree (names : List String) (branch : linkedTree.IsBranch ["w", "b"] names) :
    Readable linkedTree ⟨.root, ["w", "b"]⟩ ["w", "b"] names :=
  readable_of_entries (by decide +kernel) (by decide +kernel) (by decide +kernel) names branch

theorem walk_linkedTree : ∃ files walked,
    walk linkedTree .standard ⟨.relative, ["b"]⟩ = .ok files ∧
      IsListing linkedTree .standard ⟨.root, ["w", "b"]⟩ ["w", "b"] files walked :=
  (walk_canonical .standard walkable_linkedTree).1 readable_linkedTree

def loopingTree : FileSystem :=
  ⟨["w"], [(["w"], .directory), (["w", "b"], .directory), (["w", "b", "a.js"], .file []),
    (["w", "b", "loop"], .link "loop")]⟩

theorem walkable_loopingTree : Walkable loopingTree ⟨.root, ["w", "b"]⟩ ["w", "b"] :=
  ⟨⟨by decide, by decide +kernel⟩, by decide +kernel⟩

theorem exists_walk_loopingTree_eq_error : ∃ path cause,
    walk loopingTree .standard ⟨.relative, ["b"]⟩ = .error (.directory path cause) := by
  refine walk_eq_error .standard walkable_loopingTree (.nil rfl) fun readable => ?_
  obtain ⟨leads, follows⟩ := readable.links "loop" "loop" rfl
  have circular : (leadsToFile loopingTree ⟨.root, ["w", "b", "loop"]⟩).isOk = false := by
    decide +kernel
  change leadsToFile loopingTree ⟨.root, ["w", "b", "loop"]⟩ = _ at follows
  simp [follows, Except.isOk, Except.toBool] at circular

theorem walk_loopingTree : Walkable loopingTree ⟨.root, ["w", "b"]⟩ ["w", "b"] ∧
    ¬ ∃ files walked, walk loopingTree .standard ⟨.relative, ["b"]⟩ = .ok files ∧
      IsListing loopingTree .standard ⟨.root, ["w", "b"]⟩ ["w", "b"] files walked := by
  refine ⟨walkable_loopingTree, ?_⟩
  rintro ⟨files, walked, listed, -⟩
  obtain ⟨path, cause, fails⟩ := exists_walk_loopingTree_eq_error
  rw [fails] at listed
  cases listed

end BuildPipeline.BuildTree
