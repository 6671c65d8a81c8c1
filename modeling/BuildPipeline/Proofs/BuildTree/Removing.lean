import BuildPipeline.Proofs.BuildTree.Sweeping
import BuildPipeline.Proofs.FileSystem.Listing
import BuildPipeline.Proofs.FileSystem.Making

set_option autoImplicit false

namespace BuildPipeline.BuildTree

open FileSystem Sequencing

/-- A tree that has lost the entries at some places, and these alone. -/
structure Loses (lost : Location → Prop) (before after : FileSystem) : Prop where
  tree : after.IsTree
  gone : ∀ l, lost l → after.get? l = none
  kept : ∀ l, ¬ lost l → after.get? l = before.get? l

section

variable {lost more : Location → Prop} {fs between after : FileSystem}

theorem Loses.refl (tree : fs.IsTree) (none : ∀ l, fs.get? l ≠ none → ¬ lost l) :
    Loses lost fs fs :=
  ⟨tree, fun l goes => by_contra fun there => none l there goes, fun _ _ => rfl⟩

theorem Loses.trans (first : Loses lost fs between) (second : Loses more between after) :
    Loses (fun l => lost l ∨ more l) fs after where
  tree := second.tree
  gone l either := by
    by_cases later : more l
    · exact second.gone l later
    · rw [second.kept l later, first.gone l (either.resolve_right later)]
  kept l neither := by
    rw [not_or] at neither
    rw [second.kept l neither.2, first.kept l neither.1]

-- Only of places that hold something does it matter whether they are said to lose it.
theorem Loses.congr (loses : Loses lost fs after)
    (same : ∀ l, fs.get? l ≠ none → (lost l ↔ more l)) : Loses more fs after where
  tree := loses.tree
  gone l goes := by
    by_cases there : fs.get? l = none
    · by_cases other : lost l
      · exact loses.gone l other
      · rw [loses.kept l other, there]
    · exact loses.gone l ((same l there).2 goes)
  kept l stays := by
    by_cases there : fs.get? l = none
    · by_cases other : lost l
      · rw [loses.gone l other, there]
      · exact loses.kept l other
    · exact loses.kept l fun goes => stays ((same l there).1 goes)

theorem Loses.of_there (loses : Loses lost fs after) {l : Location} (there : after.get? l ≠ none) :
    ¬ lost l ∧ after.get? l = fs.get? l := by
  have stays : ¬ lost l := fun goes => there (loses.gone l goes)
  exact ⟨stays, loses.kept l stays⟩

theorem Loses.missing (loses : Loses lost fs after) {l : Location} (missing : fs.get? l = none) :
    after.get? l = none :=
  by_contra fun there => there ((loses.of_there there).2.trans missing)

theorem loses_erase {l : Location} (tree : fs.IsTree) (nonempty : l ≠ [])
    (leaf : ∀ name, fs.get? (l ++ [name]) = none) : Loses (· = l) fs (fs.erase l) where
  tree := tree.erase nonempty leaf
  gone m same := by rw [get?_erase fs nonempty, if_pos same]
  kept m other := by rw [get?_erase fs nonempty, if_neg other]

end

def IsBetween (top place l : Location) : Prop :=
  (top <+: l ∧ l ≠ top) ∧ l <+: place ∧ l ≠ place

instance (top place l : Location) : Decidable (IsBetween top place l) :=
  inferInstanceAs (Decidable (_ ∧ _))

def HoldsOnly (fs : FileSystem) (place l : Location) : Prop :=
  ∀ m, l <+: m → fs.get? m ≠ none → m <+: place

theorem forall_there_iff {fs : FileSystem} (holds : Location → Prop) :
    (∀ l, fs.get? l ≠ none → holds l) ↔ holds [] ∧ ∀ e ∈ fs.entries, holds e.1 := by
  constructor
  · intro all
    refine ⟨all [] (by simp), fun e member => ?_⟩
    by_cases root : e.1 = []
    · rw [root]
      exact all [] (by simp)
    · exact all e.1 fun missing => (get?_eq_none_iff root).1 missing e member rfl
  · rintro ⟨root, entries⟩ l there
    by_cases top : l = []
    · rwa [top]
    · obtain ⟨e, found⟩ := Option.ne_none_iff_exists'.1 there
      exact entries (l, e) (mem_entries_of_get? top found)

instance (fs : FileSystem) (place l : Location) : Decidable (HoldsOnly fs place l) :=
  decidable_of_iff ((l <+: [] → [] <+: place) ∧ ∀ e ∈ fs.entries, l <+: e.1 → e.1 <+: place) <| by
    rw [← forall_there_iff fun m => l <+: m → m <+: place, HoldsOnly]
    exact forall_congr' fun m => forall_comm

/-- What becomes empty below a directory with a place: the way to it, as far up as it leads nowhere
else. -/
def Emptied (fs : FileSystem) (top place l : Location) : Prop :=
  IsBetween top place l ∧ HoldsOnly fs place l

instance (fs : FileSystem) (top place l : Location) : Decidable (Emptied fs top place l) :=
  inferInstanceAs (Decidable (_ ∧ _))

def Crosses (fs : FileSystem) (dir : Location) (names first : List String) : Prop :=
  (∀ name ∈ names.take (first.length + 1), IsShort name) ∧
    ((first = names ∧ (fs.get? (dir ++ first)).any Entry.isFile = true) ∨
      first ≠ names ∧ fs.get? (dir ++ first) = some .directory)

instance (fs : FileSystem) (dir : Location) (names first : List String) :
    Decidable (Crosses fs dir names first) :=
  inferInstanceAs (Decidable (_ ∧ _))

def IsDeletable (fs : FileSystem) (p : Path) : Prop :=
  IsGiven p ∧ ∀ l, l <+: p.parts → fs.get? l ≠ none → Crosses fs [] p.parts l

section

variable {fs : FileSystem} {dir : Location} {names rest first : List String} {name : String}

theorem crosses_cons (short : IsShort name) :
    Crosses fs dir (name :: rest) (name :: first) ↔ Crosses fs (dir ++ [name]) rest first := by
  simp [Crosses, short]

theorem crosses_nil (here : fs.get? dir = some .directory) :
    Crosses fs dir names [] ↔ names ≠ [] ∧ ∀ name ∈ names.take 1, IsShort name := by
  simp [Crosses, here, Entry.isFile, eq_comm (a := ([] : List String)), and_comm]

theorem forall_crosses_cons (here : fs.get? dir = some .directory) :
    (∀ first, first <+: name :: rest → fs.get? (dir ++ first) ≠ none →
        Crosses fs dir (name :: rest) first) ↔
      IsShort name ∧ ∀ first, first <+: rest → fs.get? (dir ++ [name] ++ first) ≠ none →
        Crosses fs (dir ++ [name]) rest first := by
  constructor
  · intro all
    have short : IsShort name := by
      have start := (crosses_nil here).1 (all [] List.nil_prefix (by simp [here]))
      simpa using start.2
    refine ⟨short, fun first part there => (crosses_cons short).1 (all (name :: first) ?_ ?_)⟩
    · exact (List.prefix_cons_inj name).2 part
    · rwa [List.append_cons]
  · rintro ⟨short, all⟩ first part there
    rcases List.prefix_cons_iff.1 part with rfl | ⟨others, rfl, part'⟩
    · exact (crosses_nil here).2 (by simpa using short)
    · rw [List.append_cons] at there
      exact (crosses_cons short).2 (all others part' there)

theorem yields_cons (entryName : IsEntryName name) :
    Yields fs dir (name :: rest) ↔ match fs.get? (dir ++ [name]) with
      | none => True
      | some .directory => Yields fs (dir ++ [name]) rest
      | some (.file _) => rest = []
      | some (.link _) => False := by
  rw [Yields, descend_cons fs dir entryName]
  cases fs.get? (dir ++ [name]) with
  | none => by_cases last : rest = [] <;> simp [last, Lacks]
  | some e =>
    cases e with
    | directory => simp [Yields]
    | file content => by_cases last : rest = [] <;> simp [last, Lacks]
    | link target => simp [Lacks]

theorem yields_iff (tree : fs.IsTree) (here : fs.get? dir = some .directory)
    (plain : ∀ name ∈ names, IsName name) :
    Yields fs dir names ↔
      ∀ first, first <+: names → fs.get? (dir ++ first) ≠ none → Crosses fs dir names first := by
  induction names generalizing dir with
  | nil =>
    simp [Yields, Lacks, descend, follow, Crosses, here, Entry.isFile]
  | cons name rest ih =>
    simp only [List.mem_cons, forall_eq_or_imp] at plain
    rw [forall_crosses_cons here]
    -- A name that is too long cannot be looked up, and `Crosses` asks for short ones.
    by_cases short : IsShort name
    · rw [yields_cons ⟨plain.1, short⟩, and_iff_right short]
      cases found : fs.get? (dir ++ [name]) with
      | none =>
        refine iff_of_true trivial fun first _ there => ?_
        by_cases same : first = []
        · simp [same, found] at there
        · rw [tree.directory_of_append same there] at found
          cases found
      | some e =>
        cases e with
        | directory => exact ih found plain.2
        | link target => exact absurd found (tree.noLink _ _)
        | file content =>
          constructor
          · rintro rfl
            simp [Crosses, found, Entry.isFile]
          · intro all
            obtain ⟨last, -⟩ | ⟨-, directory⟩ := (all [] List.nil_prefix (by simp [found])).2
            · exact last.symm
            · simp [found] at directory
    · refine iff_of_false ?_ fun both => short both.1
      rw [Yields, descend_long fs dir plain.1 short]
      simp [Lacks]

theorem isDeletable_iff {p : Path} (tree : fs.IsTree) (plain : p.IsPlain) :
    IsDeletable fs p ↔ IsGiven p ∧ Yields fs [] p.parts := by
  rw [yields_iff tree (get?_nil fs) (isName_of_isPlain plain)]
  rfl

end

section

variable {fs : FileSystem} {top place l : Location} {name : String}

theorem not_isBetween_self : ¬ IsBetween top top l :=
  fun ⟨⟨below, _⟩, part, other⟩ => other (part.eq_of_length_le below.length_le)

theorem isBetween_concat :
    IsBetween top (place ++ [name]) l ↔
      l = place ∧ top <+: place ∧ place ≠ top ∨ IsBetween top place l := by
  rw [IsBetween, IsBetween, List.prefix_concat_iff]
  constructor
  · rintro ⟨below, part, other⟩
    by_cases same : l = place
    · exact .inl ⟨same, same ▸ below⟩
    · exact .inr ⟨below, part.resolve_left other, same⟩
  · rintro (⟨rfl, below⟩ | ⟨below, part, -⟩)
    · exact ⟨below, .inr List.prefix_rfl, by simp⟩
    · exact ⟨below, .inr part, fun same => not_concat_prefix place name (same ▸ part)⟩

theorem holdsOnly_concat (missing : fs.get? (place ++ [name]) = none) :
    HoldsOnly fs (place ++ [name]) l ↔ HoldsOnly fs place l := by
  refine forall₃_congr fun m below there => ?_
  -- Nothing is at the end of the way, so that what is on it is on the way to the directory above.
  rw [List.prefix_concat_iff, or_iff_right]
  rintro rfl
  exact there missing

theorem emptied_concat (missing : fs.get? (place ++ [name]) = none) :
    Emptied fs top (place ++ [name]) l ↔
      l = place ∧ (top <+: place ∧ place ≠ top) ∧ HoldsOnly fs place place ∨
        Emptied fs top place l := by
  rw [Emptied, Emptied, isBetween_concat, holdsOnly_concat missing, or_and_right]
  refine or_congr_left ?_
  constructor
  · rintro ⟨⟨rfl, below⟩, only⟩
    exact ⟨rfl, below, only⟩
  · rintro ⟨rfl, below, only⟩
    exact ⟨⟨rfl, below⟩, only⟩

theorem Loses.holdsOnly_iff {after : FileSystem} (loses : Loses (· = place) fs after) :
    HoldsOnly after place l ↔ HoldsOnly fs place l := by
  refine forall₂_congr fun m below => ?_
  -- What is at the end of the way is on it, whether or not it is there.
  by_cases same : m = place
  · simp [same]
  · rw [loses.kept m same]

theorem holdsOnly_of_isBare (tree : fs.IsTree) (bare : IsBare fs place) :
    HoldsOnly fs place place := by
  intro m below there
  by_cases same : place = m
  · exact same ▸ List.prefix_rfl
  · exact absurd bare (not_isBare_above tree there below same)

theorem not_holdsOnly_of_names (holds : fs.names place ≠ []) (part : l <+: place) :
    ¬ HoldsOnly fs place l := by
  intro only
  obtain ⟨name, member⟩ := List.exists_mem_of_ne_nil _ holds
  exact not_concat_prefix place name
    (only (place ++ [name]) (part.trans (List.prefix_append _ _)) (mem_names_iff.1 member))

theorem Loses.emptied_iff {after : FileSystem} (loses : Loses (· = place) fs after) :
    Emptied after top place l ↔ Emptied fs top place l := by
  rw [Emptied, Emptied, loses.holdsOnly_iff]

theorem emptied_concat_of_isBare (tree : fs.IsTree) (missing : fs.get? (place ++ [name]) = none)
    (below : top <+: place ∧ place ≠ top) (bare : IsBare fs place) :
    Emptied fs top (place ++ [name]) l ↔ l = place ∨ Emptied fs top place l := by
  simp [emptied_concat missing, below, holdsOnly_of_isBare tree bare]

theorem not_emptied_concat (missing : fs.get? (place ++ [name]) = none)
    (holds : fs.names place ≠ []) : ¬ Emptied fs top (place ++ [name]) l := by
  rintro ⟨⟨-, part, other⟩, only⟩
  have part := (List.prefix_concat_iff.1 part).resolve_left other
  exact not_holdsOnly_of_names holds part ((holdsOnly_concat missing).1 only)

theorem emptied_concat_of_missing (missing : fs.get? (place ++ [name]) = none)
    (above : fs.get? place = none) (there : fs.get? l ≠ none) :
    Emptied fs top (place ++ [name]) l ↔ Emptied fs top place l := by
  rw [emptied_concat missing, or_iff_right]
  rintro ⟨rfl, -⟩
  exact there above

end

theorem mem_prunable_under_iff {root dir : Path} {names : List String} :
    dir ∈ prunable (root.under names) root ↔
      dir.anchor = root.anchor ∧ IsBetween root.parts (root.parts ++ names) dir.parts := by
  induction names using List.reverseRecOn with
  | nil =>
    rw [List.append_nil]
    refine iff_of_false (fun member => ?_) fun between => not_isBetween_self between.2
    obtain ⟨first, nonempty, part, -⟩ := mem_prunable_under member
    exact nonempty (List.prefix_nil.1 part)
  | append_singleton names name ih =>
    rw [prunable_under, ← List.append_assoc, isBetween_concat]
    by_cases empty : names = []
    · simp [empty, not_isBetween_self]
    · obtain ⟨anchor, parts⟩ := dir
      rw [if_neg empty, List.mem_cons, ih, and_or_left]
      simp [Path.under, empty]

theorem prunable_under_nil (root : Path) : prunable (root.under []) root = [] := by
  simp [List.eq_nil_iff_forall_not_mem, mem_prunable_under_iff, not_isBetween_self]

def prunedOf (after : FileSystem) (p root : Path) : List Path :=
  (prunable p root).filter fun dir => (after.get? dir.parts).isNone

theorem prunedOf_of_there {fs : FileSystem} {root : Path} {names : List String} {name : String}
    (tree : fs.IsTree) (there : fs.get? (root.parts ++ names) ≠ none) :
    prunedOf fs (root.under (names ++ [name])) root = [] := by
  rw [prunedOf, List.filter_eq_nil_iff]
  intro dir member
  have between := (mem_prunable_under_iff.1 member).2
  rw [← List.append_assoc] at between
  have part := (List.prefix_concat_iff.1 between.2.1).resolve_left between.2.2
  obtain ⟨rest, same⟩ := part
  by_cases last : rest = []
  · simpa [last, ← same, Option.isNone_iff_eq_none] using there
  · simp [tree.directory_of_append last (same ▸ there)]

section

variable {fs : FileSystem} {p : Path}

-- The two lemmas on pruning a directory, for the root as the directory that the path goes on from.
theorem pruneOne_of_descend (tree : fs.IsTree) (absolute : p.isAbsolute = true) (given : IsGiven p)
    (plain : ∀ name ∈ p.parts, IsName name) (nonempty : p.parts ≠ [])
    (found : fs.descend [] p.parts = .ok (.taken p.parts .directory)) :
    pruneOne fs p = .ok (if fs.names p.parts = [] then some (fs.erase p.parts) else none) :=
  pruneOne_directory (leads_anchor tree absolute) given plain nonempty found

theorem pruneOne_of_lacks (tree : fs.IsTree) (absolute : p.isAbsolute = true) (given : IsGiven p)
    (lacks : Lacks (fs.descend [] p.parts)) :
    ∃ fault, pruneOne fs p = .error fault ∧ fault.isMissing = true :=
  pruneOne_lacks (leads_anchor tree absolute) given lacks

end

theorem pruneEach_removes {w : World} {root : Path} {names : List String} (tree : w.files.IsTree)
    (absolute : root.isAbsolute = true) (plain : ∀ name ∈ root.parts ++ names, IsName name)
    (given : IsGiven (root.under names))
    (ends : Ends (w.files.descend [] (root.parts ++ names)))
    (missing : w.files.get? (root.parts ++ names) = none) :
    Loses (Emptied w.files root.parts (root.parts ++ names)) w.files
        (pruneEach w (prunable (root.under names) root)).1.files ∧
      (pruneEach w (prunable (root.under names) root)).2 =
        prunedOf (pruneEach w (prunable (root.under names) root)).1.files
          (root.under names) root := by
  -- Upwards from the last name: the place above is missing too, or goes, or ends it all.
  induction names using List.reverseRecOn generalizing w with
  | nil =>
    rw [prunedOf, prunable_under_nil]
    refine ⟨.refl tree fun l _ emptied => ?_, rfl⟩
    rw [Emptied, List.append_nil] at emptied
    exact not_isBetween_self emptied.1
  | append_singleton names name ih =>
    rw [← List.append_assoc] at plain ends missing ⊢
    have plain' := concat_subset plain
    have given' := given.of_append absolute
    rw [prunable_under]
    by_cases empty : names = []
    · rw [if_pos empty, prunedOf, prunable_under, if_pos empty]
      refine ⟨.refl tree fun l _ emptied => ?_, rfl⟩
      have between := isBetween_concat.1 emptied.1
      simp [empty, not_isBetween_self] at between
    rw [if_neg empty, pruneEach]
    have returned (after : FileSystem) (gone : after.get? (root.parts ++ names) = none) :
        prunedOf after (root.under (names ++ [name])) root =
          root.under names :: prunedOf after (root.under names) root := by
      rw [prunedOf, prunable_under, if_neg empty,
        List.filter_cons_of_pos (by simp [Path.under, gone])]
      rfl
    have below : root.parts <+: root.parts ++ names ∧ root.parts ++ names ≠ root.parts := by
      simp [empty]
    have absolute' : (root.under names).isAbsolute = true := absolute
    rcases descend_above tree plain' ends with found | ⟨above, lacks⟩
    · have nonempty : root.parts ++ names ≠ [] := by simp [empty]
      rw [pruneOne_of_descend tree absolute' given' plain' nonempty found]
      have there : w.files.get? (root.parts ++ names) = some .directory :=
        (follow_spec tree (get?_nil w.files) found).2
      by_cases bare : w.files.names (root.parts ++ names) = []
      · rw [if_pos (show w.files.names (root.under names).parts = [] from bare)]
        -- It goes, and with it what held only the way to it.
        have leaf := names_eq_nil_iff.1 bare
        have erased := loses_erase tree nonempty leaf
        have ends' :
            Ends ((w.files.erase (root.parts ++ names)).descend [] (root.parts ++ names)) :=
          ends_descend_of_fewer tree (fewer_erase w.files _).kept plain' (.inr ⟨_, found⟩)
        obtain ⟨loses, same⟩ := ih (w := { w with files := w.files.erase (root.parts ++ names) })
          erased.tree plain' given' ends' (erased.gone _ rfl)
        have both := (erased.trans loses).congr fun l _ => by
          rw [erased.emptied_iff, ← emptied_concat_of_isBare tree missing below ⟨there, leaf⟩]
        refine ⟨both, ?_⟩
        have gone := (erased.trans loses).gone (root.parts ++ names) (.inl rfl)
        exact (congrArg (root.under names :: ·) same).trans (returned _ gone).symm
      · rw [if_neg (show w.files.names (root.under names).parts ≠ [] from bare)]
        refine ⟨.refl tree fun l _ => not_emptied_concat missing bare, ?_⟩
        exact (prunedOf_of_there tree (by simp [there])).symm
    · obtain ⟨fault, fails, missing'⟩ := pruneOne_of_lacks tree absolute' given' lacks
      rw [fails]
      simp only [missing', if_true]
      obtain ⟨loses, same⟩ := ih tree plain' given' lacks.ends above
      have all := loses.congr fun l there => (emptied_concat_of_missing missing above there).symm
      refine ⟨all, ?_⟩
      have gone := loses.missing above
      exact (congrArg (root.under names :: ·) same).trans (returned _ gone).symm

section

variable {w : World} {p root : Path}

theorem get?_of_lacks {fs : FileSystem} (tree : fs.IsTree) (plain : p.IsPlain)
    (deletable : IsDeletable fs p) (lacks : Lacks (fs.descend [] p.parts)) :
    fs.get? p.parts = none := by
  by_contra there
  obtain ⟨e, found⟩ := Option.ne_none_iff_exists'.1 there
  have short := (deletable.2 p.parts List.prefix_rfl there).1
  rw [List.take_of_length_le (Nat.le_succ _)] at short
  have taken := descend_taken tree (get?_nil fs)
    (fun name member => ⟨isName_of_isPlain plain name member, short name member⟩) found
  rw [List.nil_append] at taken
  simp [Lacks, taken] at lacks

theorem unlinkPrune_eq_pruneEach (tree : w.files.IsTree) (absolute : root.isAbsolute = true)
    (pAbsolute : p.isAbsolute = true) (plain : p.IsPlain) (deletable : IsDeletable w.files p) :
    ∃ files, Loses (· = p.parts) w.files files ∧ Ends (files.descend [] p.parts) ∧
      unlinkPrune w p root = .ok (pruneEach { w with files } (prunable p root)) := by
  have names := isName_of_isPlain plain
  obtain ⟨told, -, never, -⟩ | ⟨files, -, removal, done⟩ :=
    unlinkPrune_cases (leads_anchor tree pAbsolute) absolute names deletable.1.free
  · exact absurd ((isDeletable_iff tree plain).1 deletable) never
  refine ⟨files, ?_⟩
  rw [← and_assoc]
  refine ⟨?_, done⟩
  -- The file goes first, if there is one, and then pruning starts from its place.
  rcases removal with ⟨rfl, lacks⟩ | ⟨content, found, rfl⟩
  · have missing := get?_of_lacks tree plain deletable lacks
    exact ⟨.refl tree fun l there same => there (same ▸ missing), lacks.ends⟩
  · have file : w.files.get? p.parts = some (.file content) :=
      (follow_spec tree (get?_nil w.files) found).2
    have nonempty : p.parts ≠ [] := by
      intro empty
      simp [empty] at file
    have leaf (name : String) := tree.none_below_file file (List.cons_ne_nil name [])
    exact ⟨loses_erase tree nonempty leaf,
      ends_descend_of_fewer tree (fewer_erase w.files _).kept names (.inr ⟨_, found⟩)⟩

theorem unlinkPrune_of_isDeletable (tree : w.files.IsTree) (absolute : root.isAbsolute = true)
    (plain : p.IsPlain) (within : p.isWithin root = true) (deletable : IsDeletable w.files p) :
    ∃ after removed, unlinkPrune w p root = .ok (after, removed) ∧
      Loses (fun l => l = p.parts ∨ Emptied w.files root.parts p.parts l) w.files after.files ∧
      removed = prunedOf after.files p root := by
  obtain ⟨files, first, ends, done⟩ := unlinkPrune_eq_pruneEach tree absolute
    (isAbsolute_of_isWithin absolute within) plain deletable
  obtain ⟨names, rfl⟩ := exists_under_of_isWithin within
  obtain ⟨pruned, returned⟩ := pruneEach_removes (w := { w with files }) first.tree absolute
    (isName_of_isPlain plain) deletable.1 ends (first.gone _ rfl)
  refine ⟨_, _, done, (first.trans pruned).congr fun l _ => ?_, returned⟩
  exact or_congr_right first.emptied_iff

theorem unlinkPrune_of_not_isDeletable (tree : w.files.IsTree) (absolute : root.isAbsolute = true)
    (plain : p.IsPlain) (within : p.isWithin root = true) (free : IsNullFree p)
    (kept : ¬ IsDeletable w.files p) :
    ∃ told, unlinkPrune w p root = .ok (told, []) ∧ told.files = w.files := by
  rw [isDeletable_iff tree plain] at kept
  have pAbsolute := isAbsolute_of_isWithin absolute within
  obtain ⟨told, same, -, done⟩ | ⟨files, given, removal, -⟩ :=
    unlinkPrune_cases (leads_anchor tree pAbsolute) absolute (isName_of_isPlain plain) free
  · exact ⟨told, done, same⟩
  · exact absurd ⟨given, removal.imp And.right fun ⟨content, found, _⟩ => ⟨content, found⟩⟩ kept

def IsFileOrFree (fs : FileSystem) (l : Location) : Prop :=
  (∃ content, fs.get? l = some (.file content)) ∨ fs.get? l = none ∧ HasWay fs [] l

theorem isDeletable_iff_of_nameable {fs : FileSystem} (tree : fs.IsTree) (nameable : Nameable p) :
    IsDeletable fs p ↔ IsFileOrFree fs p.parts := by
  have short : ∀ name ∈ p.parts, IsShort name := fun name member => (nameable.names name member).2
  constructor
  · rintro ⟨-, crosses⟩
    cases found : fs.get? p.parts with
    | none =>
      refine .inr ⟨found, fun first content part file => ?_⟩
      rcases (crosses first part (by simpa using ne_of_eq_of_ne file (by simp))).2 with
        ⟨rfl, -⟩ | ⟨-, directory⟩
      · simp [found] at file
      · cases directory.symm.trans file
    | some e =>
      rcases (crosses p.parts List.prefix_rfl (by simp [found])).2 with ⟨-, file⟩ | ⟨other, -⟩
      · cases e with
        | file content => exact .inl ⟨content, found⟩
        | link _ | directory => simp [found, Entry.isFile] at file
      · exact absurd rfl other
  · intro either
    refine ⟨⟨nameable.isNullFree, nameable.text⟩, fun l part there => ?_⟩
    refine ⟨fun name member => short name (List.mem_of_mem_take member), ?_⟩
    by_cases last : l = p.parts
    · obtain ⟨content, file⟩ := either.resolve_right fun missing => there (last ▸ missing.1)
      exact .inl ⟨last, by simp [last, file, Entry.isFile]⟩
    · -- It is a directory, as a file is below it or none is in the way.
      refine .inr ⟨last, ?_⟩
      rcases either with ⟨content, file⟩ | ⟨-, way⟩
      · obtain ⟨rest, same⟩ := part
        have longer : rest ≠ [] := by
          rintro rfl
          exact last (by simpa using same)
        exact tree.directory_of_append longer (by simp [same, file])
      · obtain ⟨e, found⟩ := Option.ne_none_iff_exists'.1 there
        cases e with
        | directory => exact found
        | file content => exact absurd found (way l content part)
        | link target => exact absurd found (tree.noLink l target)

end

/-- Deleting a file, or a missing path with no file above it, removes from a tree the file and the
directories between it and the root that held nothing but the way to it; deleting any other path
changes nothing. -/
theorem unlinkPrune_removes (w : World) (p root : Path) (tree : w.files.IsTree)
    (absolute : root.isAbsolute = true) (directory : w.files.get? root.parts = some .directory)
    (plain : p.IsPlain) (within : p.isWithin root = true) (nameable : Nameable p) :
    ∃ after removed, unlinkPrune w p root = .ok (after, removed) ∧
      (IsFileOrFree w.files p.parts →
        after.files.get? p.parts = none ∧
        (∀ l, IsBetween root.parts p.parts l → w.files.get? l = some .directory →
          (after.files.get? l = none ↔ HoldsOnly w.files p.parts l)) ∧
        after.files.get? root.parts = some .directory ∧
        ∀ l, l ≠ p.parts → ¬ (IsBetween root.parts p.parts l ∧ HoldsOnly w.files p.parts l) →
          after.files.get? l = w.files.get? l) ∧
      (¬ IsFileOrFree w.files p.parts → after.files = w.files) := by
  by_cases deletable : IsDeletable w.files p
  · obtain ⟨after, removed, done, loses, -⟩ :=
      unlinkPrune_of_isDeletable tree absolute plain within deletable
    rw [← isDeletable_iff_of_nameable tree nameable]
    refine ⟨after, removed, done, fun may => ?_, absurd deletable⟩
    refine ⟨loses.gone _ (.inl rfl), ?_, ?_, ?_⟩
    · intro l between there
      constructor
      · intro gone
        by_contra more
        have stays := loses.kept l (not_or.2 ⟨between.2.2, fun emptied => more emptied.2⟩)
        simp [gone, there] at stays
      · exact fun only => loses.gone l (.inr ⟨between, only⟩)
    · rw [loses.kept, directory]
      rintro (same | emptied)
      · rw [isDeletable_iff_of_nameable tree nameable, IsFileOrFree, ← same, directory] at may
        simp at may
      · exact emptied.1.1.2 rfl
    · exact fun l other stays => loses.kept l (not_or.2 ⟨other, stays⟩)
  · obtain ⟨told, done, same⟩ :=
      unlinkPrune_of_not_isDeletable tree absolute plain within nameable.isNullFree deletable
    rw [← isDeletable_iff_of_nameable tree nameable]
    exact ⟨told, [], done, fun may => absurd may deletable, fun _ => same⟩

def nest : World where
  files := ⟨["w"], [(["w"], .directory), (["w", "build"], .directory),
    (["w", "build", "a"], .directory), (["w", "build", "a", "b"], .directory),
    (["w", "build", "a", "b", "x.js"], .file [1]), (["w", "build", "d"], .directory)]⟩
  console := .named "none"

theorem unlinkPrune_removes_nest :
    ∃ after removed, unlinkPrune nest ⟨.root, ["w", "build", "a", "b", "x.js"]⟩
        ⟨.root, ["w", "build"]⟩ = .ok (after, removed) ∧
      after.files.get? ["w", "build", "a", "b", "x.js"] = none ∧
      after.files.get? ["w", "build", "a"] = none ∧
      after.files.get? ["w", "build"] = some .directory ∧
      after.files.get? ["w", "build", "d"] = some .directory := by
  obtain ⟨after, removed, done, removes, -⟩ := unlinkPrune_removes nest
    ⟨.root, ["w", "build", "a", "b", "x.js"]⟩ ⟨.root, ["w", "build"]⟩
    (isTree_of_entries (by decide)) rfl rfl (by decide) (by decide) (by decide +kernel)
  obtain ⟨gone, between, stays, others⟩ := removes (.inl ⟨[1], rfl⟩)
  refine ⟨after, removed, done, gone, ?_, stays, ?_⟩
  · exact (between ["w", "build", "a"] (by decide) rfl).2 (by decide)
  · exact others ["w", "build", "d"] (by decide) (by decide)

def longName : String :=
  String.ofList (List.replicate 256 'n')

theorem toList_longName : longName.toList = List.replicate 256 'n' :=
  String.toList_ofList

theorem not_isShort_longName : ¬ IsShort longName := by
  rw [IsShort, byteLength, toList_longName]
  decide +kernel

def unnameable : Path :=
  ⟨.root, ["w", "build", "d", longName]⟩

theorem forall_unnameable {holds : String → Prop} :
    (∀ name ∈ unnameable.parts, holds name) ↔
      (∀ name ∈ ["w", "build", "d"], holds name) ∧ holds longName := by
  simp [unnameable, and_assoc]

theorem isPlain_unnameable : unnameable.IsPlain := by
  refine forall_unnameable.2 ⟨by decide, ⟨?_, ?_⟩, ?_⟩
  · rw [toList_longName]
    decide +kernel
  · rw [toList_longName]
    decide +kernel
  · intro same
    have characters := congrArg String.toList same
    rw [toList_longName] at characters
    exact absurd characters (by decide +kernel)

theorem isNullFree_unnameable : IsNullFree unnameable := by
  refine forall_unnameable.2 ⟨by decide, ?_⟩
  rw [IsProper, toList_longName]
  decide +kernel

theorem unlinkPrune_keeps_emptied :
    IsFileOrFree nest.files unnameable.parts ∧
      Emptied nest.files ["w", "build"] unnameable.parts ["w", "build", "d"] ∧
      ∃ after, unlinkPrune nest unnameable ⟨.root, ["w", "build"]⟩ = .ok (after, []) ∧
        after.files.get? ["w", "build", "d"] = some .directory := by
  have kept : ¬ IsDeletable nest.files unnameable := by
    rintro ⟨-, crosses⟩
    have start := crosses ["w", "build", "d"] (by decide) (by decide)
    exact not_isShort_longName (start.1 longName (by simp [unnameable]))
  have within : unnameable.isWithin ⟨.root, ["w", "build"]⟩ = true := by decide
  obtain ⟨told, done, same⟩ := unlinkPrune_of_not_isDeletable (isTree_of_entries (by decide)) rfl
    isPlain_unnameable within isNullFree_unnameable kept
  exact ⟨.inr ⟨by decide, by decide⟩, by decide, told, done, by rw [same]; rfl⟩

end BuildPipeline.BuildTree
