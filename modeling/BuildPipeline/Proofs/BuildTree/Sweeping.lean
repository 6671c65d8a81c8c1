import BuildPipeline.Proofs.BuildTree.Faults
import BuildPipeline.Proofs.FileSystem.Descending

set_option autoImplicit false

namespace BuildPipeline.BuildTree

open FileSystem Sequencing

def IsBare (fs : FileSystem) (l : Location) : Prop :=
  fs.get? l = some .directory ∧ ∀ name, fs.get? (l ++ [name]) = none

instance (fs : FileSystem) (l : Location) : Decidable (IsBare fs l) :=
  decidable_of_iff (fs.get? l = some .directory ∧ fs.names l = []) (by rw [names_eq_nil_iff, IsBare])

theorem not_isBare_above {fs : FileSystem} {l m : Location} (tree : fs.IsTree)
    (there : fs.get? m ≠ none) (below : l <+: m) (other : l ≠ m) : ¬ IsBare fs l := by
  rintro ⟨-, bare⟩
  obtain ⟨rest, rfl⟩ := below
  cases rest with
  | nil => simp at other
  | cons name rest =>
    rw [List.append_cons] at there
    by_cases last : rest = []
    · simp [last, bare name] at there
    · have directory := tree.directory_of_append last there
      simp [bare name] at directory

def Tidy (region : Location) (before after : FileSystem) : Prop :=
  ∀ l, region <+: l → l ≠ region → IsBare after l → IsBare before l

theorem Tidy.refl (region : Location) (fs : FileSystem) : Tidy region fs fs :=
  fun _ _ _ => id

theorem Tidy.trans {region : Location} {a b c : FileSystem} (first : Tidy region a b)
    (second : Tidy region b c) : Tidy region a c :=
  fun l below other bare => first l below other (second l below other bare)

theorem above_go_congr (anchor : Anchor) (backward : List String) {parts others : List String}
    (nonempty : parts ≠ []) (nonempty' : others ≠ []) :
    Path.above.go anchor backward parts = Path.above.go anchor backward others := by
  obtain ⟨first, rest, rfl⟩ := List.exists_cons_of_ne_nil nonempty
  obtain ⟨first', rest', rfl⟩ := List.exists_cons_of_ne_nil nonempty'
  induction backward with
  | nil => simp [Path.above.go]
  | cons name others ih => simp [Path.above.go, ih]

theorem above_concat (anchor : Anchor) (parts : List String) (name : String) :
    Path.above ⟨anchor, parts ++ [name]⟩ = ⟨anchor, parts⟩ :: Path.above ⟨anchor, parts⟩ := by
  cases parts using List.reverseRecOn with
  | nil => simp [Path.above, Path.above.go]
  | append_singleton first last =>
    have same : Path.above.go anchor first.reverse (first ++ [last] ++ [name]) =
        Path.above.go anchor first.reverse (first ++ [last]) :=
      above_go_congr anchor first.reverse (by simp) (by simp)
    simpa [Path.above, Path.above.go] using same

theorem prunable_under (top : Path) (first : List String) (name : String) :
    prunable (top.under (first ++ [name])) top =
      if first = [] then [] else top.under first :: prunable (top.under first) top := by
  have above : (top.under (first ++ [name])).above = top.under first :: (top.under first).above := by
    rw [Path.under, ← List.append_assoc]
    exact above_concat _ _ _
  rw [prunable, above, List.takeWhile_cons, prunable]
  by_cases empty : first = []
  · simp [empty, Path.under]
  · have other : top.under first ≠ top := by
      intro same
      simpa [Path.under, empty] using congrArg Path.parts same
    have within : (top.under first).isWithin top = true := by simp [Path.isWithin, Path.under]
    rw [if_neg empty, if_pos (by simp [other, within])]

theorem pruneOne_directory {fs : FileSystem} {top : Path} {region : Location} {names : List String}
    (leads : Leads fs top region) (given : IsGiven (top.under names))
    (plain : ∀ name ∈ names, IsName name) (nonempty : names ≠ [])
    (found : fs.descend region names = .ok (.taken (region ++ names) .directory)) :
    pruneOne fs (top.under names) =
      .ok (if fs.names (region ++ names) = [] then some (fs.erase (region ++ names)) else none) := by
  have spot (last : Bool) : fs.spot last (top.under names) =
      .ok (.taken (region ++ names) .directory) := by
    rw [leads.spot given, found]
    rfl
  have list : fs.list (top.under names) = .ok (fs.names (region ++ names)) := by
    rw [FileSystem.list, findDirectory, spot]
    rfl
  have name : (top.under names).name ≠ ".." := by
    obtain ⟨last, found⟩ := Option.ne_none_iff_exists'.1 (mt List.getLast?_eq_none_iff.1 nonempty)
    have ending := (plain last (List.mem_of_getLast? found)).1
    simpa [Path.name, Path.under, List.getLast?_append, found] using ending
  by_cases bare : fs.names (region ++ names) = []
  · have removed : fs.removeDirectory (top.under names) = .ok (fs.erase (region ++ names)) := by
      rw [removeDirectory, spot]
      simp [bind, Except.bind, nonempty, name, bare]
    rw [pruneOne, list]
    simp [bind, Except.bind, bare, removed]
  · rw [pruneOne, list]
    simp [bind, Except.bind, bare]

theorem pruneOne_lacks {fs : FileSystem} {top : Path} {region : Location} {names : List String}
    (leads : Leads fs top region) (given : IsGiven (top.under names))
    (lacks : Lacks (fs.descend region names)) :
    ∃ fault, pruneOne fs (top.under names) = .error fault ∧ fault.isMissing = true := by
  refine ⟨.system ⟨.missing, (top.under names).text, none⟩, ?_, rfl⟩
  rw [pruneOne, FileSystem.list, findDirectory, leads.spot given true]
  rcases lacks with missing | ⟨place, free⟩
  · rw [missing]
    rfl
  · rw [free]
    rfl

theorem concat_subset {names : List String} {name : String} {holds : String → Prop}
    (all : ∀ part ∈ names ++ [name], holds part) : ∀ part ∈ names, holds part :=
  fun part member => all part (List.mem_append_left [name] member)

theorem pruneEach_leaves {w : World} {top : Path} {region : Location} {names : List String}
    (leads : Leads w.files top region) (topPlain : ∀ name ∈ top.parts, IsName name)
    (plain : ∀ name ∈ names, IsName name) (given : IsGiven (top.under names))
    (ends : Ends (w.files.descend region names)) {first : List String} (nonempty : first ≠ [])
    (part : first <+: names) (other : first ≠ names) :
    ¬ IsBare (pruneEach w (prunable (top.under names) top)).1.files (region ++ first) := by
  induction names using List.reverseRecOn generalizing w with
  | nil => exact absurd (List.prefix_nil.1 part) nonempty
  | append_singleton names name ih =>
    have shorter : first <+: names := (List.prefix_concat_iff.1 part).resolve_left other
    have namesNonempty : names ≠ [] := by
      rintro rfl
      exact nonempty (List.prefix_nil.1 shorter)
    have plain' := concat_subset plain
    have given' := given.of_append leads.absolute
    rw [prunable_under, if_neg namesNonempty, pruneEach]
    -- What is missing stays missing, and above it pruning goes on.
    have goesOn {w : World} (leads : Leads w.files top region)
        (ends : Ends (w.files.descend region names))
        (missing : w.files.get? (region ++ names) = none) :
        ¬ IsBare (pruneEach w (prunable (top.under names) top)).1.files (region ++ first) := by
      by_cases last : first = names
      · rintro ⟨directory, -⟩
        rw [last, none_of_cleared missing (evolves_prunable leads.tree (leads.isAbsolute names) top)] at directory
        cases directory
      · exact ih leads plain' given' ends shorter last
    rcases descend_above leads.tree plain' ends with found | ⟨missing, lacks⟩
    · rw [pruneOne_directory leads given' plain' namesNonempty found]
      by_cases bare : w.files.names (region ++ names) = []
      · -- It goes, and the directory above it may have become empty by that.
        have places := get?_erase w.files (l := region ++ names) (by simp [namesNonempty])
        have tree := leads.tree.erase (by simp [namesNonempty]) (names_eq_nil_iff.1 bare)
        have kept : (w.files.erase (region ++ names)).get? region = some .directory := by
          rw [places, if_neg (by simpa using Ne.symm namesNonempty)]
          exact leads.directory
        simp only [bare, if_true]
        refine goesOn (w := { w with files := w.files.erase (region ++ names) })
          (leads.of_plain topPlain tree kept) ?_ (by simp [places])
        refine ends_descend_of_fewer leads.tree (fun l e there => ?_) plain' (.inr ⟨_, found⟩)
        rw [places] at there
        split at there
        · cases there
        · exact there
      · -- It holds something, and so does each directory above it.
        simp only [bare, if_false]
        have there : w.files.get? (region ++ names) = some .directory :=
          (follow_spec leads.tree leads.directory found).2
        by_cases last : first = names
        · rintro ⟨-, empty⟩
          exact bare (names_eq_nil_iff.2 (last ▸ empty))
        · refine not_isBare_above leads.tree (m := region ++ names) (by simp [there]) ?_ (by simpa)
          exact (List.prefix_append_right_inj region).2 shorter
    · obtain ⟨fault, fails, missing'⟩ := pruneOne_lacks leads given' lacks
      rw [fails]
      simp only [missing', if_true]
      exact goesOn leads lacks.ends missing

theorem mem_prunable_under {top dir : Path} {names : List String}
    (member : dir ∈ prunable (top.under names) top) :
    ∃ first, first ≠ [] ∧ first <+: names ∧ dir = top.under first := by
  induction names using List.reverseRecOn with
  | nil =>
    -- The top lies in itself, but is not pruned.
    obtain ⟨anchor, above, below⟩ := mem_prunable member
    have kept := List.mem_takeWhile_imp member
    simp only [Path.under, List.append_nil] at below anchor
    have parts : dir.parts = top.parts := below.eq_of_length_le above.length_le
    have same : dir = top := by
      cases dir
      cases top
      simp_all
    simp [same] at kept
  | append_singleton names name ih =>
    rw [prunable_under] at member
    split at member
    · cases member
    next nonempty =>
      rcases List.mem_cons.1 member with rfl | above
      · exact ⟨names, nonempty, List.prefix_append _ _, rfl⟩
      · obtain ⟨first, nonempty, part, same⟩ := ih above
        exact ⟨first, nonempty, part.trans (List.prefix_append _ _), same⟩

theorem prunes_under {fs : FileSystem} {top : Path} {region l : Location} {names : List String}
    (leads : Leads fs top region) (plain : ∀ name ∈ names, IsName name)
    (prunes : Prunes (top.under names) top l) :
    ∃ first, first ≠ [] ∧ first <+: names ∧ l = region ++ first := by
  obtain ⟨dir, member, reaches, -⟩ := prunes
  obtain ⟨first, nonempty, part, rfl⟩ := mem_prunable_under member
  refine ⟨first, nonempty, part, ?_⟩
  rw [← reaches, leads.placeOf_under fun name there => plain name (part.subset there)]

theorem isFile_under {fs : FileSystem} {top : Path} {region : Location} {names : List String}
    (leads : Leads fs top region) (plain : ∀ name ∈ names, IsName name)
    (file : fs.isFile (top.under names) = .ok true) :
    IsGiven (top.under names) ∧ ∃ content,
      fs.descend region names = .ok (.taken (region ++ names) (.file content)) := by
  obtain ⟨free, place, e, spot, isFile⟩ := exists_spot_of_leadsTo file
  have located := locate_of_spot spot
  rw [leads.locate] at located
  split at located
  · cases located
  next short =>
    obtain ⟨same, there⟩ := follow_spec leads.tree leads.directory located
    rw [settle_of_names plain] at same
    refine ⟨⟨free, Nat.not_lt.1 short⟩, ?_⟩
    cases e with
    | file content => exact ⟨content, by rw [located, ← same]; rfl⟩
    | link _ | directory => simp [Entry.isFile] at isFile

theorem isFile_under_iff {fs : FileSystem} {top : Path} {region : Location} {names : List String}
    (leads : Leads fs top region) (plain : ∀ name ∈ names, IsName name) :
    fs.isFile (top.under names) = .ok true ↔
      (IsGiven (top.under names) ∧ ∀ name ∈ names, IsShort name) ∧
        ∃ content, fs.get? (region ++ names) = some (.file content) := by
  constructor
  · intro file
    obtain ⟨given, content, found⟩ := isFile_under leads plain file
    exact ⟨⟨given, isShort_of_descend plain found⟩, content,
      (follow_spec leads.tree leads.directory found).2⟩
  · rintro ⟨⟨given, short⟩, content, file⟩
    have found := descend_taken leads.tree leads.directory
      (fun name member => ⟨plain name member, short name member⟩) file
    have spot := leads.spot given true
    rw [found] at spot
    simp [isFile, leadsTo, entry, spot, bind, Except.bind, Entry.isFile]

def Yields (fs : FileSystem) (region : Location) (names : List String) : Prop :=
  Lacks (fs.descend region names) ∨ ∃ content,
    fs.descend region names = .ok (.taken (region ++ names) (.file content))

theorem unlink_cases {fs : FileSystem} {top : Path} {region : Location} {names : List String}
    (leads : Leads fs top region) (plain : ∀ name ∈ names, IsName name)
    (free : IsNullFree (top.under names)) :
    (IsGiven (top.under names) ∧ ∃ content,
        fs.descend region names = .ok (.taken (region ++ names) (.file content)) ∧
          fs.unlink (top.under names) = .ok (fs.erase (region ++ names))) ∨
      (IsGiven (top.under names) ∧ Lacks (fs.descend region names) ∧
        fs.unlink (top.under names) = .error (.system ⟨.missing, (top.under names).text, none⟩)) ∨
      ∃ cause ≠ .missing, ¬ (IsGiven (top.under names) ∧ Yields fs region names) ∧
        fs.unlink (top.under names) = .error (.system ⟨cause, (top.under names).text, none⟩) := by
  by_cases given : IsGiven (top.under names)
  · have spot := leads.spot given false
    cases found : fs.descend region names with
    | error cause =>
      have fails : fs.unlink (top.under names) =
          .error (.system ⟨cause, (top.under names).text, none⟩) := by
        rw [unlink, spot, found]
        rfl
      by_cases missing : cause = .missing
      · exact .inr (.inl ⟨given, .inl (by rw [missing]), missing ▸ fails⟩)
      · exact .inr (.inr ⟨cause, missing, by simp [Yields, Lacks, found, missing], fails⟩)
    | ok there =>
      obtain ⟨place, holds⟩ := follow_spec leads.tree leads.directory found
      rw [settle_of_names plain] at place
      rw [unlink, spot, found]
      cases there with
      | free place => exact .inr (.inl ⟨given, .inr ⟨_, rfl⟩, rfl⟩)
      | taken there e =>
        cases place
        cases e with
        | file content => exact .inl ⟨given, content, rfl, rfl⟩
        | link target => exact absurd holds (leads.tree.noLink _ _)
        | directory =>
          exact .inr (.inr ⟨.isDirectory, by decide, by simp [Yields, Lacks, found], rfl⟩)
  · -- The text is too long for the system, whatever its names lead to.
    have long : maxPathBytes < byteLength (top.under names).text :=
      Nat.lt_of_not_le fun text => given ⟨free, text⟩
    rw [unlink, FileSystem.spot, holdsNull_eq_false free, leads.locate, if_pos long]
    exact .inr (.inr ⟨.nameTooLong, by decide, fun both => given both.1, rfl⟩)

theorem unlinkPrune_cases {w : World} {top root : Path} {region : Location} {names : List String}
    (leads : Leads w.files top region) (absolute : root.isAbsolute = true)
    (plain : ∀ name ∈ names, IsName name) (free : IsNullFree (top.under names)) :
    (∃ told, told.files = w.files ∧
        ¬ (IsGiven (top.under names) ∧ Yields w.files region names) ∧
        unlinkPrune w (top.under names) root = .ok (told, [])) ∨
      ∃ files, IsGiven (top.under names) ∧
        (files = w.files ∧ Lacks (w.files.descend region names) ∨ ∃ content,
          w.files.descend region names = .ok (.taken (region ++ names) (.file content)) ∧
            files = w.files.erase (region ++ names)) ∧
        unlinkPrune w (top.under names) root =
          .ok (pruneEach { w with files } (prunable (top.under names) root)) := by
  rw [unlinkPrune, Path.absolute_of_isAbsolute (leads.isAbsolute names),
    Path.absolute_of_isAbsolute absolute]
  rcases unlink_cases leads plain free with
    ⟨given, content, found, done⟩ | ⟨given, lacks, fails⟩ | ⟨cause, other, never, fails⟩
  · rw [done]
    exact .inr ⟨_, given, .inr ⟨content, found, rfl⟩, rfl⟩
  · rw [fails]
    exact .inr ⟨w.files, given, .inl ⟨rfl, lacks⟩, by simp⟩
  · rw [fails]
    exact .inl ⟨_, World.files_warning w _, never, if_neg other⟩

/-- A deletion that spares what is no file to go and no directory strictly below the region. -/
structure Swept (top : Path) (region : Location) (gone : Location → Prop)
    (before after : FileSystem) : Prop where
  fewer : Fewer before after
  leads : Leads after top region
  files : ∀ l content, before.get? l = some (.file content) →
    gone l ∨ after.get? l = some (.file content)
  directories : ∀ l, ¬ (region <+: l ∧ l ≠ region) → before.get? l = some .directory →
    after.get? l = some .directory

theorem Swept.refl {top : Path} {region : Location} {fs : FileSystem} (leads : Leads fs top region)
    (gone : Location → Prop) : Swept top region gone fs fs :=
  ⟨.refl fs, leads, fun _ _ => .inr, fun _ _ => id⟩

theorem Swept.trans {top : Path} {region : Location} {gone : Location → Prop} {a b c : FileSystem}
    (first : Swept top region gone a b) (second : Swept top region gone b c) :
    Swept top region gone a c where
  fewer := first.fewer.trans second.fewer
  leads := second.leads
  files l content file := (first.files l content file).elim .inl (second.files l content)
  directories l outside directory :=
    second.directories l outside (first.directories l outside directory)

theorem Swept.mono {top : Path} {region : Location} {gone more : Location → Prop}
    {before after : FileSystem} (swept : Swept top region gone before after)
    (le : ∀ l, gone l → more l) : Swept top region more before after :=
  { swept with files := fun l content file => (swept.files l content file).imp_left (le l) }

section

variable {top : Path} {region : Location} {names : List String}

theorem swept_erase {fs : FileSystem} {content : List UInt8} (leads : Leads fs top region)
    (topPlain : ∀ name ∈ top.parts, IsName name)
    (file : fs.get? (region ++ names) = some (.file content)) :
    Swept top region (· = region ++ names) fs (fs.erase (region ++ names)) ∧
      (fs.erase (region ++ names)).get? (region ++ names) = none := by
  have notRoot : region ++ names ≠ [] := by
    intro root
    rw [root] at file
    cases file
  have places := get?_erase fs notRoot
  have spared (l : Location) (directory : fs.get? l = some .directory) :
      (fs.erase (region ++ names)).get? l = some .directory := by
    rw [places, if_neg]
    · exact directory
    · rintro rfl
      simp [file] at directory
  have tree := leads.tree.erase notRoot fun name => leads.tree.none_below_file file (by simp)
  refine ⟨⟨fewer_erase fs _, leads.of_plain topPlain tree (spared region leads.directory), ?_,
    fun l _ => spared l⟩, get?_erase_self fs notRoot⟩
  intro l other there
  by_cases same : l = region ++ names
  · exact .inl same
  · rw [places, if_neg same]
    exact .inr there

theorem swept_pruneEach {w : World} (leads : Leads w.files top region)
    (topPlain : ∀ name ∈ top.parts, IsName name) (plain : ∀ name ∈ names, IsName name) :
    Swept top region (fun _ => False) w.files
        (pruneEach w (prunable (top.under names) top)).1.files ∧
      ∀ l, w.files.get? l ≠ none →
        (pruneEach w (prunable (top.under names) top)).1.files.get? l = none →
        ∃ first, first <+: names ∧ l = region ++ first := by
  have evolves := evolves_prunable leads.tree (leads.isAbsolute names) top
  -- Only directories that the names pass go, and not the region itself.
  have change (l : Location) :
      (pruneEach w (prunable (top.under names) top)).1.files.get? l = w.files.get? l ∨
        w.files.get? l = some .directory ∧ ∃ first, first ≠ [] ∧ first <+: names ∧
          l = region ++ first := by
    rcases evolves.change l with same | ⟨-, ⟨-, impossible⟩ | ⟨directory, prunes⟩⟩
    · exact .inl same
    · exact impossible.elim
    · exact .inr ⟨directory, prunes_under leads plain prunes⟩
  have spared (l : Location) (outside : ¬ (region <+: l ∧ l ≠ region))
      (directory : w.files.get? l = some .directory) :
      (pruneEach w (prunable (top.under names) top)).1.files.get? l = some .directory := by
    rcases change l with same | ⟨-, first, nonempty, -, rfl⟩
    · rw [same, directory]
    · exact absurd ⟨List.prefix_append _ _, by simpa using nonempty⟩ outside
  refine ⟨⟨fewer_pruneEach w _, ?_, fun l content file => .inr ?_, spared⟩, fun l there missing => ?_⟩
  · exact leads.of_plain topPlain evolves.tree (spared region (by simp) leads.directory)
  · rcases change l with same | ⟨directory, -⟩
    · rw [same, file]
    · simp [file] at directory
  · rcases change l with same | ⟨-, first, -, part, place⟩
    · exact absurd (same ▸ missing) there
    · exact ⟨first, part, place⟩

theorem tidy_of_leaves {before after : FileSystem} (fewer : Fewer before after)
    (vanished : ∀ l, before.get? l ≠ none → after.get? l = none →
      ∃ first, first <+: names ∧ l = region ++ first)
    (leaves : ∀ first, first ≠ [] → first <+: names → first ≠ names →
      ¬ IsBare after (region ++ first)) : Tidy region before after := by
  rintro l ⟨rest, rfl⟩ other ⟨directory, bare⟩
  refine ⟨fewer.kept _ _ directory, fun name => ?_⟩
  -- Something that was in it has gone, so that the place is below it.
  by_contra there
  obtain ⟨first, part, same⟩ := vanished _ there (bare name)
  have same : rest ++ [name] = first := by simpa using same
  rw [← same] at part
  refine leaves rest (by simpa using other) ((List.prefix_append _ _).trans part) ?_ ⟨directory, bare⟩
  rintro rfl
  exact not_concat_prefix _ _ part

theorem exists_unlinkPrune_under {w : World} (leads : Leads w.files top region)
    (topPlain : ∀ name ∈ top.parts, IsName name) (plain : ∀ name ∈ names, IsName name)
    (free : IsNullFree (top.under names)) :
    ∃ after removed, unlinkPrune w (top.under names) top = .ok (after, removed) ∧
      Swept top region (· = region ++ names) w.files after.files ∧ Tidy region w.files after.files ∧
      (w.files.isFile (top.under names) = .ok true →
        after.files.get? (region ++ names) = none) := by
  obtain ⟨told, same, noYield, done⟩ | ⟨files, given, removal, done⟩ :=
    unlinkPrune_cases leads leads.absolute plain free
  · refine ⟨told, [], done, ?_, ?_, fun file => ?_⟩
    · rw [same]
      exact .refl leads _
    · rw [same]
      exact .refl _ _
    · obtain ⟨given, found⟩ := isFile_under leads plain file
      exact absurd ⟨given, .inr found⟩ noYield
  -- First the file goes, if there is one, and then directories do.
  have first : Swept top region (· = region ++ names) w.files files ∧
      Ends (w.files.descend region names) ∧
      (∀ l, w.files.get? l ≠ none → files.get? l = none → l = region ++ names) ∧
      (w.files.isFile (top.under names) = .ok true → files.get? (region ++ names) = none) := by
    rcases removal with ⟨rfl, lacks⟩ | ⟨content, found, rfl⟩
    · refine ⟨.refl leads _, lacks.ends, fun l there missing => absurd missing there, fun file => ?_⟩
      obtain ⟨-, content, found⟩ := isFile_under leads plain file
      rw [found] at lacks
      simp [Lacks] at lacks
    · have file := (follow_spec leads.tree leads.directory found).2
      obtain ⟨erased, gone⟩ := swept_erase leads topPlain file
      refine ⟨erased, .inr ⟨_, found⟩, fun l there missing => ?_, fun _ => gone⟩
      by_contra other
      rw [get?_erase_ne _ other] at missing
      exact there missing
  obtain ⟨removed, ends, only, gone⟩ := first
  have ends' := ends_descend_of_fewer leads.tree removed.fewer.kept plain ends
  obtain ⟨pruned, vanished⟩ := swept_pruneEach (w := { w with files }) removed.leads topPlain plain
  have both := removed.trans (pruned.mono fun _ => False.elim)
  refine ⟨_, _, done, both, tidy_of_leaves both.fewer (fun l there missing => ?_)
    (fun first nonempty part other => pruneEach_leaves (w := { w with files }) removed.leads topPlain
      plain given ends' nonempty part other), fun file => ?_⟩
  · by_cases still : files.get? l = none
    · exact ⟨names, List.prefix_rfl, only l there still⟩
    · exact vanished l still missing
  · exact pruned.fewer.missing (gone file)

def FileOrMissing (fs : FileSystem) (p : Path) : Prop :=
  fs.isFile p = .ok true ∨ fs.get? (placeOf fs.cwd p) = none

instance (fs : FileSystem) (p : Path) : Decidable (FileOrMissing fs p) :=
  inferInstanceAs (Decidable (_ ∨ _))

theorem exists_under_of_isWithin {p : Path} (within : p.isWithin top = true) :
    ∃ names, p = top.under names := by
  rw [Path.isWithin, Bool.and_eq_true, decide_eq_true_eq, List.isPrefixOf_iff_prefix] at within
  obtain ⟨anchor, names, parts⟩ := within
  exact ⟨names, by rw [Path.under, parts, ← anchor]⟩

theorem FileOrMissing.of_get? {fs after : FileSystem} {p : Path} (leads : Leads fs top region)
    (leads' : Leads after top region) (within : p.isWithin top = true)
    (plain : ∀ name ∈ p.parts, IsName name)
    (same : after.get? (placeOf [] p) = none ∨ after.get? (placeOf [] p) = fs.get? (placeOf [] p))
    (either : FileOrMissing fs p) : FileOrMissing after p := by
  obtain ⟨names, rfl⟩ := exists_under_of_isWithin within
  have plain' : ∀ name ∈ names, IsName name :=
    fun name member => plain name (List.mem_append_right top.parts member)
  rw [FileOrMissing, isFile_under_iff leads plain', leads.placeOf_under plain'] at either
  rw [FileOrMissing, isFile_under_iff leads' plain', leads'.placeOf_under plain']
  rw [leads.placeOf_under plain'] at same
  rcases same with missing | same
  · exact .inr missing
  · rwa [same]

theorem FileOrMissing.of_fewer {fs after : FileSystem} {p : Path} (leads : Leads fs top region)
    (leads' : Leads after top region) (fewer : Fewer fs after) (within : p.isWithin top = true)
    (plain : ∀ name ∈ p.parts, IsName name) (either : FileOrMissing fs p) :
    FileOrMissing after p := by
  refine either.of_get? leads leads' within plain ?_
  cases left : after.get? (placeOf [] p) with
  | none => exact .inl rfl
  | some e => exact .inr (fewer.kept _ e left).symm

theorem exists_unlinkPrune_within {w : World} {p : Path} (leads : Leads w.files top region)
    (within : p.isWithin top = true) (plain : ∀ name ∈ p.parts, IsName name) (free : IsNullFree p) :
    ∃ after removed, unlinkPrune w p top = .ok (after, removed) ∧
      Swept top region (· = placeOf [] p) w.files after.files ∧ Tidy region w.files after.files ∧
      (FileOrMissing w.files p → after.files.get? (placeOf [] p) = none) := by
  obtain ⟨names, rfl⟩ := exists_under_of_isWithin within
  have plain' : ∀ name ∈ names, IsName name :=
    fun name member => plain name (List.mem_append_right top.parts member)
  obtain ⟨after, removed, done, swept, tidy, gone⟩ := exists_unlinkPrune_under leads
    (fun name member => plain name (List.mem_append_left names member)) plain' free
  rw [leads.placeOf_under plain']
  refine ⟨after, removed, done, swept, tidy, ?_⟩
  rintro (file | missing)
  · exact gone file
  · rw [leads.placeOf_under plain'] at missing
    exact swept.fewer.missing missing

def PlacesOf (top : Path) (paths : List Path) (l : Location) : Prop :=
  ∃ p ∈ paths, p.isWithin top = true ∧ l = placeOf [] p

theorem PlacesOf.of_tail {p : Path} {paths : List Path} {l : Location}
    (places : PlacesOf top paths l) : PlacesOf top (p :: paths) l := by
  obtain ⟨q, member, rest⟩ := places
  exact ⟨q, List.mem_cons_of_mem p member, rest⟩

structure Sweeps (top : Path) (region : Location) (paths : List Path)
    (before after : FileSystem) : Prop where
  swept : Swept top region (PlacesOf top paths) before after
  tidy : Tidy region before after
  gone : ∀ p ∈ paths, p.isWithin top = true → FileOrMissing before p →
    after.get? (placeOf [] p) = none

theorem Sweeps.refl {fs : FileSystem} (leads : Leads fs top region) : Sweeps top region [] fs fs :=
  ⟨.refl leads _, .refl _ _, by simp⟩

theorem Sweeps.cons_outside {p : Path} {paths : List Path} {before after : FileSystem}
    (sweeps : Sweeps top region paths before after) (outside : p.isWithin top ≠ true) :
    Sweeps top region (p :: paths) before after := by
  refine ⟨sweeps.swept.mono fun l => PlacesOf.of_tail, sweeps.tidy, ?_⟩
  simp only [List.mem_cons, forall_eq_or_imp]
  exact ⟨fun within => absurd within outside, sweeps.gone⟩

theorem Sweeps.cons {p : Path} {paths : List Path} {before between after : FileSystem}
    (leads : Leads before top region) (within : p.isWithin top = true)
    (plain : ∀ q ∈ paths, q.isWithin top = true → ∀ name ∈ q.parts, IsName name)
    (swept : Swept top region (· = placeOf [] p) before between) (tidy : Tidy region before between)
    (gone : FileOrMissing before p → between.get? (placeOf [] p) = none)
    (sweeps : Sweeps top region paths between after) : Sweeps top region (p :: paths) before after := by
  have first : Swept top region (PlacesOf top (p :: paths)) before between := by
    refine swept.mono ?_
    rintro l rfl
    exact ⟨p, List.mem_cons_self, within, rfl⟩
  refine ⟨first.trans (sweeps.swept.mono fun l => PlacesOf.of_tail), tidy.trans sweeps.tidy, ?_⟩
  simp only [List.mem_cons, forall_eq_or_imp]
  refine ⟨fun _ either => sweeps.swept.fewer.missing (gone either), fun q member inside either => ?_⟩
  exact sweeps.gone q member inside
    (either.of_fewer leads swept.leads swept.fewer inside (plain q member inside))

theorem of_unlinkPrune {w after : World} {p : Path} {removed : List Path}
    (leads : Leads w.files top region) (within : p.isWithin top = true)
    (plain : ∀ name ∈ p.parts, IsName name) (done : unlinkPrune w p top = .ok (after, removed)) :
    Swept top region (· = placeOf [] p) w.files after.files ∧ Tidy region w.files after.files ∧
      (FileOrMissing w.files p → after.files.get? (placeOf [] p) = none) := by
  by_cases free : IsNullFree p
  · obtain ⟨after', removed', done', swept⟩ := exists_unlinkPrune_within leads within plain free
    cases done.symm.trans done'
    exact swept
  · have absolute := isAbsolute_of_isWithin leads.absolute within
    rw [unlinkPrune, Path.absolute_of_isAbsolute absolute, unlink_of_null _ free] at done
    cases done

theorem swept_deleteInputs {w : World} {inputs : List Path} (leads : Leads w.files top region)
    (plain : ∀ p ∈ inputs, p.isWithin top = true → ∀ name ∈ p.parts, IsName name) :
    Swept top region (PlacesOf top inputs) w.files (deleteInputs top w inputs).1.files ∧
      Tidy region w.files (deleteInputs top w inputs).1.files ∧
      ∀ gone, (deleteInputs top w inputs).2 = .ok gone →
        Sweeps top region inputs w.files (deleteInputs top w inputs).1.files := by
  induction inputs generalizing w with
  | nil => exact ⟨.refl leads _, .refl _ _, fun _ _ => .refl leads⟩
  | cons input rest ih =>
    simp only [List.mem_cons, forall_eq_or_imp] at plain
    rw [deleteInputs]
    by_cases within : input.isWithin top = true
    · rw [within]
      simp only [Bool.not_true, Bool.false_eq_true, if_false]
      split
      next => exact ⟨.refl leads _, .refl _ _, fun _ ok => by cases ok⟩
      next after removed done =>
        obtain ⟨swept, tidy, none⟩ := of_unlinkPrune leads within (plain.1 within) done
        have first : Swept top region (PlacesOf top (input :: rest)) w.files after.files :=
          swept.mono fun l same => ⟨input, List.mem_cons_self, within, same⟩
        split
        next => exact ⟨first, tidy, fun _ ok => by cases ok⟩
        next =>
          obtain ⟨later, tidies, sweeps⟩ := ih swept.leads plain.2
          refine ⟨first.trans (later.mono fun l => PlacesOf.of_tail), tidy.trans tidies, fun _ ok => ?_⟩
          obtain ⟨gone, ok, -⟩ := map_eq_ok_iff.1 ok
          exact (sweeps gone ok).cons leads within plain.2 swept tidy none
    · obtain ⟨swept, tidy, sweeps⟩ := ih (w := w.debug
        ("Keeping bundler input outside the build tree: " ++ input.text)) leads plain.2
      rw [if_pos (by simpa using within)]
      exact ⟨swept.mono fun l => PlacesOf.of_tail, tidy, fun gone ok => (sweeps gone ok).cons_outside within⟩

theorem sweeps_deleteInputs {w : World} {inputs : List Path} (leads : Leads w.files top region)
    (plain : ∀ p ∈ inputs, p.isWithin top = true → ∀ name ∈ p.parts, IsName name)
    (nameable : ∀ p ∈ inputs, p.isWithin top = true → Nameable p) :
    ∃ after gone, deleteInputs top w inputs = (after, .ok gone) ∧
      Sweeps top region inputs w.files after.files := by
  have links : w.files.HasShortLinks := fun l target link => absurd link (leads.tree.noLink l target)
  obtain ⟨after, gone, done, -⟩ := exists_deleteInputs top links fun p member within =>
    ⟨isAbsolute_of_isWithin leads.absolute within, nameable p member within⟩
  have sweeps := (swept_deleteInputs leads plain).2.2 gone
  rw [done] at sweeps
  exact ⟨after, gone, done, sweeps rfl⟩

theorem swept_removeTransient {w : World} {transient : List Path} (leads : Leads w.files top region)
    (plain : ∀ p ∈ transient.map (Path.absolute ⟨.root, w.files.cwd⟩), p.isWithin top = true →
      ∀ name ∈ p.parts, IsName name) :
    Tidy region w.files (removeTransient top w transient).1.files ∧
      ((removeTransient top w transient).2 = .ok () →
        Sweeps top region (transient.map (Path.absolute ⟨.root, w.files.cwd⟩)) w.files
          (removeTransient top w transient).1.files) := by
  induction transient generalizing w with
  | nil => exact ⟨.refl _ _, fun _ => .refl leads⟩
  | cons artifact rest ih =>
    simp only [List.map_cons, List.mem_cons, forall_eq_or_imp] at plain
    rw [removeTransient]
    by_cases within : (Path.absolute ⟨.root, w.files.cwd⟩ artifact).isWithin top = true
    · simp only [within, if_true]
      split
      next => exact ⟨.refl _ _, fun ok => by cases ok⟩
      next after removed done =>
        obtain ⟨swept, tidy, none⟩ := of_unlinkPrune leads within (plain.1 within) done
        have later := ih (w := after) swept.leads
        rw [swept.fewer.cwd] at later
        obtain ⟨tidies, sweeps⟩ := later plain.2
        exact ⟨tidy.trans tidies, fun ok => (sweeps ok).cons leads within plain.2 swept tidy none⟩
    · obtain ⟨tidy, sweeps⟩ := ih leads plain.2
      simp only [if_neg within]
      exact ⟨tidy, fun ok => (sweeps ok).cons_outside within⟩

theorem sweeps_removeTransient {w : World} {transient : List Path} (leads : Leads w.files top region)
    (plain : ∀ p ∈ transient.map (Path.absolute ⟨.root, w.files.cwd⟩), p.isWithin top = true →
      ∀ name ∈ p.parts, IsName name)
    (free : ∀ p ∈ transient.map (Path.absolute ⟨.root, w.files.cwd⟩), p.isWithin top = true →
      IsNullFree p) :
    ∃ after, removeTransient top w transient = (after, .ok ()) ∧
      Sweeps top region (transient.map (Path.absolute ⟨.root, w.files.cwd⟩)) w.files after.files := by
  obtain ⟨after, done⟩ := exists_removeTransient top fun artifact member =>
    free _ (List.mem_map_of_mem member)
  have sweeps := (swept_removeTransient leads plain).2
  rw [done] at sweeps
  exact ⟨after, done, sweeps rfl⟩

end

end BuildPipeline.BuildTree
