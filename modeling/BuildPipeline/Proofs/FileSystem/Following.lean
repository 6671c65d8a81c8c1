import BuildPipeline.Proofs.FileSystem.Naming
import Mathlib.Data.List.Induction
import Mathlib.Tactic.ByContra

set_option autoImplicit false

namespace BuildPipeline.FileSystem

structure IsTree (fs : FileSystem) : Prop where
  noLink : ∀ l target, fs.get? l ≠ some (.link target)
  closed : ∀ l name, fs.get? (l ++ [name]) ≠ none → fs.get? l = some .directory

theorem isTree_of_entries {fs : FileSystem}
    (entries : ∀ e ∈ fs.entries, e.2.isLink = false ∧ fs.get? e.1.dropLast = some .directory) :
    fs.IsTree := by
  have stands {l : Location} {e : Entry} (nonempty : l ≠ []) (there : fs.get? l = some e) :
      e.isLink = false ∧ fs.get? l.dropLast = some .directory := by
    cases l with
    | nil => exact absurd rfl nonempty
    | cons name rest =>
      obtain ⟨before, after, split, -⟩ := List.lookup_eq_some_iff.1 there
      exact entries (name :: rest, e) (by simp [split])
  refine ⟨fun l target link => ?_, fun l name there => ?_⟩
  · have nonempty : l ≠ [] := by
      rintro rfl
      cases link
    exact absurd (stands nonempty link).1 (by simp [Entry.isLink])
  · obtain ⟨e, found⟩ := Option.ne_none_iff_exists'.1 there
    simpa using (stands (by simp) found).2

theorem IsTree.directory_of_append {fs : FileSystem} (tree : fs.IsTree) {l rest : Location}
    (nonempty : rest ≠ []) (there : fs.get? (l ++ rest) ≠ none) : fs.get? l = some .directory := by
  induction rest using List.reverseRecOn with
  | nil => exact absurd rfl nonempty
  | append_singleton rest name ih =>
    rw [← List.append_assoc] at there
    have above := tree.closed _ _ there
    by_cases empty : rest = []
    · simpa [empty] using above
    · exact ih empty (by simp [above])

theorem IsTree.directory_dropLast {fs : FileSystem} (tree : fs.IsTree) {l : Location}
    (there : fs.get? l ≠ none) : fs.get? l.dropLast = some .directory := by
  induction l using List.reverseRecOn with
  | nil => rfl
  | append_singleton l name ih =>
    rw [List.dropLast_concat]
    exact tree.closed l name there

theorem IsTree.none_below_file {fs : FileSystem} (tree : fs.IsTree) {l rest : Location}
    {content : List UInt8} (file : fs.get? l = some (.file content)) (nonempty : rest ≠ []) :
    fs.get? (l ++ rest) = none := by
  by_contra there
  have directory := tree.directory_of_append nonempty there
  simp [file] at directory

theorem IsTree.none_below {fs : FileSystem} (tree : fs.IsTree) {l m : Location}
    (noDirectory : fs.get? l ≠ some .directory) (below : l <+: m) (other : m ≠ l) :
    fs.get? m = none := by
  obtain ⟨rest, rfl⟩ := below
  by_contra there
  refine noDirectory (tree.directory_of_append ?_ there)
  rintro rfl
  simp at other

def settle : Location → List String → Location
  | dir, [] => dir
  | dir, name :: rest =>
    if name = ".." then settle dir.dropLast rest
    else if name = "." then settle dir rest
    else settle (dir ++ [name]) rest

theorem settle_append (dir : Location) (names more : List String) :
    settle dir (names ++ more) = settle (settle dir names) more := by
  fun_induction settle dir names <;> simp_all [settle]

def IsName (name : String) : Prop :=
  name ≠ ".." ∧ name ≠ "."

theorem settle_of_names {names : List String} (plain : ∀ name ∈ names, IsName name)
    (dir : Location) : settle dir names = dir ++ names := by
  induction names generalizing dir with
  | nil => simp [settle]
  | cons name rest ih =>
    simp only [List.mem_cons, forall_eq_or_imp] at plain
    rw [settle, if_neg plain.1.1, if_neg plain.1.2, ih plain.2, List.append_assoc,
      List.singleton_append]

def IsEntryName (name : String) : Prop :=
  IsName name ∧ IsShort name

instance (name : String) : Decidable (IsEntryName name) :=
  inferInstanceAs (Decidable ((name ≠ ".." ∧ name ≠ ".") ∧ IsShort name))

def placeOf (cwd : Location) (p : Path) : Location :=
  settle (if p.isAbsolute then [] else cwd) p.parts

def Spot.Holds (fs : FileSystem) : Spot → Prop
  | .taken place e => fs.get? place = some e
  | .free place => fs.get? place = none ∧ place ≠ [] ∧ fs.get? place.dropLast = some .directory

/-- Names lead from a directory to a spot. `through` tells what is behind a link, which the last
name passes only if `last`. -/
inductive FollowsTo (fs : FileSystem) (last : Bool)
    (through : Location → List String → Except Cause Spot) :
    Location → List String → Spot → Prop where
  | done (dir : Location) : FollowsTo fs last through dir [] (.taken dir .directory)
  | up {dir : Location} {rest : List String} {spot : Spot}
      (further : FollowsTo fs last through dir.dropLast rest spot) :
      FollowsTo fs last through dir (".." :: rest) spot
  | here {dir : Location} {rest : List String} {spot : Spot}
      (further : FollowsTo fs last through dir rest spot) :
      FollowsTo fs last through dir ("." :: rest) spot
  | down {dir : Location} {name : String} {rest : List String} {spot : Spot}
      (entryName : IsEntryName name) (directory : fs.get? (dir ++ [name]) = some .directory)
      (further : FollowsTo fs last through (dir ++ [name]) rest spot) :
      FollowsTo fs last through dir (name :: rest) spot
  | free {dir : Location} {name : String} (entryName : IsEntryName name)
      (missing : fs.get? (dir ++ [name]) = none) :
      FollowsTo fs last through dir [name] (.free (dir ++ [name]))
  | file {dir : Location} {name : String} {content : List UInt8} (entryName : IsEntryName name)
      (file : fs.get? (dir ++ [name]) = some (.file content)) :
      FollowsTo fs last through dir [name] (.taken (dir ++ [name]) (.file content))
  | link {dir : Location} {name target : String} (entryName : IsEntryName name)
      (link : fs.get? (dir ++ [name]) = some (.link target)) (stays : last = false) :
      FollowsTo fs last through dir [name] (.taken (dir ++ [name]) (.link target))
  | linked {dir : Location} {name target : String} {rest : List String} {spot : Spot}
      (entryName : IsEntryName name) (link : fs.get? (dir ++ [name]) = some (.link target))
      (passes : rest ≠ [] ∨ last = true)
      (further : through (if (Path.ofText target).isAbsolute then [] else dir)
        (linkNames target ++ rest) = .ok spot) :
      FollowsTo fs last through dir (name :: rest) spot

section

variable {fs : FileSystem} {last : Bool} {through : Location → List String → Except Cause Spot}
  {dir : Location} {name : String} {names rest : List String} {spot : Spot}

theorem follow_up :
    follow fs last through dir (".." :: rest) = follow fs last through dir.dropLast rest := by
  rw [follow, if_pos rfl]

theorem follow_here : follow fs last through dir ("." :: rest) = follow fs last through dir rest := by
  rw [follow, if_neg (by decide), if_pos rfl]

theorem follow_entry (entryName : IsEntryName name) :
    follow fs last through dir (name :: rest) = match fs.get? (dir ++ [name]) with
      | none => if rest = [] then .ok (.free (dir ++ [name])) else .error .missing
      | some .directory => follow fs last through (dir ++ [name]) rest
      | some (.file content) =>
        if rest = [] then .ok (.taken (dir ++ [name]) (.file content)) else .error .notDirectory
      | some (.link target) =>
        if rest = [] && !last then .ok (.taken (dir ++ [name]) (.link target))
        else through (if (Path.ofText target).isAbsolute then [] else dir)
          (linkNames target ++ rest) := by
  rw [follow]
  exact (if_neg entryName.1.1).trans
    ((if_neg entryName.1.2).trans (if_neg (Nat.not_lt.2 entryName.2)))

theorem followsTo_of_follow (found : follow fs last through dir names = .ok spot) :
    FollowsTo fs last through dir names spot := by
  induction names generalizing dir with
  | nil =>
    cases found
    exact .done dir
  | cons name rest ih =>
    by_cases up : name = ".."
    · subst up
      exact .up (ih (follow_up ▸ found))
    by_cases here : name = "."
    · subst here
      exact .here (ih (follow_here ▸ found))
    by_cases short : IsShort name
    · have entryName : IsEntryName name := ⟨⟨up, here⟩, short⟩
      rw [follow_entry entryName] at found
      split at found
      next missing =>
        split at found <;> cases found
        next final =>
          subst final
          exact .free entryName missing
      next directory => exact .down entryName directory (ih found)
      next content file =>
        split at found <;> cases found
        next final =>
          subst final
          exact .file entryName file
      next target link =>
        split at found
        next final =>
          cases found
          obtain ⟨rfl, stays⟩ : rest = [] ∧ last = false := by simpa using final
          exact .link entryName link stays
        next more =>
          have passes : rest ≠ [] ∨ last = true := by
            simpa [Decidable.imp_iff_not_or] using more
          exact .linked entryName link passes found
    · rw [follow, if_neg up, if_neg here, if_pos (Nat.lt_of_not_le short)] at found
      cases found

theorem FollowsTo.follow (follows : FollowsTo fs last through dir names spot) :
    follow fs last through dir names = .ok spot := by
  induction follows with
  | done dir => rfl
  | up _ ih => rw [follow_up, ih]
  | here _ ih => rw [follow_here, ih]
  | down entryName directory _ ih => rw [follow_entry entryName, directory, ih]
  | free entryName missing => simp [follow_entry entryName, missing]
  | file entryName file => simp [follow_entry entryName, file]
  | link entryName link stays => simp [follow_entry entryName, link, stays]
  | linked entryName link passes further =>
    rcases passes with more | last <;> simp_all [follow_entry entryName]

theorem follow_eq_ok_iff :
    follow fs last through dir names = .ok spot ↔ FollowsTo fs last through dir names spot :=
  ⟨followsTo_of_follow, FollowsTo.follow⟩

end

-- The directory reached so far is one of the tree; the names left decide nothing else.
theorem follow_spec {fs : FileSystem} (tree : fs.IsTree) {last : Bool}
    {through : Location → List String → Except Cause Spot} {dir : Location} {names : List String}
    {spot : Spot} (start : fs.get? dir = some .directory)
    (found : follow fs last through dir names = .ok spot) :
    spot.place = settle dir names ∧ spot.Holds fs := by
  replace found := follow_eq_ok_iff.1 found
  have settle_name {dir : Location} {name : String} (entryName : IsEntryName name) :
      dir ++ [name] = settle dir [name] :=
    (settle_of_names (List.forall_mem_singleton.2 entryName.1) dir).symm
  induction found with
  | done dir => exact ⟨rfl, start⟩
  | up _ ih =>
    rw [settle, if_pos rfl]
    exact ih (tree.directory_dropLast (by simp [start]))
  | here _ ih =>
    rw [settle, if_neg (by decide), if_pos rfl]
    exact ih start
  | down entryName directory _ ih =>
    rw [settle, if_neg entryName.1.1, if_neg entryName.1.2]
    exact ih directory
  | free entryName missing =>
    exact ⟨settle_name entryName, missing, by simp, by simpa using start⟩
  | file entryName file => exact ⟨settle_name entryName, file⟩
  | link _ link | linked _ link => exact absurd link (tree.noLink _ _)

theorem follow_congr {fs : FileSystem} (tree : fs.IsTree) (last last' : Bool)
    (through through' : Location → List String → Except Cause Spot) (dir : Location)
    (names : List String) : follow fs last through dir names = follow fs last' through' dir names := by
  induction names generalizing dir with
  | nil => rfl
  | cons name rest ih =>
    rw [follow, follow]
    split
    · exact ih _
    split
    · exact ih _
    split
    · rfl
    split
    · rfl
    · exact ih _
    · rfl
    next link => exact absurd link (tree.noLink _ _)

theorem locate_congr {fs : FileSystem} (tree : fs.IsTree) (last last' : Bool) (p : Path) :
    fs.locate last p = fs.locate last' p := by
  rw [locate, locate]
  split
  · rfl
  · exact follow_congr tree _ _ _ _ _ _

theorem last_of_follow {fs : FileSystem} (tree : fs.IsTree) {last : Bool}
    {through : Location → List String → Except Cause Spot} {dir : Location} {names : List String}
    {spot : Spot} (found : follow fs last through dir names = .ok spot) :
    (∃ place, spot = .taken place .directory) ∨ names.getLast? ≠ some ".." := by
  replace found := follow_eq_ok_iff.1 found
  -- Double dots that are not the last name may lead anywhere, as what follows decides.
  have later {dir : Location} {rest : List String} {spot : Spot} (name : String)
      (further : FollowsTo fs last through dir rest spot)
      (ends : (∃ place, spot = .taken place .directory) ∨ rest.getLast? ≠ some "..") :
      (∃ place, spot = .taken place .directory) ∨ (name :: rest).getLast? ≠ some ".." := by
    cases rest with
    | nil =>
      cases further
      exact .inl ⟨dir, rfl⟩
    | cons next others => simpa using ends
  induction found with
  | done dir => exact .inl ⟨dir, rfl⟩
  | up further ih | here further ih | down _ _ further ih => exact later _ further ih
  | free entryName _ | file entryName _ => exact .inr (by simpa using entryName.1.1)
  | link _ link | linked _ link => exact absurd link (tree.noLink _ _)

def HasStart (fs : FileSystem) (p : Path) : Prop :=
  fs.get? (fs.start p) = some .directory

theorem hasStart_of_isAbsolute (fs : FileSystem) {p : Path} (absolute : p.isAbsolute = true) :
    fs.HasStart p := by
  simp [HasStart, start, absolute]

theorem locate_spec {fs : FileSystem} (tree : fs.IsTree) {last : Bool} {p : Path} {spot : Spot}
    (start : fs.HasStart p) (found : fs.locate last p = .ok spot) :
    spot.place = placeOf fs.cwd p ∧ spot.Holds fs := by
  rw [locate] at found
  split at found
  · cases found
  · exact follow_spec tree start found

theorem last_of_locate {fs : FileSystem} (tree : fs.IsTree) {last : Bool} {p : Path} {spot : Spot}
    (found : fs.locate last p = .ok spot) :
    (∃ place, spot = .taken place .directory) ∨ p.parts.getLast? ≠ some ".." := by
  rw [locate] at found
  split at found
  · cases found
  · exact last_of_follow tree found

def Reaches (cwd : Location) (p : Path) (l : Location) : Prop :=
  placeOf cwd p = l ∧ p.parts.getLast? ≠ some ".."

end BuildPipeline.FileSystem
