import BuildPipeline.Proofs.FileSystem.Descending
import Mathlib.Data.List.Nodup
import Mathlib.Data.List.Perm.Subperm

set_option autoImplicit false

namespace BuildPipeline.FileSystem

open Sequencing

theorem nameIn?_eq_some_iff {dir l : Location} {name : String} :
    nameIn? dir l = some name ↔ l = dir ++ [name] := by
  rw [nameIn?]
  constructor
  · intro found
    split at found
    next within =>
      obtain ⟨before, rfl⟩ := List.getLast?_eq_some_iff.1 found
      rw [← within, List.dropLast_concat]
    next => cases found
  · rintro rfl
    simp

theorem get?_eq_none_iff {fs : FileSystem} {l : Location} (below : l ≠ []) :
    fs.get? l = none ↔ ∀ e ∈ fs.entries, e.1 ≠ l := by
  have entries : fs.get? l = fs.entries.lookup l := by
    cases l with
    | nil => exact absurd rfl below
    | cons => rfl
  rw [entries, List.lookup_eq_none_iff]
  exact forall₂_congr fun e _ => by simpa using not_congr eq_comm

theorem mem_entries_of_get? {fs : FileSystem} {l : Location} {e : Entry} (below : l ≠ [])
    (there : fs.get? l = some e) : (l, e) ∈ fs.entries := by
  cases l with
  | nil => exact absurd rfl below
  | cons name rest =>
    obtain ⟨before, after, entries, -⟩ := List.lookup_eq_some_iff.1 there
    simp [entries]

theorem mem_names_iff {fs : FileSystem} {dir : Location} {name : String} :
    name ∈ fs.names dir ↔ fs.get? (dir ++ [name]) ≠ none := by
  rw [names, List.mem_mergeSort, List.mem_filterMap, ne_eq, get?_eq_none_iff (by simp)]
  simp [nameIn?_eq_some_iff]

theorem names_sorted {fs : FileSystem} (distinct : (fs.entries.map Prod.fst).Nodup)
    (dir : Location) :
    (fs.names dir).Pairwise fun a b => a < b := by
  have ordered : (fs.names dir).Pairwise fun a b => decide (a ≤ b) = true :=
    List.pairwise_mergeSort
      (fun a b c => by simpa only [decide_eq_true_eq] using String.le_trans)
      (fun a b => by simpa only [Bool.or_eq_true, decide_eq_true_eq] using String.le_total a b) _
  -- A name is in a directory once, as a place is in the tree once.
  have once : (fs.names dir).Nodup := by
    rw [names, (List.mergeSort_perm _ _).nodup_iff]
    have keys : (fs.entries.filterMap fun e => nameIn? dir e.1) =
        (fs.entries.map Prod.fst).filterMap (nameIn? dir) := by
      rw [List.filterMap_map]
      rfl
    rw [keys]
    refine distinct.filterMap fun l l' name found found' => ?_
    rw [nameIn?_eq_some_iff.1 found, nameIn?_eq_some_iff.1 found']
  exact (ordered.and once).imp fun both =>
    Std.lt_of_le_of_ne (of_decide_eq_true both.1) both.2

/-- A tree as a system keeps it: each place once, under names that can lead there. -/
structure IsStored (fs : FileSystem) : Prop where
  distinct : (fs.entries.map Prod.fst).Nodup
  names : ∀ e ∈ fs.entries, ∀ name ∈ e.1, IsEntryName name ∧ IsProper name

def IsBranch (fs : FileSystem) (region : Location) (names : List String) : Prop :=
  ∀ before, before <+: names → fs.get? (region ++ before) = some .directory

section

variable {fs : FileSystem} {region : Location} {names : List String} {name : String}

theorem IsBranch.nil (here : fs.get? region = some .directory) : fs.IsBranch region [] := by
  intro before beginning
  rw [List.prefix_nil.1 beginning, List.append_nil, here]

theorem IsBranch.concat (branch : fs.IsBranch region names)
    (directory : fs.get? (region ++ names ++ [name]) = some .directory) :
    fs.IsBranch region (names ++ [name]) := by
  intro before beginning
  rcases List.prefix_concat_iff.1 beginning with rfl | shorter
  · rwa [← List.append_assoc]
  · exact branch before shorter

theorem IsBranch.get? (branch : fs.IsBranch region names) :
    fs.get? (region ++ names) = some .directory :=
  branch names (List.prefix_refl names)

theorem IsStored.names_of_get? (stored : fs.IsStored) (there : fs.get? (region ++ names) ≠ none) :
    ∀ name ∈ names, IsEntryName name ∧ IsProper name := by
  intro name member
  have below : region ++ names ≠ [] := by
    simp [List.ne_nil_of_mem member]
  rw [ne_eq, get?_eq_none_iff below] at there
  push Not at there
  obtain ⟨e, there, same⟩ := there
  exact stored.names e there name (by simp [same, member])

theorem length_le_of_branches {branches : List (List String)} (once : branches.Nodup)
    (all : ∀ names ∈ branches, fs.IsBranch region names) :
    branches.length ≤ fs.entries.length + 1 := by
  -- Each branch is an entry of its own; the root of the tree is the one directory that is none.
  have places : (branches.map (region ++ ·)).Nodup := once.map (List.append_right_injective region)
  have entries : branches.map (region ++ ·) ⊆ [] :: fs.entries.map Prod.fst := by
    intro place member
    obtain ⟨names, branch, rfl⟩ := List.mem_map.1 member
    by_cases root : region ++ names = []
    · simp [root]
    · have there : fs.get? (region ++ names) ≠ none := by simp [(all names branch).get?]
      rw [ne_eq, get?_eq_none_iff root] at there
      push Not at there
      obtain ⟨e, there, same⟩ := there
      exact List.mem_cons_of_mem _ (List.mem_map.2 ⟨e, there, same⟩)
  simpa using (places.subperm entries).length_le

theorem follow_branch {last : Bool} {through : Location → List String → Except Cause Spot}
    (entryNames : ∀ name ∈ names, IsEntryName name) (branch : fs.IsBranch region names) :
    follow fs last through region names = .ok (.taken (region ++ names) .directory) := by
  rw [follow_eq_ok_iff]
  induction names generalizing region with
  | nil => simpa using FollowsTo.done region
  | cons name rest ih =>
    simp only [List.mem_cons, forall_eq_or_imp] at entryNames
    have directory : fs.get? (region ++ [name]) = some .directory := branch [name] (by simp)
    have further : fs.IsBranch (region ++ [name]) rest := by
      intro before beginning
      simpa using branch (name :: before) (by simpa using beginning)
    exact .down entryNames.1 directory (by simpa using ih entryNames.2 further)

theorem follow_append {through : Location → List String → Except Cause Spot} {dir : Location}
    (more : List String)
    (later : ∀ dir names, through dir names = .ok (.taken region .directory) →
      ∃ links, through dir (names ++ more) = followFrom fs true links region more)
    (found : follow fs true through dir names = .ok (.taken region .directory)) :
    follow fs true through dir (names ++ more) = follow fs true through region more ∨
      ∃ links, follow fs true through dir (names ++ more) =
        followFrom fs true links region more := by
  replace found := follow_eq_ok_iff.1 found
  generalize ended : Spot.taken region .directory = spot at found
  induction found with
  | done dir =>
    cases ended
    exact .inl rfl
  | up _ ih =>
    rw [List.cons_append, follow_up]
    exact ih ended
  | here _ ih =>
    rw [List.cons_append, follow_here]
    exact ih ended
  | down entryName directory _ ih =>
    rw [List.cons_append, follow_entry entryName, directory]
    exact ih ended
  | linked entryName link _ further =>
    -- Only here are fewer links left than before.
    refine .inr ?_
    simp only [List.cons_append, follow_entry entryName, link, Bool.not_true, Bool.and_false,
      Bool.false_eq_true, if_false, ← List.append_assoc]
    exact later _ _ (ended ▸ further)
  | free | file | link => cases ended

-- Every directory on the way is one of the tree, and so are those that double dots lead back to.
theorem isDirectory_of_follow {last : Bool} {place dir : Location}
    {through : Location → List String → Except Cause Spot}
    (later : ∀ dir names, fs.IsBranch [] dir →
      through dir names = .ok (.taken place .directory) → fs.get? place = some .directory)
    (branch : fs.IsBranch [] dir)
    (found : follow fs last through dir names = .ok (.taken place .directory)) :
    fs.get? place = some .directory := by
  replace found := follow_eq_ok_iff.1 found
  generalize ended : Spot.taken place .directory = spot at found
  induction found with
  | done =>
    cases ended
    exact branch.get?
  | @up dir _ _ _ ih =>
    exact ih (fun before beginning => branch before (beginning.trans dir.dropLast_prefix)) ended
  | here _ ih => exact ih branch ended
  | down _ directory _ ih => exact ih (branch.concat directory) ended
  | linked _ _ _ further =>
    refine later _ _ ?_ (ended ▸ further)
    split
    · exact .nil rfl
    · exact branch
  | free | file | link => cases ended

theorem isDirectory_of_followFrom {links : Nat} {last : Bool} {place dir : Location}
    (branch : fs.IsBranch [] dir)
    (found : followFrom fs last links dir names = .ok (.taken place .directory)) :
    fs.get? place = some .directory := by
  induction links generalizing dir names with
  | zero => exact isDirectory_of_follow (by simp) branch found
  | succ links ih => exact isDirectory_of_follow (fun _ _ => ih) branch found

theorem followFrom_append {links : Nat} {dir : Location} (more : List String)
    (found : followFrom fs true links dir names = .ok (.taken region .directory)) :
    ∃ left, followFrom fs true links dir (names ++ more) =
      followFrom fs true left region more := by
  induction links generalizing dir names with
  | zero =>
    rcases follow_append more (by simp) found with same | ⟨left, same⟩
    · exact ⟨0, same⟩
    · exact ⟨left, same⟩
  | succ links ih =>
    rcases follow_append more (fun _ _ => ih) found with same | ⟨left, same⟩
    · exact ⟨links + 1, same⟩
    · exact ⟨left, same⟩

theorem followFrom_branch {links : Nat} {last : Bool}
    (entryNames : ∀ name ∈ names, IsEntryName name) (branch : fs.IsBranch region names) :
    followFrom fs last links region names = .ok (.taken (region ++ names) .directory) := by
  cases links <;> exact follow_branch entryNames branch

theorem findDirectory_eq_ok_iff {p : Path} {place : Location} :
    fs.findDirectory p = .ok place ↔
      holdsNull p = false ∧ fs.locate true p = .ok (.taken place .directory) := by
  rw [findDirectory, spot]
  cases holdsNull p with
  | true => simp [bind, Except.bind]
  | false =>
    cases found : fs.locate true p with
    | error cause => simp [bind, Except.bind]
    | ok spot =>
      cases spot with
      | free _ => simp [bind, Except.bind, refuse]
      | taken at' e => cases e <;> simp [bind, Except.bind, refuse]

theorem get?_of_findDirectory {p : Path} {place : Location} (absolute : p.isAbsolute = true)
    (found : fs.findDirectory p = .ok place) : fs.get? place = some .directory := by
  have leads := (findDirectory_eq_ok_iff.1 found).2
  rw [locate, start, if_pos absolute] at leads
  split at leads
  · cases leads
  · exact isDirectory_of_followFrom (.nil rfl) leads

theorem isNullFree_under (stored : fs.IsStored) {top : Path} (found : fs.findDirectory top = .ok region)
    (there : fs.get? (region ++ names) ≠ none) : IsNullFree (top.under names) := by
  have proper := (findDirectory_eq_ok_iff.1 found).1
  intro name member
  rcases List.mem_append.1 member with above | below
  · simp only [holdsNull, List.any_eq_false, List.contains_iff_mem] at proper
    exact proper name above
  · exact (stored.names_of_get? there name below).2

theorem findDirectory_under (stored : fs.IsStored) {top : Path}
    (found : fs.findDirectory top = .ok region) (branch : fs.IsBranch region names) :
    fs.findDirectory (top.under names) =
      if byteLength (top.under names).text ≤ maxPathBytes then .ok (region ++ names)
      else refuse .nameTooLong (top.under names) := by
  have there : fs.get? (region ++ names) ≠ none := by simp [branch.get?]
  have free := holdsNull_eq_false (isNullFree_under stored found there)
  by_cases short : byteLength (top.under names).text ≤ maxPathBytes
  · have leads := (findDirectory_eq_ok_iff.1 found).2
    rw [if_pos short, findDirectory_eq_ok_iff, locate, if_neg (Nat.not_lt.2 short)]
    rw [locate] at leads
    split at leads
    · cases leads
    · obtain ⟨left, same⟩ := followFrom_append names leads
      refine ⟨free, ?_⟩
      rw [← followFrom_branch (fun name member => (stored.names_of_get? there name member).1) branch,
        ← same]
      rfl
  · rw [if_neg short, findDirectory, spot, free, locate, if_pos (Nat.lt_of_not_le short)]
    rfl

end

end BuildPipeline.FileSystem
