import BuildPipeline.Proofs.FileSystem.Following

set_option autoImplicit false

namespace BuildPipeline.FileSystem

theorem names_eq_nil_iff {fs : FileSystem} {dir : Location} :
    fs.names dir = [] ↔ ∀ name, fs.get? (dir ++ [name]) = none := by
  rw [names, ← List.length_eq_zero_iff, List.length_mergeSort, List.length_eq_zero_iff,
    List.filterMap_eq_nil_iff]
  constructor
  · intro empty name
    rw [get?, List.lookup_eq_none_iff]
    · intro e member
      have elsewhere := empty e member
      rw [bne_iff_ne]
      intro same
      simp [nameIn?, ← same] at elsewhere
    · simp
  · intro empty e member
    rw [nameIn?]
    split
    next within =>
      rw [List.getLast?_eq_none_iff]
      -- An entry of the directory is found there under its last name.
      by_contra nonempty
      have missing := empty (e.1.getLast nonempty)
      rw [← within, List.dropLast_concat_getLast, get?, List.lookup_eq_none_iff] at missing
      · simpa using missing e member
      · exact nonempty
    next => rfl

theorem get?_erase (fs : FileSystem) {l : Location} (nonempty : l ≠ []) (m : Location) :
    (fs.erase l).get? m = if m = l then none else fs.get? m := by
  by_cases same : m = l
  · rw [if_pos same, same, get?_erase_self fs nonempty]
  · rw [if_neg same, get?_erase_ne fs same]

theorem get?_set (fs : FileSystem) {l : Location} (nonempty : l ≠ []) (e : Entry) (m : Location) :
    (fs.set l e).get? m = if m = l then some e else fs.get? m := by
  by_cases same : m = l
  · rw [if_pos same, same, get?_set_self fs nonempty]
  · rw [if_neg same, get?_set_ne fs same]

theorem IsTree.erase {fs : FileSystem} (tree : fs.IsTree) {l : Location} (nonempty : l ≠ [])
    (leaf : ∀ name, fs.get? (l ++ [name]) = none) : (fs.erase l).IsTree where
  noLink m target := by
    rw [get?_erase fs nonempty]
    split
    · simp
    · exact tree.noLink m target
  closed m name there := by
    rw [get?_erase fs nonempty] at there ⊢
    split at there
    · simp at there
    · rw [if_neg]
      · exact tree.closed m name there
      · rintro rfl
        exact there (leaf name)

theorem IsTree.set_directory {fs : FileSystem} (tree : fs.IsTree) {l : Location}
    (missing : fs.get? l = none) (parent : fs.get? l.dropLast = some .directory) :
    (fs.set l .directory).IsTree := by
  have nonempty : l ≠ [] := by
    rintro rfl
    simp at missing
  refine ⟨fun m target => ?_, fun m name there => ?_⟩
  · rw [get?_set fs nonempty]
    split
    · simp
    · exact tree.noLink m target
  · rw [get?_set fs nonempty] at there ⊢
    split
    · rfl
    split at there
    next last =>
      rw [← last, List.dropLast_concat] at parent
      exact parent
    · exact tree.closed m name there

theorem isBelow_iff {l top : Location} : isBelow l top = true ↔ top <+: l :=
  List.isPrefixOf_iff_prefix

theorem lookup_map_key {f : Location → Location} {l k : Location} {es : List (Location × Entry)}
    (keys : ∀ e ∈ es, f e.1 = l ↔ e.1 = k) :
    (es.map fun e => (f e.1, e.2)).lookup l = es.lookup k := by
  induction es with
  | nil => rfl
  | cons e es ih =>
    simp only [List.mem_cons, forall_eq_or_imp] at keys
    have same : (l == f e.1) = (k == e.1) := by
      rw [Bool.eq_iff_iff, beq_iff_eq, beq_iff_eq, eq_comm, keys.1, eq_comm]
    rw [List.map_cons, List.lookup_cons, List.lookup_cons, ih keys.2, same]

theorem get?_eraseBelow (fs : FileSystem) {top l : Location} (elsewhere : ¬ top <+: l) :
    (fs.eraseBelow top).entries.lookup l = fs.entries.lookup l := by
  rw [eraseBelow]
  induction fs.entries with
  | nil => rfl
  | cons e es ih =>
    by_cases below : isBelow e.1 top = true
    · have other : (l == e.1) = false := by
        rw [beq_eq_false_iff_ne]
        rintro rfl
        exact elsewhere (isBelow_iff.1 below)
      rw [List.filter_cons_of_neg (by simp [below]), ih, List.lookup_cons, other]
    · rw [List.filter_cons_of_pos (by simp [below]), List.lookup_cons, List.lookup_cons, ih]

def Apart (a b : Location) : Prop :=
  ¬ a <+: b ∧ ¬ b <+: a

theorem Apart.not_prefix_of_prefix {a b l : Location} (apart : Apart a b) (below : a <+: l) :
    ¬ b <+: l := by
  intro other
  rcases List.prefix_or_prefix_of_prefix below other with first | second
  · exact apart.1 first
  · exact apart.2 second

theorem Apart.ne_nil {a b : Location} (apart : Apart a b) : a ≠ [] ∧ b ≠ [] := by
  constructor <;> rintro rfl
  · exact apart.1 List.nil_prefix
  · exact apart.2 List.nil_prefix

theorem movedLocation_eq_append_iff {source target l : Location} (elsewhere : ¬ target <+: l)
    (tail : Location) : movedLocation source target l = target ++ tail ↔ l = source ++ tail := by
  rw [movedLocation]
  split
  next moved =>
    obtain ⟨part, same⟩ := isBelow_iff.1 moved
    simp [← same]
  next stays =>
    constructor
    · intro same
      exact absurd ⟨tail, same.symm⟩ elsewhere
    · intro same
      exact absurd (isBelow_iff.2 ⟨tail, same.symm⟩) stays

theorem movedLocation_eq_iff {source target l m : Location} (elsewhere : ¬ target <+: m) :
    movedLocation source target l = m ↔ l = m ∧ ¬ source <+: m := by
  rw [movedLocation]
  split
  next moved =>
    have below := isBelow_iff.1 moved
    constructor
    · intro same
      exact absurd ⟨_, same⟩ elsewhere
    · rintro ⟨rfl, stays⟩
      exact absurd below stays
  next stays =>
    constructor
    · rintro rfl
      exact ⟨rfl, fun below => stays (isBelow_iff.2 below)⟩
    · exact And.left

theorem get?_relocate (fs : FileSystem) {source target : Location} (apart : Apart source target)
    (l : Location) :
    (fs.relocate source target).get? l =
      if target <+: l then fs.get? (source ++ l.drop target.length)
      else if source <+: l then none
      else fs.get? l := by
  have notRoot := apart.ne_nil
  have left : ∀ e ∈ (fs.eraseBelow target).entries, ¬ target <+: e.1 := by
    intro e member
    rw [← isBelow_iff]
    simpa using (List.mem_filter.1 member).2
  -- The root is no entry of the list, and is below neither location.
  cases l with
  | nil => simp [notRoot]
  | cons name rest =>
    simp only [get?, relocate]
    generalize name :: rest = l
    split
    next below =>
      obtain ⟨tail, rfl⟩ := below
      rw [lookup_map_key fun e member => movedLocation_eq_append_iff (left e member) tail,
        get?_eraseBelow fs (apart.not_prefix_of_prefix (List.prefix_append source tail)),
        List.drop_left]
      cases source with
      | nil => exact absurd rfl notRoot.1
      | cons first others => rfl
    next elsewhere =>
      split
      next moved =>
        rw [List.lookup_eq_none_iff]
        intro e member
        obtain ⟨old, kept, rfl⟩ := List.mem_map.1 member
        rw [bne_iff_ne]
        intro same
        exact ((movedLocation_eq_iff elsewhere).1 same.symm).2 moved
      next stays =>
        rw [lookup_map_key fun e member => (movedLocation_eq_iff elsewhere).trans (and_iff_left stays),
          get?_eraseBelow fs elsewhere]

theorem IsTree.relocate {fs : FileSystem} (tree : fs.IsTree) {source target : Location}
    (apart : Apart source target) (parent : fs.get? target.dropLast = some .directory) :
    (fs.relocate source target).IsTree where
  noLink l link := by
    rw [get?_relocate fs apart]
    split
    · exact tree.noLink _ link
    split
    · simp
    · exact tree.noLink l link
  closed l name found := by
    rw [get?_relocate fs apart] at found ⊢
    -- The entry is below the target, or is the target, or stands elsewhere.
    by_cases below : target <+: l
    · have longer : target <+: l ++ [name] := below.trans (List.prefix_append l [name])
      rw [if_pos longer, List.drop_append_of_le_length below.length_le, ← List.append_assoc] at found
      rw [if_pos below]
      exact tree.closed _ name found
    by_cases last : target = l ++ [name]
    · have stays : ¬ source <+: l := by
        intro above
        exact apart.1 (last ▸ above.trans (List.prefix_append l [name]))
      rw [if_neg below, if_neg stays]
      rw [last, List.dropLast_concat] at parent
      exact parent
    · have shorter : ¬ target <+: l ++ [name] := by
        rw [List.prefix_concat_iff, not_or]
        exact ⟨last, below⟩
      rw [if_neg shorter] at found
      split at found
      · exact absurd rfl found
      next stays =>
        have above : ¬ source <+: l := fun above => stays (above.trans (List.prefix_append l [name]))
        rw [if_neg below, if_neg above]
        exact tree.closed l name found

end BuildPipeline.FileSystem
