import BuildPipeline.Proofs.BuildTree.Removing

set_option autoImplicit false

/-!
What deleting several paths takes away, told by the tree as it was before: an entry goes if it and
all below it is on the way of one of the paths. So the order of the paths does not matter.
-/

namespace BuildPipeline.BuildTree

open BuildPipeline.Bundler (Manifest)
open FileSystem Sequencing

/-- An entry that deleting one of some paths may take away: its file, or a directory on its way
below the root. -/
def Expendable (fs : FileSystem) (root : Path) (paths : List Path) (l : Location) : Prop :=
  ∃ p ∈ paths, (p.isWithin root = true ∧ IsGiven p) ∧ (l <+: p.parts ∧ Crosses fs [] p.parts l) ∧
    (fs.get? l = some .directory → root.parts <+: l ∧ l ≠ root.parts)

instance (fs : FileSystem) (root : Path) (paths : List Path) (l : Location) :
    Decidable (Expendable fs root paths l) :=
  inferInstanceAs (Decidable (∃ p ∈ paths, _))

def Vacates (fs : FileSystem) (root : Path) (paths : List Path) (l : Location) : Prop :=
  ∀ m, l <+: m → fs.get? m ≠ none → Expendable fs root paths m

instance (fs : FileSystem) (root : Path) (paths : List Path) (l : Location) :
    Decidable (Vacates fs root paths l) :=
  decidable_of_iff ((l <+: [] → Expendable fs root paths []) ∧
      ∀ e ∈ fs.entries, l <+: e.1 → Expendable fs root paths e.1) <| by
    rw [← forall_there_iff fun m => l <+: m → Expendable fs root paths m, Vacates]
    exact forall_congr' fun m => forall_comm

section

variable {fs between : FileSystem} {root p : Path} {paths others : List Path} {l : Location}

theorem Vacates.mono (vacates : Vacates fs root paths l) (subset : ∀ p ∈ paths, p ∈ others) :
    Vacates fs root others l := by
  intro m below there
  obtain ⟨p, member, expends⟩ := vacates m below there
  exact ⟨p, subset p member, expends⟩

theorem vacates_congr (same : ∀ p, p ∈ paths ↔ p ∈ others) :
    Vacates fs root paths l ↔ Vacates fs root others l :=
  ⟨fun vacates => vacates.mono fun p => (same p).1, fun vacates => vacates.mono fun p => (same p).2⟩

theorem loses_vacates_nil (tree : fs.IsTree) : Loses (Vacates fs root []) fs fs := by
  refine .refl tree fun l there vacates => ?_
  obtain ⟨p, member, -⟩ := vacates l List.prefix_rfl there
  simp at member

theorem vacates_of_missing (tree : fs.IsTree) (missing : fs.get? l = none) :
    Vacates fs root paths l := by
  intro m below there
  by_cases same : m = l
  · exact absurd missing (same ▸ there)
  · exact absurd (tree.none_below (by simp [missing]) below same) there

theorem Crosses.above {names : List String} {m : Location} (crosses : Crosses fs [] names l)
    (tree : fs.IsTree) (part : l <+: names) (there : fs.get? l ≠ none) (above : m <+: l) :
    Crosses fs [] names m := by
  by_cases same : m = l
  · rwa [same]
  have shorter : m.length < l.length :=
    Nat.lt_of_le_of_ne above.length_le fun length => same (above.eq_of_length length)
  have other : m ≠ names := by
    rintro rfl
    exact absurd part.length_le (Nat.not_le.2 shorter)
  obtain ⟨rest, rfl⟩ := above
  refine ⟨fun name member => crosses.1 name ?_, .inr ⟨other, ?_⟩⟩
  · exact (List.take_subset_take_left names (by omega)) member
  · exact tree.directory_of_append (by rintro rfl; simp at same) there

theorem vacates_singleton_iff (tree : fs.IsTree) (there : fs.get? l ≠ none) :
    Vacates fs root [p] l ↔ (p.isWithin root = true ∧ IsDeletable fs p) ∧
      (l = p.parts ∨ Emptied fs root.parts p.parts l) := by
  constructor
  · intro vacates
    have expends (m : Location) (below : l <+: m) (stands : fs.get? m ≠ none) :
        (p.isWithin root = true ∧ IsGiven p) ∧ (m <+: p.parts ∧ Crosses fs [] p.parts m) ∧
          (fs.get? m = some .directory → root.parts <+: m ∧ m ≠ root.parts) := by
      simpa [Expendable] using vacates m below stands
    obtain ⟨⟨within, given⟩, ⟨part, crosses⟩, inside⟩ := expends l List.prefix_rfl there
    refine ⟨⟨within, given, fun m part' stands => ?_⟩, ?_⟩
    -- Another entry on the way is below this one and goes with it, or it is above.
    · rcases List.prefix_or_prefix_of_prefix part part' with below | above
      · exact (expends m below stands).2.1.2
      · exact crosses.above tree part there above
    · rcases crosses.2 with ⟨same, -⟩ | ⟨other, directory⟩
      · exact .inl same
      · refine .inr ⟨⟨inside directory, part, other⟩, fun m below stands => ?_⟩
        exact (expends m below stands).2.1.1
  · rintro ⟨⟨within, given, crosses⟩, either⟩ m below stands
    have expends (part : m <+: p.parts)
        (inside : fs.get? m = some .directory → root.parts <+: m ∧ m ≠ root.parts) :
        Expendable fs root [p] m :=
      ⟨p, List.mem_singleton_self p, ⟨within, given⟩, ⟨part, crosses m part stands⟩, inside⟩
    rcases either with rfl | ⟨⟨⟨above, other⟩, -⟩, only⟩
    · have noDirectory : fs.get? p.parts ≠ some .directory := by
        intro directory
        have file := (crosses p.parts List.prefix_rfl there).2
        simp [directory, Entry.isFile] at file
      by_cases same : m = p.parts
      · exact expends (same ▸ List.prefix_rfl) fun directory =>
          absurd (same ▸ directory) noDirectory
      · exact absurd (tree.none_below noDirectory below same) stands
    · refine expends (only m below stands) fun _ => ⟨above.trans below, ?_⟩
      rintro rfl
      exact other (below.eq_of_length_le above.length_le)

def unlinkOrSkip (root : Path) (w : World) (p : Path) : World :=
  match unlinkPrune w p root with
  | .ok (after, _) => after
  | .error _ => w

theorem loses_unlinkOrSkip {w : World} (tree : w.files.IsTree) (absolute : root.isAbsolute = true)
    (plain : p.IsPlain) (within : p.isWithin root = true) :
    Loses (Vacates w.files root [p]) w.files (unlinkOrSkip root w p).files := by
  have nothing (kept : ¬ IsDeletable w.files p) :
      Loses (Vacates w.files root [p]) w.files w.files :=
    .refl tree fun l there vacates => kept ((vacates_singleton_iff tree there).1 vacates).1.2
  by_cases deletable : IsDeletable w.files p
  · obtain ⟨after, removed, done, loses, -⟩ :=
      unlinkPrune_of_isDeletable tree absolute plain within deletable
    rw [unlinkOrSkip, done]
    refine loses.congr fun l there => ?_
    rw [vacates_singleton_iff tree there, and_iff_right ⟨within, deletable⟩]
  by_cases free : IsNullFree p
  · obtain ⟨told, done, same⟩ :=
      unlinkPrune_of_not_isDeletable tree absolute plain within free deletable
    rw [unlinkOrSkip, done]
    exact same ▸ nothing deletable
  · have refused : unlinkPrune w p root = .error .nullCharacter := by
      rw [unlinkPrune, Path.absolute_of_isAbsolute (isAbsolute_of_isWithin absolute within),
        unlink_of_null _ free]
    rw [unlinkOrSkip, refused]
    exact nothing deletable

theorem vacates_append (tree : fs.IsTree) (first : Loses (Vacates fs root paths) fs between) :
    Vacates fs root (paths ++ others) l ↔
      Vacates fs root paths l ∨ Vacates between root others l := by
  have expendable_iff {paths : List Path} {m : Location} (same : between.get? m = fs.get? m) :
      Expendable between root paths m ↔ Expendable fs root paths m := by
    simp only [Expendable, Crosses, List.nil_append, same]
  constructor
  · refine fun vacates => .inr fun m below stands => ?_
    obtain ⟨stays, same⟩ := first.of_there stands
    rw [same] at stands
    obtain ⟨-, -, -, -, inside⟩ := vacates m below stands
    -- Something at or below the entry has not gone with the first paths, so that it is on the way
    -- of one of the others, and so is the entry.
    simp only [Vacates, not_forall] at stays
    obtain ⟨m', below', stands', stays'⟩ := stays
    obtain ⟨p, member, given, ⟨part, crosses⟩, inside'⟩ := vacates m' (below.trans below') stands'
    have later : p ∈ others := (List.mem_append.1 member).resolve_left fun earlier =>
      stays' ⟨p, earlier, given, ⟨part, crosses⟩, inside'⟩
    exact (expendable_iff same).2
      ⟨p, later, given, ⟨below'.trans part, crosses.above tree part stands' below'⟩, inside⟩
  · rintro (vacates | vacates)
    · exact vacates.mono fun p => List.mem_append_left others
    · intro m below stands
      by_cases gone : between.get? m = none
      · have earlier : Vacates fs root paths m :=
          by_contra fun stays => stands ((first.kept m stays).symm.trans gone)
        exact earlier.mono (fun p => List.mem_append_left others) m List.prefix_rfl stands
      · have same := (first.of_there gone).2
        obtain ⟨p, member, expends⟩ := (expendable_iff same).1 (vacates m below gone)
        exact ⟨p, List.mem_append_right paths member, expends⟩

theorem loses_append (tree : fs.IsTree) {after : FileSystem}
    (first : Loses (Vacates fs root paths) fs between)
    (second : Loses (Vacates between root others) between after) :
    Loses (Vacates fs root (paths ++ others)) fs after :=
  (first.trans second).congr fun _ _ => (vacates_append tree first).symm

theorem vacates_concat_of_outside (outside : p.isWithin root ≠ true) :
    Vacates fs root (paths ++ [p]) l ↔ Vacates fs root paths l := by
  simp [Vacates, Expendable, or_and_right, exists_or, outside]

theorem get?_eq_none_iff_vacates (tree : fs.IsTree)
    (loses : Loses (Vacates fs root paths) fs between) :
    between.get? l = none ↔ Vacates fs root paths l :=
  ⟨fun missing => by_contra fun stays =>
    stays (vacates_of_missing tree ((loses.kept l stays).symm.trans missing)), loses.gone l⟩

end

def unlinkEach (root : Path) (w : World) (paths : List Path) : World :=
  paths.foldl (unlinkOrSkip root) w

theorem loses_unlinkEach {w : World} {root : Path} {paths : List Path} (tree : w.files.IsTree)
    (absolute : root.isAbsolute = true)
    (inside : ∀ p ∈ paths, p.IsPlain ∧ p.isWithin root = true) :
    Loses (Vacates w.files root paths) w.files (unlinkEach root w paths).files := by
  induction paths generalizing w with
  | nil => exact loses_vacates_nil tree
  | cons p rest ih =>
    simp only [List.mem_cons, forall_eq_or_imp] at inside
    have first := loses_unlinkOrSkip tree absolute inside.1.1 inside.1.2
    exact loses_append tree first (ih first.tree inside.2)

theorem descend_of_there {fs : FileSystem} {dir : Location} {names : List String} {e : Entry}
    (tree : fs.IsTree) (here : fs.get? dir = some .directory) (plain : ∀ name ∈ names, IsName name)
    (there : fs.get? (dir ++ names) = some e) :
    fs.descend dir names = .ok (.taken (dir ++ names) e) ∨
      fs.descend dir names = .error .nameTooLong := by
  by_cases short : ∀ name ∈ names, IsShort name
  · have entries (name : String) (member : name ∈ names) : IsEntryName name :=
      ⟨plain name member, short name member⟩
    exact .inl (descend_taken tree here entries there)
  refine .inr ?_
  -- Up to the first name that is too long, all names are those of directories.
  induction names generalizing dir with
  | nil => simp at short
  | cons name rest ih =>
    simp only [List.mem_cons, forall_eq_or_imp] at plain short
    by_cases first : IsShort name
    · have later := fun all => short ⟨first, all⟩
      have longer : rest ≠ [] := by
        rintro rfl
        simp at later
      rw [List.append_cons] at there
      have directory : fs.get? (dir ++ [name]) = some .directory :=
        tree.directory_of_append longer (ne_of_eq_of_ne there (Option.some_ne_none e))
      rw [descend_cons fs dir ⟨plain.1, first⟩, directory]
      exact ih directory plain.2 there later
    · exact descend_long fs dir plain.1 first rest

theorem pathExists_spec {fs : FileSystem} {p : Path} {there : Bool} (tree : fs.IsTree)
    (absolute : p.isAbsolute = true) (plain : p.IsPlain) (free : IsNullFree p)
    (asked : fs.pathExists p = .ok there) : there = true ↔ fs.get? p.parts ≠ none := by
  -- Only a name that is too long could make the answer wrong, and then there is none.
  constructor
  · rintro rfl
    obtain ⟨-, place, e, spot, -⟩ := exists_spot_of_leadsTo asked
    obtain ⟨same, holds⟩ :=
      locate_spec tree (fs.hasStart_of_isAbsolute absolute) (locate_of_spot spot)
    rw [placeOf_of_isAbsolute absolute, settle_of_names (isName_of_isPlain plain)] at same
    have found : fs.get? ([] ++ p.parts) = some e := same ▸ holds
    simpa using ne_of_eq_of_ne found (by simp)
  · intro stands
    obtain ⟨e, found⟩ := Option.ne_none_iff_exists'.1 stands
    have located : fs.locate true p = .ok (.taken p.parts e) ∨
        fs.locate true p = .error .nameTooLong := by
      have reached := (leads_anchor tree absolute).locate true p.parts
      split at reached
      · exact .inr reached
      · exact (descend_of_there tree (get?_nil fs) (isName_of_isPlain plain) found).imp
          reached.trans reached.trans
    rw [pathExists, leadsTo, entry, spot, holdsNull_eq_false free] at asked
    rcases located with taken | long
    · simpa [taken, bind, Except.bind, eq_comm] using asked
    · simp [long, bind, Except.bind, leadsNowhere] at asked

def goneInputs (fs : FileSystem) (top : Path) (before : List Path) : List Path → List Path
  | [] => []
  | input :: rest =>
    if input.isWithin top ∧ Vacates fs top (before ++ [input]) input.parts then
      input :: goneInputs fs top (before ++ [input]) rest
    else goneInputs fs top (before ++ [input]) rest

theorem isNullFree_of_unlinkPrune {w after : World} {p root : Path} {removed : List Path}
    (absolute : p.isAbsolute = true) (done : unlinkPrune w p root = .ok (after, removed)) :
    IsNullFree p := by
  by_contra null
  rw [unlinkPrune, Path.absolute_of_isAbsolute absolute, unlink_of_null _ null] at done
  cases done

theorem deleteInputs_removes {fs : FileSystem} {w after : World} {top : Path}
    {before inputs gone : List Path} (tree : fs.IsTree) (absolute : top.isAbsolute = true)
    (plain : ∀ p ∈ inputs, p.isWithin top = true → p.IsPlain)
    (earlier : Loses (Vacates fs top before) fs w.files)
    (done : deleteInputs top w inputs = (after, .ok gone)) :
    Loses (Vacates fs top (before ++ inputs)) fs after.files ∧
      gone = goneInputs fs top before inputs := by
  induction inputs generalizing w before gone with
  | nil =>
    cases done
    rw [List.append_nil]
    exact ⟨earlier, rfl⟩
  | cons input rest ih =>
    simp only [List.mem_cons, forall_eq_or_imp] at plain
    rw [List.append_cons, goneInputs]
    rw [deleteInputs] at done
    by_cases within : input.isWithin top = true
    · have inputAbsolute := isAbsolute_of_isWithin absolute within
      simp only [within, Bool.not_true, Bool.false_eq_true, if_false] at done
      split at done
      · cases done
      next next removed unlinked =>
        have step := loses_unlinkOrSkip earlier.tree absolute (plain.1 within) within
        rw [unlinkOrSkip, unlinked] at step
        have sofar := loses_append tree earlier step
        split at done
        · cases done
        next there asked =>
          -- It is told to be gone if this deletion or an earlier one has taken it.
          have answer := pathExists_spec sofar.tree inputAbsolute (plain.1 within)
            (isNullFree_of_unlinkPrune inputAbsolute unlinked) asked
          rw [ne_eq, get?_eq_none_iff_vacates tree sofar] at answer
          obtain ⟨later, told⟩ := Prod.mk.inj done
          obtain ⟨more, deleted, told⟩ := map_eq_ok_iff.1 told
          obtain ⟨loses, same⟩ := ih plain.2 sofar (Prod.ext later deleted)
          refine ⟨loses, ?_⟩
          cases there with
          | true =>
            rw [if_neg fun both => answer.1 rfl both.2, ← told, same]
            rfl
          | false =>
            rw [if_pos ⟨within, by simpa using answer⟩, ← told, same]
            rfl
    · rw [if_pos (by simpa using within)] at done
      have sofar := earlier.congr fun l _ => (vacates_concat_of_outside within).symm
      obtain ⟨loses, same⟩ := ih plain.2 (w := w.debug _) sofar done
      exact ⟨loses, by rw [if_neg fun both => within both.1, same]⟩

theorem Loses.unique {lost : Location → Prop} {fs a b : FileSystem} (first : Loses lost fs a)
    (second : Loses lost fs b) (l : Location) : a.get? l = b.get? l := by
  by_cases goes : lost l
  · rw [first.gone l goes, second.gone l goes]
  · rw [first.kept l goes, second.kept l goes]

theorem loses_deleteInputs {w : World} {root : Path} {inputs gone : List Path}
    (tree : w.files.IsTree) (absolute : root.isAbsolute = true)
    (plain : ∀ p ∈ inputs, p.isWithin root = true → p.IsPlain)
    (done : (deleteInputs root w inputs).2 = .ok gone) :
    Loses (Vacates w.files root inputs) w.files (deleteInputs root w inputs).1.files :=
  (deleteInputs_removes tree absolute plain (loses_vacates_nil tree) (Prod.ext rfl done)).1

theorem exists_gone {w : World} {root : Path} {inputs : List Path} (tree : w.files.IsTree)
    (absolute : root.isAbsolute = true)
    (nameable : ∀ p ∈ inputs, p.isWithin root = true → Nameable p) :
    ∃ gone, (deleteInputs root w inputs).2 = .ok gone := by
  have links : w.files.HasShortLinks := fun l target link => absurd link (tree.noLink l target)
  obtain ⟨after, gone, done, -⟩ := exists_deleteInputs root links fun p member within =>
    ⟨isAbsolute_of_isWithin absolute within, nameable p member within⟩
  exact ⟨gone, by rw [done]⟩

def deleteInputsOf (root : Path) (w : World) (m : Manifest) :
    World × Except AccessFault (List Path) :=
  deleteInputs root w (inputPaths ⟨.root, w.files.cwd⟩ m)

/-- Paths below a root leave the same tree in whatever order they are deleted. So do the inputs of a
manifest, where the deletion comes to its end, as it does if the inputs in the tree can be named. -/
theorem deletes_in_any_order (w : World) (root : Path) (tree : w.files.IsTree)
    (absolute : root.isAbsolute = true) :
    (∀ paths others : List Path, paths.Perm others →
      (∀ p ∈ paths, p.IsPlain ∧ p.isWithin root = true) →
      ∀ l, (unlinkEach root w paths).files.get? l = (unlinkEach root w others).files.get? l) ∧
    ∀ m m' : Manifest, m.inputs.Perm m'.inputs → m.workingDir = m'.workingDir →
      (∀ p ∈ inputPaths ⟨.root, w.files.cwd⟩ m, p.isWithin root = true → p.IsPlain) →
      (∀ gone gone', (deleteInputsOf root w m).2 = .ok gone →
        (deleteInputsOf root w m').2 = .ok gone' →
        ∀ l, (deleteInputsOf root w m).1.files.get? l = (deleteInputsOf root w m').1.files.get? l) ∧
      ((∀ p ∈ inputPaths ⟨.root, w.files.cwd⟩ m, p.isWithin root = true → Nameable p) →
        (∃ gone, (deleteInputsOf root w m).2 = .ok gone) ∧
          ∃ gone', (deleteInputsOf root w m').2 = .ok gone') := by
  constructor
  · intro paths others perm inside
    have first := loses_unlinkEach tree absolute inside
    have second := loses_unlinkEach tree absolute fun p member => inside p (perm.mem_iff.2 member)
    exact first.unique (second.congr fun l _ => vacates_congr fun p => perm.mem_iff.symm)
  · intro m m' perm same plain
    have inputs :
        (inputPaths ⟨.root, w.files.cwd⟩ m).Perm (inputPaths ⟨.root, w.files.cwd⟩ m') := by
      simp only [inputPaths, Manifest.keysOf, Manifest.absolute, same]
      exact (perm.map _).map _
    refine ⟨fun gone gone' done done' => ?_, fun nameable => ⟨?_, ?_⟩⟩
    · have first := loses_deleteInputs tree absolute plain done
      have second := loses_deleteInputs tree absolute
        (fun p member => plain p (inputs.mem_iff.2 member)) done'
      exact first.unique (second.congr fun l _ => vacates_congr fun p => inputs.mem_iff.symm)
    · exact exists_gone tree absolute nameable
    · exact exists_gone tree absolute fun p member => nameable p (inputs.mem_iff.2 member)

def orchard : World where
  files := ⟨["w"], [(["w"], .directory), (["w", "build"], .directory),
    (["w", "build", "a.js"], .file [1]), (["w", "build", "d"], .directory),
    (["w", "build", "d", "f.js"], .file [2])]⟩
  console := .named "none"

def picks (keys : List String) : Manifest :=
  ⟨keys.map fun key => (.str key, .map []), [], ⟨.root, ["w"]⟩⟩

theorem deletes_in_any_order_orchard :
    (∀ l, (unlinkEach ⟨.root, ["w", "build"]⟩ orchard
          [⟨.root, ["w", "build", "d"]⟩, ⟨.root, ["w", "build", "d", "f.js"]⟩]).files.get? l =
        (unlinkEach ⟨.root, ["w", "build"]⟩ orchard
          [⟨.root, ["w", "build", "d", "f.js"]⟩, ⟨.root, ["w", "build", "d"]⟩]).files.get? l) ∧
      ∀ l, (deleteInputsOf ⟨.root, ["w", "build"]⟩ orchard
          (picks ["build/d", "build/d/f.js"])).1.files.get? l =
        (deleteInputsOf ⟨.root, ["w", "build"]⟩ orchard
          (picks ["build/d/f.js", "build/d"])).1.files.get? l := by
  obtain ⟨paths, manifests⟩ := deletes_in_any_order orchard ⟨.root, ["w", "build"]⟩
    (isTree_of_entries (by decide)) rfl
  refine ⟨paths _ _ (.swap _ _ _) (by decide), ?_⟩
  obtain ⟨same, ends⟩ := manifests (picks ["build/d", "build/d/f.js"])
    (picks ["build/d/f.js", "build/d"]) (.swap _ _ _) rfl (by decide +kernel)
  obtain ⟨⟨gone, done⟩, gone', done'⟩ := ends (by decide +kernel)
  exact same gone gone' done done'

/-- An input with a null character ends the deletion, so that it matters what comes before it. -/
theorem deleteInputsOf_ends_at_null :
    (picks ["build/a.js", "build/x\x00"]).inputs.Perm (picks ["build/x\x00", "build/a.js"]).inputs ∧
      (deleteInputsOf ⟨.root, ["w", "build"]⟩ orchard
        (picks ["build/a.js", "build/x\x00"])).1.files.get? ["w", "build", "a.js"] = none ∧
      (deleteInputsOf ⟨.root, ["w", "build"]⟩ orchard
        (picks ["build/x\x00", "build/a.js"])).1.files.get? ["w", "build", "a.js"] =
          some (.file [1]) :=
  ⟨.swap _ _ _, by decide +kernel, by decide +kernel⟩

end BuildPipeline.BuildTree
