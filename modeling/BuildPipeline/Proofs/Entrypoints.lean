import BuildPipeline.Entrypoints
import BuildPipeline.Markup.Script
import BuildPipeline.Proofs.BuildTree.Walking

set_option autoImplicit false

namespace BuildPipeline

namespace Settings

def text? : Value → Option String
  | .str s => some s
  | .bytes bs =>
    match Text.Utf8.decode bs with
    | .ok cs => some (String.ofList cs)
    | .error _ => none
  | _ => none

def texts : Value → List String
  | .list items => items.filterMap text?
  | .tuple items => items.filterMap text?
  | v => (text? v).toList

variable {field : String} {named : List String}

theorem trimmed?_eq_ok {v : Value} {trimmed : Option String} (read : trimmed? v = .ok trimmed) :
    trimmed = (text? v).map Text.trim := by
  cases v with
  | str s =>
    cases read
    rfl
  | bytes bs =>
    rw [trimmed?] at read
    split at read
    next cs decoded =>
      cases read
      rw [text?, decoded]
      rfl
    next => cases read
  | null | bool _ | int _ | float _ | moment _ | list _ | tuple _ | set _ | map _ | enclosing _ =>
    cases read
    rfl

theorem nonempty_eq_filter (s : String) : nonempty s = [s].filter (· ≠ "") := by
  by_cases blank : s = "" <;> simp [nonempty, blank]

theorem stringItems_eq_ok {items : List Value} (read : stringItems field items = .ok named) :
    named = ((items.filterMap text?).map Text.trim).filter (· ≠ "") := by
  induction items generalizing named with
  | nil =>
    cases read
    rfl
  | cons item rest ih =>
    obtain ⟨trimmed, first, read⟩ := Sequencing.bind_eq_ok_iff.1 read
    have same := trimmed?_eq_ok first
    split at read
    · cases read
    next s =>
      obtain ⟨tail, others, read⟩ := Sequencing.bind_eq_ok_iff.1 read
      cases read
      obtain ⟨text, found, rfl⟩ := Option.map_eq_some_iff.1 same.symm
      rw [List.filterMap_cons, found, List.map_cons, List.filter_cons, ih others, nonempty_eq_filter]
      by_cases blank : Text.trim text = "" <;> simp [blank]

theorem stringList_eq_ok {v : Value} (read : stringList field v = .ok named) :
    named = ((texts v).map Text.trim).filter (· ≠ "") := by
  unfold stringList at read
  unfold texts
  split at read
  · cases read
    rfl
  · exact stringItems_eq_ok read
  · exact stringItems_eq_ok read
  -- One text stands for a list of one.
  next noNull noList noTuple =>
    obtain ⟨trimmed, first, read⟩ := Sequencing.bind_eq_ok_iff.1 read
    have same := trimmed?_eq_ok first
    split at read
    · cases read
    next s =>
      cases read
      obtain ⟨text, found, rfl⟩ := Option.map_eq_some_iff.1 same.symm
      split
      · exact absurd rfl (noList _)
      · exact absurd rfl (noTuple _)
      · rw [found, nonempty_eq_filter]
        rfl

theorem stringList_eq_nil_iff {v : Value} (read : stringList field v = .ok named) :
    named = [] ↔ ∀ text ∈ texts v, Text.trim text = "" := by
  rw [stringList_eq_ok read]
  simp [List.filter_eq_nil_iff]

end Settings

namespace Entrypoints

open BuildTree FileSystem

section

variable {parse : Page.Parser} {fs : FileSystem}

def referencesAt (parse : Page.Parser) (fs : FileSystem) (page : Path) : List String :=
  match fs.read page with
  | .ok content => pageReferences parse content
  | .error _ => []

theorem scanPages_eq_ok {pages : List Path} (readable : ∀ page ∈ pages, (fs.read page).isOk = true)
    (console : Console) :
    (scanPages parse fs console pages).1 = .ok (pages.flatMap (referencesAt parse fs)) := by
  induction pages generalizing console with
  | nil => rfl
  | cons page rest ih =>
    simp only [List.mem_cons, forall_eq_or_imp] at readable
    cases found : fs.read page with
    | error cause => simp [found, Except.isOk, Except.toBool] at readable
    | ok content =>
      simp only [scanPages, found, ih readable.2, List.flatMap_cons, referencesAt]
      rfl

theorem scanPages_eq_error {pages : List Path}
    (unreadable : ∃ page ∈ pages, (fs.read page).isOk = false) (console : Console) :
    ∃ page ∈ pages, ∃ cause, fs.read page = .error cause ∧
      (scanPages parse fs console pages).1 = .error (.markup page cause) := by
  induction pages generalizing console with
  | nil => simp at unreadable
  | cons page rest ih =>
    cases found : fs.read page with
    | error cause => exact ⟨page, by simp, cause, found, by simp [scanPages, found]⟩
    | ok content =>
      have later : ∃ page ∈ rest, (fs.read page).isOk = false := by
        simpa [found, Except.isOk, Except.toBool] using unreadable
      obtain ⟨other, member, cause, fails, told⟩ :=
        ih later (console.debug (foundMessage page (pageReferences parse content)))
      exact ⟨other, by simp [member], cause, fails, by simp [scanPages, found, told, Except.map]⟩

end

def selects (scripts : String → Option Path) (path : Path) (candidate : String) : Bool :=
  scripts (FileName.lookupKey candidate) = some path

section

variable {scripts : String → Option Path} {candidates : List String} {path : Path}

theorem mem_pick_iff (console : Console) (seen : List Path) :
    path ∈ (pick scripts console seen candidates).1 ↔
      path ∉ seen ∧ ∃ candidate ∈ candidates, selects scripts path candidate = true := by
  induction candidates generalizing console seen with
  | nil => simp [pick]
  | cons candidate rest ih =>
    rw [pick]
    simp only [List.mem_cons, exists_eq_or_imp]
    split
    next none =>
      have other : ¬ selects scripts path candidate = true := by simp [selects, none]
      rw [ih, or_iff_right other]
    next first found =>
      have here : selects scripts path candidate = true ↔ path = first := by
        simp [selects, found, eq_comm]
      rw [here]
      split
      next old =>
        -- Already picked: what it adds is excluded by `seen`.
        rw [ih]
        refine and_congr_right fun new => (or_iff_right ?_).symm
        rintro rfl
        exact new (by simpa using old)
      next new =>
        have fresh : first ∉ seen := by simpa using new
        simp only [List.mem_cons, ih]
        by_cases same : path = first
        · simp [same, fresh]
        · simp [same]

theorem pairwise_pick (console : Console) (seen : List Path) :
    (pick scripts console seen candidates).1.Pairwise fun p q =>
      candidates.findIdx (selects scripts p) < candidates.findIdx (selects scripts q) := by
  induction candidates generalizing console seen with
  | nil => simp [pick]
  | cons candidate rest ih =>
    -- The scripts picked from `rest` are none that `candidate` stands for.
    have later {console : Console} {seen : List Path}
        (other : ∀ p, p ∈ (pick scripts console seen rest).1 → selects scripts p candidate = false) :
        (pick scripts console seen rest).1.Pairwise fun p q =>
          (candidate :: rest).findIdx (selects scripts p) <
            (candidate :: rest).findIdx (selects scripts q) := by
      refine (ih console seen).imp_of_mem fun {p q} first second before => ?_
      rw [List.findIdx_cons, List.findIdx_cons, other p first, other q second]
      simpa using before
    rw [pick]
    split
    next none => exact later fun p _ => by simp [selects, none]
    next path found =>
      have other {seen : List Path} (known : path ∈ seen) (console : Console) :
          ∀ p, p ∈ (pick scripts console seen rest).1 → selects scripts p candidate = false := by
        intro p member
        have new := ((mem_pick_iff console seen).1 member).1
        simp only [selects, found, Option.some.injEq, decide_eq_false_iff_not]
        rintro rfl
        exact new known
      split
      next old => exact later (other (by simpa using old) _)
      next =>
        refine List.pairwise_cons.2 ⟨fun q member => ?_, later (other (by simp) _)⟩
        rw [List.findIdx_cons, List.findIdx_cons, other (by simp) _ q member]
        simp [selects, found]

end

def candidates (parse : Page.Parser) (fs : FileSystem) (scanMarkup : Bool) (files : List TreeFile)
    (named : List String) : List String :=
  named ++ (if scanMarkup then markupFiles files else []).flatMap (referencesAt parse fs)

/-- The scripts that candidates stand for, each once, by the candidates that first do. `paths` are
the files of the tree in the order of the walk. -/
structure IsResolution (files : List TreeFile) (paths : List Path) (candidates : List String)
    (picked : List Path) : Prop where
  once : picked.Nodup
  absolute : ∀ path ∈ picked, path.isAbsolute = true
  exact : ∀ path, path ∈ picked ↔ ∃ candidate ∈ candidates,
    IsLastScript .standard paths (FileName.lookupKey candidate) path
  ordered : picked.Pairwise fun p q =>
    candidates.findIdx (selects (script? files) p) < candidates.findIdx (selects (script? files) q)

def PagesReadable (fs : FileSystem) (top : Path) (region : Location) : Prop :=
  ∀ names, IsWalked fs top region names →
    (FileName.classify .standard (top.under names).name).1 = .markup →
      (fs.read (top.under names)).isOk = true

def Fault.IsSystem : Fault → Prop
  | .walk (.directory ..) => True
  | .markup _ (.system _) => True
  | _ => False

section

variable {parse : Page.Parser} {fs : FileSystem} {configured : Value} {named : List String} {root top : Path}
  {region : Location} {files : List TreeFile} {walked : List (List String)} {scanMarkup : Bool}

theorem mem_markupFiles_iff (listing : IsListing fs .standard top region files walked)
    {page : Path} : page ∈ markupFiles files ↔ ∃ names, IsWalked fs top region names ∧
      top.under names = page ∧ (FileName.classify .standard page.name).1 = .markup := by
  simp [listing.markup, listing.complete, ← exists_and_right, and_assoc]

theorem isNullFree_of_isWalked (walkable : Walkable fs top region) {names : List String}
    (walked : IsWalked fs top region names) : IsNullFree (top.under names) := by
  obtain ⟨dir, name, rfl, -, file⟩ := walked
  refine isNullFree_under walkable.stored walkable.found fun missing => ?_
  simp [isFileAt, missing] at file

theorem isResolution_pick (listing : IsListing fs .standard top region files walked)
    (absolute : top.isAbsolute = true) (console : Console) (candidates : List String) :
    IsResolution files (walked.map top.under) candidates
      (pick (script? files) console [] candidates).1 := by
  have exact' (path : Path) : path ∈ (pick (script? files) console [] candidates).1 ↔
      ∃ candidate ∈ candidates,
        IsLastScript .standard (walked.map top.under) (FileName.lookupKey candidate) path := by
    simp [mem_pick_iff, selects, listing.scripts]
  refine ⟨?_, fun path member => ?_, exact', pairwise_pick console []⟩
  · refine (pairwise_pick console []).imp fun before same => ?_
    rw [same] at before
    exact Nat.lt_irrefl _ before
  · obtain ⟨_, -, before, after, paths, -⟩ := (exact' path).1 member
    have there : path ∈ walked.map top.under := by simp [paths]
    obtain ⟨names, -, rfl⟩ := List.mem_map.1 there
    exact absolute

theorem resolve_eq_of_walk (console : Console)
    (accepted : Settings.stringList "entrypoints" configured = .ok named)
    (listed : walk fs .standard root = .ok files)
    (listing : IsListing fs .standard top region files walked)
    (pages : scanMarkup = true → PagesReadable fs top region) :
    ∃ console', (resolve parse fs console configured root scanMarkup).1 =
      let picked := (pick (script? files) console' [] (candidates parse fs scanMarkup files named)).1
      if picked = [] ∧ named = [] then .error .noneNamed else .ok picked := by
  have readable : ∀ page ∈ (if scanMarkup then markupFiles files else []),
      (fs.read page).isOk = true := by
    intro page member
    split at member
    next scan =>
      obtain ⟨names, there, rfl, markup⟩ := (mem_markupFiles_iff listing).1 member
      exact pages scan names there markup
    next => cases member
  obtain ⟨told, scanned⟩ : ∃ told, scanPages parse fs console
      (if scanMarkup then markupFiles files else []) = (.ok (_ : List String), told) :=
    ⟨_, Prod.ext (scanPages_eq_ok readable console) rfl⟩
  refine ⟨told, ?_⟩
  simp only [resolve, accepted, listed, scanned, candidates, apply_ite Prod.fst]
  exact if_congr (by simp) rfl rfl

theorem resolve_eq_error_of_walk (console : Console)
    (accepted : Settings.stringList "entrypoints" configured = .ok named)
    (listed : walk fs .standard root = .ok files)
    (listing : IsListing fs .standard top region files walked) (walkable : Walkable fs top region)
    (unreadable : ¬ PagesReadable fs top region) :
    ∃ fault, (resolve parse fs console configured root true).1 = .error fault ∧ fault.IsSystem := by
  have some' : ∃ page ∈ markupFiles files, (fs.read page).isOk = false := by
    simp only [PagesReadable, not_forall] at unreadable
    obtain ⟨names, there, markup, fails⟩ := unreadable
    exact ⟨_, (mem_markupFiles_iff listing).2 ⟨names, there, rfl, markup⟩, by simpa using fails⟩
  obtain ⟨page, member, cause, fails, told⟩ := scanPages_eq_error some' console
  obtain ⟨told', scanned⟩ : ∃ told', scanPages parse fs console (markupFiles files) =
      (.error (.markup page cause), told') := ⟨_, Prod.ext told rfl⟩
  refine ⟨.markup page cause, by simp [resolve, accepted, listed, scanned], ?_⟩
  cases cause with
  | system _ => exact trivial
  | nullCharacter =>
    -- The names of entries hold no null, nor does a path that a directory was found by.
    obtain ⟨names, there, rfl, -⟩ := (mem_markupFiles_iff listing).1 member
    exact absurd fails (read_ne_null fs (isNullFree_of_isWalked walkable there))

theorem pagesReadable_of_entries (markup : ∀ e ∈ fs.entries,
      (FileName.classify .standard (top.under (e.1.drop region.length)).name).1 = .markup →
        (fs.read (top.under (e.1.drop region.length))).isOk = true) :
    PagesReadable fs top region := by
  rintro names ⟨dir, name, rfl, -, file⟩ page
  cases there : fs.get? (region ++ (dir ++ [name])) with
  | none => simp [isFileAt, there] at file
  | some e =>
    have member := markup _ (mem_entries_of_get? (by simp) there)
    simp only [List.drop_left] at member
    exact member page

/-- If the tree and its pages can be read, the entrypoints are the scripts that the names and the
references stand for; otherwise the file system is at fault. -/
theorem resolve_exact (parse : Page.Parser) (console : Console) (root : Path) (scanMarkup : Bool)
    (accepted : Settings.stringList "entrypoints" configured = .ok named)
    (walkable : Walkable fs (Path.absolute ⟨.root, fs.cwd⟩ root) region) :
    ((∀ names, fs.IsBranch region names →
          Readable fs (Path.absolute ⟨.root, fs.cwd⟩ root) region names) →
        (scanMarkup = true → PagesReadable fs (Path.absolute ⟨.root, fs.cwd⟩ root) region) →
      ∃ files walked picked,
        IsListing fs .standard (Path.absolute ⟨.root, fs.cwd⟩ root) region files walked ∧
        IsResolution files (walked.map (Path.absolute ⟨.root, fs.cwd⟩ root).under)
          (candidates parse fs scanMarkup files named) picked ∧
        (resolve parse fs console configured root scanMarkup).1 =
          if picked = [] ∧ ∀ text ∈ Settings.texts configured, Text.trim text = "" then
            .error .noneNamed
          else .ok picked) ∧
    ((∃ names, fs.IsBranch region names ∧
          ¬ Readable fs (Path.absolute ⟨.root, fs.cwd⟩ root) region names) ∨
        scanMarkup = true ∧ ¬ PagesReadable fs (Path.absolute ⟨.root, fs.cwd⟩ root) region →
      ∃ fault, (resolve parse fs console configured root scanMarkup).1 = .error fault ∧
        fault.IsSystem) := by
  have absolute : (Path.absolute ⟨.root, fs.cwd⟩ root).isAbsolute = true :=
    Path.isAbsolute_absolute rfl root
  constructor
  · intro readable pages
    obtain ⟨files, walked, listed, listing⟩ := walk_eq_ok .standard walkable readable
    obtain ⟨told, resolved⟩ := resolve_eq_of_walk console accepted listed listing pages
    refine ⟨files, walked, _, listing, isResolution_pick listing absolute told _, ?_⟩
    rw [resolved]
    simp only [← Settings.stringList_eq_nil_iff accepted]
  · intro unreadable
    by_cases readable : ∀ names, fs.IsBranch region names →
        Readable fs (Path.absolute ⟨.root, fs.cwd⟩ root) region names
    · obtain ⟨files, walked, listed, listing⟩ := walk_eq_ok .standard walkable readable
      rcases unreadable with ⟨names, branch, fails⟩ | ⟨rfl, pages⟩
      · exact absurd (readable names branch) fails
      · exact resolve_eq_error_of_walk console accepted listed listing walkable pages
    · simp only [not_forall] at readable
      obtain ⟨names, branch, fails⟩ := readable
      obtain ⟨path, cause, refused⟩ := walk_eq_error .standard walkable branch fails
      exact ⟨.walk (.directory path cause), by simp [resolve, accepted, refused], trivial⟩

end

def mainNamed : Value :=
  .list [.str " main.imba ", .str " "]

theorem resolve_linkedTree : ∃ files walked picked,
    IsListing linkedTree .standard ⟨.root, ["w", "b"]⟩ ["w", "b"] files walked ∧
    IsResolution files (walked.map (Path.under ⟨.root, ["w", "b"]⟩))
      (candidates Markup.parse linkedTree true files ["main.imba"]) picked ∧
    (resolve Markup.parse linkedTree (.named "info") mainNamed ⟨.relative, ["b"]⟩ true).1 =
      if picked = [] ∧ ∀ text ∈ Settings.texts mainNamed, Text.trim text = "" then
        .error .noneNamed
      else .ok picked := by
  have accepted : Settings.stringList "entrypoints" mainNamed = .ok ["main.imba"] := by
    decide +kernel
  have pages : PagesReadable linkedTree ⟨.root, ["w", "b"]⟩ ["w", "b"] :=
    pagesReadable_of_entries (by decide +kernel)
  exact (resolve_exact Markup.parse (.named "info") ⟨.relative, ["b"]⟩ true accepted walkable_linkedTree).1
    readable_linkedTree fun _ => pages

theorem resolve_loopingTree : Settings.stringList "entrypoints" (.str "a") = .ok ["a"] ∧
    Walkable loopingTree ⟨.root, ["w", "b"]⟩ ["w", "b"] ∧
    ∀ picked, (resolve Markup.parse loopingTree (.named "info") (.str "a") ⟨.relative, ["b"]⟩ false).1 ≠
      .ok picked := by
  have accepted : Settings.stringList "entrypoints" (.str "a") = .ok ["a"] := by decide +kernel
  refine ⟨accepted, walkable_loopingTree, fun picked => ?_⟩
  obtain ⟨path, cause, fails⟩ := exists_walk_loopingTree_eq_error
  simp [resolve, accepted, fails]

end Entrypoints

end BuildPipeline
