import BuildPipeline.Proofs.FileSystem.Naming
import BuildPipeline.Proofs.FileSystem.Moving

set_option autoImplicit false

namespace BuildPipeline

def Path.under (p : Path) (names : List String) : Path :=
  ⟨p.anchor, p.parts ++ names⟩

namespace FileSystem

open Sequencing

def descend (fs : FileSystem) (dir : Location) (names : List String) : Except Cause Spot :=
  follow fs true (fun _ _ => .error .tooManyLinks) dir names

variable {fs : FileSystem} {dir : Location} {name : String} {names : List String}

theorem not_concat_prefix (l : List String) (name : String) : ¬ l ++ [name] <+: l := by
  intro longer
  have length := longer.length_le
  simp only [List.length_append, List.length_singleton] at length
  omega

theorem descend_cons (fs : FileSystem) (dir : Location) (entryName : IsEntryName name)
    (rest : List String) : fs.descend dir (name :: rest) = match fs.get? (dir ++ [name]) with
      | none => if rest = [] then .ok (.free (dir ++ [name])) else .error .missing
      | some .directory => fs.descend (dir ++ [name]) rest
      | some (.file content) =>
        if rest = [] then .ok (.taken (dir ++ [name]) (.file content)) else .error .notDirectory
      | some (.link _) => .error .tooManyLinks := by
  rw [descend, follow_entry entryName]
  cases fs.get? (dir ++ [name]) with
  | none => rfl
  | some e => cases e <;> simp [descend]

theorem descend_long (fs : FileSystem) (dir : Location) (plain : IsName name)
    (long : ¬ IsShort name) (rest : List String) :
    fs.descend dir (name :: rest) = .error .nameTooLong := by
  rw [descend, follow, if_neg plain.1, if_neg plain.2, if_pos (Nat.lt_of_not_le long)]

theorem descend_eq_ok_iff {spot : Spot} : fs.descend dir names = .ok spot ↔
    FollowsTo fs true (fun _ _ => .error .tooManyLinks) dir names spot :=
  follow_eq_ok_iff

theorem descend_append (tree : fs.IsTree) {place : Location} (more : List String)
    (found : fs.descend dir names = .ok (.taken place .directory)) :
    fs.descend dir (names ++ more) = fs.descend place more := by
  replace found := descend_eq_ok_iff.1 found
  rw [descend]
  generalize ended : Spot.taken place .directory = spot at found
  induction found with
  | done dir =>
    cases ended
    rfl
  | up _ ih => rw [List.cons_append, follow_up, ih ended]
  | here _ ih => rw [List.cons_append, follow_here, ih ended]
  | down entryName directory _ ih =>
    rw [List.cons_append, follow_entry entryName, directory]
    exact ih ended
  | free | file => cases ended
  | link _ link | linked _ link => exact absurd link (tree.noLink _ _)

theorem descend_taken (tree : fs.IsTree) {e : Entry} (here : fs.get? dir = some .directory)
    (entryNames : ∀ name ∈ names, IsEntryName name) (there : fs.get? (dir ++ names) = some e) :
    fs.descend dir names = .ok (.taken (dir ++ names) e) := by
  induction names generalizing dir with
  | nil =>
    rw [List.append_nil, here] at there
    cases there
    simp [descend, follow]
  | cons name rest ih =>
    simp only [List.mem_cons, forall_eq_or_imp] at entryNames
    have parts : dir ++ name :: rest = dir ++ [name] ++ rest := by simp
    rw [descend_cons fs dir entryNames.1]
    rw [parts] at there ⊢
    cases rest with
    | nil =>
      rw [List.append_nil] at there ⊢
      rw [there]
      cases e with
      | file content => rfl
      | link target => exact absurd there (tree.noLink _ _)
      | directory => simp [descend, follow]
    | cons next others =>
      -- An entry with others below it is a directory.
      have directory : fs.get? (dir ++ [name]) = some .directory :=
        tree.directory_of_append (List.cons_ne_nil next others) (by rw [there]; simp)
      rw [directory]
      exact ih directory entryNames.2 there

theorem descend_free (tree : fs.IsTree) (here : fs.get? dir = some .directory)
    (entryNames : ∀ name ∈ names, IsEntryName name) (entryName : IsEntryName name)
    (parent : fs.get? (dir ++ names) = some .directory)
    (missing : fs.get? (dir ++ names ++ [name]) = none) :
    fs.descend dir (names ++ [name]) = .ok (.free (dir ++ names ++ [name])) := by
  rw [descend_append tree [name] (descend_taken tree here entryNames parent),
    descend_cons fs _ entryName, missing]
  rfl

theorem descend_missing (name : String) (tree : fs.IsTree) (here : fs.get? dir = some .directory)
    (entryNames : ∀ name ∈ names, IsEntryName name)
    (noFile : ∀ first content, first <+: names → fs.get? (dir ++ first) ≠ some (.file content))
    (missing : fs.get? (dir ++ names) = none) :
    fs.descend dir (names ++ [name]) = .error .missing := by
  induction names generalizing dir with
  | nil => simp [here] at missing
  | cons first rest ih =>
    simp only [List.mem_cons, forall_eq_or_imp] at entryNames
    have noFileHere (content : List UInt8) := noFile [first] content (by simp)
    rw [List.cons_append, descend_cons fs dir entryNames.1]
    cases found : fs.get? (dir ++ [first]) with
    | none => simp
    | some e =>
      cases e with
      | directory =>
        refine ih found entryNames.2 (fun part content beginning => ?_) (by simpa using missing)
        have nothing := noFile (first :: part) content (by simpa using beginning)
        simpa using nothing
      | file content => exact absurd found (noFileHere content)
      | link target => exact absurd found (tree.noLink _ _)

def Ends (found : Except Cause Spot) : Prop :=
  found = .error .missing ∨ ∃ spot, found = .ok spot

def Lacks (found : Except Cause Spot) : Prop :=
  found = .error .missing ∨ ∃ place, found = .ok (.free place)

theorem Lacks.ends {found : Except Cause Spot} (lacks : Lacks found) : Ends found := by
  rcases lacks with missing | ⟨place, free⟩
  · exact .inl missing
  · exact .inr ⟨_, free⟩

theorem descend_above (tree : fs.IsTree) (plain : ∀ name ∈ names, IsName name)
    (ends : Ends (fs.descend dir (names ++ [name]))) :
    fs.descend dir names = .ok (.taken (dir ++ names) .directory) ∨
      fs.get? (dir ++ names) = none ∧ Lacks (fs.descend dir names) := by
  induction names generalizing dir with
  | nil => exact .inl (by simp [descend, follow])
  | cons first rest ih =>
    simp only [List.mem_cons, forall_eq_or_imp] at plain
    have more : rest ++ [name] ≠ [] := by simp
    by_cases short : IsShort first
    · rw [List.cons_append, descend_cons fs dir ⟨plain.1, short⟩] at ends
      have parts : dir ++ first :: rest = dir ++ [first] ++ rest := by simp
      rw [descend_cons fs dir ⟨plain.1, short⟩, parts]
      cases found : fs.get? (dir ++ [first]) with
      | none =>
        -- Nothing is below what is missing, so that all the names lead to nothing.
        refine .inr ⟨?_, ?_⟩
        · by_contra there
          by_cases last : rest = []
          · simp [last, found] at there
          · rw [tree.directory_of_append last there] at found
            cases found
        · by_cases last : rest = [] <;> simp [last, Lacks]
      | some e =>
        rw [found] at ends
        cases e with
        | directory => exact ih plain.2 ends
        | file content => simp [Ends] at ends
        | link target => exact absurd found (tree.noLink _ _)
    · rw [List.cons_append, descend_long fs dir plain.1 short] at ends
      simp [Ends] at ends

theorem ends_descend_of_fewer {after : FileSystem} (tree : fs.IsTree)
    (fewer : ∀ l e, after.get? l = some e → fs.get? l = some e)
    (plain : ∀ name ∈ names, IsName name) (ends : Ends (fs.descend dir names)) :
    Ends (after.descend dir names) := by
  induction names generalizing dir with
  | nil => exact .inr ⟨_, rfl⟩
  | cons first rest ih =>
    simp only [List.mem_cons, forall_eq_or_imp] at plain
    by_cases short : IsShort first
    · rw [descend_cons _ dir ⟨plain.1, short⟩] at ends ⊢
      cases left : after.get? (dir ++ [first]) with
      | none =>
        by_cases last : rest = [] <;> simp [last, Ends]
      | some e =>
        rw [fewer _ _ left] at ends
        cases e with
        | directory => exact ih plain.2 ends
        | file content => exact ends
        | link target => exact absurd (fewer _ _ left) (tree.noLink _ _)
    · rw [descend_long fs dir plain.1 short] at ends
      simp [Ends] at ends

theorem isShort_of_descend (plain : ∀ name ∈ names, IsName name) {spot : Spot}
    (found : fs.descend dir names = .ok spot) : ∀ name ∈ names, IsShort name := by
  replace found := descend_eq_ok_iff.1 found
  induction found with
  | done => simp
  | up => simp [IsName] at plain
  | here => simp [IsName] at plain
  | down entryName _ _ ih =>
    rw [List.forall_mem_cons] at plain ⊢
    exact ⟨entryName.2, ih plain.2⟩
  | free entryName _ | file entryName _ => exact List.forall_mem_singleton.2 entryName.2
  | link _ _ stays => cases stays
  | linked _ _ _ further => cases further

theorem descend_directories {after : FileSystem} {place : Location} (tree : fs.IsTree)
    (kept : ∀ l, fs.get? l = some .directory → after.get? l = some .directory)
    (found : fs.descend dir names = .ok (.taken place .directory)) :
    after.descend dir names = .ok (.taken place .directory) := by
  replace found := descend_eq_ok_iff.1 found
  rw [descend_eq_ok_iff]
  generalize ended : Spot.taken place .directory = spot at found
  induction found with
  | done dir => exact .done dir
  | up _ ih => exact .up (ih ended)
  | here _ ih => exact .here (ih ended)
  | down entryName directory _ ih => exact .down entryName (kept _ directory) (ih ended)
  | free | file => cases ended
  | link _ link | linked _ link => exact absurd link (tree.noLink _ _)

theorem locate_eq_descend (tree : fs.IsTree) (last : Bool) (p : Path) :
    fs.locate last p =
      if maxPathBytes < byteLength p.text then .error .nameTooLong
      else fs.descend (fs.start p) p.parts := by
  rw [locate]
  split
  · rfl
  · exact follow_congr tree _ _ _ _ _ _

theorem descend_parent {spot : Spot} (found : fs.descend dir (names ++ [name]) = .ok spot) :
    ∃ place, fs.descend dir names = .ok (.taken place .directory) := by
  replace found := descend_eq_ok_iff.1 found
  simp only [descend_eq_ok_iff]
  induction names generalizing dir with
  | nil => exact ⟨dir, .done dir⟩
  | cons first rest ih =>
    have more : rest ++ [name] ≠ [] := by simp
    rw [List.cons_append] at found
    generalize rest ++ [name] = behind at found ih more
    cases found with
    | up further => exact (ih further).imp fun _ => .up
    | here further => exact (ih further).imp fun _ => .here
    | down entryName directory further => exact (ih further).imp fun _ => .down entryName directory
    | free | file | link => exact absurd rfl more
    | linked _ _ _ further => cases further

theorem hasStart_of_locate {fs : FileSystem} {p : Path} {last : Bool} {place : Location} {e : Entry}
    (tree : fs.IsTree) (plain : p.IsPlain) (named : p.parts ≠ [])
    (found : fs.locate last p = .ok (.taken place e)) : fs.HasStart p := by
  obtain ⟨name, rest, parts⟩ := List.exists_cons_of_ne_nil named
  have names := isName_of_isPlain plain
  rw [parts, List.forall_mem_cons] at names
  rw [locate_eq_descend tree, parts] at found
  split at found
  · cases found
  by_cases short : IsShort name
  · rw [descend_cons fs _ ⟨names.1, short⟩] at found
    refine tree.closed (fs.start p) name fun missing => ?_
    simp only [missing] at found
    split at found <;> cases found
  · rw [descend_long fs _ names.1 short] at found
    cases found

theorem exists_rename_of_move {fs after : FileSystem} {source destination : Path}
    (done : fs.move source destination = .ok after) :
    ∃ target, fs.rename source target = .ok after := by
  rw [move] at done
  split at done
  · split at done
    · exact ⟨destination, mapError_eq_ok_iff.1 done⟩
    · simp only at done
      split at done
      · cases done
      · exact ⟨_, rename_of_transfer done⟩
  · exact ⟨destination, rename_of_transfer done⟩

theorem hasStart_of_move {fs after : FileSystem} {source destination : Path} (tree : fs.IsTree)
    (plain : source.IsPlain) (done : fs.move source destination = .ok after) :
    fs.HasStart source := by
  obtain ⟨target, renamed⟩ := exists_rename_of_move done
  obtain ⟨start, found, later⟩ := bind_eq_ok_iff.1 (renameSpots_of_rename renamed).2
  obtain ⟨goal, -, later⟩ := bind_eq_ok_iff.1 later
  cases start with
  | free place => cases later
  | taken place e =>
    simp only at later
    split at later
    · cases later
    next named =>
      refine hasStart_of_locate tree plain (fun empty => ?_) found
      simp [endsInName, Path.name, empty] at named

theorem exists_spot_of_leadsTo {last : Bool} {holds : Entry → Bool} {p : Path}
    (leads : fs.leadsTo last holds p = .ok true) :
    IsNullFree p ∧ ∃ place e, fs.spot last p = .ok (.taken place e) ∧ holds e = true := by
  rw [leadsTo] at leads
  split at leads
  next e found =>
    obtain ⟨spot, there, found⟩ := bind_eq_ok_iff.1 found
    have free : IsNullFree p := by
      by_contra null
      rw [FileSystem.spot, if_pos (by simpa [holdsNull, IsNullFree, IsProper] using null)] at there
      cases there
    split at found
    next place _ =>
      cases found
      exact ⟨free, place, _, there, Except.ok.inj leads⟩
    next => cases found
  · simp at leads
  · split at leads <;> simp at leads

theorem byteLength_le_of_prefix {s t : String} (part : s.toList <+: t.toList) :
    byteLength s ≤ byteLength t := by
  obtain ⟨rest, same⟩ := part
  simp [byteLength, Text.Utf8.encode, ← same]

theorem prefix_intercalate (names more : List String) :
    ("/".intercalate names).toList <+: ("/".intercalate (names ++ more)).toList := by
  induction names with
  | nil => simp
  | cons name rest ih =>
    cases rest with
    | nil =>
      cases more with
      | nil => simp
      | cons next others => simp
    | cons next others => simpa using ih

theorem byteLength_text_under {top : Path} (absolute : top.isAbsolute = true)
    (names more : List String) :
    byteLength (top.under names).text ≤ byteLength (top.under (names ++ more)).text := by
  apply byteLength_le_of_prefix
  have parts := prefix_intercalate (top.parts ++ names) more
  obtain ⟨anchor, parts⟩ := top
  cases anchor with
  | relative => simp [Path.isAbsolute] at absolute
  | root | doubleRoot => simpa [Path.under, Path.text, Anchor.text] using parts

structure Leads (fs : FileSystem) (top : Path) (region : Location) : Prop where
  tree : fs.IsTree
  absolute : top.isAbsolute = true
  found : fs.descend [] top.parts = .ok (.taken region .directory)

section

variable {top : Path} {region : Location} {after : FileSystem}

theorem Leads.isAbsolute (leads : Leads fs top region) (names : List String) :
    (top.under names).isAbsolute = true :=
  leads.absolute

theorem Leads.place (leads : Leads fs top region) : settle [] top.parts = region :=
  (follow_spec leads.tree (get?_nil fs) leads.found).1.symm

theorem Leads.directory (leads : Leads fs top region) : fs.get? region = some .directory :=
  (follow_spec leads.tree (get?_nil fs) leads.found).2

theorem Leads.placeOf_under (leads : Leads fs top region) (plain : ∀ name ∈ names, IsName name)
    (cwd : Location) : placeOf cwd (top.under names) = region ++ names := by
  rw [placeOf, if_pos (leads.isAbsolute names), Path.under, settle_append, leads.place, settle_of_names plain]

theorem Leads.locate (leads : Leads fs top region) (last : Bool) (names : List String) :
    fs.locate last (top.under names) =
      if maxPathBytes < byteLength (top.under names).text then .error .nameTooLong
      else fs.descend region names := by
  rw [locate_eq_descend leads.tree, start, if_pos (leads.isAbsolute names),
    ← descend_append leads.tree names leads.found]
  rfl

theorem Leads.of_plain (leads : Leads fs top region) (plain : ∀ name ∈ top.parts, IsName name)
    (tree : after.IsTree) (kept : after.get? region = some .directory) :
    Leads after top region := by
  have short := isShort_of_descend plain leads.found
  have same : top.parts = region := by
    rw [← leads.place, settle_of_names plain, List.nil_append]
  refine ⟨tree, leads.absolute, ?_⟩
  have found : after.descend [] top.parts = .ok (.taken ([] ++ top.parts) .directory) :=
    descend_taken tree (get?_nil after)
      (fun name member => ⟨plain name member, short name member⟩) (by simpa [same] using kept)
  rw [List.nil_append] at found
  rw [found, same]

theorem Leads.of_directories (leads : Leads fs top region) (tree : after.IsTree)
    (kept : ∀ l, fs.get? l = some .directory → after.get? l = some .directory) :
    Leads after top region :=
  ⟨tree, leads.absolute, descend_directories leads.tree kept leads.found⟩

theorem leads_of_isDirectory (tree : fs.IsTree) (absolute : top.isAbsolute = true)
    (directory : fs.isDirectory top = .ok true) : Leads fs top (placeOf fs.cwd top) := by
  obtain ⟨-, place, e, spot, isDirectory⟩ := exists_spot_of_leadsTo directory
  have located := locate_of_spot spot
  obtain ⟨same, -⟩ := locate_spec tree (fs.hasStart_of_isAbsolute absolute) located
  refine ⟨tree, absolute, ?_⟩
  rw [locate_eq_descend tree, start, if_pos absolute] at located
  split at located
  · cases located
  · cases e with
    | directory => rw [located, ← same]; rfl
    | file _ | link _ => simp [Entry.isDirectory] at isDirectory

structure IsGiven (p : Path) : Prop where
  free : IsNullFree p
  text : byteLength p.text ≤ maxPathBytes

instance (p : Path) : Decidable (IsGiven p) :=
  decidable_of_iff (IsNullFree p ∧ byteLength p.text ≤ maxPathBytes)
    ⟨fun ⟨free, text⟩ => ⟨free, text⟩, fun given => ⟨given.free, given.text⟩⟩

theorem IsGiven.of_append {more : List String} (absolute : top.isAbsolute = true)
    (given : IsGiven (top.under (names ++ more))) : IsGiven (top.under names) := by
  refine ⟨fun name member => given.free name ?_, ?_⟩
  · rw [Path.under, ← List.append_assoc]
    exact List.mem_append_left more member
  · exact Nat.le_trans (byteLength_text_under absolute names more) given.text

theorem Leads.spot (leads : Leads fs top region) (given : IsGiven (top.under names))
    (last : Bool) : fs.spot last (top.under names) =
      (fs.descend region names).mapError fun cause =>
        .system { cause, path := (top.under names).text } := by
  rw [FileSystem.spot, holdsNull_eq_false given.free, leads.locate,
    if_neg (Nat.not_lt.2 given.text)]
  rfl

end

end FileSystem

end BuildPipeline
