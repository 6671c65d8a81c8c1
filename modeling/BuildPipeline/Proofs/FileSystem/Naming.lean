import BuildPipeline.FileSystem.Move
import BuildPipeline.Proofs.Path.Text
import BuildPipeline.Proofs.Sequencing

set_option autoImplicit false

namespace BuildPipeline.FileSystem

open Sequencing

def IsShort (name : String) : Prop :=
  byteLength name ≤ maxNameBytes

def IsProper (name : String) : Prop :=
  '\x00' ∉ name.toList

instance (name : String) : Decidable (IsShort name) :=
  inferInstanceAs (Decidable (_ ≤ _))

instance (name : String) : Decidable (IsProper name) :=
  inferInstanceAs (Decidable (¬ _))

structure Nameable (p : Path) : Prop where
  names : ∀ name ∈ p.parts, IsProper name ∧ IsShort name
  text : byteLength p.text ≤ maxPathBytes

instance (p : Path) : Decidable (Nameable p) :=
  decidable_of_iff
    ((∀ name ∈ p.parts, IsProper name ∧ IsShort name) ∧ byteLength p.text ≤ maxPathBytes)
    ⟨fun ⟨names, text⟩ => ⟨names, text⟩, fun nameable => ⟨nameable.names, nameable.text⟩⟩

def HasShortLinks (fs : FileSystem) : Prop :=
  ∀ l target, fs.get? l = some (.link target) → ∀ name ∈ linkNames target, IsShort name

theorem follow_ne_nameTooLong {fs : FileSystem} {last : Bool}
    {through : Location → List String → Except Cause Spot} (links : fs.HasShortLinks)
    (later : ∀ dir names, (∀ name ∈ names, IsShort name) → through dir names ≠ .error .nameTooLong)
    {dir : Location} {names : List String} (short : ∀ name ∈ names, IsShort name) :
    follow fs last through dir names ≠ .error .nameTooLong := by
  induction names generalizing dir with
  | nil => simp [follow]
  | cons name rest ih =>
    simp only [List.mem_cons, forall_eq_or_imp] at short
    rw [follow]
    split
    · exact ih short.2
    split
    · exact ih short.2
    rw [if_neg (Nat.not_lt.2 short.1)]
    split
    · split <;> simp
    · exact ih short.2
    · split <;> simp
    next target link =>
      split
      · simp
      · -- Behind a link come its own names and then those that are left.
        apply later
        intro part member
        rcases List.mem_append.1 member with there | there
        · exact links _ target link part there
        · exact short.2 part there

theorem followFrom_ne_nameTooLong {fs : FileSystem} (links : fs.HasShortLinks) (last : Bool)
    (count : Nat) {dir : Location} {names : List String} (short : ∀ name ∈ names, IsShort name) :
    followFrom fs last count dir names ≠ .error .nameTooLong := by
  induction count generalizing dir names with
  | zero => exact follow_ne_nameTooLong links (by simp) short
  | succ count ih => exact follow_ne_nameTooLong links (fun _ _ => ih) short

theorem locate_ne_nameTooLong {fs : FileSystem} (links : fs.HasShortLinks) {p : Path}
    (nameable : Nameable p) (last : Bool) : fs.locate last p ≠ .error .nameTooLong := by
  rw [locate, if_neg (Nat.not_lt.2 nameable.text)]
  exact followFrom_ne_nameTooLong links last _ fun name member => (nameable.names name member).2

theorem leadsNowhere_of_follow {fs : FileSystem} {last : Bool}
    {through : Location → List String → Except Cause Spot}
    (later : ∀ dir names cause, through dir names = .error cause →
      leadsNowhere cause = true ∨ cause = .nameTooLong)
    {dir : Location} {names : List String} {cause : Cause}
    (fails : follow fs last through dir names = .error cause) :
    leadsNowhere cause = true ∨ cause = .nameTooLong := by
  induction names generalizing dir with
  | nil => cases fails
  | cons name rest ih =>
    rw [follow] at fails
    split at fails
    · exact ih fails
    split at fails
    · exact ih fails
    split at fails
    · cases fails
      exact .inr rfl
    split at fails
    · split at fails <;> cases fails
      exact .inl rfl
    · exact ih fails
    · split at fails <;> cases fails
      exact .inl rfl
    · split at fails
      · cases fails
      · exact later _ _ _ fails

theorem leadsNowhere_of_locate {fs : FileSystem} {last : Bool} {p : Path} {cause : Cause}
    (fails : fs.locate last p = .error cause) :
    leadsNowhere cause = true ∨ cause = .nameTooLong := by
  have all (count : Nat) : ∀ dir names cause, followFrom fs last count dir names = .error cause →
      leadsNowhere cause = true ∨ cause = .nameTooLong := by
    induction count with
    | zero =>
      intro dir names cause fails
      refine leadsNowhere_of_follow (fun _ _ _ refused => ?_) fails
      cases refused
      exact .inl rfl
    | succ count ih => exact fun dir names cause fails => leadsNowhere_of_follow ih fails
  rw [locate] at fails
  split at fails
  · cases fails
    exact .inr rfl
  · exact all _ _ _ _ fails

theorem holdsNull_eq_false {p : Path} (proper : ∀ name ∈ p.parts, IsProper name) :
    holdsNull p = false := by
  simpa [holdsNull, IsProper] using proper

theorem exists_pathExists {fs : FileSystem} (links : fs.HasShortLinks) {p : Path}
    (nameable : Nameable p) : ∃ there, fs.pathExists p = .ok there := by
  have short := locate_ne_nameTooLong links nameable true
  have proper := holdsNull_eq_false fun name member => (nameable.names name member).1
  rw [pathExists, leadsTo, entry, spot, proper]
  cases found : fs.locate true p with
  | error cause =>
    have nowhere := (leadsNowhere_of_locate found).resolve_right fun same => short (same ▸ found)
    exact ⟨false, by simp [bind, Except.bind, nowhere]⟩
  | ok spot => cases spot <;> simp [bind, Except.bind, refuse, leadsNowhere]

def IsNullFree (p : Path) : Prop :=
  ∀ name ∈ p.parts, IsProper name

instance (p : Path) : Decidable (IsNullFree p) :=
  inferInstanceAs (Decidable (∀ name ∈ p.parts, _))

theorem Nameable.isNullFree {p : Path} (nameable : Nameable p) : IsNullFree p :=
  fun name member => (nameable.names name member).1

section

variable {α β : Type}

theorem bind_ne_null {x : Except AccessFault α} {f : α → Except AccessFault β}
    (first : x ≠ .error .nullCharacter) (then' : ∀ a, f a ≠ .error .nullCharacter) :
    x >>= f ≠ .error .nullCharacter := by
  rw [ne_eq, bind_eq_error_iff]
  rintro (fails | ⟨a, -, fails⟩)
  · exact first fails
  · exact then' a fails

end

variable (fs : FileSystem) {p : Path}

theorem spot_ne_null (free : IsNullFree p) (last : Bool) :
    fs.spot last p ≠ .error .nullCharacter := by
  rw [spot, holdsNull_eq_false free]
  cases fs.locate last p <;> simp

theorem read_ne_null (free : IsNullFree p) : fs.read p ≠ .error .nullCharacter := by
  refine bind_ne_null (bind_ne_null (spot_ne_null fs free true) fun spot => ?_) fun e => ?_
  · cases spot <;> simp [refuse]
  · cases e <;> simp [refuse]

theorem unlink_ne_null (free : IsNullFree p) : fs.unlink p ≠ .error .nullCharacter := by
  refine bind_ne_null (spot_ne_null fs free false) fun spot => ?_
  split <;> simp [refuse]

theorem unlink_of_null (null : ¬ IsNullFree p) : fs.unlink p = .error .nullCharacter := by
  rw [unlink, spot, if_pos (by simpa [holdsNull, IsNullFree, IsProper] using null)]
  rfl

theorem makeDirectory_ne_null (free : IsNullFree p) : fs.makeDirectory p ≠ .error .nullCharacter := by
  refine bind_ne_null (spot_ne_null fs free false) fun spot => ?_
  cases spot <;> simp [refuse]

theorem makeDirectoryIfNew_ne_null (free : IsNullFree p) :
    fs.makeDirectoryIfNew p ≠ .error .nullCharacter := by
  have never := makeDirectory_ne_null fs free
  rw [makeDirectoryIfNew]
  split
  · simp
  · split
    · simp
    · split <;> simp
  next fault _ made =>
    rw [made] at never
    simpa using never

theorem attemptDirectory_ne_null (free : IsNullFree p) :
    (fs.attemptDirectory p).2 ≠ .error .nullCharacter := by
  have never := makeDirectoryIfNew_ne_null fs free
  rw [attemptDirectory]
  split
  · simp
  next fault made =>
    rw [made] at never
    simpa using never

theorem makeDirectoriesFrom_ne_null {anchor : Anchor} {backward : List String}
    (free : ∀ name ∈ backward, IsProper name) :
    (makeDirectoriesFrom anchor fs backward).2 ≠ .error .nullCharacter := by
  have attempt (fs : FileSystem) (names : List String) (free : ∀ name ∈ names, IsProper name) :
      (fs.attemptDirectory ⟨anchor, names.reverse⟩).2 ≠ .error .nullCharacter :=
    attemptDirectory_ne_null fs fun name member => free name (List.mem_reverse.1 member)
  induction backward generalizing fs with
  | nil => exact attempt fs [] (by simp)
  | cons name above ih =>
    have first := attempt fs _ free
    have upper := fun fs => ih fs fun name' member => free name' (List.mem_cons_of_mem _ member)
    rw [makeDirectoriesFrom]
    split
    · simp
    next after fault made =>
      rw [made] at first
      split
      next =>
        -- With the parents made, the directory is tried once more.
        have above' := upper after
        split
        · exact attempt _ _ free
        next => exact above'
      next => exact first

theorem makeDirectories_ne_null (free : IsNullFree p) :
    (fs.makeDirectories p).2 ≠ .error .nullCharacter :=
  makeDirectoriesFrom_ne_null fs fun name member => free name (List.mem_reverse.1 member)

theorem mem_glue (sep : List Char) {c : Char} {part : List Char} {parts : List (List Char)}
    (member : part ∈ parts) (inside : c ∈ part) : c ∈ Text.glue sep parts := by
  induction parts with
  | nil => cases member
  | cons first rest ih =>
    cases rest with
    | nil =>
      rw [List.mem_singleton] at member
      rwa [Text.glue, ← member]
    | cons next rest =>
      rw [Text.glue, List.mem_append, List.mem_append]
      rcases List.mem_cons.1 member with rfl | later
      · exact .inl (.inl inside)
      · exact .inr (ih later)

theorem isProper_of_mem_partsOf {cs : List Char} {name : String} (proper : '\x00' ∉ cs)
    (member : name ∈ Path.partsOf cs) : IsProper name := by
  obtain ⟨piece, found, rfl⟩ := List.mem_map.1 member
  rw [IsProper, String.toList_ofList]
  intro inside
  have here := mem_glue ['/'] (List.mem_filter.1 found).1 inside
  rw [Text.glue_pieces] at here
  exact proper here

theorem isNullFree_ofText {s : String} (proper : IsProper s) : IsNullFree (Path.ofText s) :=
  fun _ => isProper_of_mem_partsOf proper

theorem isProper_intercalate {names : List String} (proper : ∀ name ∈ names, IsProper name) :
    IsProper ("/".intercalate names) := by
  induction names with
  | nil => simp [IsProper]
  | cons name rest ih =>
    simp only [List.mem_cons, forall_eq_or_imp] at proper
    cases rest with
    | nil => simpa using proper.1
    | cons next rest =>
      have later := ih proper.2
      simp only [IsProper] at later proper ⊢
      simp_all

theorem isProper_text (free : IsNullFree p) : IsProper p.text := by
  have names := isProper_intercalate free
  obtain ⟨anchor, parts⟩ := p
  cases anchor with
  | relative =>
    cases parts with
    | nil => simp [IsProper, Path.text]
    | cons name rest => simpa [IsProper, Path.text, Anchor.text] using names
  | root | doubleRoot => simpa [IsProper, Path.text, Anchor.text] using names

theorem isProper_ownName (free : IsNullFree p) : IsProper (ownName p) := by
  rw [ownName]
  split
  · simp [IsProper]
  · rw [Path.name]
    cases last : p.parts.getLast? with
    | none => simp [IsProper]
    | some name => exact free name (List.mem_of_getLast? last)

theorem isProper_textBelow {base tail : String} (first : IsProper base) (second : IsProper tail) :
    IsProper (Path.textBelow base tail) := by
  rw [IsProper] at first second ⊢
  rw [Path.textBelow]
  split <;> simp [first, second]

theorem rename_ne_null {source destination : Path} (sourceFree : IsNullFree source)
    (free : IsNullFree destination) : fs.rename source destination ≠ .error .nullCharacter := by
  rw [rename, holdsNull_eq_false sourceFree, holdsNull_eq_false free]
  cases fs.renameSpots source destination <;> simp

theorem transfer_ne_null {source target : Path} (sourceFree : IsNullFree source)
    (free : IsNullFree target) (destination : Path) :
    fs.transfer source target destination ≠ .error (.access .nullCharacter) := by
  have never := rename_ne_null fs sourceFree free
  have read := read_ne_null fs sourceFree
  rw [transfer]
  split
  · simp
  next refused => exact absurd refused never
  · rw [refusedMove]
    split
    · split <;> simp
    · split
      next fault unread =>
        rw [unread] at read
        simpa using read
      next => simp

theorem move_ne_null {source destination : Path} (sourceFree : IsNullFree source)
    (free : IsNullFree destination) :
    fs.move source destination ≠ .error (.access .nullCharacter) := by
  have inside : IsNullFree (Path.ofText (Path.textBelow destination.text (ownName source))) :=
    isNullFree_ofText (isProper_textBelow (isProper_text free) (isProper_ownName sourceFree))
  rw [move]
  split
  · split
    · have never := rename_ne_null fs sourceFree free
      cases renamed : fs.rename source destination with
      | ok => simp
      | error fault =>
        rw [renamed] at never
        simpa using never
    · simp only
      split
      · simp
      · exact transfer_ne_null fs sourceFree inside destination
  · exact transfer_ne_null fs sourceFree free destination

end BuildPipeline.FileSystem
