import BuildPipeline.Proofs.FileSystem.Access
import BuildPipeline.Proofs.Path.Text

set_option autoImplicit false

namespace BuildPipeline.FileSystem

open Sequencing

def Fits (e : Entry) (old : Option Entry) : Prop :=
  ∀ entry, old = some entry → (e = .directory ↔ entry = .directory)

theorem replace_eq_ok {fs after : FileSystem} {source target : Location} {e old : Entry}
    (done : fs.replace source e target old = .ok after) :
    (e = .directory ↔ old = .directory) ∧ after = fs.relocate source target := by
  cases old with
  | directory =>
    rw [replace] at done
    split at done
    · cases done
    next same =>
      split at done
      · cases done
      · cases done
        exact ⟨by simpa using same, rfl⟩
  | file _ | link _ =>
    simp only [replace] at done
    split at done
    · cases done
    next other =>
      cases done
      exact ⟨by simpa using other, rfl⟩

theorem renameSpots_of_rename {fs after : FileSystem} {source target : Path}
    (done : fs.rename source target = .ok after) :
    holdsNull target = false ∧ fs.renameSpots source target = .ok after := by
  rw [rename] at done
  split at done
  · cases done
  next proper =>
    simp only [Bool.or_eq_true, not_or, Bool.not_eq_true] at proper
    exact ⟨proper.2, mapError_eq_ok_iff.1 done⟩

theorem last_of_endsInName {p : Path} (named : endsInName p = true) :
    p.parts.getLast? ≠ some ".." := by
  intro last
  simp [endsInName, Path.name, last] at named

theorem rename_eq_ok {fs after : FileSystem} {source target : Path} (tree : fs.IsTree)
    (sourceStart : fs.HasStart source) (targetStart : fs.HasStart target)
    (done : fs.rename source target = .ok after) :
    endsInName source = true ∧ endsInName target = true ∧
      ((placeOf fs.cwd source = placeOf fs.cwd target ∧ after = fs) ∨
        Apart (placeOf fs.cwd source) (placeOf fs.cwd target) ∧
          fs.get? (placeOf fs.cwd target).dropLast = some .directory ∧
          (∃ e, fs.get? (placeOf fs.cwd source) = some e ∧
            Fits e (fs.get? (placeOf fs.cwd target))) ∧
          after = fs.relocate (placeOf fs.cwd source) (placeOf fs.cwd target)) := by
  obtain ⟨start, sourceFound, done⟩ := bind_eq_ok_iff.1 (renameSpots_of_rename done).2
  obtain ⟨goal, targetFound, done⟩ := bind_eq_ok_iff.1 done
  obtain ⟨sourcePlace, sourceHolds⟩ := locate_spec tree sourceStart sourceFound
  obtain ⟨targetPlace, targetHolds⟩ := locate_spec tree targetStart targetFound
  rw [← sourcePlace, ← targetPlace]
  cases start with
  | free place => cases done
  | taken place e =>
    simp only at done
    split at done
    · cases done
    next named =>
      simp only [Bool.or_eq_true, Bool.not_eq_true', not_or, Bool.not_eq_false] at named
      refine ⟨named.1, named.2, ?_⟩
      split at done
      next same => cases done; exact .inl ⟨same, rfl⟩
      split at done
      · cases done
      next notInto =>
        split at done
        · cases done
        next notOnto =>
          -- Neither place is the other one or below it, as the move would have been refused.
          have apart : Apart place goal.place :=
            ⟨fun below => notInto (isBelow_iff.2 below), fun below => notOnto (isBelow_iff.2 below)⟩
          refine .inr ⟨apart, ?_⟩
          cases goal with
          | free free =>
            cases done
            refine ⟨targetHolds.2.2, ⟨e, sourceHolds, fun entry there => ?_⟩, rfl⟩
            simp [Spot.place, targetHolds.1] at there
          | taken free old =>
            obtain ⟨fits, rfl⟩ := replace_eq_ok done
            have there : fs.get? free = some old := targetHolds
            refine ⟨tree.directory_dropLast (by simp [Spot.place, there]), ⟨e, sourceHolds, ?_⟩, rfl⟩
            simpa [Fits, Spot.place, there] using fits

theorem get?_of_entry {fs : FileSystem} {last : Bool} {p : Path} {e : Entry} (tree : fs.IsTree)
    (start : fs.HasStart p) (found : fs.entry last p = .ok e) :
    fs.get? (placeOf fs.cwd p) = some e := by
  obtain ⟨spot, located, found⟩ := bind_eq_ok_iff.1 found
  obtain ⟨place, holds⟩ := locate_spec tree start (locate_of_spot located)
  split at found
  · cases found
    rw [← place]
    exact holds
  · cases found

theorem get?_of_isDirectory {fs : FileSystem} {p : Path} (tree : fs.IsTree) (start : fs.HasStart p)
    (directory : surely (fs.isDirectory p) = true) :
    fs.get? (placeOf fs.cwd p) = some .directory := by
  rw [isDirectory, leadsTo] at directory
  split at directory
  next e found =>
    rw [get?_of_entry tree start found]
    cases e with
    | directory => rfl
    | file _ | link _ => simp [surely, Entry.isDirectory, Except.toOption] at directory
  · simp [surely, Except.toOption] at directory
  · split at directory <;> simp [surely, Except.toOption] at directory

theorem leadsTo_of_locate {fs : FileSystem} {last last' : Bool} {p : Path} {place : Location}
    {e : Entry} (tree : fs.IsTree) (proper : holdsNull p = false)
    (found : fs.locate last p = .ok (.taken place e)) (holds : Entry → Bool) :
    fs.leadsTo last' holds p = .ok (holds e) := by
  rw [locate_congr tree last last'] at found
  have spotted : fs.spot last' p = .ok (.taken place e) := by
    rw [spot, proper]
    exact mapError_eq_ok_iff.2 found
  simp [leadsTo, entry, spotted, bind, Except.bind]

theorem locate_of_rename {fs after : FileSystem} {source target : Path} (tree : fs.IsTree)
    (targetStart : fs.HasStart target) (done : fs.rename source target = .ok after) :
    holdsNull target = false ∧ ∃ goal, fs.locate false target = .ok goal ∧
      goal.place = placeOf fs.cwd target ∧ goal.Holds fs := by
  obtain ⟨proper, spots⟩ := renameSpots_of_rename done
  obtain ⟨start, sourceFound, later⟩ := bind_eq_ok_iff.1 spots
  obtain ⟨goal, targetFound, -⟩ := bind_eq_ok_iff.1 later
  exact ⟨proper, goal, targetFound, locate_spec tree targetStart targetFound⟩

theorem get?_ne_directory_of_rename {fs after : FileSystem} {source target : Path}
    (tree : fs.IsTree) (targetStart : fs.HasStart target)
    (noDirectory : surely (fs.isDirectory target) ≠ true)
    (done : fs.rename source target = .ok after) :
    fs.get? (placeOf fs.cwd target) ≠ some .directory := by
  obtain ⟨proper, goal, found, place, holds⟩ := locate_of_rename tree targetStart done
  intro directory
  -- The question fails only for a path that leads nowhere, and this one was followed.
  cases goal with
  | free free => simp [← place, Spot.place, holds.1] at directory
  | taken l e =>
    have same : e = .directory := by
      rw [← place, Spot.place, show fs.get? l = some e from holds] at directory
      simpa using directory
    rw [isDirectory, leadsTo_of_locate tree proper found, same] at noDirectory
    exact noDirectory rfl

theorem get?_of_rename_new {fs after : FileSystem} {source target : Path}
    (tree : fs.IsTree) (targetStart : fs.HasStart target)
    (new : surely (fs.pathExists target) ≠ true) (done : fs.rename source target = .ok after) :
    fs.get? (placeOf fs.cwd target) = none := by
  obtain ⟨proper, goal, found, place, holds⟩ := locate_of_rename tree targetStart done
  cases goal with
  | free free => rw [← place]; exact holds.1
  | taken l e =>
    rw [pathExists, leadsTo_of_locate tree proper found] at new
    exact absurd rfl new

theorem rename_of_transfer {fs after : FileSystem} {source target destination : Path}
    (done : fs.transfer source target destination = .ok after) :
    fs.rename source target = .ok after := by
  rw [transfer] at done
  split at done
  next renamed => cases done; exact renamed
  · cases done
  · cases done

theorem placeOf_eq_of_sameEntry {fs : FileSystem} {p q : Path} (tree : fs.IsTree)
    (pStart : fs.HasStart p) (qStart : fs.HasStart q) (same : fs.sameEntry p q = true) :
    placeOf fs.cwd p = placeOf fs.cwd q := by
  rw [sameEntry] at same
  split at same
  next pFound qFound =>
    rw [← (locate_spec tree pStart pFound).1, ← (locate_spec tree qStart qFound).1]
    exact of_decide_eq_true same
  · simp at same

def insidePath (source destination : Path) : Path :=
  Path.ofText (Path.textBelow destination.text (ownName source))

theorem isName_of_isPlain {p : Path} (plain : p.IsPlain) : ∀ name ∈ p.parts, IsName name :=
  fun name member => ⟨(plain name member).2, (plain name member).1.ne_dot⟩

theorem isAbsolute_insidePath {destination : Path} (absolute : destination.isAbsolute = true)
    (source : Path) : (insidePath source destination).isAbsolute = true :=
  Path.isAbsolute_ofText_textBelow absolute _

theorem placeOf_insidePath {source destination : Path} (absolute : destination.isAbsolute = true)
    (sourceClean : source.IsClean) (clean : destination.IsClean) (named : endsInName source = true)
    (cwd : Location) :
    placeOf cwd (insidePath source destination) = placeOf cwd destination ++ [source.name] := by
  have last : source.parts.getLast? = some source.name := by
    cases found : source.parts.getLast? with
    | none => simp [endsInName, Path.name, found] at named
    | some name => simp [Path.name, found]
  have part : Path.IsPart source.name := sourceClean _ (List.mem_of_getLast? last)
  have own : ownName source = source.name := by
    rw [ownName, if_neg]
    intro top
    simp only [Bool.and_eq_true, decide_eq_true_eq] at top
    simp [top.1] at last
  have plain : ∀ name ∈ [source.name], IsName name := by
    simp only [endsInName, Bool.and_eq_true, decide_eq_true_eq] at named
    simpa [IsName] using ⟨named.2, part.ne_dot⟩
  have parts : (insidePath source destination).parts = destination.parts ++ [source.name] := by
    rw [insidePath, own, Path.ofText, Path.partsOf_textBelow, Path.partsOf_text clean,
      Path.partsOf_toList part]
  rw [placeOf, placeOf, if_pos absolute, if_pos (isAbsolute_insidePath absolute source), parts,
    settle_append, settle_of_names plain]

theorem rename_of_move {fs after : FileSystem} {source destination : Path} (tree : fs.IsTree)
    (sourceStart : fs.HasStart source) (absolute : destination.isAbsolute = true)
    (done : fs.move source destination = .ok after) :
    (fs.rename source destination = .ok after ∧
        (placeOf fs.cwd source = placeOf fs.cwd destination ∨
          fs.get? (placeOf fs.cwd destination) ≠ some .directory)) ∨
      fs.rename source (insidePath source destination) = .ok after ∧
        fs.get? (placeOf fs.cwd destination) = some .directory ∧
        fs.get? (placeOf fs.cwd (insidePath source destination)) = none := by
  have start := fs.hasStart_of_isAbsolute absolute
  have insideStart := fs.hasStart_of_isAbsolute (isAbsolute_insidePath absolute source)
  rw [move] at done
  split at done
  next directory =>
    split at done
    next same =>
      exact .inl ⟨mapError_eq_ok_iff.1 done, .inl (placeOf_eq_of_sameEntry tree sourceStart start same)⟩
    next =>
      simp only at done
      split at done
      · cases done
      next new =>
        have renamed := rename_of_transfer done
        exact .inr ⟨renamed, get?_of_isDirectory tree start directory,
          get?_of_rename_new tree insideStart new renamed⟩
  next noDirectory =>
    have renamed := rename_of_transfer done
    exact .inl ⟨renamed, .inr (get?_ne_directory_of_rename tree start noDirectory renamed)⟩

theorem change_relocate {fs : FileSystem} {source target : Location} (tree : fs.IsTree)
    (apart : Apart source target) (noDirectory : fs.get? target ≠ some .directory) (l : Location) :
    source <+: l ∨ l = target ∨ (fs.get? l = none ∧ target <+: l) ∨
      (fs.relocate source target).get? l = fs.get? l := by
  rw [get?_relocate fs apart]
  split
  next below =>
    -- In a tree nothing stands below the target, so only free places are filled.
    by_cases same : l = target
    · exact .inr (.inl same)
    · exact .inr (.inr (.inl ⟨tree.none_below noDirectory below same, below⟩))
  split
  next below => exact .inl below
  next => exact .inr (.inr (.inr rfl))

/-- A move changes what stands at or below its source, and what its destination leads to; it puts
other things only where nothing is, below the destination. -/
def Moves (cwd : Location) (source destination : Path) : Change := fun l x y =>
  placeOf cwd source <+: l ∨ Reaches cwd destination l ∨
    x = none ∧ placeOf cwd destination <+: l ∨ y = x

theorem evolves_move {fs after : FileSystem} {source destination : Path} (tree : fs.IsTree)
    (sourceStart : fs.HasStart source) (absolute : destination.isAbsolute = true)
    (sourceClean : source.IsClean) (clean : destination.IsClean)
    (done : fs.move source destination = .ok after) :
    Evolves (Moves fs.cwd source destination) fs after := by
  have start := fs.hasStart_of_isAbsolute absolute
  have insideStart := fs.hasStart_of_isAbsolute (isAbsolute_insidePath absolute source)
  have same : Evolves (Moves fs.cwd source destination) fs fs :=
    .refl tree fun _ _ => .inr (.inr (.inr rfl))
  obtain ⟨renamed, vacant⟩ | ⟨renamed, -, new⟩ := rename_of_move tree sourceStart absolute done
  -- The destination itself is the target.
  · obtain ⟨-, named, ⟨-, rfl⟩ | ⟨apart, parent, -, rfl⟩⟩ :=
      rename_eq_ok tree sourceStart start renamed
    · exact same
    have noDirectory := vacant.resolve_left fun equal => apart.1 (equal ▸ List.prefix_rfl)
    refine ⟨rfl, tree.relocate apart parent, fun l => ?_⟩
    rcases change_relocate tree apart noDirectory l with below | rfl | ⟨missing, below⟩ | kept
    · exact .inl below
    · exact .inr (.inl ⟨rfl, last_of_endsInName named⟩)
    · exact .inr (.inr (.inl ⟨missing, below⟩))
    · exact .inr (.inr (.inr kept))
  -- The target is in the destination, and was free.
  · obtain ⟨named, -, ⟨-, rfl⟩ | ⟨apart, parent, -, rfl⟩⟩ :=
      rename_eq_ok tree sourceStart insideStart renamed
    · exact same
    rw [placeOf_insidePath absolute sourceClean clean named] at apart parent new ⊢
    have under {l : Location} (below : placeOf fs.cwd destination ++ [source.name] <+: l) :
        placeOf fs.cwd destination <+: l := (List.prefix_append _ _).trans below
    refine ⟨rfl, tree.relocate apart parent, fun l => ?_⟩
    rcases change_relocate tree apart (by simp [new]) l with below | rfl | ⟨missing, below⟩ | kept
    · exact .inl below
    · exact .inr (.inr (.inl ⟨new, under List.prefix_rfl⟩))
    · exact .inr (.inr (.inl ⟨missing, under below⟩))
    · exact .inr (.inr (.inr kept))

theorem get?_relocate_file {fs : FileSystem} {source target : Location} {content : List UInt8}
    (tree : fs.IsTree) (apart : Apart source target)
    (file : fs.get? source = some (.file content))
    (noDirectory : fs.get? target ≠ some .directory) (l : Location) :
    (fs.relocate source target).get? l =
      if l = target then some (.file content) else if l = source then none else fs.get? l := by
  rw [get?_relocate fs apart]
  by_cases atTarget : l = target
  · simp [atTarget, file]
  rw [if_neg atTarget]
  by_cases below : target <+: l
  · have nothing := tree.none_below noDirectory below atTarget
    obtain ⟨rest, rfl⟩ := below
    have nonempty : rest ≠ [] := by
      rintro rfl
      simp at atTarget
    rw [if_pos (List.prefix_append _ _), List.drop_left, tree.none_below_file file nonempty, nothing,
      ite_self]
  rw [if_neg below]
  by_cases atSource : l = source
  · simp [atSource]
  rw [if_neg atSource]
  split
  next under => rw [tree.none_below (by simp [file]) under atSource]
  next => rfl

end BuildPipeline.FileSystem
