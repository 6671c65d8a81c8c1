import BuildPipeline.Proofs.FileSystem.Changing

set_option autoImplicit false

namespace BuildPipeline.FileSystem

open Sequencing

abbrev Change := Location → Option Entry → Option Entry → Prop

/-- A tree that has become another tree by changes of one kind only. -/
structure Evolves (change : Change) (before after : FileSystem) : Prop where
  cwd : after.cwd = before.cwd
  tree : after.IsTree
  change : ∀ l, change l (before.get? l) (after.get? l)

theorem Evolves.mono {weak strong : Change} {before after : FileSystem}
    (evolves : Evolves strong before after) (le : ∀ l x y, strong l x y → weak l x y) :
    Evolves weak before after :=
  ⟨evolves.cwd, evolves.tree, fun l => le _ _ _ (evolves.change l)⟩

theorem Evolves.trans {change : Change} {a b c : FileSystem}
    (closed : ∀ l x y z, change l x y → change l y z → change l x z)
    (first : Evolves change a b) (second : Evolves change b c) : Evolves change a c :=
  ⟨second.cwd.trans first.cwd, second.tree,
    fun l => closed _ _ _ _ (first.change l) (second.change l)⟩

theorem Evolves.refl {change : Change} {fs : FileSystem} (tree : fs.IsTree)
    (same : ∀ l x, change l x x) : Evolves change fs fs :=
  ⟨rfl, tree, fun l => same l _⟩

theorem locate_of_spot {fs : FileSystem} {last : Bool} {p : Path} {spot : Spot}
    (found : fs.spot last p = .ok spot) : fs.locate last p = .ok spot := by
  rw [FileSystem.spot] at found
  split at found
  · cases found
  · exact mapError_eq_ok_iff.1 found

theorem unlink_eq_ok {fs after : FileSystem} {p : Path} (tree : fs.IsTree) (start : fs.HasStart p)
    (done : fs.unlink p = .ok after) :
    (∃ content, fs.get? (placeOf fs.cwd p) = some (.file content)) ∧
      p.parts.getLast? ≠ some ".." ∧ after = fs.erase (placeOf fs.cwd p) := by
  obtain ⟨spot, found, done⟩ := bind_eq_ok_iff.1 done
  have located := locate_of_spot found
  obtain ⟨place, holds⟩ := locate_spec tree start located
  split at done
  · cases done
  next e notDirectory =>
    cases done
    cases place
    have last := last_of_locate tree located
    cases e with
    | file content => exact ⟨⟨content, holds⟩, by simpa using last, rfl⟩
    | link target => exact absurd holds (tree.noLink _ _)
    | directory => exact absurd rfl notDirectory
  · cases done

theorem removeDirectory_eq_ok {fs after : FileSystem} {p : Path} (tree : fs.IsTree)
    (start : fs.HasStart p) (done : fs.removeDirectory p = .ok after) :
    placeOf fs.cwd p ≠ [] ∧ fs.get? (placeOf fs.cwd p) = some .directory ∧
      (∀ name, fs.get? (placeOf fs.cwd p ++ [name]) = none) ∧
      p.parts.getLast? ≠ some ".." ∧ after = fs.erase (placeOf fs.cwd p) := by
  obtain ⟨spot, found, done⟩ := bind_eq_ok_iff.1 done
  obtain ⟨place, holds⟩ := locate_spec tree start (locate_of_spot found)
  split at done
  next l =>
    rw [← place, Spot.place]
    split at done
    · cases done
    next nonempty =>
      split at done
      · cases done
      next vacant =>
        cases done
        simp only [Bool.or_eq_true, decide_eq_true_eq, not_or, ne_eq, not_not] at vacant
        refine ⟨nonempty, holds, names_eq_nil_iff.1 vacant.2, fun last => vacant.1 ?_, rfl⟩
        rw [Path.name, last, Option.getD_some]
  · cases done
  · cases done

theorem makeDirectory_eq_ok {fs after : FileSystem} {p : Path} (tree : fs.IsTree)
    (start : fs.HasStart p) (done : fs.makeDirectory p = .ok after) :
    fs.get? (placeOf fs.cwd p) = none ∧
      fs.get? (placeOf fs.cwd p).dropLast = some .directory ∧
      p.parts.getLast? ≠ some ".." ∧ after = fs.set (placeOf fs.cwd p) .directory := by
  obtain ⟨spot, found, done⟩ := bind_eq_ok_iff.1 done
  have located := locate_of_spot found
  obtain ⟨place, holds⟩ := locate_spec tree start located
  split at done
  · cases done
  next =>
    cases done
    cases place
    exact ⟨holds.1, holds.2.2, by simpa using last_of_locate tree located, rfl⟩

def Cleared (files directories : Location → Prop) : Change := fun l x y =>
  y = x ∨ y = none ∧ ((∃ content, x = some (.file content)) ∧ files l ∨
    x = some .directory ∧ directories l)

theorem Cleared.trans {files directories : Location → Prop} (l : Location)
    (x y z : Option Entry) (first : Cleared files directories l x y)
    (second : Cleared files directories l y z) : Cleared files directories l x z := by
  rcases first with rfl | ⟨rfl, gone⟩
  · exact second
  · rcases second with rfl | ⟨rfl, -⟩
    · exact .inr ⟨rfl, gone⟩
    · exact .inr ⟨rfl, gone⟩

theorem Cleared.mono {files files' directories directories' : Location → Prop} {l : Location}
    {x y : Option Entry} (cleared : Cleared files directories l x y) (file : files l → files' l)
    (directory : directories l → directories' l) : Cleared files' directories' l x y := by
  rcases cleared with same | ⟨gone, ⟨was, there⟩ | ⟨was, there⟩⟩
  · exact .inl same
  · exact .inr ⟨gone, .inl ⟨was, file there⟩⟩
  · exact .inr ⟨gone, .inr ⟨was, directory there⟩⟩

theorem none_of_cleared {files directories : Location → Prop} {before after : FileSystem}
    {l : Location} (missing : before.get? l = none)
    (cleared : Evolves (Cleared files directories) before after) : after.get? l = none := by
  rcases cleared.change l with same | ⟨gone, -⟩
  · rw [same, missing]
  · exact gone

theorem evolves_unlink {fs after : FileSystem} {p : Path} (tree : fs.IsTree)
    (start : fs.HasStart p) (done : fs.unlink p = .ok after) :
    Evolves (Cleared (Reaches fs.cwd p) fun _ => False) fs after := by
  obtain ⟨⟨content, file⟩, last, rfl⟩ := unlink_eq_ok tree start done
  have nonempty : placeOf fs.cwd p ≠ [] := by
    intro root
    simp [root] at file
  refine ⟨rfl, tree.erase nonempty fun name => tree.none_below_file file (by simp), fun l => ?_⟩
  rw [get?_erase fs nonempty]
  split
  next same => exact .inr ⟨rfl, .inl ⟨⟨content, same ▸ file⟩, same.symm, last⟩⟩
  next => exact .inl rfl

theorem evolves_removeDirectory {fs after : FileSystem} {p : Path} (tree : fs.IsTree)
    (start : fs.HasStart p) (done : fs.removeDirectory p = .ok after) :
    Evolves (Cleared (fun _ => False) (Reaches fs.cwd p)) fs after := by
  obtain ⟨nonempty, directory, empty, last, rfl⟩ := removeDirectory_eq_ok tree start done
  refine ⟨rfl, tree.erase nonempty empty, fun l => ?_⟩
  rw [get?_erase fs nonempty]
  split
  next same => exact .inr ⟨rfl, .inr ⟨same ▸ directory, same.symm, last⟩⟩
  next => exact .inl rfl

def Made (places : Location → Prop) : Change := fun l x y =>
  y = x ∨ x = none ∧ y = some .directory ∧ places l

theorem Made.trans {places : Location → Prop} (l : Location) (x y z : Option Entry)
    (first : Made places l x y) (second : Made places l y z) : Made places l x z := by
  rcases first with rfl | ⟨rfl, rfl, there⟩
  · exact second
  · rcases second with rfl | ⟨missing, -⟩
    · exact .inr ⟨rfl, rfl, there⟩
    · cases missing

theorem evolves_makeDirectory {fs after : FileSystem} {p : Path} (tree : fs.IsTree)
    (start : fs.HasStart p) (done : fs.makeDirectory p = .ok after) :
    Evolves (Made (Reaches fs.cwd p)) fs after := by
  obtain ⟨missing, parent, last, rfl⟩ := makeDirectory_eq_ok tree start done
  have nonempty : placeOf fs.cwd p ≠ [] := by
    intro root
    simp [root] at missing
  refine ⟨rfl, tree.set_directory missing parent, fun l => ?_⟩
  rw [get?_set fs nonempty]
  split
  next same => exact .inr ⟨same ▸ missing, rfl, same.symm, last⟩
  next => exact .inl rfl

theorem evolves_makeDirectoryIfNew {fs after : FileSystem} {p : Path} (tree : fs.IsTree)
    (start : fs.HasStart p) (done : fs.makeDirectoryIfNew p = .ok after) :
    Evolves (Made (Reaches fs.cwd p)) fs after := by
  rw [makeDirectoryIfNew] at done
  split at done
  next made =>
    cases done
    exact evolves_makeDirectory tree start made
  next =>
    split at done
    · cases done
    split at done
    next =>
      cases done
      exact .refl tree fun _ _ => .inl rfl
    · cases done
    · cases done
  · cases done

theorem evolves_attemptDirectory {fs : FileSystem} {p : Path} (tree : fs.IsTree)
    (start : fs.HasStart p) : Evolves (Made (Reaches fs.cwd p)) fs (fs.attemptDirectory p).1 := by
  rw [attemptDirectory]
  split
  next made => exact evolves_makeDirectoryIfNew tree start made
  next => exact .refl tree fun _ _ => .inl rfl

def OnWay (names : List String) (l : Location) : Prop :=
  ∃ first : List String, first <+: names ∧ first.getLast? ≠ some ".." ∧ settle [] first = l

theorem OnWay.mono {names more : List String} {l : Location} (part : names <+: more)
    (way : OnWay names l) : OnWay more l := by
  obtain ⟨first, beginning, place⟩ := way
  exact ⟨first, beginning.trans part, place⟩

theorem Reaches.onWay {cwd : Location} {p : Path} {l : Location} (reaches : Reaches cwd p l)
    (absolute : p.isAbsolute = true) : OnWay p.parts l := by
  obtain ⟨rfl, last⟩ := reaches
  exact ⟨p.parts, List.prefix_rfl, last, by simp [placeOf, absolute]⟩

theorem isAbsolute_mk {anchor : Anchor} (absolute : anchor ≠ .relative) (names : List String) :
    (Path.mk anchor names).isAbsolute = true := by
  simpa [Path.isAbsolute] using absolute

theorem evolves_makeDirectoriesFrom {anchor : Anchor} {fs : FileSystem}
    (absolute : anchor ≠ .relative) (tree : fs.IsTree) (backward : List String) :
    Evolves (Made (OnWay backward.reverse)) fs (makeDirectoriesFrom anchor fs backward).1 := by
  -- Each attempt makes a directory on the way of the names that it is made for.
  have attempt {fs : FileSystem} (tree : fs.IsTree) (names : List String) :
      Evolves (Made (OnWay names.reverse)) fs (fs.attemptDirectory ⟨anchor, names.reverse⟩).1 := by
    have path := isAbsolute_mk absolute names.reverse
    refine (evolves_attemptDirectory tree (hasStart_of_isAbsolute fs path)).mono fun l x y made => ?_
    rcases made with same | ⟨missing, directory, reaches⟩
    · exact .inl same
    · exact .inr ⟨missing, directory, reaches.onWay path⟩
  induction backward generalizing fs with
  | nil => exact attempt tree []
  | cons name above ih =>
    have first := attempt tree (name :: above)
    rw [makeDirectoriesFrom]
    split
    next made => rw [made] at first; exact first
    next after fault made =>
      rw [made] at first
      split
      next missing =>
        -- The directories above come first, and then there is a second attempt.
        have upper : Evolves (Made (OnWay (name :: above).reverse)) after
            (makeDirectoriesFrom anchor after above).1 := by
          refine (ih first.tree).mono fun l x y made => ?_
          rcases made with same | ⟨missing, directory, way⟩
          · exact .inl same
          · exact .inr ⟨missing, directory, way.mono (by simp)⟩
        have both := first.trans Made.trans upper
        split
        next made =>
          rw [made] at both
          exact both.trans Made.trans (attempt both.tree (name :: above))
        next => exact both
      next => exact first

theorem evolves_makeDirectories {fs : FileSystem} {p : Path} (tree : fs.IsTree)
    (absolute : p.isAbsolute = true) :
    Evolves (Made (OnWay p.parts)) fs (fs.makeDirectories p).1 := by
  have anchored : p.anchor ≠ .relative := by simpa [Path.isAbsolute] using absolute
  have made := evolves_makeDirectoriesFrom anchored tree p.parts.reverse
  rwa [List.reverse_reverse] at made

end BuildPipeline.FileSystem
