import BuildPipeline.BuildTree.Pruning
import BuildPipeline.Proofs.FileSystem.Access
import Mathlib.Data.List.TakeWhile

set_option autoImplicit false

namespace BuildPipeline

theorem Path.isAbsolute_absolute {cwd : Path} (root : cwd.isAbsolute = true) (p : Path) :
    (absolute cwd p).isAbsolute = true := by
  rw [absolute]
  split
  next already => exact already
  next => exact root

theorem Path.absolute_of_isAbsolute {p : Path} (already : p.isAbsolute = true) (cwd : Path) :
    absolute cwd p = p := by
  rw [absolute, if_pos already]

theorem FileSystem.placeOf_of_isAbsolute {p : Path} (absolute : p.isAbsolute = true)
    (cwd : Location) : placeOf cwd p = settle [] p.parts := by
  rw [placeOf, if_pos absolute]

theorem FileSystem.reaches_of_isAbsolute {p : Path} (absolute : p.isAbsolute = true)
    (cwd : Location) : Reaches cwd p = Reaches [] p := by
  funext l
  rw [Reaches, Reaches, placeOf_of_isAbsolute absolute, placeOf_of_isAbsolute absolute]

namespace BuildTree

open FileSystem Sequencing

theorem mem_above_go {anchor : Anchor} {backward parts : List String} {dir : Path}
    (member : dir ∈ Path.above.go anchor backward parts) :
    dir.anchor = anchor ∧ dir.parts <+: backward.reverse := by
  induction backward with
  | nil =>
    cases parts with
    | nil => simp [Path.above.go] at member
    | cons name rest =>
      rw [Path.above.go, List.mem_singleton] at member
      · simp [member]
      · simp
  | cons name rest ih =>
    cases parts with
    | nil => simp [Path.above.go] at member
    | cons first others =>
      rw [Path.above.go, List.mem_cons] at member
      · rcases member with rfl | member
        · exact ⟨rfl, List.prefix_rfl⟩
        · obtain ⟨same, part⟩ := ih member
          exact ⟨same, part.trans (by simp)⟩
      · simp

theorem mem_above {p dir : Path} (member : dir ∈ p.above) :
    dir.anchor = p.anchor ∧ dir.parts <+: p.parts := by
  obtain ⟨same, part⟩ := mem_above_go member
  rw [List.tail_reverse, List.reverse_reverse] at part
  exact ⟨same, part.trans (List.dropLast_prefix _)⟩

theorem mem_prunable {p root dir : Path} (member : dir ∈ prunable p root) :
    dir.anchor = p.anchor ∧ root.parts <+: dir.parts ∧ dir.parts <+: p.parts := by
  have kept := List.mem_takeWhile_imp member
  simp only [Path.isWithin, Bool.and_eq_true, List.isPrefixOf_iff_prefix] at kept
  obtain ⟨same, part⟩ := mem_above (List.takeWhile_subset _ member)
  exact ⟨same, kept.2.2, part⟩

def Prunes (p root : Path) (l : Location) : Prop :=
  ∃ dir ∈ prunable p root, Reaches [] dir l

theorem evolves_pruneOne {fs after : FileSystem} {dir : Path} (tree : fs.IsTree)
    (absolute : dir.isAbsolute = true) (done : pruneOne fs dir = .ok (some after)) :
    Evolves (Cleared (fun _ => False) (Reaches [] dir)) fs after := by
  obtain ⟨names, -, done⟩ := bind_eq_ok_iff.1 done
  split at done
  · cases done
  · obtain ⟨left, removed, last⟩ := bind_eq_ok_iff.1 done
    cases last
    have evolves := evolves_removeDirectory tree (fs.hasStart_of_isAbsolute absolute) removed
    rwa [reaches_of_isAbsolute absolute] at evolves

theorem evolves_pruneEach {w : World} {dirs : List Path} (tree : w.files.IsTree)
    (absolute : ∀ dir ∈ dirs, dir.isAbsolute = true) :
    Evolves (Cleared (fun _ => False) fun l => ∃ dir ∈ dirs, Reaches [] dir l) w.files
      (pruneEach w dirs).1.files := by
  induction dirs generalizing w with
  | nil => exact .refl tree fun _ _ => .inl rfl
  | cons dir rest ih =>
    simp only [List.mem_cons, forall_eq_or_imp] at absolute
    have later {w : World} (tree : w.files.IsTree) :
        Evolves (Cleared (fun _ => False) fun l => ∃ d ∈ dir :: rest, Reaches [] d l) w.files
          (pruneEach w rest).1.files := by
      refine (ih tree absolute.2).mono fun l x y cleared => cleared.mono id ?_
      rintro ⟨d, member, reaches⟩
      exact ⟨d, List.mem_cons_of_mem dir member, reaches⟩
    -- The first directory stays, goes, or cannot go; it ends pruning unless it goes or is missing.
    rw [pruneEach]
    split
    next => exact .refl tree fun _ _ => .inl rfl
    next after removed =>
      have first : Evolves (Cleared (fun _ => False) fun l => ∃ d ∈ dir :: rest,
          Reaches [] d l) w.files after := by
        refine (evolves_pruneOne tree absolute.1 removed).mono fun l x y cleared => cleared.mono id ?_
        exact fun reaches => ⟨dir, List.mem_cons_self, reaches⟩
      exact first.trans Cleared.trans (later (w := { w with files := after }) first.tree)
    next =>
      split
      · exact later tree
      · exact .refl tree fun _ _ => .inl rfl

theorem evolves_prunable {w : World} {p : Path} (tree : w.files.IsTree)
    (absolute : p.isAbsolute = true) (root : Path) :
    Evolves (Cleared (fun _ => False) (Prunes p root)) w.files
      (pruneEach w (prunable p root)).1.files := by
  refine evolves_pruneEach tree fun dir member => ?_
  rw [Path.isAbsolute, (mem_prunable member).1]
  exact absolute

theorem unlinkPrune_of_unlink {w : World} {p root : Path} {files : FileSystem}
    (pAbsolute : p.isAbsolute = true) (rootAbsolute : root.isAbsolute = true)
    (unlinked : w.files.unlink p = .ok files) :
    unlinkPrune w p root = .ok (pruneEach { w with files } (prunable p root)) := by
  rw [unlinkPrune, Path.absolute_of_isAbsolute pAbsolute, Path.absolute_of_isAbsolute rootAbsolute]
  simp only [unlinked]

abbrev Deletes (p root : Path) : Change :=
  Cleared (Reaches [] p) (Prunes p root)

theorem evolves_unlinkPrune {w after : World} {p root : Path} {removed : List Path}
    (tree : w.files.IsTree) (pAbsolute : p.isAbsolute = true) (rootAbsolute : root.isAbsolute = true)
    (done : unlinkPrune w p root = .ok (after, removed)) :
    Evolves (Deletes p root) w.files after.files := by
  have pruned {w : World} (tree : w.files.IsTree) :
      Evolves (Deletes p root) w.files (pruneEach w (prunable p root)).1.files :=
    (evolves_prunable tree pAbsolute root).mono fun l x y cleared => cleared.mono False.elim id
  rw [unlinkPrune, Path.absolute_of_isAbsolute pAbsolute, Path.absolute_of_isAbsolute rootAbsolute]
    at done
  split at done
  next files unlinked =>
    have first : Evolves (Deletes p root) w.files files := by
      have unlinks := evolves_unlink tree (w.files.hasStart_of_isAbsolute pAbsolute) unlinked
      rw [reaches_of_isAbsolute pAbsolute] at unlinks
      exact unlinks.mono fun l x y cleared => cleared.mono id False.elim
    have both := first.trans Cleared.trans (pruned (w := { w with files }) first.tree)
    rwa [Except.ok.inj done] at both
  · cases done
  next =>
    -- Directories above a missing entry are pruned all the same.
    split at done
    · have only := pruned tree
      rwa [Except.ok.inj done] at only
    · cases done
      exact .refl tree fun _ _ => .inl rfl

end BuildTree

end BuildPipeline
