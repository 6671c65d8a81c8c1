import BuildPipeline.Proofs.BuildTree.Placing
import BuildPipeline.Proofs.BuildTree.Sweeping

set_option autoImplicit false

namespace BuildPipeline.BuildTree

open FileSystem

/-- What becomes of a tree in reconciling, where `deleted` is what is to go. -/
structure Settled (region : Location) (deleted : Location → Prop) (moves : Relocation)
    (before after : FileSystem) : Prop where
  landed : ∀ move ∈ moves, ∃ content,
    before.get? (placeOf before.cwd move.1) = some (.file content) ∧
      after.get? (placeOf [] move.2) = some (.file content)
  left : ∀ move ∈ moves, after.get? (placeOf before.cwd move.1) = none
  way : ∀ move ∈ moves, ∀ l, IsOver region (placeOf [] move.2) l → after.get? l = some .directory
  gone : ∀ l, deleted l →
    (∀ move ∈ moves, l ≠ placeOf [] move.2 ∧ ¬ IsOver region (placeOf [] move.2) l) →
    after.get? l = none
  kept : ∀ l content, before.get? l = some (.file content) → ¬ deleted l →
    (∀ move ∈ moves, l ≠ placeOf before.cwd move.1 ∧ l ≠ placeOf [] move.2) →
    after.get? l = some (.file content)
  noMore : ∀ l content, after.get? l = some (.file content) →
    before.get? l = some (.file content) ∨ ∃ move ∈ moves, l = placeOf [] move.2
  top : after.get? region = some .directory
  tidy : Tidy region before after

/-- The trees that the stages of reconciling leave, each made from the one before it. -/
structure Course (top : Path) (region : Location) (inputs transient : List Path)
    (moves : Relocation) (fs deleted moved cleaned : FileSystem) : Prop where
  leads : Leads fs top region
  names : ∀ p ∈ transient, p.isWithin top = true → ∀ name ∈ p.parts, IsName name
  either : ∀ p ∈ inputs ++ transient, p.isWithin top = true → FileOrMissing fs p
  way : ∀ move ∈ moves, ∀ l, IsOver region (placeOf [] move.2) l →
    ∀ content, fs.get? l ≠ some (.file content)
  notTransient : ∀ move ∈ moves, ¬ PlacesOf top transient (placeOf [] move.2)
  placeable : ∀ move ∈ moves, Placeable deleted top region move
  first : Sweeps top region inputs fs deleted
  placed : Placed region moves deleted moved
  last : Sweeps top region transient moved cleaned

section

variable {top : Path} {region : Location} {inputs transient : List Path} {moves : Relocation}
  {fs deleted moved cleaned : FileSystem}

theorem placesOf_append {paths others : List Path} {l : Location} :
    PlacesOf top (paths ++ others) l ↔ PlacesOf top paths l ∨ PlacesOf top others l := by
  simp only [PlacesOf, List.mem_append, or_and_right, exists_or]

theorem inside_of_isWithin (leads : Leads fs top region) {p : Path}
    (within : p.isWithin top = true) (names : ∀ name ∈ p.parts, IsName name) :
    region <+: placeOf [] p := by
  obtain ⟨more, rfl⟩ := exists_under_of_isWithin within
  rw [leads.placeOf_under fun name member => names name (List.mem_append_right top.parts member)]
  exact List.prefix_append _ _

theorem Placed.tidy (placed : Placed region moves fs moved)
    (placeable : ∀ move ∈ moves, Placeable fs top region move) : Tidy region fs moved := by
  intro l below other bare
  have landed : ∀ move ∈ moves, moved.get? (placeOf [] move.2) ≠ none ∧
      moved.get? (placeOf [] move.2) ≠ some .directory := by
    intro move member
    obtain ⟨content, stands⟩ := (placeable move member).stands
    simp [placed.landed move member content stands.file]
  have outside {at' : Location} (inside : region <+: at') :
      ∀ move ∈ moves, at' ≠ placeOf fs.cwd move.1 := by
    rintro move member rfl
    exact (placeable move member).outside inside
  -- An empty directory is none that a file was put to or passes, so that moving left it alone.
  have same := placed.rest l fun move member => ⟨outside below move member, ?_, ?_⟩
  · refine ⟨same ▸ bare.1, fun name => ?_⟩
    have child := placed.rest (l ++ [name]) fun move member =>
      ⟨outside (below.trans (List.prefix_append _ _)) move member, ?_, ?_⟩
    · rw [← child, bare.2 name]
    · intro place
      exact (landed move member).1 (place ▸ bare.2 name)
    · intro above
      have directory := placed.way move member _ above
      rw [bare.2 name] at directory
      cases directory
  · rintro rfl
    exact (landed move member).2 bare.1
  · intro above
    exact not_isBare_above placed.tree (landed move member).1 above.2.1 above.2.2 bare

variable (course : Course top region inputs transient moves fs deleted moved cleaned)

include course

theorem Course.leads_moved : Leads moved top region :=
  course.first.swept.leads.of_directories course.placed.tree course.placed.directories

theorem Course.cwd_deleted : deleted.cwd = fs.cwd :=
  course.first.swept.fewer.cwd

theorem Course.outside {l : Location} (inside : region <+: l) :
    ∀ move ∈ moves, l ≠ placeOf fs.cwd move.1 := by
  rintro move member rfl
  rw [← course.cwd_deleted] at inside
  exact (course.placeable move member).outside inside

theorem Course.get?_moved {l : Location} (source : ∀ move ∈ moves, l ≠ placeOf fs.cwd move.1)
    (away : ∀ move ∈ moves, l ≠ placeOf [] move.2 ∧ ¬ IsOver region (placeOf [] move.2) l) :
    moved.get? l = deleted.get? l := by
  refine course.placed.rest l fun move member => ⟨?_, away move member⟩
  rw [course.cwd_deleted]
  exact source move member

theorem Course.none_cleaned {l : Location} (missing : moved.get? l = none) :
    cleaned.get? l = none :=
  course.last.swept.fewer.missing missing

theorem Course.landed {move : Path × Path} (member : move ∈ moves) : ∃ content,
    fs.get? (placeOf fs.cwd move.1) = some (.file content) ∧
      cleaned.get? (placeOf [] move.2) = some (.file content) := by
  obtain ⟨content, stands⟩ := (course.placeable move member).stands
  have arrived := course.placed.landed move member content stands.file
  have file := course.first.swept.fewer.kept _ _ stands.file
  rw [course.cwd_deleted] at file
  exact ⟨content, file, (course.last.swept.files _ content arrived).resolve_left
    (course.notTransient move member)⟩

theorem Course.left {move : Path × Path} (member : move ∈ moves) :
    cleaned.get? (placeOf fs.cwd move.1) = none := by
  apply course.none_cleaned
  have left := course.placed.left move member
  rwa [course.cwd_deleted] at left

-- The way may be pruned in part, but not where the destination still stands below it.
theorem Course.way_cleaned {move : Path × Path} (member : move ∈ moves) {l : Location}
    (above : IsOver region (placeOf [] move.2) l) : cleaned.get? l = some .directory := by
  obtain ⟨content, -, there⟩ := course.landed member
  obtain ⟨-, ⟨rest, below⟩, other⟩ := above
  refine course.last.swept.leads.tree.directory_of_append (?_ : rest ≠ []) (by simp [below, there])
  rintro rfl
  exact other (by simpa using below)

theorem Course.gone {l : Location} (places : PlacesOf top (inputs ++ transient) l)
    (inside : region <+: l)
    (away : ∀ move ∈ moves, l ≠ placeOf [] move.2 ∧ ¬ IsOver region (placeOf [] move.2) l) :
    cleaned.get? l = none := by
  have same := course.get?_moved (course.outside inside) away
  rcases placesOf_append.1 places with ⟨p, member, within, rfl⟩ | ⟨p, member, within, rfl⟩
  · apply course.none_cleaned
    rw [same]
    exact course.first.gone p member within
      (course.either p (List.mem_append_left transient member) within)
  · have names := course.names p member within
    have before := (course.either p (List.mem_append_right inputs member) within).of_fewer
      course.leads course.first.swept.leads course.first.swept.fewer within names
    exact course.last.gone p member within
      (before.of_get? course.first.swept.leads course.leads_moved within names (.inr same))

theorem Course.kept {l : Location} {content : List UInt8}
    (file : fs.get? l = some (.file content)) (spared : ¬ PlacesOf top (inputs ++ transient) l)
    (away : ∀ move ∈ moves, l ≠ placeOf fs.cwd move.1 ∧ l ≠ placeOf [] move.2) :
    cleaned.get? l = some (.file content) := by
  rw [placesOf_append, not_or] at spared
  have first := (course.first.swept.files l content file).resolve_left spared.1
  have notOver : ∀ move ∈ moves, ¬ IsOver region (placeOf [] move.2) l :=
    fun move member above => course.way move member l above content file
  have same := course.get?_moved (fun move member => (away move member).1)
    fun move member => ⟨(away move member).2, notOver move member⟩
  exact (course.last.swept.files l content (same.trans first)).resolve_left spared.2

theorem Course.noMore {l : Location} {content : List UInt8}
    (file : cleaned.get? l = some (.file content)) :
    fs.get? l = some (.file content) ∨ ∃ move ∈ moves, l = placeOf [] move.2 := by
  by_cases landed : ∃ move ∈ moves, l = placeOf [] move.2
  · exact .inr landed
  have before := course.last.swept.fewer.kept _ _ file
  refine .inl (course.first.swept.fewer.kept _ _ ?_)
  rw [← course.get?_moved, before]
  · intro move member source
    rw [source, course.left member] at file
    cases file
  · intro move member
    refine ⟨fun same => landed ⟨move, member, same⟩, fun above => ?_⟩
    rw [course.way_cleaned member above] at file
    cases file

theorem Course.settled (inputNames : ∀ p ∈ inputs, p.isWithin top = true →
    ∀ name ∈ p.parts, IsName name) :
    Settled region (PlacesOf top (inputs ++ transient)) moves fs cleaned where
  landed _ := course.landed
  left _ := course.left
  way _ member _ := course.way_cleaned member
  gone l places := by
    refine course.gone places ?_
    obtain ⟨p, member, within, rfl⟩ := places
    apply inside_of_isWithin course.leads within
    exact (List.mem_append.1 member).elim (inputNames p · within) (course.names p · within)
  kept _ _ := course.kept
  noMore _ _ := course.noMore
  top := course.last.swept.leads.directory
  tidy := (course.first.tidy.trans (course.placed.tidy course.placeable)).trans course.last.tidy

end

end BuildPipeline.BuildTree
