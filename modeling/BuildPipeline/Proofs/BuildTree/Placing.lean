import BuildPipeline.Proofs.BuildTree.Landing
import BuildPipeline.Proofs.FileSystem.Making

set_option autoImplicit false

namespace BuildPipeline.BuildTree

open FileSystem Sequencing

variable {fs : FileSystem} {top : Path} {region : Location} {names : List String}

theorem leadsTo_of_spot_taken {last : Bool} {p : Path} {place : Location} {e : Entry}
    (spot : fs.spot last p = .ok (.taken place e)) (holds : Entry → Bool) :
    fs.leadsTo last holds p = .ok (holds e) := by
  simp [leadsTo, entry, spot, bind, Except.bind]

theorem leadsTo_of_spot_free {last : Bool} {p : Path} {place : Location}
    (spot : fs.spot last p = .ok (.free place)) (holds : Entry → Bool) :
    fs.leadsTo last holds p = .ok false := by
  simp [leadsTo, entry, spot, refuse, bind, Except.bind, leadsNowhere]

theorem exists_clear {name : String} (below : Below fs top region (names ++ [name]))
    (parent : fs.get? (region ++ names) = some .directory)
    (noDirectory : fs.get? (region ++ (names ++ [name])) ≠ some .directory) :
    ∃ after, clear fs (top.under (names ++ [name])) = .ok after ∧ after.cwd = fs.cwd ∧ after.IsTree ∧
      ∀ l, after.get? l = if l = region ++ (names ++ [name]) then none else fs.get? l := by
  have nonempty : region ++ (names ++ [name]) ≠ [] := by simp
  cases there : fs.get? (region ++ (names ++ [name])) with
  | none =>
    have spot := below.spot_free parent there
    refine ⟨fs, ?_, rfl, below.leads.tree, fun l => ?_⟩
    · simp [clear, isFile, isLink, leadsTo_of_spot_free (spot _), bind, Except.bind]
    · split
      next same => rw [same, there]
      next => rfl
  | some e =>
    cases e with
    | directory => exact absurd there noDirectory
    | link target => exact absurd there (below.leads.tree.noLink _ _)
    | file content =>
      have spot := below.spot_taken there
      have unlinked : fs.unlink (top.under (names ++ [name])) =
          .ok (fs.erase (region ++ (names ++ [name]))) := by
        rw [unlink, spot]
        rfl
      have tree := below.leads.tree.erase nonempty fun name =>
        below.leads.tree.none_below_file there (by simp)
      refine ⟨fs.erase (region ++ (names ++ [name])), ?_, rfl, tree, get?_erase fs nonempty⟩
      simp [clear, isFile, leadsTo_of_spot_taken (spot _), bind, Except.bind,
        Entry.isFile, unlinked]

structure Stands (fs : FileSystem) (p : Path) (content : List UInt8) : Prop where
  plain : p.IsPlain
  named : p.parts ≠ []
  nameable : Nameable p
  file : fs.get? (placeOf fs.cwd p) = some (.file content)

theorem Stands.locate {p : Path} {content : List UInt8} (stands : Stands fs p content)
    (tree : fs.IsTree) (last : Bool) :
    fs.locate last p = .ok (.taken (placeOf fs.cwd p) (.file content)) := by
  have start : fs.HasStart p := hasStart_of_file tree stands.plain stands.named stands.file
  have names := isName_of_isPlain stands.plain
  have place : placeOf fs.cwd p = fs.start p ++ p.parts := settle_of_names names _
  have file := stands.file
  rw [place] at file ⊢
  rw [locate_eq_descend tree, if_neg (Nat.not_lt.2 stands.nameable.text)]
  exact descend_taken tree start
    (fun name member => ⟨names name member, (stands.nameable.names name member).2⟩) file

theorem endsInName_under (p : Path) (plain : ∀ name ∈ names, Path.IsPart name ∧ name ≠ "..")
    (named : names ≠ []) : endsInName (p.under names) = true := by
  obtain ⟨last, found⟩ := Option.ne_none_iff_exists'.1 (mt List.getLast?_eq_none_iff.1 named)
  obtain ⟨part, notUp⟩ := plain last (List.mem_of_getLast? found)
  have nonempty : last ≠ "" := by
    rintro rfl
    exact absurd part.1 (by decide)
  simp [endsInName, Path.name, Path.under, List.getLast?_append, found, nonempty, notUp]

theorem Stands.endsInName {p : Path} {content : List UInt8} (stands : Stands fs p content) :
    endsInName p = true :=
  endsInName_under ⟨p.anchor, []⟩ stands.plain stands.named

theorem exists_stands {p : Path} (tree : fs.IsTree) (start : fs.HasStart p) (plain : p.IsPlain)
    (file : fs.isFile p = .ok true) : ∃ content, Stands fs p content := by
  obtain ⟨free, place, e, spot, isFile⟩ := exists_spot_of_leadsTo file
  have located := locate_of_spot spot
  obtain ⟨same, there⟩ : place = placeOf fs.cwd p ∧ fs.get? place = some e :=
    locate_spec tree start located
  rw [locate_eq_descend tree] at located
  split at located
  · cases located
  next short =>
    cases e with
    | link _ | directory => simp [Entry.isFile] at isFile
    | file content =>
      have names := isShort_of_descend (isName_of_isPlain plain) located
      refine ⟨content, plain, ?_, ⟨fun name member => ⟨free name member, names name member⟩,
        Nat.not_lt.1 short⟩, by rw [← same, there]⟩
      intro empty
      rw [empty] at located
      cases located

theorem move_eq_ok {source : Path} {content : List UInt8} {name : String}
    (stands : Stands fs source content) (below : Below fs top region (names ++ [name]))
    (ends : endsInName (top.under (names ++ [name])) = true) (parent : fs.get? (region ++ names) = some .directory)
    (missing : fs.get? (region ++ (names ++ [name])) = none) :
    ∃ after, fs.move source (top.under (names ++ [name])) = .ok after ∧ after.cwd = fs.cwd ∧
      after.IsTree ∧ ∀ l, after.get? l = if l = region ++ (names ++ [name]) then some (.file content)
        else if l = placeOf fs.cwd source then none else fs.get? l := by
  have tree := below.leads.tree
  have spot := below.spot_free parent missing
  have vacant : surely (fs.isDirectory (top.under (names ++ [name]))) = false := by
    rw [isDirectory, leadsTo_of_spot_free (spot true)]
    rfl
  -- The source is a file and the goal is missing, so that neither is on the way to the other.
  have apart : Apart (placeOf fs.cwd source) (region ++ (names ++ [name])) := by
    constructor
    · intro above
      rw [← List.append_assoc, List.prefix_concat_iff, List.append_assoc] at above
      rcases above with same | ⟨rest, same⟩
      · simp [← same, stands.file] at missing
      · by_cases last : rest = []
        · rw [last, List.append_nil] at same
          simp [← same, stands.file] at parent
        · rw [← same, tree.none_below_file stands.file last] at parent
          cases parent
    · intro under
      have nothing := tree.none_below (by simp [missing]) under
        (fun same => by simp [← same, stands.file] at missing)
      simp [stands.file] at nothing
  have goal := locate_of_spot (spot false)
  have spots : fs.renameSpots source (top.under (names ++ [name])) =
      .ok (fs.relocate (placeOf fs.cwd source) (region ++ (names ++ [name]))) := by
    rw [renameSpots, stands.locate tree, goal]
    have notInto : isBelow (region ++ (names ++ [name])) (placeOf fs.cwd source) = false :=
      Bool.eq_false_iff.2 (mt isBelow_iff.1 apart.1)
    have notOnto : isBelow (placeOf fs.cwd source) (region ++ (names ++ [name])) = false :=
      Bool.eq_false_iff.2 (mt isBelow_iff.1 apart.2)
    have other : placeOf fs.cwd source ≠ region ++ (names ++ [name]) :=
      fun same => apart.1 (same ▸ List.prefix_rfl)
    simp [bind, Except.bind, stands.endsInName, ends, Spot.place,
      notInto, notOnto, other]
  have renamed : fs.rename source (top.under (names ++ [name])) =
      .ok (fs.relocate (placeOf fs.cwd source) (region ++ (names ++ [name]))) := by
    rw [rename, holdsNull_eq_false stands.nameable.isNullFree, holdsNull_eq_false below.given.free,
      spots]
    rfl
  refine ⟨fs.relocate (placeOf fs.cwd source) (region ++ (names ++ [name])),
    by simp [move, vacant, transfer, renamed], rfl, ?_,
    get?_relocate_file tree apart stands.file (by simp [missing])⟩
  exact tree.relocate apart (by simpa [← List.append_assoc] using parent)

def IsOver (region place l : Location) : Prop :=
  region <+: l ∧ l <+: place ∧ l ≠ place

instance (region place l : Location) : Decidable (IsOver region place l) :=
  inferInstanceAs (Decidable (_ ∧ _ ∧ _))

/-- A destination that a file can be put to: no file is on its way, and no directory is there. -/
structure HasRoom (fs : FileSystem) (top : Path) (region : Location) (destination : Path) :
    Prop where
  target : ∃ names, names ≠ [] ∧ destination = top.under names ∧ Below fs top region names
  ends : endsInName destination = true
  way : ∀ l, IsOver region (placeOf [] destination) l → ∀ content, fs.get? l ≠ some (.file content)
  vacant : fs.get? (placeOf [] destination) ≠ some .directory

structure Put (region source place : Location) (content : List UInt8) (before after : FileSystem) :
    Prop where
  cwd : after.cwd = before.cwd
  tree : after.IsTree
  places : ∀ l, after.get? l =
    if l = place then some (.file content)
    else if l = source then none
    else if IsOver region place l then some .directory
    else before.get? l

theorem exists_moveOutput {source destination : Path} {content : List UInt8}
    (stands : Stands fs source content) (outside : ¬ region <+: placeOf fs.cwd source)
    (room : HasRoom fs top region destination) :
    ∃ after, moveOutput fs source destination = (after, .ok ()) ∧
      Put region (placeOf fs.cwd source) (placeOf [] destination) content fs after := by
  obtain ⟨⟨target, nonempty, rfl, below⟩, ends, way, vacant⟩ := room
  rw [below.leads.placeOf_under fun name member => (below.entryNames name member).1] at way vacant ⊢
  obtain ⟨names, name, rfl⟩ : ∃ names name, target = names ++ [name] :=
    ⟨_, _, (List.dropLast_concat_getLast nonempty).symm⟩
  have parent : (top.under (names ++ [name])).parent = top.under names := by
    simp [Path.parent, Path.under, ← List.append_assoc]
  have above (l : Location) :
      IsOver region (region ++ (names ++ [name])) l ↔ region <+: l ∧ l <+: region ++ names := by
    rw [IsOver, ← List.append_assoc, List.prefix_concat_iff]
    refine and_congr_right fun _ => ⟨fun on => on.1.resolve_left on.2, fun on => ⟨.inr on, ?_⟩⟩
    rintro rfl
    exact not_concat_prefix _ _ on
  have notOver : ¬ (region <+: region ++ (names ++ [name]) ∧
      region ++ (names ++ [name]) <+: region ++ names) := by
    rw [← above]
    exact fun on => on.2.2 rfl
  have hasWay : HasWay fs region names := by
    intro first content part
    exact way _ ((above _).2 ⟨List.prefix_append _ _, (List.prefix_append_right_inj _).2 part⟩) content
  -- First the way is made, then a file at the end of it is cleared, then the source moves there.
  obtain ⟨made, making, paved⟩ := exists_makeDirectoriesFrom below.of_append hasWay
  have madeBelow : Below made top region (names ++ [name]) := by
    refine below.of_directories paved.tree fun l directory => ?_
    rw [paved.places, directory, ite_self]
  have madeParent : made.get? (region ++ names) = some .directory := by
    rw [paved.places, if_pos (by simp)]
  have stillVacant : made.get? (region ++ (names ++ [name])) ≠ some .directory := by
    rwa [paved.places, if_neg notOver]
  obtain ⟨ready, clearing, cwd, tree, places⟩ := exists_clear madeBelow madeParent stillVacant
  have readyBelow : Below ready top region (names ++ [name]) := by
    refine madeBelow.of_directories tree fun l directory => ?_
    rw [places, if_neg]
    · exact directory
    · rintro rfl
      exact stillVacant directory
  have readyParent : ready.get? (region ++ names) = some .directory := by
    rw [places, if_neg (by simp), madeParent]
  have cwd' : ready.cwd = fs.cwd := cwd.trans paved.cwd
  have readyStands : Stands ready source content := by
    refine { stands with file := ?_ }
    rw [cwd', places, if_neg, paved.places, if_neg fun on => outside on.1, stands.file]
    intro same
    exact outside (same ▸ List.prefix_append _ _)
  obtain ⟨after, moving, last, tree', landed⟩ :=
    move_eq_ok readyStands readyBelow ends readyParent (by simp [places])
  refine ⟨after, ?_, last.trans cwd', tree', fun l => ?_⟩
  · rw [moveOutput, parent, makeDirectories]
    simp only [Path.under] at making clearing moving ⊢
    rw [making]
    simp only [clearing, moving]
  · rw [landed, cwd', places, paved.places]
    simp only [above]
    by_cases atEnd : l = region ++ (names ++ [name]) <;> simp [atEnd]

section

variable {source place : Location} {content : List UInt8} {after : FileSystem}

theorem Put.kept_directory (put : Put region source place content fs after)
    (vacant : fs.get? place ≠ some .directory) (file : fs.get? source = some (.file content))
    {l : Location} (directory : fs.get? l = some .directory) : after.get? l = some .directory := by
  have notPlace : l ≠ place := by
    rintro rfl
    exact vacant directory
  have notSource : l ≠ source := by
    rintro rfl
    simp [file] at directory
  rw [put.places, if_neg notPlace, if_neg notSource, directory, ite_self]

theorem Put.kept_outside (put : Put region source place content fs after) (inside : region <+: place)
    {l : Location} (outside : ¬ region <+: l) (other : l ≠ source) :
    after.get? l = fs.get? l := by
  have notPlace : l ≠ place := by
    rintro rfl
    exact outside inside
  rw [put.places, if_neg notPlace, if_neg other, if_neg fun above => outside above.1]

theorem HasRoom.inside {destination : Path} (room : HasRoom fs top region destination) :
    region <+: placeOf [] destination := by
  obtain ⟨⟨names, -, rfl, below⟩, -⟩ := room
  rw [below.leads.placeOf_under fun name member => (below.entryNames name member).1]
  exact List.prefix_append _ _

theorem HasRoom.of_put {destination : Path} (room : HasRoom fs top region destination)
    (put : Put region source place content fs after) (vacant : fs.get? place ≠ some .directory)
    (file : fs.get? source = some (.file content)) (apart : Apart place (placeOf [] destination)) :
    HasRoom after top region destination := by
  obtain ⟨⟨names, nonempty, same, below⟩, ends, way, free⟩ := room
  have kept (l : Location) (directory : fs.get? l = some .directory) :
      after.get? l = some .directory := put.kept_directory vacant file directory
  refine ⟨⟨names, nonempty, same, below.of_directories put.tree kept⟩, ends, ?_, ?_⟩
  · -- Neither what is put nor its source comes to lie on the way.
    intro l above other
    rw [put.places, if_neg]
    · split
      · simp
      split
      · simp
      · exact way l above other
    · rintro rfl
      exact apart.1 above.2.1
  · rw [put.places, if_neg]
    · split
      · simp
      rw [if_neg fun above => apart.2 above.2.1]
      exact free
    · intro same
      exact apart.1 (same ▸ List.prefix_rfl)

end

structure Placed (region : Location) (moves : Relocation) (before after : FileSystem) : Prop where
  cwd : after.cwd = before.cwd
  tree : after.IsTree
  landed : ∀ move ∈ moves, ∀ content,
    before.get? (placeOf before.cwd move.1) = some (.file content) →
      after.get? (placeOf [] move.2) = some (.file content)
  left : ∀ move ∈ moves, after.get? (placeOf before.cwd move.1) = none
  way : ∀ move ∈ moves, ∀ l, IsOver region (placeOf [] move.2) l → after.get? l = some .directory
  directories : ∀ l, before.get? l = some .directory → after.get? l = some .directory
  rest : ∀ l, (∀ move ∈ moves, l ≠ placeOf before.cwd move.1 ∧ l ≠ placeOf [] move.2 ∧
    ¬ IsOver region (placeOf [] move.2) l) → after.get? l = before.get? l

structure Placeable (fs : FileSystem) (top : Path) (region : Location) (move : Path × Path) :
    Prop where
  stands : ∃ content, Stands fs move.1 content
  outside : ¬ region <+: placeOf fs.cwd move.1
  room : HasRoom fs top region move.2

theorem Placeable.of_put {move other : Path × Path} {content : List UInt8} {after : FileSystem}
    (placeable : Placeable fs top region move) (stands : Stands fs move.1 content)
    (second : Placeable fs top region other)
    (put : Put region (placeOf fs.cwd move.1) (placeOf [] move.2) content fs after)
    (distinct : placeOf fs.cwd move.1 ≠ placeOf fs.cwd other.1)
    (apart : Apart (placeOf [] move.2) (placeOf [] other.2)) : Placeable after top region other := by
  obtain ⟨⟨own, ownStands⟩, outside, room⟩ := second
  refine ⟨⟨own, { ownStands with file := ?_ }⟩, ?_,
    room.of_put put placeable.room.vacant stands.file apart⟩
  · rw [put.cwd, put.kept_outside placeable.room.inside outside (Ne.symm distinct), ownStands.file]
  · rwa [put.cwd]

theorem Placed.cons {source destination : Path} {content : List UInt8} {rest : Relocation}
    {between after : FileSystem} (first : Placeable fs top region (source, destination))
    (stands : Stands fs source content)
    (later : ∀ move ∈ rest, Placeable fs top region move)
    (distinct : ∀ move ∈ rest, placeOf fs.cwd source ≠ placeOf fs.cwd move.1)
    (apart : ∀ move ∈ rest, Apart (placeOf [] destination) (placeOf [] move.2))
    (put : Put region (placeOf fs.cwd source) (placeOf [] destination) content fs between)
    (placed : Placed region rest between after) :
    Placed region ((source, destination) :: rest) fs after := by
  have kept (l : Location) (directory : fs.get? l = some .directory) :
      between.get? l = some .directory := put.kept_directory first.room.vacant stands.file directory
  have inside := first.room.inside
  -- The places of the first move are none of the others', and are not on their ways.
  have stays {l : Location} (away : ∀ move ∈ rest, l ≠ placeOf fs.cwd move.1 ∧
      l ≠ placeOf [] move.2 ∧ ¬ IsOver region (placeOf [] move.2) l) :
      after.get? l = between.get? l :=
    placed.rest l (by rwa [put.cwd])
  have landed : after.get? (placeOf [] destination) = some (.file content) := by
    rw [stays, put.places, if_pos rfl]
    intro move member
    refine ⟨fun same => (later move member).outside (same ▸ inside), ?_, ?_⟩
    · intro same
      exact (apart move member).1 (same ▸ List.prefix_rfl)
    · exact fun above => (apart move member).1 above.2.1
  have left : after.get? (placeOf fs.cwd source) = none := by
    rw [stays, put.places, if_neg, if_pos rfl]
    · intro same
      exact first.outside (same ▸ inside)
    · intro move member
      refine ⟨distinct move member, ?_, fun above => first.outside above.1⟩
      intro same
      exact first.outside (same ▸ (later move member).room.inside)
  have way (l : Location) (above : IsOver region (placeOf [] destination) l) :
      after.get? l = some .directory := by
    apply placed.directories
    rw [put.places, if_neg above.2.2, if_neg, if_pos above]
    rintro rfl
    exact first.outside above.1
  refine ⟨placed.cwd.trans put.cwd, placed.tree, ?_, ?_, ?_,
    fun l directory => placed.directories l (kept l directory), ?_⟩
  · simp only [List.mem_cons, forall_eq_or_imp]
    refine ⟨fun other file => ?_, fun move member other file => ?_⟩
    · rw [stands.file] at file
      cases file
      exact landed
    · refine placed.landed move member other ?_
      rw [put.cwd, put.kept_outside inside (later move member).outside
        (Ne.symm (distinct move member)), file]
  · simp only [List.mem_cons, forall_eq_or_imp]
    refine ⟨left, fun move member => ?_⟩
    have gone := placed.left move member
    rwa [put.cwd] at gone
  · simp only [List.mem_cons, forall_eq_or_imp]
    exact ⟨way, placed.way⟩
  · simp only [List.mem_cons, forall_eq_or_imp]
    rintro l ⟨⟨notSource, notPlace, notOver⟩, away⟩
    rw [stays away, put.places, if_neg notPlace, if_neg notSource, if_neg notOver]

theorem placed_moveOutputs {w : World} {moves : Relocation} (tree : w.files.IsTree)
    (placeable : ∀ move ∈ moves, Placeable w.files top region move)
    (distinct : moves.Pairwise fun a b => placeOf w.files.cwd a.1 ≠ placeOf w.files.cwd b.1)
    (apart : moves.Pairwise fun a b => Apart (placeOf [] a.2) (placeOf [] b.2)) :
    ∃ after, moveOutputs w moves = (after, .ok []) ∧ Placed region moves w.files after.files := by
  induction moves generalizing w with
  | nil => exact ⟨w, rfl, rfl, tree, by simp, by simp, by simp, fun _ => id, fun _ _ => rfl⟩
  | cons move rest ih =>
    obtain ⟨source, destination⟩ := move
    have first := placeable _ List.mem_cons_self
    have later (move : Path × Path) (member : move ∈ rest) :=
      placeable move (List.mem_cons_of_mem (source, destination) member)
    rw [List.pairwise_cons] at distinct apart
    obtain ⟨content, stands⟩ := first.stands
    obtain ⟨between, moved, put⟩ := exists_moveOutput stands first.outside first.room
    obtain ⟨after, done, placed⟩ := ih (w := ({ w with files := between } : World).debug
        ("Moved " ++ source.name ++ " -> " ++ destination.text)) put.tree
      (fun move member => first.of_put stands (later move member) put (distinct.1 move member)
        (apart.1 move member))
      (by rw [World.files_debug, put.cwd]; exact distinct.2) apart.2
    refine ⟨after, ?_, .cons first stands later distinct.1 apart.1 put placed⟩
    rw [moveOutputs, moved]
    exact done

end BuildPipeline.BuildTree
