import BuildPipeline.Proofs.BuildTree.Attempts
import BuildPipeline.Proofs.BuildTree.Containment
import BuildPipeline.Proofs.BuildTree.Settling

set_option autoImplicit false

/-!
Directories that are empty after reconciling. Deleting leaves none behind, but moves do: the directory
that an output is taken out of stays, and so does the way that is made for a move that fails.
-/

namespace BuildPipeline.BuildTree

open BuildPipeline.Bundler (Manifest)
open FileSystem Sequencing

section

variable {fs after : FileSystem} {l : Location}

theorem bare_relocate {source target : Location} (tree : fs.IsTree) (apart : Apart source target)
    (parent : fs.get? target.dropLast = some .directory) (there : fs.get? source ≠ none)
    (bare : IsBare (fs.relocate source target) l) :
    (∃ rest, l = target ++ rest ∧ IsBare fs (source ++ rest)) ∨ l = source.dropLast ∨
      IsBare fs l ∧ ¬ l <+: target := by
  obtain ⟨directory, empty⟩ := bare
  have places := get?_relocate fs apart
  by_cases below : target <+: l
  · obtain ⟨rest, rfl⟩ := below
    refine .inl ⟨rest, rfl, ?_, fun name => ?_⟩
    · rwa [places, if_pos (List.prefix_append _ _), List.drop_left] at directory
    · have missing := empty name
      rwa [places, if_pos (by simp), List.append_assoc, List.drop_left, ← List.append_assoc] at missing
  -- What is above the target is not empty now, as something has come to stand at the target.
  have landed : (fs.relocate source target).get? target ≠ none := by
    rwa [places, if_pos List.prefix_rfl, List.drop_length, List.append_nil]
  have notAbove : ¬ l <+: target := by
    intro above
    have other : l ≠ target := fun same => below (same ▸ List.prefix_rfl)
    exact not_isBare_above (tree.relocate apart parent) landed above other ⟨directory, empty⟩
  have stays : ¬ source <+: l := by
    intro moved
    rw [places, if_neg below, if_pos moved] at directory
    cases directory
  by_cases out : l = source.dropLast
  · exact .inr (.inl out)
  -- Away from the two places everything is as it was, what is in the directory as well.
  refine .inr (.inr ⟨⟨?_, fun name => ?_⟩, notAbove⟩)
  · rwa [places, if_neg below, if_neg stays] at directory
  · have missing := empty name
    rwa [places, if_neg, if_neg] at missing
    · intro moved
      rcases List.prefix_concat_iff.1 moved with same | shorter
      · exact out (by rw [same, List.dropLast_concat])
      · exact stays shorter
    · intro longer
      rcases List.prefix_concat_iff.1 longer with same | shorter
      · exact notAbove (same ▸ List.prefix_append _ _)
      · exact below shorter

theorem placeOf_of_isPlain {p : Path} (absolute : p.isAbsolute = true) (plain : p.IsPlain)
    (cwd : Location) : placeOf cwd p = p.parts := by
  rw [placeOf_of_isAbsolute absolute, settle_parts plain List.prefix_rfl]

theorem bare_of_readies {destination : Path} (absolute : destination.isAbsolute = true)
    (plain : destination.IsPlain) (readies : Evolves (Readies destination) fs after)
    (bare : IsBare after l) :
    IsBare fs l ∨ (l <+: destination.parts ∧ l ≠ destination.parts) ∧
      (fs.get? l = none ∨ l = destination.parts.dropLast) := by
  have place := placeOf_of_isPlain absolute plain []
  obtain ⟨directory, empty⟩ := bare
  -- Either it was there, or it has been made on the way; a destination that is cleared is gone.
  rcases readies.change l with (same | ⟨missing, -, first, part, -, rfl⟩) | ⟨-, gone, -⟩
  · by_cases before : ∀ name, fs.get? (l ++ [name]) = none
    · exact .inl ⟨same ▸ directory, before⟩
    -- What was in it was a file at the destination.
    obtain ⟨name, there⟩ := not_forall.1 before
    rcases readies.change (l ++ [name]) with (same | ⟨missing, -⟩) | ⟨-, -, reaches, -⟩
    · exact absurd (same ▸ empty name) there
    · exact absurd missing there
    · rw [← place, reaches]
      exact .inr ⟨⟨List.prefix_append _ _, by simp⟩, .inr List.dropLast_concat.symm⟩
  · have above : first <+: destination.parts := part.trans (List.dropLast_prefix _)
    rw [settle_parts plain above] at missing ⊢
    refine .inr ⟨⟨above, fun whole => ?_⟩, .inl missing⟩
    have shorter := part.length_le
    rw [whole, Path.parent, List.length_dropLast] at shorter
    have nothing : destination.parts = [] := List.length_eq_zero_iff.1 (by omega)
    simp [whole, nothing] at missing
  · rw [directory] at gone
    cases gone

theorem source_of_rename {source target : Path} (tree : fs.IsTree) (start : fs.HasStart source)
    (done : fs.rename source target = .ok after) : fs.get? (placeOf fs.cwd source) ≠ none := by
  obtain ⟨found, located, done⟩ := bind_eq_ok_iff.1 (renameSpots_of_rename done).2
  obtain ⟨goal, -, done⟩ := bind_eq_ok_iff.1 done
  obtain ⟨place, holds⟩ := locate_spec tree start located
  cases found with
  | free free => cases done
  | taken there e =>
    rw [← place, Spot.place, show fs.get? there = some e from holds]
    simp

theorem exists_relocate_of_move {source destination : Path} (tree : fs.IsTree)
    (sourceStart : fs.HasStart source) (absolute : destination.isAbsolute = true)
    (sourceClean : source.IsClean) (clean : destination.IsClean)
    (done : fs.move source destination = .ok after) :
    fs.get? (placeOf fs.cwd source) ≠ none ∧
      (after = fs ∧ placeOf fs.cwd source = placeOf fs.cwd destination ∨
        ∃ landing, Lands fs.cwd (source, destination) landing ∧
          Apart (placeOf fs.cwd source) landing ∧ fs.get? landing.dropLast = some .directory ∧
          fs.get? landing ≠ some .directory ∧
          after = fs.relocate (placeOf fs.cwd source) landing) := by
  have start := fs.hasStart_of_isAbsolute absolute
  have insideStart := fs.hasStart_of_isAbsolute (isAbsolute_insidePath absolute source)
  obtain ⟨renamed, vacant⟩ | ⟨renamed, -, new⟩ := rename_of_move tree sourceStart absolute done
  · refine ⟨source_of_rename tree sourceStart renamed, ?_⟩
    obtain ⟨-, -, ⟨same, rfl⟩ | ⟨apart, parent, -, rfl⟩⟩ := rename_eq_ok tree sourceStart start renamed
    · exact .inl ⟨rfl, same⟩
    · have noDirectory := vacant.resolve_left fun same => apart.1 (same ▸ List.prefix_rfl)
      exact .inr ⟨_, .inl rfl, apart, parent, noDirectory, rfl⟩
  · have there := source_of_rename tree sourceStart renamed
    refine ⟨there, ?_⟩
    obtain ⟨named, -, ⟨same, -⟩ | ⟨apart, parent, -, rfl⟩⟩ :=
      rename_eq_ok tree sourceStart insideStart renamed
    · rw [same] at there
      exact absurd new there
    · rw [placeOf_insidePath absolute sourceClean clean named] at apart parent new ⊢
      exact .inr ⟨_, .inr rfl, apart, parent, by simp [new], rfl⟩

end

namespace Attempt

def Empties (region : Location) (a : Attempt) (l : Location) : Prop :=
  a.fault? = none ∧ l = (placeOf a.before.cwd a.source).dropLast ∨
    a.fault? ≠ none ∧ IsOver region (placeOf a.before.cwd a.destination) l ∧
      (a.before.get? l = none ∨ l = (placeOf a.before.cwd a.destination).dropLast)

def Carries (a : Attempt) (l l' : Location) : Prop :=
  a.fault? = none ∧ a.before.get? (placeOf a.before.cwd a.source) = some .directory ∧
    ∃ landing rest, Lands a.before.cwd (a.source, a.destination) landing ∧
      l = placeOf a.before.cwd a.source ++ rest ∧ l' = landing ++ rest

end Attempt

structure Inward (top : Path) (move : Path × Path) : Prop where
  source : move.1.IsPlain
  absolute : move.2.isAbsolute = true
  destination : move.2.IsPlain
  within : top.parts <+: move.2.parts

theorem bare_after {a : Attempt} {top : Path} {l : Location} (tree : a.before.IsTree)
    (inward : Inward top (a.source, a.destination)) (outside : ¬ l <+: top.parts)
    (bare : IsBare a.after l) :
    IsBare a.before l ∨ a.Empties top.parts l ∨
      ∃ l₀, ¬ l₀ <+: top.parts ∧ a.Carries l₀ l ∧ IsBare a.before l₀ := by
  have place := placeOf_of_isPlain inward.absolute inward.destination a.before.cwd
  -- Places on the way to the destination are above the root or below it.
  have aboveOrBelow {m : Location} (above : m <+: a.destination.parts) :
      m <+: top.parts ∨ top.parts <+: m :=
    List.prefix_or_prefix_of_prefix above inward.within
  obtain ⟨fault, after, outcome, readies⟩ | ⟨ready, after, outcome, readies, moved⟩ :=
    moveOutput_spec a.source tree inward.absolute
  -- A move that fails has been made ready, and no more.
  · rw [Attempt.after, outcome] at bare
    refine (bare_of_readies inward.absolute inward.destination readies bare).imp_right fun way => ?_
    refine .inl (.inr ⟨by simp [Attempt.fault?, outcome], ?_⟩)
    rw [place]
    exact ⟨⟨(aboveOrBelow way.1.1).resolve_left outside, way.1⟩, way.2⟩
  · rw [Attempt.after, outcome] at bare
    have succeeds : a.fault? = none := by simp [Attempt.fault?, outcome]
    have start := hasStart_of_move readies.tree inward.source moved
    obtain ⟨there, ⟨rfl, same⟩ | ⟨landing, lands, apart, parent, -, rfl⟩⟩ :=
      exists_relocate_of_move readies.tree start inward.absolute inward.source.isClean
        inward.destination.isClean moved
    -- The destination is taken, so that no directory on its way is empty.
    · refine (bare_of_readies inward.absolute inward.destination readies bare).imp_right fun way => ?_
      rw [same, readies.cwd, place] at there
      exact absurd bare (not_isBare_above readies.tree there way.1.1 way.1.2)
    · rw [readies.cwd] at lands there apart bare
      have under : a.destination.parts <+: landing := place ▸ lands.below
      have notAbove {m : Location} (below : placeOf a.before.cwd a.source <+: m) :
          ¬ m <+: a.destination.parts :=
        fun above => apart.1 ((below.trans above).trans under)
      rcases bare_relocate readies.tree apart parent there bare with
        ⟨rest, rfl, carried⟩ | out | ⟨stays, away⟩
      · have below := List.prefix_append (placeOf a.before.cwd a.source) rest
        have before := (bare_of_readies inward.absolute inward.destination readies carried).resolve_right
          fun way => notAbove below way.1.1
        refine .inr (.inr ⟨_, fun above => notAbove below (above.trans inward.within),
          ⟨succeeds, ?_, landing, rest, lands, rfl, rfl⟩, before⟩)
        by_cases last : rest = []
        · simpa [last] using before.1
        · exact tree.directory_of_append last (by simp [before.1])
      · exact .inr (.inl (.inl ⟨succeeds, out⟩))
      · exact .inl ((bare_of_readies inward.absolute inward.destination readies stays).resolve_right
          fun way => away (way.1.1.trans under))

theorem Inward.guided {top : Path} {move : Path × Path} (inward : Inward top move) : Guided move :=
  ⟨inward.source, inward.absolute, inward.destination.isClean⟩

theorem directory_after {a : Attempt} {top : Path} (tree : a.before.IsTree)
    (inward : Inward top (a.source, a.destination))
    (directory : a.before.get? top.parts = some .directory) :
    a.after.get? top.parts = some .directory := by
  have place := placeOf_of_isPlain inward.absolute inward.destination a.before.cwd
  -- Readying clears files and fills what is free, and the root is neither.
  have readied {ready : FileSystem} (readies : Evolves (Readies a.destination) a.before ready) :
      ready.get? top.parts = some .directory := by
    rcases readies.change top.parts with (same | ⟨missing, -⟩) | ⟨⟨content, file⟩, -⟩
    · rw [same, directory]
    · simp [directory] at missing
    · simp [directory] at file
  obtain ⟨fault, after, outcome, readies⟩ | ⟨ready, after, outcome, readies, moved⟩ :=
    moveOutput_spec a.source tree inward.absolute
  · rw [Attempt.after, outcome]
    exact readied readies
  · rw [Attempt.after, outcome]
    have start := hasStart_of_move readies.tree inward.source moved
    obtain ⟨-, ⟨rfl, -⟩ | ⟨landing, lands, apart, -, noDirectory, rfl⟩⟩ :=
      exists_relocate_of_move readies.tree start inward.absolute inward.source.isClean
        inward.destination.isClean moved
    · exact readied readies
    · rw [readies.cwd] at lands apart ⊢
      have under : top.parts <+: landing := inward.within.trans (place ▸ lands.below)
      rw [get?_relocate _ apart, if_neg, if_neg, readied readies]
      · -- An entry above the root would be moved below itself.
        exact fun above => apart.1 (above.trans under)
      · intro below
        -- Nothing lands in the place of a directory.
        have same := below.eq_of_length_le under.length_le
        rw [same] at noDirectory
        exact noDirectory (readied readies)

/-- Why a place may be empty after some attempts: it was so at the start, one of them has left it so,
or one of them has brought there what was. -/
inductive LeftEmpty (region : Location) (start : FileSystem) : List Attempt → Location → Prop where
  | start {l : Location} (bare : IsBare start l) : LeftEmpty region start [] l
  | emptied {tried : List Attempt} {a : Attempt} {l : Location} (empties : a.Empties region l) :
    LeftEmpty region start (tried ++ [a]) l
  | stayed {tried : List Attempt} {a : Attempt} {l : Location}
    (before : LeftEmpty region start tried l) : LeftEmpty region start (tried ++ [a]) l
  | carried {tried : List Attempt} {a : Attempt} {l l' : Location} (carries : a.Carries l l')
    (before : LeftEmpty region start tried l) : LeftEmpty region start (tried ++ [a]) l'

theorem LeftEmpty.append {region : Location} {start : FileSystem} {tried : List Attempt} {l : Location}
    (left : LeftEmpty region start tried l) (more : List Attempt) :
    LeftEmpty region start (tried ++ more) l := by
  induction more using List.reverseRecOn with
  | nil => rwa [List.append_nil]
  | append_singleton more a ih =>
    rw [← List.append_assoc]
    exact .stayed ih

theorem LeftEmpty.cases_of_not_carries {region : Location} {start : FileSystem}
    {tried : List Attempt} {l : Location} (left : LeftEmpty region start tried l)
    (files : ∀ a ∈ tried, ∀ l l', ¬ a.Carries l l') :
    IsBare start l ∨ ∃ a ∈ tried, a.Empties region l := by
  induction left with
  | start bare => exact .inl bare
  | emptied empties => exact .inr ⟨_, by simp, empties⟩
  | stayed before ih =>
    refine (ih fun a member => files a (by simp [member])).imp_right ?_
    rintro ⟨a, member, empties⟩
    exact ⟨a, by simp [member], empties⟩
  | carried carries before ih => exact absurd carries (files _ (by simp) _ _)

theorem leftEmpty_attempts {fs start : FileSystem} {top : Path} {moves : Relocation}
    (tree : fs.IsTree) (inward : ∀ move ∈ moves, Inward top move)
    (bare : ∀ l, ¬ l <+: top.parts → IsBare fs l → IsBare start l) :
    ∀ l, ¬ l <+: top.parts → IsBare (filesAfter fs (attempts fs moves)) l →
      LeftEmpty top.parts start (attempts fs moves) l := by
  refine (attempts_induction (fun tried now => now.IsTree ∧
    ∀ l, ¬ l <+: top.parts → IsBare now l → LeftEmpty top.parts start tried l)
    fs moves ⟨tree, fun l outside here => .start (bare l outside here)⟩ ?_).2
  rintro tried a member ⟨before, left⟩
  refine ⟨(tree_moveOutput before (inward _ member).guided).1, fun l outside here => ?_⟩
  rcases bare_after before (inward _ member) outside here with
    already | empties | ⟨l₀, outside₀, carries, already⟩
  · exact .stayed (left l outside already)
  · exact .emptied empties
  · exact .carried carries (left l₀ outside₀ already)

theorem directory_attempts {fs : FileSystem} {top : Path} {moves : Relocation} (tree : fs.IsTree)
    (inward : ∀ move ∈ moves, Inward top move) (directory : fs.get? top.parts = some .directory) :
    (filesAfter fs (attempts fs moves)).get? top.parts = some .directory := by
  refine (attempts_induction
    (fun _ now => now.IsTree ∧ now.get? top.parts = some .directory) fs moves ⟨tree, directory⟩ ?_).2
  rintro tried a member ⟨before, there⟩
  exact ⟨(tree_moveOutput before (inward _ member).guided).1,
    directory_after before (inward _ member) there⟩

theorem bare_of_swept {before after : FileSystem} {top : Path} {region l : Location}
    {paths : List Path} (leads : Leads before top region)
    (swept : Swept top region (PlacesOf top paths) before after) (tidy : Tidy region before after)
    (plain : ∀ p ∈ paths, p.isWithin top = true → ∀ name ∈ p.parts, IsName name)
    (outside : ¬ l <+: region) (bare : IsBare after l) : IsBare before l := by
  by_cases below : region <+: l
  · exact tidy l below (fun same => outside (same ▸ List.prefix_rfl)) bare
  refine ⟨swept.fewer.kept _ _ bare.1, fun name => ?_⟩
  -- Nothing goes that is not below the root.
  have elsewhere : ¬ region <+: l ++ [name] := by
    intro longer
    rcases List.prefix_concat_iff.1 longer with same | shorter
    · exact outside (same ▸ List.prefix_append _ _)
    · exact below shorter
  by_contra there
  obtain ⟨e, there⟩ := Option.ne_none_iff_exists'.1 there
  have gone := bare.2 name
  cases e with
  | directory =>
    rw [swept.directories _ (fun inside => elsewhere inside.1) there] at gone
    cases gone
  | file content =>
    rcases swept.files _ content there with ⟨p, member, within, same⟩ | kept
    · exact elsewhere (same ▸ inside_of_isWithin leads within (plain p member within))
    · rw [kept] at gone
      cases gone
  | link target => exact leads.tree.noLink _ _ there

theorem Straight.inward {fs : FileSystem} {m : Manifest} {root : Path} {move : Path × Path}
    (straight : Straight fs m root) (plain : (Path.absolute ⟨.root, fs.cwd⟩ root).IsPlain)
    (planned : Planned ⟨.root, fs.cwd⟩ m (Path.absolute ⟨.root, fs.cwd⟩ root) move) :
    Inward (Path.absolute ⟨.root, fs.cwd⟩ root) move := by
  have guided := straight.guided planned
  have destination : move.2.IsPlain := planned.forall_destination plain fun key mentions =>
    Path.forall_join straight.directoryPlain (straight.plain key mentions)
  exact ⟨guided.plain, guided.absolute, destination, prefix_of_isWithin planned.isWithin⟩

theorem leftEmpty_moves {w : World} {top : Path} {inputs : List Path} {moves : Relocation}
    (leads : Leads w.files top top.parts) (plain : ∀ name ∈ top.parts, IsName name)
    (names : ∀ p ∈ inputs, ∀ name ∈ p.parts, IsName name) (inward : ∀ move ∈ moves, Inward top move) :
    let deleted := (deleteInputs top w inputs).1.files
    let moved := filesAfter deleted (attempts deleted moves)
    (∀ l, ¬ l <+: top.parts → IsBare deleted l → IsBare w.files l) ∧
      (∀ l, ¬ l <+: top.parts → IsBare moved l →
        LeftEmpty top.parts w.files (attempts deleted moves) l) ∧
      Leads moved top top.parts ∧ moved.cwd = w.files.cwd := by
  intro deleted moved
  obtain ⟨swept, tidy, -⟩ := swept_deleteInputs leads fun p member _ => names p member
  have first : ∀ l, ¬ l <+: top.parts → IsBare deleted l → IsBare w.files l :=
    fun l => bare_of_swept leads swept tidy fun p member _ => names p member
  obtain ⟨tree, cwd, -⟩ :=
    tree_attempts swept.leads.tree fun move member => (inward move member).guided
  have stays := directory_attempts swept.leads.tree inward swept.leads.directory
  exact ⟨first, leftEmpty_attempts swept.leads.tree inward first,
    swept.leads.of_plain plain tree stays, cwd.trans swept.fewer.cwd⟩

def lodgings : World where
  files := ⟨["w"], [(["w"], .directory), (["w", "build"], .directory),
    (["w", "build", "app"], .directory), (["w", "build", "app", "main.js"], .file [1]),
    (["w", "build", "out"], .directory), (["w", "build", "out", "x.js"], .file [2])]⟩
  console := .named "none"

def lodgingsManifest : Manifest :=
  ⟨[(.str "build/app/main.js", .map [])],
    [(.str "out/main.js", .map []), (.str "build/out/x.js", .map [])], ⟨.root, ["w"]⟩⟩

def lodgingsMoves : Relocation :=
  [(⟨.root, ["w", "out", "main.js"]⟩, ⟨.root, ["w", "build", "app", "main.js"]⟩),
    (⟨.root, ["w", "build", "out", "x.js"]⟩, ⟨.root, ["w", "build", "x.js"]⟩)]

end BuildPipeline.BuildTree
