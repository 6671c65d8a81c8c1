import BuildPipeline.FileSystem.Access
import BuildPipeline.Proofs.FileSystem.Changing

set_option autoImplicit false

namespace BuildPipeline.FileSystem

open Sequencing

def IsClosed (fs : FileSystem) : Prop :=
  ∀ l name, fs.get? (l ++ [name]) ≠ none → fs.get? l = some .directory

theorem IsClosed.none_below {fs : FileSystem} (closed : fs.IsClosed) {l : Location}
    (missing : fs.get? l = none) (rest : Location) : fs.get? (l ++ rest) = none := by
  induction rest using List.reverseRecOn with
  | nil => simpa using missing
  | append_singleton rest name ih =>
    by_contra there
    rw [← List.append_assoc] at there
    simp [closed _ _ there] at ih

def EndsInName (names : List String) : Prop :=
  ∃ name, names.getLast? = some name ∧ IsName name

theorem endsInName_append {rest : List String} (nonempty : rest ≠ []) (first : List String) :
    EndsInName (first ++ rest) ↔ EndsInName rest := by
  obtain ⟨name, found⟩ := Option.ne_none_iff_exists'.1 (mt List.getLast?_eq_none_iff.1 nonempty)
  simp [EndsInName, List.getLast?_append, found]

theorem endsInName_cons {name : String} (plain : IsName name) {rest : List String} :
    EndsInName (name :: rest) ↔ rest = [] ∨ EndsInName rest := by
  cases rest with
  | nil => simpa [EndsInName] using plain
  | cons next rest => simpa using endsInName_append (List.cons_ne_nil next rest) [name]

theorem EndsInName.cons {rest : List String} (ends : EndsInName rest) (name : String) :
    EndsInName (name :: rest) := by
  have nonempty : rest ≠ [] := by
    rintro rfl
    simp [EndsInName] at ends
  exact (endsInName_append nonempty [name]).2 ends

theorem EndsInName.of_cons {name : String} {rest : List String} (ends : EndsInName (name :: rest))
    (dots : ¬ IsName name) : EndsInName rest := by
  cases rest with
  | nil => exact absurd (by simpa [EndsInName] using ends) dots
  | cons next rest => exact (endsInName_append (List.cons_ne_nil next rest) [name]).1 ends

theorem follow_eq_free {fs : FileSystem} {through : Location → List String → Except Cause Spot}
    {place : Location}
    (later : ∀ dir names, through dir names = .ok (.free place) →
      fs.get? place = none ∧ EndsInName names)
    {dir : Location} {names : List String}
    (found : follow fs false through dir names = .ok (.free place)) :
    fs.get? place = none ∧ EndsInName names := by
  replace found := follow_eq_ok_iff.1 found
  generalize ended : Spot.free place = spot at found
  induction found with
  | up _ ih | here _ ih | down _ _ _ ih => exact (ih ended).imp_right (·.cons _)
  | free entryName missing =>
    cases ended
    exact ⟨missing, (endsInName_cons entryName.1).2 (.inl rfl)⟩
  | linked _ _ passes further =>
    -- The names of the link come before those that are left.
    obtain ⟨missing, ends⟩ := later _ _ (ended ▸ further)
    have nonempty := passes.resolve_right Bool.false_ne_true
    exact ⟨missing, ((endsInName_append nonempty _).1 ends).cons _⟩
  | done | file | link => cases ended

theorem followFrom_eq_free {fs : FileSystem} {place dir : Location} {names : List String}
    (count : Nat) (found : followFrom fs false count dir names = .ok (.free place)) :
    fs.get? place = none ∧ EndsInName names := by
  induction count generalizing dir names with
  | zero => exact follow_eq_free (fun _ _ never => by cases never) found
  | succ count ih => exact follow_eq_free (fun _ _ => ih) found

theorem follow_filled {fs after : FileSystem} {place : Location} {last : Bool}
    {through through' : Location → List String → Except Cause Spot}
    (kept : ∀ l, fs.get? l ≠ none → after.get? l = fs.get? l)
    (filled : after.get? place = some .directory)
    (later : ∀ dir names, through dir names = .ok (.free place) →
      through' dir names = .ok (.taken place .directory))
    {dir : Location} {names : List String}
    (found : follow fs last through dir names = .ok (.free place)) :
    follow after last through' dir names = .ok (.taken place .directory) := by
  replace found := follow_eq_ok_iff.1 found
  rw [follow_eq_ok_iff]
  have stays {l : Location} {e : Entry} (there : fs.get? l = some e) : after.get? l = some e := by
    rw [kept l (by simp [there]), there]
  generalize ended : Spot.free place = spot at found
  induction found with
  | up _ ih => exact .up (ih ended)
  | here _ ih => exact .here (ih ended)
  | down entryName directory _ ih => exact .down entryName (stays directory) (ih ended)
  | free entryName _ =>
    cases ended
    exact .down entryName filled (.done _)
  | linked entryName link passes further =>
    exact .linked entryName (stays link) passes (later _ _ (ended ▸ further))
  | done | file | link => cases ended

theorem followFrom_filled {fs after : FileSystem} {place : Location} {last : Bool}
    (kept : ∀ l, fs.get? l ≠ none → after.get? l = fs.get? l)
    (filled : after.get? place = some .directory) (count : Nat) {dir : Location}
    {names : List String} (found : followFrom fs last count dir names = .ok (.free place)) :
    followFrom after last count dir names = .ok (.taken place .directory) := by
  induction count generalizing dir names with
  | zero => exact follow_filled kept filled (fun _ _ never => by cases never) found
  | succ count ih => exact follow_filled kept filled (fun _ _ => ih) found

theorem follow_fewer {fs after : FileSystem} {q : Location} {e : Entry} {last : Bool}
    {through through' : Location → List String → Except Cause Spot}
    (fewer : ∀ l e, after.get? l = some e → fs.get? l = some e)
    (later : ∀ dir names, through' dir names = .ok (.taken q e) →
      through dir names = .ok (.taken q e))
    {dir : Location} {names : List String}
    (found : follow after last through' dir names = .ok (.taken q e)) :
    follow fs last through dir names = .ok (.taken q e) := by
  replace found := follow_eq_ok_iff.1 found
  rw [follow_eq_ok_iff]
  generalize ended : Spot.taken q e = spot at found
  induction found with
  | done dir => exact .done dir
  | up _ ih => exact .up (ih ended)
  | here _ ih => exact .here (ih ended)
  | down entryName directory _ ih => exact .down entryName (fewer _ _ directory) (ih ended)
  | free => cases ended
  | file entryName file => exact .file entryName (fewer _ _ file)
  | link entryName link stays => exact .link entryName (fewer _ _ link) stays
  | linked entryName link passes further =>
    subst ended
    exact .linked entryName (fewer _ _ link) passes (later _ _ further)

theorem followFrom_fewer {fs after : FileSystem} {q : Location} {e : Entry} {last : Bool}
    (fewer : ∀ l e, after.get? l = some e → fs.get? l = some e) (count : Nat) {dir : Location}
    {names : List String} (found : followFrom after last count dir names = .ok (.taken q e)) :
    followFrom fs last count dir names = .ok (.taken q e) := by
  induction count generalizing dir names with
  | zero => exact follow_fewer fewer (fun _ _ never => by cases never) found
  | succ count ih => exact follow_fewer fewer (fun _ _ => ih) found

theorem follow_eq_taken {fs : FileSystem} {q : Location} {e : Entry}
    {through : Location → List String → Except Cause Spot}
    (later : ∀ dir names, EndsInName names → through dir names = .ok (.taken q e) →
      fs.get? q = some e ∧ q ≠ [])
    {dir : Location} {names : List String} (ends : EndsInName names)
    (found : follow fs false through dir names = .ok (.taken q e)) :
    fs.get? q = some e ∧ q ≠ [] := by
  replace found := follow_eq_ok_iff.1 found
  generalize ended : Spot.taken q e = spot at found
  induction found with
  | done => simp [EndsInName] at ends
  | up _ ih => exact ih (ends.of_cons (by simp [IsName])) ended
  | here _ ih => exact ih (ends.of_cons (by simp [IsName])) ended
  | down entryName directory further ih =>
    rcases (endsInName_cons entryName.1).1 ends with rfl | more
    · cases further
      cases ended
      exact ⟨directory, by simp⟩
    · exact ih more ended
  | free => cases ended
  | file _ there | link _ there =>
    cases ended
    exact ⟨there, by simp⟩
  | linked entryName _ passes further =>
    have nonempty := passes.resolve_right Bool.false_ne_true
    have more := ((endsInName_cons entryName.1).1 ends).resolve_left nonempty
    exact later _ _ ((endsInName_append nonempty _).2 more) (ended ▸ further)

theorem followFrom_eq_taken {fs : FileSystem} {q dir : Location} {e : Entry} {names : List String}
    (count : Nat) (ends : EndsInName names)
    (found : followFrom fs false count dir names = .ok (.taken q e)) :
    fs.get? q = some e ∧ q ≠ [] := by
  induction count generalizing dir names with
  | zero => exact follow_eq_taken (fun _ _ _ never => by cases never) ends found
  | succ count ih => exact follow_eq_taken (fun _ _ => ih) ends found

theorem spot_eq_ok_iff {fs : FileSystem} {last : Bool} {p : Path} {spot : Spot} :
    fs.spot last p = .ok spot ↔ (holdsNull p = false ∧ byteLength p.text ≤ maxPathBytes) ∧
      followFrom fs last maxLinks (fs.start p) p.parts = .ok spot := by
  rw [FileSystem.spot]
  split
  next null => simp [null]
  next proper =>
    rw [mapError_eq_ok_iff, locate]
    split
    next long => simp [Nat.not_le.2 long]
    next short => simp [proper, Nat.not_lt.1 short]

theorem spot_eq_free {fs : FileSystem} {p : Path} {place : Location}
    (free : fs.spot false p = .ok (.free place)) : fs.get? place = none ∧ EndsInName p.parts :=
  followFrom_eq_free _ (spot_eq_ok_iff.1 free).2

theorem spot_of_makeDirectory {fs made : FileSystem} {p : Path}
    (done : fs.makeDirectory p = .ok made) :
    ∃ place, fs.spot false p = .ok (.free place) ∧ made = fs.set place .directory := by
  obtain ⟨spot, found, done⟩ := bind_eq_ok_iff.1 done
  split at done
  · cases done
  next place =>
    cases done
    exact ⟨place, found, rfl⟩

theorem start_congr {fs after : FileSystem} (cwd : after.cwd = fs.cwd) (p : Path) :
    after.start p = fs.start p := by
  rw [start, start, cwd]

theorem get?_eraseBelow_eq (fs : FileSystem) {top : Location} (nonempty : top ≠ []) (l : Location) :
    (fs.eraseBelow top).get? l = if top <+: l then none else fs.get? l := by
  cases l with
  | nil => simp [nonempty]
  | cons name rest =>
    split
    next below =>
      rw [get?, List.lookup_eq_none_iff]
      · intro e member
        rw [bne_iff_ne]
        intro same
        have outside := (List.mem_filter.1 member).2
        rw [← same, Bool.not_eq_true', ← Bool.not_eq_true, isBelow_iff] at outside
        exact outside below
      · simp
    next elsewhere => exact get?_eraseBelow fs elsewhere

theorem spot_removeTree (fs : FileSystem) {p : Path} (ends : EndsInName p.parts) (q : Location) :
    (fs.removeTree p).spot false p ≠ .ok (.taken q .directory) := by
  intro left
  rw [removeTree] at left
  split at left
  next place found =>
    obtain ⟨proper, found⟩ := spot_eq_ok_iff.1 found
    obtain ⟨directory, nonempty⟩ := followFrom_eq_taken _ ends found
    obtain ⟨-, left⟩ := spot_eq_ok_iff.1 left
    have fewer : ∀ l e, (fs.eraseBelow place).get? l = some e → fs.get? l = some e := by
      intro l e there
      rw [get?_eraseBelow_eq fs nonempty] at there
      split at there
      · cases there
      · exact there
    -- What is led to now was led to before, and so is what has been removed.
    have before := followFrom_fewer fewer _ left
    have start : (fs.eraseBelow place).start p = fs.start p := rfl
    rw [start, found] at before
    cases before
    have there := (followFrom_eq_taken _ ends left).1
    simp [get?_eraseBelow_eq fs nonempty] at there
  next other => exact other q left

theorem get?_removeTree {fs after : FileSystem} {p : Path} {place : Location} (closed : fs.IsClosed)
    (free : fs.spot false p = .ok (.free place)) (cwd : after.cwd = fs.cwd)
    (made : after.get? place = some .directory)
    (kept : ∀ l, ¬ place <+: l → after.get? l = fs.get? l) :
    (after.removeTree p).cwd = fs.cwd ∧ ∀ l, (after.removeTree p).get? l = fs.get? l := by
  obtain ⟨proper, found⟩ := spot_eq_ok_iff.1 free
  obtain ⟨missing, ends⟩ := spot_eq_free free
  have below (l : Location) (under : place <+: l) : fs.get? l = none := by
    obtain ⟨rest, rfl⟩ := under
    exact closed.none_below missing rest
  have kept' : ∀ l, fs.get? l ≠ none → after.get? l = fs.get? l :=
    fun l there => kept l fun under => there (below l under)
  have filled := followFrom_filled kept' made _ found
  rw [← start_congr cwd] at filled
  have nonempty := (followFrom_eq_taken _ ends filled).2
  have removed : after.removeTree p = after.eraseBelow place := by
    rw [removeTree, spot_eq_ok_iff.2 ⟨proper, filled⟩]
  rw [removed]
  refine ⟨cwd, fun l => ?_⟩
  rw [get?_eraseBelow_eq after nonempty]
  split
  next under => rw [below l under]
  next elsewhere => exact kept l elsewhere

end BuildPipeline.FileSystem
