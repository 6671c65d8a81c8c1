import BuildPipeline.Proofs.Log.Patterns
import BuildPipeline.Proofs.Sequencing
import BuildPipeline.Proofs.Text.LogLines

set_option autoImplicit false

namespace BuildPipeline.Log

open Sequencing

structure Report where
  severity : Severity
  text : List Char
  place : Option Place
  deriving DecidableEq, Repr

/-- The location that comes first, where it comes before a line with a diagnostic. -/
inductive FirstPlace : List (List Char) → Option Place → Prop
  | none : FirstPlace [] none
  | stop {line : List Char} {rest : List (List Char)} (diagnostic : IsDiagnostic line) :
      FirstPlace (line :: rest) .none
  | here {line : List Char} {rest : List (List Char)} {p : Place} (other : ¬ IsDiagnostic line)
      (location : IsLocation line p) : FirstPlace (line :: rest) (some p)
  | later {line : List Char} {rest : List (List Char)} {place : Option Place}
      (other : ¬ IsDiagnostic line) (elsewhere : ∀ p, ¬ IsLocation line p)
      (first : FirstPlace rest place) : FirstPlace (line :: rest) place

/-- The lines of a log tell these diagnostics: a header one with the first place behind it, and any
other line with a diagnostic one with its own place. -/
inductive Tells : List (List Char) → List Report → Prop
  | nil : Tells [] []
  | header {line : List Char} {rest : List (List Char)} {severity : Severity} {text : List Char}
      {place : Option Place} {reports : List Report} (header : IsHeader line severity text)
      (first : FirstPlace rest place) (others : Tells rest reports) :
      Tells (line :: rest) (⟨severity, text, place⟩ :: reports)
  | whole {line : List Char} {rest : List (List Char)} {severity : Severity} {text : List Char}
      {p : Place} {reports : List Report} (other : ∀ severity text, ¬ IsHeader line severity text)
      (whole : IsWhole line p severity text) (others : Tells rest reports) :
      Tells (line :: rest) (⟨severity, text, some p⟩ :: reports)
  | other {line : List Char} {rest : List (List Char)} {reports : List Report}
      (other : ¬ IsDiagnostic line) (others : Tells rest reports) : Tells (line :: rest) reports

section

variable {line text text' : List Char} {severity severity' : Severity} {p q : Place}

theorem IsHeader.unique (header : IsHeader line severity text)
    (header' : IsHeader line severity' text') : severity = severity' ∧ text = text' := by
  have same := (header?_eq_some_iff.2 header).symm.trans (header?_eq_some_iff.2 header')
  simpa using same

theorem IsWhole.unique (whole : IsWhole line p severity text)
    (whole' : IsWhole line q severity' text') : p = q ∧ severity = severity' ∧ text = text' := by
  have same := (whole?_eq_some_iff.2 whole).symm.trans (whole?_eq_some_iff.2 whole')
  simpa using same

theorem IsLocation.unique (location : IsLocation line p) (location' : IsLocation line q) : p = q := by
  have same := (location?_eq_some_iff.2 location).symm.trans (location?_eq_some_iff.2 location')
  simpa using same

end

theorem FirstPlace.unique {lines : List (List Char)} {place place' : Option Place}
    (first : FirstPlace lines place) (first' : FirstPlace lines place') : place = place' := by
  induction first with
  | none =>
    cases first'
    rfl
  | stop diagnostic =>
    cases first' with
    | stop => rfl
    | here other | later other => exact absurd diagnostic other
  | here other location =>
    cases first' with
    | stop diagnostic => exact absurd diagnostic other
    | here _ location' => rw [location.unique location']
    | later _ elsewhere => exact absurd location (elsewhere _)
  | later other elsewhere _ ih =>
    cases first' with
    | stop diagnostic => exact absurd diagnostic other
    | here _ location => exact absurd location (elsewhere _)
    | later _ _ first' => exact ih first'

theorem Tells.unique {lines : List (List Char)} {told told' : List Report} (tells : Tells lines told)
    (tells' : Tells lines told') : told = told' := by
  induction tells generalizing told' with
  | nil =>
    cases tells'
    rfl
  | header header first _ ih =>
    cases tells' with
    | header header' first' others' =>
      obtain ⟨rfl, rfl⟩ := header.unique header'
      rw [first.unique first', ih others']
    | whole other => exact absurd header (other _ _)
    | other other => exact absurd (.inl ⟨_, _, header⟩) other
  | whole other whole _ ih =>
    cases tells' with
    | header header => exact absurd header (other _ _)
    | whole _ whole' others' =>
      obtain ⟨rfl, rfl, rfl⟩ := whole.unique whole'
      rw [ih others']
    | other other => exact absurd (.inr ⟨_, _, _, whole⟩) other
  | other other _ ih =>
    cases tells' with
    | header header => exact absurd (.inl ⟨_, _, header⟩) other
    | whole _ whole => exact absurd (.inr ⟨_, _, _, whole⟩) other
    | other _ others' => exact ih others'

def firstPlace? : List Line → Option Place
  | .location p :: _ => some p
  | .other :: rest => firstPlace? rest
  | _ => none

def reports : List Line → List Report
  | [] => []
  | .header severity text :: rest => ⟨severity, text, firstPlace? rest⟩ :: reports rest
  | .whole severity text p :: rest => ⟨severity, text, some p⟩ :: reports rest
  | _ :: rest => reports rest

def Line.isDiagnostic : Line → Bool
  | .header .. | .whole .. => true
  | _ => false

def Report.entry (r : Report) : Except TooManyDigits Entry :=
  match r.place with
  | none => .ok (r.severity, bare r.text)
  | some p => (Log.place (bare r.text) p).map (r.severity, ·)

theorem collect_of_diagnostic {line : Line} (diagnostic : line.isDiagnostic = true)
    (pending : Option Entry) (rest : List Line) :
    collect pending (line :: rest) = (collect none (line :: rest)).map (pending.toList ++ ·) := by
  cases line with
  | header severity text =>
    simp only [collect]
    cases collect (some (severity, bare text)) rest <;> rfl
  | whole severity text p =>
    simp only [collect]
    cases place (bare text) p with
    | error => rfl
    | ok d =>
      simp only [ok_bind]
      cases collect (some (severity, d)) rest <;> rfl
  | location | other => cases diagnostic

-- A diagnostic that has its place takes nothing from the lines behind it.
theorem collect_of_placed {e : Entry} (placed : e.2.file.isSome = true) (lines : List Line) :
    collect (some e) lines = (collect none lines).map (e :: ·) := by
  induction lines with
  | nil => rfl
  | cons line lines ih =>
    cases line with
    | header | whole => exact collect_of_diagnostic rfl (some e) lines
    | location p =>
      obtain ⟨severity, d⟩ := e
      have full : d.file.isNone = false := by simpa using placed
      rw [collect, full]
      exact ih
    | other => exact ih

theorem file_of_place {d d' : Diagnostic} {p : Place} (placed : place d p = .ok d') :
    d'.file.isSome = true := by
  obtain ⟨line, -, placed⟩ := bind_eq_ok_iff.1 placed
  obtain ⟨column, -, placed⟩ := bind_eq_ok_iff.1 placed
  cases placed
  rfl

theorem collect_of_bare (severity : Severity) (text : List Char) (lines : List Line) :
    collect (some (severity, bare text)) lines =
      (Report.entry ⟨severity, text, firstPlace? lines⟩ >>= fun e =>
        (collect none lines).map (e :: ·)) := by
  induction lines with
  | nil => rfl
  | cons line lines ih =>
    cases line with
    | header | whole => exact collect_of_diagnostic rfl (some (severity, bare text)) lines
    | location p =>
      change (place (bare text) p >>= fun d => collect (some (severity, d)) lines) =
        ((place (bare text) p).map (severity, ·) >>= fun e => (collect none lines).map (e :: ·))
      cases placed : place (bare text) p with
      | error => rfl
      | ok d => exact collect_of_placed (e := (severity, d)) (file_of_place placed) lines
    | other => exact ih

theorem collect_eq_mapM (lines : List Line) : collect none lines = (reports lines).mapM Report.entry := by
  induction lines with
  | nil => rfl
  | cons line lines ih =>
    cases line with
    | header severity text =>
      rw [reports, List.mapM_cons, ← ih]
      change (collect (some (severity, bare text)) lines >>= _) = _
      rw [collect_of_bare]
      cases Report.entry ⟨severity, text, firstPlace? lines⟩ with
      | error => rfl
      | ok e => cases collect none lines <;> rfl
    | whole severity text p =>
      rw [reports, List.mapM_cons, ← ih]
      change (place (bare text) p >>= fun d => collect (some (severity, d)) lines >>= _) =
        ((place (bare text) p).map (severity, ·) >>= _)
      cases placed : place (bare text) p with
      | error => rfl
      | ok d =>
        rw [ok_bind, collect_of_placed (file_of_place placed)]
        cases collect none lines <;> rfl
    | location | other => exact ih

theorem firstPlace?_of_diagnostic {ys : List Line} (starts : ∀ y ∈ ys.head?, y.isDiagnostic = true) :
    firstPlace? ys = none := by
  cases ys with
  | nil => rfl
  | cons y ys =>
    have diagnostic : y.isDiagnostic = true := starts y rfl
    cases y with
    | header | whole => rfl
    | location | other => cases diagnostic

theorem firstPlace?_append {ys : List Line} (nowhere : firstPlace? ys = none) (xs : List Line) :
    firstPlace? (xs ++ ys) = firstPlace? xs := by
  induction xs with
  | nil => exact nowhere
  | cons x xs ih =>
    cases x with
    | header | whole | location => rfl
    | other => exact ih

theorem reports_append {ys : List Line} (nowhere : firstPlace? ys = none) (xs : List Line) :
    reports (xs ++ ys) = reports xs ++ reports ys := by
  induction xs with
  | nil => rfl
  | cons x xs ih => cases x <;> simp [reports, firstPlace?_append nowhere, ih]

theorem length_reports (lines : List Line) : (reports lines).length = lines.countP Line.isDiagnostic := by
  induction lines with
  | nil => rfl
  | cons line lines ih => cases line <;> simp [reports, List.countP_cons, Line.isDiagnostic, ih]

theorem isDiagnostic_of_iff {cs : List Char} : (Line.of cs).isDiagnostic = true ↔ IsDiagnostic cs := by
  rw [← isDiagnostic_iff]
  cases read : Line.of cs with
  | header => simp [Line.isDiagnostic, header?_of_header read]
  | whole => simp [Line.isDiagnostic, whole?_of_whole read]
  | location => simp [Line.isDiagnostic, location?_of_location read]
  | other => simp [Line.isDiagnostic, location?_of_other read]

theorem firstPlace_of (lines : List (List Char)) : FirstPlace lines (firstPlace? (lines.map Line.of)) := by
  induction lines with
  | nil => exact .none
  | cons line lines ih =>
    have diagnostic : (Line.of line).isDiagnostic = true ↔ IsDiagnostic line := isDiagnostic_of_iff
    rw [List.map_cons]
    cases read : Line.of line with
    | header | whole => exact .stop (diagnostic.1 (by rw [read]; rfl))
    | location p =>
      refine .here (fun here => ?_) (location?_eq_some_iff.1 (location?_of_location read).2.2)
      simp [read, Line.isDiagnostic, here] at diagnostic
    | other =>
      refine .later (fun here => ?_) (fun p location => ?_) ih
      · simp [read, Line.isDiagnostic, here] at diagnostic
      · have none := (location?_of_other read).2.2
        rw [location?_eq_some_iff.2 location] at none
        cases none

theorem tells_reports (lines : List (List Char)) : Tells lines (reports (lines.map Line.of)) := by
  induction lines with
  | nil => exact .nil
  | cons line lines ih =>
    have diagnostic : (Line.of line).isDiagnostic = true ↔ IsDiagnostic line := isDiagnostic_of_iff
    rw [List.map_cons]
    cases read : Line.of line with
    | header severity text =>
      exact .header (header?_eq_some_iff.1 (header?_of_header read)) (firstPlace_of lines) ih
    | whole severity text p =>
      obtain ⟨noHeader, found⟩ := whole?_of_whole read
      refine .whole (fun severity text header => ?_) (whole?_eq_some_iff.1 found) ih
      have some := isSome_header?_iff.2 ⟨severity, text, header⟩
      simp [noHeader] at some
    | location | other =>
      refine .other (fun here => ?_) ih
      simp [read, Line.isDiagnostic, here] at diagnostic

def Place.IsShort (p : Place) : Prop :=
  p.line.length ≤ Number.maxDigits ∧ p.column.length ≤ Number.maxDigits

def Report.told (r : Report) : Entry where
  fst := r.severity
  snd :=
    { text := String.ofList r.text
      file := r.place.map (String.ofList ·.file)
      line := r.place.map (Text.digitsValue ·.line)
      column := r.place.map (Text.digitsValue ·.column) }

theorem entry_of_short {r : Report} (short : ∀ p ∈ r.place, p.IsShort) : r.entry = .ok r.told := by
  obtain ⟨severity, text, _ | p⟩ := r
  · rfl
  · obtain ⟨line, column⟩ := short p rfl
    have lineRead : number p.line = .ok (Text.digitsValue p.line : Nat) := if_neg (by omega)
    have columnRead : number p.column = .ok (Text.digitsValue p.column : Nat) := if_neg (by omega)
    simp [Report.entry, place, lineRead, columnRead, ok_bind, Except.map, Report.told, bare]

theorem length_ofEntries (entries : List Entry) :
    (Diagnostics.ofEntries entries).errors.length + (Diagnostics.ofEntries entries).warnings.length =
      entries.length := by
  induction entries with
  | nil => rfl
  | cons e entries ih =>
    obtain ⟨severity, d⟩ := e
    cases severity <;> simp_all [Diagnostics.ofEntries] <;> omega

theorem ofEntries_append (first later : List Entry) :
    Diagnostics.ofEntries (first ++ later) =
      ⟨(Diagnostics.ofEntries first).errors ++ (Diagnostics.ofEntries later).errors,
        (Diagnostics.ofEntries first).warnings ++ (Diagnostics.ofEntries later).warnings⟩ := by
  simp [Diagnostics.ofEntries]

theorem read_eq (log : String) :
    read log = ((reports ((Text.logLines log).map Line.of)).mapM Report.entry).map
      Diagnostics.ofEntries := by
  rw [read, collect_eq_mapM]

theorem tells_iff {lines : List (List Char)} {told : List Report} :
    Tells lines told ↔ told = reports (lines.map Line.of) := by
  constructor
  · intro tells
    exact tells.unique (tells_reports lines)
  · rintro rfl
    exact tells_reports lines

/-- The lines of a log tell one list of diagnostics, one for each line with one, and where their
numbers can be read that list is read, errors and warnings apart and each in order. A log that goes
on with a diagnostic behind a newline has the diagnostics of its two parts. -/
theorem read_told :
    (∀ log : String, ∃ reports : List Report,
      (∀ told, Tells (Text.logLines log) told ↔ told = reports) ∧
      reports.length = (Text.logLines log).countP (fun line => IsDiagnostic line) ∧
      ((∀ r ∈ reports, ∀ p ∈ r.place, p.IsShort) →
        ∃ d, read log = .ok d ∧ d = .ofEntries (reports.map Report.told) ∧
          d.errors.length + d.warnings.length = reports.length)) ∧
    ∀ a b : String, (a = "" ∨ a.toList.getLast? = some '\n') →
      (∃ line ∈ (Text.logLines b).head?, IsDiagnostic line) →
      read (a ++ b) = (do
        let d ← read a
        let e ← read b
        .ok ⟨d.errors ++ e.errors, d.warnings ++ e.warnings⟩) := by
  constructor
  · intro log
    refine ⟨_, fun _ => tells_iff, ?_, fun short => ?_⟩
    · rw [length_reports, List.countP_map]
      congr 1
      funext line
      exact Bool.eq_iff_iff.2 (by simp [isDiagnostic_of_iff])
    · refine ⟨_, ?_, rfl, by rw [length_ofEntries, List.length_map]⟩
      rw [read_eq, mapM_eq_ok fun r member => entry_of_short (short r member)]
      rfl
  · rintro a b ends ⟨line, starts, diagnostic⟩
    have first : ∀ y ∈ ((Text.logLines b).map Line.of).head?, y.isDiagnostic = true := by
      rw [List.head?_map, Option.mem_def.1 starts]
      rintro y ⟨⟩
      exact isDiagnostic_of_iff.2 diagnostic
    rw [read_eq, read_eq, read_eq, Text.logLines_append ends, List.map_append,
      reports_append (firstPlace?_of_diagnostic first),
      List.mapM_append]
    cases (reports ((Text.logLines a).map Line.of)).mapM Report.entry with
    | error => rfl
    | ok entries =>
      cases (reports ((Text.logLines b).map Line.of)).mapM Report.entry with
      | error => rfl
      | ok entries' => exact congrArg Except.ok (ofEntries_append entries entries')

end BuildPipeline.Log
