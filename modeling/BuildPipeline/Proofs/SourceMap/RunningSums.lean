import BuildPipeline.Proofs.SourceMap.Groups
import BuildPipeline.Proofs.SourceMap.Mappings
import Mathlib.Data.List.Forall2

set_option autoImplicit false

namespace BuildPipeline.SourceMap

open Sequencing

abbrev Steps := List Int

def total (k : Nat) (segments : List Steps) : Int :=
  (segments.filterMap (·[k]?)).sum

/-- What the last segment of a line comes to: its column counts from the start of the `line`, all
else from the start of the text, whose segments up to it are `past`. -/
def Segment.ofSums (line past : List Steps) (steps : Steps) : Segment where
  column := total 0 line
  origin :=
    if 4 ≤ steps.length then
      some ⟨total 1 past, total 2 past, total 3 past,
        if steps.length = 5 then some (total 4 past) else none⟩
    else none

def rowSums (past left row : List Steps) : List Segment :=
  row.mapIdx fun j steps =>
    Segment.ofSums (left ++ row.take (j + 1)) (past ++ row.take (j + 1)) steps

def Lines.ofSums (past : List Steps) (rows : List (List Steps)) : Lines :=
  rows.mapIdx fun i row => rowSums (past ++ (rows.take i).flatten) [] row

def linePieces (line : List Char) : List (List Char) :=
  (Text.pieces ',' line).filter (· ≠ [])

/-- Line by line, the numbers that the pieces of a text spell. -/
def SpellsRows (mappings : List Char) (rows : List (List Steps)) : Prop :=
  List.Forall₂ (fun line row => List.Forall₂ Vlq.Spells (linePieces line) row)
    (Text.pieces ';' mappings) rows

def HasFields (steps : Steps) : Prop :=
  steps.length = 1 ∨ steps.length = 4 ∨ steps.length = 5

def Totals.ofPast (past : List Steps) : Totals :=
  ⟨total 1 past, total 2 past, total 3 past, total 4 past⟩

theorem total_concat (k : Nat) (past : List Steps) (steps : Steps) :
    total k (past ++ [steps]) = total k past + steps[k]?.getD 0 := by
  cases found : steps[k]? <;> simp [total, List.filterMap_append, found]

theorem rowSums_cons (past left : List Steps) (steps : Steps) (row : List Steps) :
    rowSums past left (steps :: row) =
      Segment.ofSums (left ++ [steps]) (past ++ [steps]) steps ::
        rowSums (past ++ [steps]) (left ++ [steps]) row := by
  simp [rowSums, List.mapIdx_cons]

theorem Lines.ofSums_cons (past row : List Steps) (rows : List (List Steps)) :
    Lines.ofSums past (row :: rows) = rowSums past [] row :: Lines.ofSums (past ++ row) rows := by
  simp [Lines.ofSums, List.mapIdx_cons]

theorem ofSums_concat_one (past left : List Steps) (a : Int) :
    Segment.ofSums (left ++ [[a]]) (past ++ [[a]]) [a] = ⟨total 0 left + a, none⟩ := by
  simp [Segment.ofSums, total_concat]

theorem ofSums_concat_four (past left : List Steps) (a b c d : Int) :
    Segment.ofSums (left ++ [[a, b, c, d]]) (past ++ [[a, b, c, d]]) [a, b, c, d] =
      ⟨total 0 left + a, some ⟨total 1 past + b, total 2 past + c, total 3 past + d, none⟩⟩ := by
  simp [Segment.ofSums, total_concat]

theorem ofSums_concat_five (past left : List Steps) (a b c d e : Int) :
    Segment.ofSums (left ++ [[a, b, c, d, e]]) (past ++ [[a, b, c, d, e]]) [a, b, c, d, e] =
      ⟨total 0 left + a,
        some ⟨total 1 past + b, total 2 past + c, total 3 past + d, some (total 4 past + e)⟩⟩ := by
  simp [Segment.ofSums, total_concat]

theorem HasFields.cases {steps : Steps} (fields : HasFields steps) :
    (∃ a, steps = [a]) ∨ (∃ a b c d, steps = [a, b, c, d]) ∨ ∃ a b c d e, steps = [a, b, c, d, e] := by
  match steps with
  | [a] => exact .inl ⟨a, rfl⟩
  | [a, b, c, d] => exact .inr (.inl ⟨a, b, c, d, rfl⟩)
  | [a, b, c, d, e] => exact .inr (.inr ⟨a, b, c, d, e, rfl⟩)
  | [] | [_, _] | [_, _, _] | _ :: _ :: _ :: _ :: _ :: _ :: _ => simp [HasFields] at fields

theorem readSegment_of_fits {counts : Counts} {past left : List Steps} {piece : List Char}
    {steps : Steps} (spelled : Vlq.Spells piece steps) (fields : HasFields steps)
    (fits : (Segment.ofSums (left ++ [steps]) (past ++ [steps]) steps).Fits counts) :
    readSegment counts (.ofPast past) (total 0 left) piece =
      .ok (Segment.ofSums (left ++ [steps]) (past ++ [steps]) steps) := by
  have column := checkColumn_eq_ok_iff.2 fits.column
  have decoded := Vlq.decode_eq_ok_iff.2 spelled
  rw [readSegment, decoded, ok_bind]
  obtain ⟨a, rfl⟩ | ⟨a, b, c, d, rfl⟩ | ⟨a, b, c, d, e, rfl⟩ := fields.cases
  · rw [ofSums_concat_one] at column ⊢
    simp only [column, ok_bind]
  · rw [ofSums_concat_four] at fits column ⊢
    have inside := fits.origin _ rfl
    have origin := checkOrigin_eq_ok_iff.2 ⟨inside.source, inside.line, inside.column⟩
    simp only [Totals.ofPast, column, origin, ok_bind]
  · rw [ofSums_concat_five] at fits column ⊢
    have inside := fits.origin _ rfl
    have origin := checkOrigin_eq_ok_iff.2 ⟨inside.source, inside.line, inside.column⟩
    have name := checkName_eq_ok_iff.2 (inside.name _ rfl)
    simp only [Totals.ofPast, column, origin, name, ok_bind]

theorem exists_of_readSegment {counts : Counts} {past left : List Steps} {piece : List Char}
    {s : Segment} (read : readSegment counts (.ofPast past) (total 0 left) piece = .ok s) :
    ∃ steps, Vlq.Spells piece steps ∧ HasFields steps ∧
      s = Segment.ofSums (left ++ [steps]) (past ++ [steps]) steps := by
  obtain ⟨steps, decoded, shape⟩ := bind_eq_ok_iff.1 read
  refine ⟨steps, Vlq.decode_eq_ok_iff.1 decoded, ?_⟩
  -- The number of fields decides which checks there are; the last step gives the segment.
  split at shape
  next a =>
    obtain ⟨-, -, last⟩ := bind_eq_ok_iff.1 shape
    cases last
    exact ⟨.inl rfl, (ofSums_concat_one past left a).symm⟩
  next a b c d =>
    obtain ⟨-, -, shape⟩ := bind_eq_ok_iff.1 shape
    obtain ⟨-, -, last⟩ := bind_eq_ok_iff.1 shape
    cases last
    exact ⟨.inr (.inl rfl), (ofSums_concat_four past left a b c d).symm⟩
  next a b c d e =>
    obtain ⟨-, -, shape⟩ := bind_eq_ok_iff.1 shape
    obtain ⟨-, -, shape⟩ := bind_eq_ok_iff.1 shape
    obtain ⟨-, -, last⟩ := bind_eq_ok_iff.1 shape
    cases last
    exact ⟨.inr (.inr rfl), (ofSums_concat_five past left a b c d e).symm⟩
  next => cases shape

theorem after_ofSums {past left : List Steps} {steps : Steps} (fields : HasFields steps) :
    (Totals.ofPast past).after (Segment.ofSums left (past ++ [steps]) steps) =
      .ofPast (past ++ [steps]) := by
  obtain ⟨a, rfl⟩ | ⟨a, b, c, d, rfl⟩ | ⟨a, b, c, d, e, rfl⟩ := fields.cases <;>
    simp [Totals.after, Totals.ofPast, Segment.ofSums, total_concat]

theorem readPieces_eq_ok_iff {counts : Counts} {past : List Steps} {pieces : List (List Char)}
    {line : List Segment} {t : Totals} (left : List Steps) :
    readPieces counts (.ofPast past) (total 0 left) pieces = .ok (line, t) ↔
      ∃ row, List.Forall₂ Vlq.Spells (pieces.filter (· ≠ [])) row ∧ (∀ steps ∈ row, HasFields steps) ∧
        line = rowSums past left row ∧ (∀ s ∈ line, s.Fits counts) ∧ t = .ofPast (past ++ row) := by
  -- The totals are those of all segments past, the column that of the line alone.
  induction pieces generalizing past left line t with
  | nil =>
    simp only [readPieces, List.filter_nil, List.forall₂_nil_left_iff]
    constructor
    · rintro ⟨⟩
      exact ⟨[], rfl, by simp, rfl, by simp, by simp⟩
    · rintro ⟨row, rfl, -, rfl, -, rfl⟩
      simp [rowSums]
  | cons piece pieces ih =>
    by_cases empty : piece = []
    · subst empty
      simpa [readPieces] using ih left
    rw [readPieces.eq_3 _ _ _ _ _ empty, List.filter_cons_of_pos (by simpa using empty)]
    constructor
    · intro read
      obtain ⟨s, first, later⟩ := bind_eq_ok_iff.1 read
      obtain ⟨⟨others, t⟩, tail, last⟩ := bind_eq_ok_iff.1 later
      cases last
      obtain ⟨steps, spelled, fields, rfl⟩ := exists_of_readSegment first
      have column : (Segment.ofSums (left ++ [steps]) (past ++ [steps]) steps).column =
        total 0 (left ++ [steps]) := rfl
      rw [after_ofSums fields, column] at tail
      obtain ⟨row, spelledRow, fieldsRow, rfl, fits, rfl⟩ := (ih (left ++ [steps])).1 tail
      refine ⟨steps :: row, .cons spelled spelledRow, ?_, (rowSums_cons ..).symm, ?_, by simp⟩
      · exact List.forall_mem_cons.2 ⟨fields, fieldsRow⟩
      · exact List.forall_mem_cons.2 ⟨fits_of_readSegment first, fits⟩
    · rintro ⟨row, spelled, fields, rfl, fits, rfl⟩
      obtain ⟨steps, row, first, others, rfl⟩ := List.forall₂_cons_left_iff.1 spelled
      rw [List.forall_mem_cons] at fields
      rw [rowSums_cons, List.forall_mem_cons] at fits
      have tail := (ih (left ++ [steps])).2 ⟨row, others, fields.2, rfl, fits.2, rfl⟩
      rw [readSegment_of_fits first fields.1 fits.1, ok_bind, after_ofSums fields.1, rowSums_cons]
      change (readPieces counts _ (total 0 (left ++ [steps])) pieces >>= _) = _
      rw [tail, ok_bind, List.append_assoc, List.singleton_append]

theorem readLines_eq_ok_iff {counts : Counts} {texts : List (List Char)} {lines : Lines}
    (past : List Steps) :
    readLines counts (.ofPast past) texts = .ok lines ↔
      ∃ rows, List.Forall₂ (fun text row => List.Forall₂ Vlq.Spells (linePieces text) row) texts rows ∧
        (∀ row ∈ rows, ∀ steps ∈ row, HasFields steps) ∧
        lines = Lines.ofSums past rows ∧ lines.Fits counts := by
  -- Each line starts at column zero; the other totals go on from line to line.
  induction texts generalizing past lines with
  | nil =>
    simp only [readLines, List.forall₂_nil_left_iff]
    constructor
    · rintro ⟨⟩
      exact ⟨[], rfl, by simp, rfl, by simp [Lines.Fits]⟩
    · rintro ⟨rows, rfl, -, rfl, -⟩
      rfl
  | cons text texts ih =>
    constructor
    · intro read
      obtain ⟨⟨line, t⟩, first, later⟩ := bind_eq_ok_iff.1 read
      obtain ⟨others, tail, last⟩ := bind_eq_ok_iff.1 later
      cases last
      obtain ⟨row, spelled, fields, rfl, fits, rfl⟩ := (readPieces_eq_ok_iff []).1 first
      obtain ⟨rows, spelledRows, fieldsRows, rfl, fitsRows⟩ := (ih (past ++ row)).1 tail
      refine ⟨row :: rows, .cons spelled spelledRows, ?_, (Lines.ofSums_cons ..).symm, ?_⟩
      · exact List.forall_mem_cons.2 ⟨fields, fieldsRows⟩
      · exact List.forall_mem_cons.2 ⟨fits, fitsRows⟩
    · rintro ⟨rows, spelled, fields, rfl, fits⟩
      obtain ⟨row, rows, first, others, rfl⟩ := List.forall₂_cons_left_iff.1 spelled
      rw [List.forall_mem_cons] at fields
      rw [Lines.ofSums_cons, Lines.Fits, List.forall_mem_cons] at fits
      have line := (readPieces_eq_ok_iff []).2 ⟨row, first, fields.1, rfl, fits.1, rfl⟩
      have tail := (ih (past ++ row)).2 ⟨rows, others, fields.2, rfl, fits.2⟩
      rw [readLines, Lines.ofSums_cons]
      change (readPieces counts _ (total 0 []) _ >>= _) = _
      rw [line, ok_bind]
      change (readLines counts _ texts >>= _) = _
      rw [tail, ok_bind]

theorem map_length_ofSums (past : List Steps) (rows : List (List Steps)) :
    (Lines.ofSums past rows).map List.length = rows.map List.length := by
  induction rows generalizing past with
  | nil => rfl
  | cons row rows ih => simp [Lines.ofSums_cons, ih, rowSums]

theorem map_length_of_spells {texts : List (List Char)} {rows : List (List Steps)}
    (spelled : List.Forall₂ (fun text row => List.Forall₂ Vlq.Spells (linePieces text) row) texts rows) :
    rows.map List.length = texts.map fun text => (linePieces text).length := by
  induction spelled with
  | nil => rfl
  | cons first _ ih => rw [List.map_cons, List.map_cons, ih, first.length_eq]

/-- A text is read as mappings just when each of its pieces that is not empty spells one number,
four or five and the sums of these are in range. What is read is these sums, one for each such
piece, in one line more than there are semicolons. -/
theorem Lines.read_eq_ok_iff_sums (counts : Counts) (mappings : List Char) :
    (∀ lines, Lines.read counts mappings = .ok lines ↔
      ∃ rows, SpellsRows mappings rows ∧ (∀ row ∈ rows, ∀ steps ∈ row, HasFields steps) ∧
        lines = Lines.ofSums [] rows ∧ lines.Fits counts) ∧
    ∀ lines, Lines.read counts mappings = .ok lines →
      lines.length = mappings.count ';' + 1 ∧
        lines.map List.length =
          (Text.pieces ';' mappings).map fun text => (linePieces text).length := by
  have read (lines : Lines) : Lines.read counts mappings = .ok lines ↔ _ :=
    readLines_eq_ok_iff []
  refine ⟨read, fun lines accepted => ?_⟩
  obtain ⟨rows, spelled, -, rfl, -⟩ := (read lines).1 accepted
  have lengths : (Lines.ofSums [] rows).map List.length = _ :=
    (map_length_ofSums [] rows).trans (map_length_of_spells spelled)
  have count := congrArg List.length lengths
  rw [List.length_map, List.length_map, Text.length_pieces] at count
  exact ⟨count, lengths⟩

end BuildPipeline.SourceMap
