import BuildPipeline.Proofs.Sequencing
import BuildPipeline.Proofs.SourceMap.Quantities
import BuildPipeline.SourceMap.Mappings

set_option autoImplicit false

namespace BuildPipeline.SourceMap

open Sequencing

/-- The source and the name of an origin are among those of the map, and its place is one. -/
structure Origin.Fits (counts : Counts) (o : Origin) : Prop where
  source : 0 ≤ o.source ∧ o.source < counts.sources
  line : 0 ≤ o.line
  column : 0 ≤ o.column
  name : ∀ name ∈ o.name, 0 ≤ name ∧ name < counts.names

structure Segment.Fits (counts : Counts) (s : Segment) : Prop where
  column : 0 ≤ s.column
  origin : ∀ o ∈ s.origin, o.Fits counts

def Lines.Fits (counts : Counts) (lines : Lines) : Prop :=
  ∀ line ∈ lines, ∀ s ∈ line, s.Fits counts

theorem checkColumn_eq_ok_iff {column : Int} : checkColumn column = .ok () ↔ 0 ≤ column := by
  simp only [checkColumn]
  split <;> simp <;> omega

theorem checkOrigin_eq_ok_iff {counts : Counts} {source line column : Int} :
    checkOrigin counts source line column = .ok () ↔
      (0 ≤ source ∧ source < counts.sources) ∧ 0 ≤ line ∧ 0 ≤ column := by
  simp only [checkOrigin]
  split
  · simp; omega
  · split <;> simp <;> omega

theorem checkName_eq_ok_iff {counts : Counts} {name : Int} :
    checkName counts name = .ok () ↔ 0 ≤ name ∧ name < counts.names := by
  simp only [checkName]
  split <;> simp <;> omega

def Segment.steps (t : Totals) (generated : Int) (s : Segment) : List Int :=
  (s.column - generated) ::
    match s.origin with
    | none => []
    | some o =>
      [o.source - t.source, o.line - t.line, o.column - t.column]
        ++ (o.name.map (· - t.name)).toList

theorem writeSegment_eq (t : Totals) (generated : Int) (s : Segment) :
    writeSegment t generated s = (s.steps t generated).flatMap Vlq.encode := by
  obtain ⟨column, _ | ⟨source, line, col, _ | name⟩⟩ := s <;> simp [writeSegment, Segment.steps]

theorem decode_writeSegment (t : Totals) (generated : Int) (s : Segment) :
    Vlq.decode (writeSegment t generated s) = .ok (s.steps t generated) := by
  rw [writeSegment_eq, Vlq.decode_flatMap_encode]

theorem readSegment_writeSegment {counts : Counts} {s : Segment} (fits : s.Fits counts)
    (t : Totals) (generated : Int) :
    readSegment counts t generated (writeSegment t generated s) = .ok s := by
  have column := checkColumn_eq_ok_iff.2 fits.column
  rw [readSegment, decode_writeSegment]
  -- The number of fields tells the kinds of segments apart.
  obtain ⟨place, _ | ⟨source, line, col, name⟩⟩ := s
  · simp [bind, Except.bind, Segment.steps, column]
  · have inside := fits.origin _ rfl
    have origin := checkOrigin_eq_ok_iff.2 ⟨inside.source, inside.line, inside.column⟩
    cases name with
    | none => simp [bind, Except.bind, Segment.steps, column, origin]
    | some name =>
      have named := checkName_eq_ok_iff.2 (inside.name name rfl)
      simp [bind, Except.bind, Segment.steps, column, origin, named]

theorem fits_of_readSegment {counts : Counts} {t : Totals} {generated : Int} {piece : List Char}
    {s : Segment} (read : readSegment counts t generated piece = .ok s) : s.Fits counts := by
  obtain ⟨fields, -, shape⟩ := bind_eq_ok_iff.1 read
  -- Each number of fields has checks of its own, and all of them have been passed.
  split at shape
  case h_1 =>
    obtain ⟨⟨⟩, column, last⟩ := bind_eq_ok_iff.1 shape
    cases last
    exact ⟨checkColumn_eq_ok_iff.1 column, by simp⟩
  case h_2 =>
    obtain ⟨⟨⟩, column, shape⟩ := bind_eq_ok_iff.1 shape
    obtain ⟨⟨⟩, origin, last⟩ := bind_eq_ok_iff.1 shape
    cases last
    obtain ⟨source, line, col⟩ := checkOrigin_eq_ok_iff.1 origin
    refine ⟨checkColumn_eq_ok_iff.1 column, fun o this => ?_⟩
    cases this
    exact ⟨source, line, col, by simp⟩
  case h_3 =>
    obtain ⟨⟨⟩, column, shape⟩ := bind_eq_ok_iff.1 shape
    obtain ⟨⟨⟩, origin, shape⟩ := bind_eq_ok_iff.1 shape
    obtain ⟨⟨⟩, name, last⟩ := bind_eq_ok_iff.1 shape
    cases last
    obtain ⟨source, line, col⟩ := checkOrigin_eq_ok_iff.1 origin
    refine ⟨checkColumn_eq_ok_iff.1 column, fun o this => ?_⟩
    cases this
    exact ⟨source, line, col, by simpa using checkName_eq_ok_iff.1 name⟩
  case h_4 => cases shape

theorem fits_of_readPieces {counts : Counts} {t final : Totals} {generated : Int}
    {pieces : List (List Char)} {line : List Segment}
    (read : readPieces counts t generated pieces = .ok (line, final)) :
    ∀ s ∈ line, s.Fits counts := by
  fun_induction readPieces counts t generated pieces generalizing line final with
  | case1 => cases read; simp
  | case2 t generated rest ih => exact ih read
  | case3 t generated piece rest nonempty ih =>
    obtain ⟨s, first, later⟩ := bind_eq_ok_iff.1 read
    obtain ⟨⟨others, after⟩, tail, last⟩ := bind_eq_ok_iff.1 later
    cases last
    simp only [List.mem_cons, forall_eq_or_imp]
    exact ⟨fits_of_readSegment first, ih s tail⟩

theorem fits_of_readLines {counts : Counts} {t : Totals} {texts : List (List Char)} {lines : Lines}
    (read : readLines counts t texts = .ok lines) :
    lines.length = texts.length ∧ lines.Fits counts := by
  induction texts generalizing t lines with
  | nil => cases read; simp [Lines.Fits]
  | cons text rest ih =>
    obtain ⟨⟨line, after⟩, first, later⟩ := bind_eq_ok_iff.1 read
    obtain ⟨others, tail, last⟩ := bind_eq_ok_iff.1 later
    cases last
    obtain ⟨length, fits⟩ := ih tail
    refine ⟨by simp [length], ?_⟩
    simp only [Lines.Fits, List.mem_cons, forall_eq_or_imp]
    exact ⟨fits_of_readPieces first, fits⟩

theorem Lines.fits_of_read {counts : Counts} {mappings : List Char} {lines : Lines}
    (read : Lines.read counts mappings = .ok lines) : lines ≠ [] ∧ lines.Fits counts := by
  obtain ⟨length, fits⟩ := fits_of_readLines read
  refine ⟨?_, fits⟩
  rintro rfl
  simp [Text.length_pieces] at length

theorem readPieces_writeSegments {counts : Counts} {line : List Segment}
    (fits : ∀ s ∈ line, s.Fits counts) (t : Totals) (generated : Int) :
    readPieces counts t generated (writeSegments t generated line).1 =
      .ok (line, (writeSegments t generated line).2) := by
  induction line generalizing t generated with
  | nil => rfl
  | cons s line ih =>
    simp only [List.mem_cons, forall_eq_or_imp] at fits
    have nonempty : writeSegment t generated s ≠ [] := by
      simp [writeSegment, Vlq.encode_ne_nil]
    -- Written and read, the segment leaves the same totals for those behind it.
    simp only [writeSegments]
    rw [readPieces.eq_3 _ _ _ _ _ nonempty, readSegment_writeSegment fits.1]
    simp [bind, Except.bind, ih fits.2]

theorem not_mem_writeSegment {c : Char} (foreign : Base64.value? c = none) (t : Totals)
    (generated : Int) (s : Segment) : c ∉ writeSegment t generated s := by
  rw [writeSegment_eq]
  exact Vlq.not_mem_flatMap_encode foreign _

theorem not_mem_of_mem_writeSegments {c : Char} (foreign : Base64.value? c = none)
    {t : Totals} {generated : Int} {line : List Segment} {piece : List Char}
    (member : piece ∈ (writeSegments t generated line).1) : c ∉ piece := by
  induction line generalizing t generated with
  | nil => simp [writeSegments] at member
  | cons s line ih =>
    simp only [writeSegments, List.mem_cons] at member
    rcases member with rfl | member
    · exact not_mem_writeSegment foreign t generated s
    · exact ih member

theorem not_mem_glue {c : Char} {sep : List Char} {ps : List (List Char)} (separator : c ∉ sep)
    (clean : ∀ p ∈ ps, c ∉ p) : c ∉ Text.glue sep ps := by
  fun_induction Text.glue sep ps with
  | case1 => simp
  | case2 p => exact clean p List.mem_cons_self
  | case3 p q ps ih =>
    simp only [List.mem_append, not_or]
    exact ⟨⟨clean p List.mem_cons_self, separator⟩, ih fun r member => clean r (List.mem_cons_of_mem p member)⟩

-- A line without segments is written as nothing, which reads as one piece to be passed over.
theorem readPieces_glue {counts : Counts} {line : List Segment}
    (fits : ∀ s ∈ line, s.Fits counts) (t : Totals) :
    readPieces counts t 0 (Text.pieces ',' (Text.glue [','] (writeSegments t 0 line).1)) =
      .ok (line, (writeSegments t 0 line).2) := by
  cases line with
  | nil => rfl
  | cons s line =>
    have nonempty : (writeSegments t 0 (s :: line)).1 ≠ [] := by simp [writeSegments]
    rw [Text.pieces_glue nonempty fun piece member => not_mem_of_mem_writeSegments (by decide) member]
    exact readPieces_writeSegments fits t 0

theorem not_mem_of_mem_writeLines {t : Totals} {lines : Lines} {text : List Char}
    (member : text ∈ writeLines t lines) : ';' ∉ text := by
  induction lines generalizing t with
  | nil => simp [writeLines] at member
  | cons line lines ih =>
    simp only [writeLines, List.mem_cons] at member
    rcases member with rfl | member
    · exact not_mem_glue (by decide) fun piece => not_mem_of_mem_writeSegments (by decide)
    · exact ih member

theorem readLines_writeLines {counts : Counts} {lines : Lines} (fits : lines.Fits counts)
    (t : Totals) : readLines counts t (writeLines t lines) = .ok lines := by
  induction lines generalizing t with
  | nil => rfl
  | cons line lines ih =>
    simp only [Lines.Fits, List.mem_cons, forall_eq_or_imp] at fits
    simp only [writeLines, readLines]
    rw [readPieces_glue fits.1]
    simp [bind, Except.bind, ih fits.2]

theorem Lines.read_write {counts : Counts} {lines : Lines} (nonempty : lines ≠ [])
    (fits : lines.Fits counts) : Lines.read counts lines.write = .ok lines := by
  have written : writeLines {} lines ≠ [] := by
    cases lines with
    | nil => exact absurd rfl nonempty
    | cons line lines => simp [writeLines]
  rw [Lines.read, Lines.write, Text.pieces_glue written fun _ => not_mem_of_mem_writeLines]
  exact readLines_writeLines fits {}

/-- Written lines are read back just when there are any and all of them are in range. -/
theorem Lines.read_write_iff (counts : Counts) (lines : Lines) :
    Lines.read counts lines.write = .ok lines ↔ lines ≠ [] ∧ lines.Fits counts := by
  constructor
  · intro read
    exact Lines.fits_of_read read
  · rintro ⟨nonempty, fits⟩
    exact Lines.read_write nonempty fits

end BuildPipeline.SourceMap
