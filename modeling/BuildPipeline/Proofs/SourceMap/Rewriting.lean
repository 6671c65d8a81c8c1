import BuildPipeline.Proofs.SourceMap.Canonical
import BuildPipeline.Proofs.SourceMap.RunningSums
import Mathlib.Algebra.Order.BigOperators.Group.List

set_option autoImplicit false

namespace BuildPipeline.SourceMap

/-- No piece of the line is empty, but for the one of a line that is, and none is redundant. -/
structure IsCanonicalLine (line : List Char) : Prop where
  filled : line ≠ [] → [] ∉ Text.pieces ',' line
  quantities : ∀ piece ∈ Text.pieces ',' line, Vlq.IsCanonical piece

instance (line : List Char) : Decidable (IsCanonicalLine line) :=
  decidable_of_iff ((line ≠ [] → [] ∉ Text.pieces ',' line) ∧
      ∀ piece ∈ Text.pieces ',' line, Vlq.IsCanonical piece)
    ⟨fun ⟨filled, quantities⟩ => ⟨filled, quantities⟩, fun canonical => ⟨canonical.1, canonical.2⟩⟩

def IsCanonicalMappings (mappings : List Char) : Prop :=
  ∀ line ∈ Text.pieces ';' mappings, IsCanonicalLine line

instance (mappings : List Char) : Decidable (IsCanonicalMappings mappings) :=
  inferInstanceAs (Decidable (∀ line ∈ Text.pieces ';' mappings, IsCanonicalLine line))

def writeRow (row : List Steps) : List Char :=
  Text.glue [','] (row.map (·.flatMap Vlq.encode))

theorem steps_ofSums {steps : Steps} (fields : HasFields steps) (past left : List Steps) :
    (Segment.ofSums (left ++ [steps]) (past ++ [steps]) steps).steps (.ofPast past) (total 0 left) =
      steps := by
  obtain ⟨a, rfl⟩ | ⟨a, b, c, d, rfl⟩ | ⟨a, b, c, d, e, rfl⟩ := fields.cases
  · simp [ofSums_concat_one, Segment.steps]
  · simp [ofSums_concat_four, Segment.steps, Totals.ofPast]
  · simp [ofSums_concat_five, Segment.steps, Totals.ofPast]

theorem writeSegments_rowSums {row : List Steps} (fields : ∀ steps ∈ row, HasFields steps)
    (past left : List Steps) :
    writeSegments (.ofPast past) (total 0 left) (rowSums past left row) =
      (row.map (·.flatMap Vlq.encode), .ofPast (past ++ row)) := by
  induction row generalizing past left with
  | nil => simp [rowSums, writeSegments]
  | cons steps row ih =>
    -- The writer's totals and column are those of the sums up to this segment.
    obtain ⟨first, others⟩ := List.forall_mem_cons.1 fields
    have later := ih others (past ++ [steps]) (left ++ [steps])
    have column : (Segment.ofSums (left ++ [steps]) (past ++ [steps]) steps).column =
      total 0 (left ++ [steps]) := rfl
    rw [rowSums_cons, writeSegments, after_ofSums first, column, later, writeSegment_eq,
      steps_ofSums first]
    simp

theorem writeLines_ofSums {rows : List (List Steps)}
    (fields : ∀ row ∈ rows, ∀ steps ∈ row, HasFields steps) (past : List Steps) :
    writeLines (.ofPast past) (Lines.ofSums past rows) = rows.map writeRow := by
  induction rows generalizing past with
  | nil => rfl
  | cons row rows ih =>
    obtain ⟨first, others⟩ := List.forall_mem_cons.1 fields
    have line : writeSegments (.ofPast past) 0 (rowSums past [] row) = _ :=
      writeSegments_rowSums first past []
    rw [Lines.ofSums_cons, writeLines, line]
    exact congrArg (writeRow row :: ·) (ih others (past ++ row))

theorem length_glue (sep : Char) (ps : List (List Char)) :
    (Text.glue [sep] ps).length = (ps.map (·.length + 1)).sum - 1 := by
  fun_induction Text.glue [sep] ps with
  | case1 => rfl
  | case2 p => simp
  | case3 p q ps ih =>
    simp only [List.length_append, ih, List.map_cons, List.sum_cons, List.length_singleton]
    omega

theorem length_glue_le_of_sums {ps qs : List (List Char)} (sep : Char)
    (sums : (ps.map (·.length + 1)).sum ≤ (qs.map (·.length + 1)).sum) :
    (Text.glue [sep] ps).length ≤ (Text.glue [sep] qs).length := by
  rw [length_glue, length_glue]
  exact Nat.sub_le_sub_right sums 1

theorem length_glue_le {ps qs : List (List Char)} (sep : Char)
    (shorter : List.Forall₂ (fun p q => p.length ≤ q.length) ps qs) :
    (Text.glue [sep] ps).length ≤ (Text.glue [sep] qs).length := by
  apply length_glue_le_of_sums
  apply List.Forall₂.sum_le_sum
  rw [List.forall₂_map_left_iff, List.forall₂_map_right_iff]
  exact shorter.imp fun _ _ le => Nat.succ_le_succ le

theorem length_glue_filter_le (sep : Char) (keep : List Char → Bool) (ps : List (List Char)) :
    (Text.glue [sep] (ps.filter keep)).length ≤ (Text.glue [sep] ps).length :=
  length_glue_le_of_sums sep ((List.filter_sublist.map _).sum_le_sum fun _ _ => Nat.zero_le _)

theorem map_encode_of_spells {ps : List (List Char)} {row : List Steps}
    (spelled : List.Forall₂ Vlq.Spells ps row) :
    List.Forall₂ (fun p q => p.length ≤ q.length) (row.map (·.flatMap Vlq.encode)) ps ∧
      (row.map (·.flatMap Vlq.encode) = ps ↔ ∀ p ∈ ps, Vlq.IsCanonical p) := by
  induction spelled with
  | nil => exact ⟨.nil, by simp⟩
  | cons first _ ih =>
    obtain ⟨shorter, same⟩ := Vlq.encode_of_spells first
    rw [List.map_cons, List.cons.injEq, same, ih.2, List.forall_mem_cons]
    exact ⟨.cons shorter ih.1, Iff.rfl⟩

theorem pieces_writeRow {row : List Steps} (nonempty : row ≠ []) :
    Text.pieces ',' (writeRow row) = row.map (·.flatMap Vlq.encode) := by
  apply Text.pieces_glue (by simpa using nonempty)
  intro piece member
  obtain ⟨steps, -, rfl⟩ := List.mem_map.1 member
  exact Vlq.not_mem_flatMap_encode (by decide) steps

theorem not_mem_writeRow (row : List Steps) : ';' ∉ writeRow row := by
  apply not_mem_glue (by decide)
  intro piece member
  obtain ⟨steps, -, rfl⟩ := List.mem_map.1 member
  exact Vlq.not_mem_flatMap_encode (by decide) steps

theorem linePieces_eq_iff {line : List Char} :
    linePieces line = Text.pieces ',' line ↔ [] ∉ Text.pieces ',' line := by
  rw [linePieces, List.filter_eq_self]
  simp only [decide_eq_true_eq]
  constructor
  · intro filled here
    exact filled [] here rfl
  · rintro absent piece member rfl
    exact absent member

theorem writeRow_eq_iff {line : List Char} {row : List Steps}
    (spelled : List.Forall₂ Vlq.Spells (linePieces line) row) :
    writeRow row = line ↔ IsCanonicalLine line := by
  have written := (map_encode_of_spells spelled).2
  constructor
  · intro same
    by_cases empty : line = []
    · subst empty
      exact ⟨absurd rfl, by simp [Text.pieces, Vlq.IsCanonical, Vlq.groups]⟩
    · have nonempty : row ≠ [] := by
        rintro rfl
        exact empty same.symm
      -- There are as many written pieces as pieces that are not empty, so there are no others.
      have pieces := pieces_writeRow nonempty
      rw [same] at pieces
      have count : (linePieces line).length = (Text.pieces ',' line).length := by
        rw [spelled.length_eq, pieces, List.length_map]
      have filled : linePieces line = Text.pieces ',' line :=
        List.filter_sublist.eq_of_length count
      refine ⟨fun _ => linePieces_eq_iff.1 filled, ?_⟩
      rw [filled] at written
      exact written.1 pieces.symm
  · rintro ⟨filled, quantities⟩
    by_cases empty : line = []
    · subst empty
      rw [List.forall₂_nil_left_iff.1 spelled]
      rfl
    · rw [linePieces_eq_iff.2 (filled empty)] at written
      rw [writeRow, written.2 quantities, Text.glue_pieces]

theorem length_writeRow_le {line : List Char} {row : List Steps}
    (spelled : List.Forall₂ Vlq.Spells (linePieces line) row) :
    (writeRow row).length ≤ line.length :=
  calc (writeRow row).length
      ≤ (Text.glue [','] (linePieces line)).length := length_glue_le ',' (map_encode_of_spells spelled).1
    _ ≤ (Text.glue [','] (Text.pieces ',' line)).length := length_glue_filter_le ..
    _ = line.length := by rw [Text.glue_pieces]

theorem map_writeRow_of_spells {texts : List (List Char)} {rows : List (List Steps)}
    (spelled : List.Forall₂ (fun text row => List.Forall₂ Vlq.Spells (linePieces text) row) texts rows) :
    List.Forall₂ (fun p q => p.length ≤ q.length) (rows.map writeRow) texts ∧
      (rows.map writeRow = texts ↔ ∀ text ∈ texts, IsCanonicalLine text) := by
  induction spelled with
  | nil => exact ⟨.nil, by simp⟩
  | cons first _ ih =>
    rw [List.map_cons, List.cons.injEq, writeRow_eq_iff first, ih.2, List.forall_mem_cons]
    exact ⟨.cons (length_writeRow_le first) ih.1, Iff.rfl⟩

/-- What is written for lines that were read is read as the same lines, is not longer than the text
that they were read from, and is that text just when it is canonical. -/
theorem Lines.write_of_read {counts : Counts} {mappings : List Char} {lines : Lines}
    (read : Lines.read counts mappings = .ok lines) :
    Lines.read counts lines.write = .ok lines ∧ lines.write.length ≤ mappings.length ∧
      (lines.write = mappings ↔ IsCanonicalMappings mappings) := by
  obtain ⟨nonempty, fits⟩ := Lines.fits_of_read read
  refine ⟨Lines.read_write nonempty fits, ?_⟩
  obtain ⟨rows, spelled, fields, rfl, -⟩ := (readLines_eq_ok_iff []).1 read
  obtain ⟨shorter, same⟩ := map_writeRow_of_spells spelled
  have write : (Lines.ofSums [] rows).write = Text.glue [';'] (rows.map writeRow) :=
    congrArg (Text.glue [';']) (writeLines_ofSums fields [])
  rw [write]
  constructor
  · have bound := length_glue_le ';' shorter
    rwa [Text.glue_pieces] at bound
  · rw [IsCanonicalMappings, ← same]
    constructor
    -- No written line holds a semicolon, so that the lines can be told from their text.
    · intro equal
      have some : rows.map writeRow ≠ [] := by
        rintro none
        rw [none] at shorter
        exact Text.pieces_ne_nil ';' mappings (List.forall₂_nil_left_iff.1 shorter)
      rw [← equal, Text.pieces_glue some]
      intro text member
      obtain ⟨row, -, rfl⟩ := List.mem_map.1 member
      exact not_mem_writeRow row
    · intro equal
      rw [equal, Text.glue_pieces]

-- Empty pieces, a number with a digit too many and a negative zero.
theorem write_of_read_redundant : ∃ lines : Lines,
    Lines.read ⟨1, 0⟩ ",AAAA,,gBAgAB;,;C".toList = .ok lines ∧
      ¬ IsCanonicalMappings ",AAAA,,gBAgAB;,;C".toList ∧
      Lines.read ⟨1, 0⟩ lines.write = .ok lines ∧ lines.write ≠ ",AAAA,,gBAgAB;,;C".toList := by
  have read : Lines.read ⟨1, 0⟩ ",AAAA,,gBAgAB;,;C".toList = .ok
      [[⟨0, some ⟨0, 0, 0, none⟩⟩, ⟨16, some ⟨0, 0, 0, none⟩⟩], [], [⟨1, none⟩]] := by decide +kernel
  have redundant : ¬ IsCanonicalMappings ",AAAA,,gBAgAB;,;C".toList := by decide +kernel
  obtain ⟨again, -, same⟩ := Lines.write_of_read read
  exact ⟨_, read, redundant, again, fun equal => redundant (same.1 equal)⟩

end BuildPipeline.SourceMap
