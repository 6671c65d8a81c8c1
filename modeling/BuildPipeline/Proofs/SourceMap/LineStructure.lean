import BuildPipeline.Proofs.SourceMap.Removal

set_option autoImplicit false

namespace BuildPipeline.SourceMap

abbrev Marked := Char × Bool

def Piece.marked : Piece → List Marked
  | .char c => [(c, false)]
  | .marker m => m.map (·, true)

def markedLines (pieces : List Piece) : List (List Marked) :=
  (pieces.flatMap Piece.marked).splitOnP fun m => m.1 = '\n'

def strike (line : List Marked) : List Char :=
  (line.filter fun m => !m.2).map Prod.fst

section Deleting

variable (deleted : Marked → Bool)

/-- The characters that stay, where newlines always do. -/
def remaining (ms : List Marked) : List Char :=
  (ms.filter fun m => m.1 = '\n' || !deleted m).map Prod.fst

theorem pieces_remaining (ms : List Marked) :
    Text.pieces '\n' (remaining deleted ms) =
      (ms.splitOnP fun m => m.1 = '\n').map
        fun line => (line.filter fun m => !deleted m).map Prod.fst := by
  induction ms with
  | nil => simp [remaining, Text.pieces]
  | cons m ms ih =>
    rw [List.splitOnP_cons_eq_if_modifyHead]
    by_cases newline : m.1 = '\n'
    · have stays : remaining deleted (m :: ms) = '\n' :: remaining deleted ms := by
        simp [remaining, newline]
      rw [stays, Text.pieces_cons_self, ih, if_pos (by simpa using newline)]
      rfl
    -- The character is the first one of the first line, if it is not deleted.
    · obtain ⟨first, rest, lines⟩ := List.exists_cons_of_ne_nil
        (List.splitOnP_ne_nil (fun m : Marked => decide (m.1 = '\n')) ms)
      rw [lines] at ih ⊢
      rw [if_neg (by simpa using newline), List.modifyHead_cons]
      cases gone : deleted m with
      | true =>
        have goes : remaining deleted (m :: ms) = remaining deleted ms := by
          simp [remaining, newline, gone]
        rw [goes, ih]
        simp [gone]
      | false =>
        have stays : remaining deleted (m :: ms) = m.1 :: remaining deleted ms := by
          simp [remaining, newline, gone]
        obtain ⟨p, ps, found, whole⟩ := Text.exists_pieces_cons newline (remaining deleted ms)
        rw [ih] at found
        cases found
        rw [stays, whole]
        simp [gone]

end Deleting

theorem remaining_all (ms : List Marked) : remaining (fun _ => false) ms = ms.map Prod.fst := by
  simp [remaining]

theorem map_fst_marked (pieces : List Piece) :
    (pieces.flatMap Piece.marked).map Prod.fst = pieces.flatMap Piece.text := by
  induction pieces with
  | nil => rfl
  | cons piece pieces ih =>
    rw [List.flatMap_cons, List.map_append, ih, List.flatMap_cons]
    cases piece <;> simp [Piece.marked, Piece.text, Function.comp_def]

theorem remaining_marked (pieces : List Piece) :
    remaining Prod.snd (pieces.flatMap Piece.marked) = pieces.flatMap Piece.left := by
  induction pieces with
  | nil => rfl
  | cons piece pieces ih =>
    have split : remaining Prod.snd ((piece :: pieces).flatMap Piece.marked) =
        remaining Prod.snd piece.marked ++ remaining Prod.snd (pieces.flatMap Piece.marked) := by
      simp [remaining]
    have first : remaining Prod.snd piece.marked = piece.left := by
      cases piece with
      | char c => simp [remaining, Piece.marked, Piece.left]
      | marker m =>
        simp [remaining, Piece.marked, Piece.left, List.filter_map, Function.comp_def, List.filter_eq]
    rw [split, first, ih, List.flatMap_cons]

/-- Removing markers leaves as many newlines, and each line without the characters of it that belong
to the markers found from the left. Nothing else is done to a text, and nothing at all just where
there is no marker. -/
theorem stripMarkers_lines (cs : List Char) :
    (stripMarkers cs).count '\n' = cs.count '\n' ∧
    (∃! pieces, Cut cs pieces) ∧
    (∀ pieces, Cut cs pieces →
      Text.pieces '\n' cs = (markedLines pieces).map (·.map Prod.fst) ∧
      Text.pieces '\n' (stripMarkers cs) = (markedLines pieces).map strike) ∧
    (stripMarkers cs = cs ↔ Unmarked cs) := by
  refine ⟨count_newline_stripMarkers cs, existsUnique_cut cs, fun pieces cut => ⟨?_, ?_⟩,
    stripMarkers_eq_self_iff⟩
  -- The text is what stays when nothing is deleted, and the lines are those of one and the same split.
  · have lines := pieces_remaining (fun _ => false) (pieces.flatMap Piece.marked)
    rw [remaining_all, map_fst_marked, cut.text] at lines
    simpa [markedLines] using lines
  · have lines := pieces_remaining Prod.snd (pieces.flatMap Piece.marked)
    rw [remaining_marked, ← cut.strip] at lines
    exact lines

-- A line marker before a carriage return, a block marker over two lines, and one that has no end.
theorem stripMarkers_lines_mixed : ∃ pieces,
    Cut "a//# sourceMappingURL=x\r\nb/*@ sourceMappingURL=y\n*/c\n/*# sourceMappingURL=".toList pieces ∧
    (markedLines pieces).map strike =
      ["a\r".toList, "b".toList, "c".toList, "/*# sourceMappingURL=".toList] := by
  obtain ⟨-, ⟨pieces, cut, -⟩, lines, -⟩ := stripMarkers_lines
    "a//# sourceMappingURL=x\r\nb/*@ sourceMappingURL=y\n*/c\n/*# sourceMappingURL=".toList
  exact ⟨pieces, cut, (lines pieces cut).2.symm.trans (by decide +kernel)⟩

end BuildPipeline.SourceMap
