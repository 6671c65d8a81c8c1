import BuildPipeline.Proofs.SourceMap.Occurrences

set_option autoImplicit false

namespace BuildPipeline.SourceMap

inductive Piece where
  | char (c : Char)
  | marker (text : List Char)

namespace Piece

def text : Piece → List Char
  | .char c => [c]
  | .marker m => m

def left : Piece → List Char
  | .char c => [c]
  | .marker m => List.replicate (m.count '\n') '\n'

end Piece

/-- A text cut into its markers, each the first to be found from the left, and the characters
between them. -/
inductive Cut : List Char → List Piece → Prop where
  | nil : Cut [] []
  | char {c : Char} {cs : List Char} {pieces : List Piece}
    (plain : ∀ marker after, c :: cs = marker ++ after → ¬ IsMarker marker after)
    (rest : Cut cs pieces) : Cut (c :: cs) (.char c :: pieces)
  | marker {marker after : List Char} {pieces : List Piece} (found : IsMarker marker after)
    (rest : Cut after pieces) : Cut (marker ++ after) (.marker marker :: pieces)

theorem Cut.text {cs : List Char} {pieces : List Piece} (cut : Cut cs pieces) :
    pieces.flatMap Piece.text = cs := by
  induction cut with
  | nil => rfl
  | char _ _ ih => simp [Piece.text, ih]
  | marker _ _ ih => simp [Piece.text, ih]

theorem stripFrom_append (marker after : List Char) :
    stripFrom marker.length (marker ++ after) =
      List.replicate (marker.count '\n') '\n' ++ stripFrom 0 after := by
  induction marker with
  | nil => rfl
  | cons c marker ih =>
    rw [List.length_cons, List.cons_append, stripFrom, ih]
    by_cases newline : c = '\n'
    · simp [newline, List.replicate_succ]
    · simp [newline]

theorem Cut.strip {cs : List Char} {pieces : List Piece} (cut : Cut cs pieces) :
    stripMarkers cs = pieces.flatMap Piece.left := by
  induction cut with
  | nil => rfl
  | @char c cs pieces plain _ ih =>
    have none' : markerLength? (c :: cs) = none := by
      cases found : markerLength? (c :: cs) with
      | none => rfl
      | some n =>
        obtain ⟨marker, after, same, is, -⟩ := markerLength?_eq_some_iff.1 found
        exact absurd is (plain marker after same)
    rw [stripMarkers] at ih
    rw [stripMarkers, stripFrom, none', List.flatMap_cons, ← ih]
    rfl
  | @marker marker after pieces found _ ih =>
    obtain ⟨tail, rfl⟩ := found.exists_cons
    have length := found.markerLength?
    rw [stripMarkers] at ih
    rw [List.cons_append] at length
    rw [stripMarkers, List.cons_append, stripFrom, length, List.flatMap_cons, ← ih]
    simp [stripFrom_append, Piece.left]

theorem Cut.unique {cs cs' : List Char} {pieces pieces' : List Piece} (cut : Cut cs pieces)
    (cut' : Cut cs' pieces') (same : cs = cs') : pieces = pieces' := by
  -- A character is left only where no marker begins, so that both cuts take the same pieces.
  induction cut generalizing cs' pieces' with
  | nil =>
    cases cut' with
    | nil => rfl
    | char _ _ => cases same
    | marker found _ =>
      obtain ⟨tail, rfl⟩ := found.exists_cons
      cases same
  | char plain _ ih =>
    cases cut' with
    | nil => cases same
    | char _ rest =>
      obtain ⟨rfl, later⟩ := List.cons.inj same
      rw [ih rest later]
    | marker found _ => exact absurd found (plain _ _ same)
  | marker found _ ih =>
    cases cut' with
    | nil =>
      obtain ⟨tail, rfl⟩ := found.exists_cons
      cases same
    | char plain _ => exact absurd found (plain _ _ same.symm)
    | marker found' rest =>
      obtain ⟨rfl, later⟩ := found.unique found' same
      rw [ih rest later]

theorem existsUnique_cut (cs : List Char) : ∃! pieces, Cut cs pieces := by
  suffices cut : ∃ pieces, Cut cs pieces by
    obtain ⟨pieces, cut⟩ := cut
    exact ⟨pieces, cut, fun _ cut' => cut'.unique cut rfl⟩
  -- A marker goes in one step, so the induction is on how much text there is.
  induction length : cs.length using Nat.strongRecOn generalizing cs with
  | ind n ih =>
    subst length
    cases cs with
    | nil => exact ⟨[], .nil⟩
    | cons c cs =>
      by_cases marked : ∃ marker after, c :: cs = marker ++ after ∧ IsMarker marker after
      · obtain ⟨marker, after, same, is⟩ := marked
        obtain ⟨tail, rfl⟩ := is.exists_cons
        have shorter : after.length < (c :: cs).length := by
          rw [same, List.length_append, List.length_cons]
          omega
        obtain ⟨pieces, rest⟩ := ih after.length shorter after rfl
        rw [same]
        exact ⟨_, Cut.marker is rest⟩
      · obtain ⟨pieces, rest⟩ := ih cs.length (by simp) cs rfl
        exact ⟨_, .char (fun marker after same is => marked ⟨marker, after, same, is⟩) rest⟩

theorem cut_of_unmarked {cs : List Char} (unmarked : Unmarked cs) : Cut cs (cs.map .char) := by
  induction cs with
  | nil => exact .nil
  | cons c cs ih =>
    exact .char (fun marker after => unmarked [] marker after) (ih (unmarked_cons_iff.1 unmarked).2)

theorem Cut.isMarker_of_mem {cs marker : List Char} {pieces : List Piece} (cut : Cut cs pieces)
    (member : .marker marker ∈ pieces) : ∃ after, IsMarker marker after := by
  induction cut with
  | nil => cases member
  | char _ _ ih => exact ih (by simpa using member)
  | @marker marker' after pieces found _ ih =>
    rcases List.mem_cons.1 member with same | member
    · cases same
      exact ⟨after, found⟩
    · exact ih member

/-- Every marker has a line end in it or behind it, so that nothing is joined where it stood. -/
def BreaksLine (pieces : List Piece) : Prop :=
  ∀ before marker after, pieces = before ++ .marker marker :: after →
    '\n' ∈ marker ∨ ∀ c ∈ (after.flatMap Piece.text).head?, isLineEnd c = true

theorem BreaksLine.tail {piece : Piece} {pieces : List Piece} (breaks : BreaksLine (piece :: pieces)) :
    BreaksLine pieces := by
  rintro before marker after rfl
  exact breaks (piece :: before) marker after rfl

theorem exists_char_of_left {pieces : List Piece} (breaks : BreaksLine pieces) {c : Char}
    {cs : List Char} (left : pieces.flatMap Piece.left = c :: cs) (inLine : isLineEnd c = false) :
    ∃ rest, pieces = .char c :: rest ∧ rest.flatMap Piece.left = cs := by
  induction pieces with
  | nil => cases left
  | cons piece pieces ih =>
    cases piece with
    | char d =>
      cases left
      exact ⟨pieces, rfl, rfl⟩
    | marker marker =>
      rw [List.flatMap_cons, Piece.left] at left
      cases newlines : marker.count '\n' with
      | succ n =>
        rw [newlines] at left
        cases left
        cases inLine
      | zero =>
        rw [newlines] at left
        have behind := (breaks [] marker pieces rfl).resolve_left (List.count_eq_zero.1 newlines)
        -- What is left would begin with the character behind the marker, a line end.
        obtain ⟨rest, rfl, -⟩ := ih breaks.tail left
        rw [behind c (by simp [Piece.text])] at inLine
        cases inLine

theorem exists_chars_of_left {word : List Char} (inLine : ∀ c ∈ word, isLineEnd c = false)
    {pieces : List Piece} (breaks : BreaksLine pieces) {cs : List Char}
    (left : pieces.flatMap Piece.left = word ++ cs) :
    ∃ rest, pieces = word.map .char ++ rest ∧ rest.flatMap Piece.left = cs ∧ BreaksLine rest := by
  induction word generalizing pieces with
  | nil => exact ⟨pieces, rfl, left, breaks⟩
  | cons c word ih =>
    rw [List.forall_mem_cons] at inLine
    obtain ⟨later, rfl, behind⟩ := exists_char_of_left breaks left inLine.1
    obtain ⟨rest, rfl, last⟩ := ih inLine.2 breaks.tail behind
    exact ⟨rest, rfl, last⟩

theorem commentEnd_replicate_iff (n : Nat) (cs : List Char) :
    ['*', '/'] <:+: List.replicate n '\n' ++ cs ↔ ['*', '/'] <:+: cs := by
  induction n with
  | zero => rfl
  | succ n ih =>
    rw [List.replicate_succ, List.cons_append, commentEnd_cons_iff, ih]
    simp

theorem unmarked_replicate_iff (n : Nat) (cs : List Char) :
    Unmarked (List.replicate n '\n' ++ cs) ↔ Unmarked cs := by
  induction n with
  | zero => rfl
  | succ n ih =>
    rw [List.replicate_succ, List.cons_append, unmarked_cons_iff, ih]
    exact and_iff_right rfl

theorem commentEnd_of_left {pieces : List Piece} (breaks : BreaksLine pieces)
    (closes : ['*', '/'] <:+: pieces.flatMap Piece.left) :
    ['*', '/'] <:+: pieces.flatMap Piece.text := by
  induction pieces with
  | nil => exact closes
  | cons piece pieces ih =>
    rw [List.flatMap_cons] at closes ⊢
    cases piece with
    | marker marker =>
      rw [Piece.left, commentEnd_replicate_iff] at closes
      exact (ih breaks.tail closes).trans (List.suffix_append marker _).isInfix
    | char c =>
      refine commentEnd_cons_iff.2 ((commentEnd_cons_iff.1 closes).imp ?_ (ih breaks.tail))
      rintro ⟨tail, rfl, slash⟩
      obtain ⟨rest, rfl, -⟩ := exists_char_of_left breaks.tail slash rfl
      exact ⟨_, rfl, rfl⟩

theorem exists_marker_of_line {opening : List Char} (opens : IsOpening '/' opening)
    (rest : List Char) : ∃ marker after, opening ++ rest = marker ++ after ∧ IsMarker marker after := by
  have opened : opening? '/' (opening ++ rest) = some rest :=
    opening?_eq_some_iff.2 ⟨opening, opens, rfl⟩
  have found : (afterLineMarker? (opening ++ rest)).or (afterBlockMarker? (opening ++ rest)) =
      some (rest.dropWhile (!isLineEnd ·)) := by
    simp [afterLineMarker?, opened]
  obtain ⟨marker, same, is⟩ := afterMarker?_eq_some_iff.1 found
  exact ⟨marker, _, same, is⟩

theorem exists_afterCommentEnd? {cs : List Char} (closes : ['*', '/'] <:+: cs) :
    ∃ rest, afterCommentEnd? cs = some rest := by
  fun_induction afterCommentEnd? cs with
  | case1 => simp at closes
  | case2 rest => exact ⟨rest, rfl⟩
  | case3 c cs other ih =>
    rcases commentEnd_cons_iff.1 closes with ⟨tail, star, rfl⟩ | later
    · exact absurd rfl (other tail star)
    · exact ih later

theorem exists_marker_of_block {opening rest : List Char} (opens : IsOpening '*' opening)
    (closes : ['*', '/'] <:+: rest) :
    ∃ marker after, opening ++ rest = marker ++ after ∧ IsMarker marker after := by
  obtain ⟨after, ends⟩ := exists_afterCommentEnd? closes
  obtain ⟨address, rfl, first⟩ := afterCommentEnd?_eq_some_iff.1 ends
  exact ⟨opening ++ address ++ ['*', '/'], after, by simp, .block opens first⟩

theorem exists_marker_of_left {pieces : List Piece} (breaks : BreaksLine pieces)
    {marker after : List Char} (left : pieces.flatMap Piece.left = marker ++ after)
    (is : IsMarker marker after) : ∃ marker' after',
      pieces.flatMap Piece.text = marker' ++ after' ∧ IsMarker marker' after' := by
  have texts (word : List Char) : (word.map Piece.char).flatMap Piece.text = word := by
    induction word with
    | nil => rfl
    | cons c word ih => simp [Piece.text, ih]
  -- What opens it has no line end, so it stood there in one piece and opened a marker before.
  cases is with
  | line opens _ _ =>
    rw [List.append_assoc] at left
    obtain ⟨rest, rfl, -, -⟩ := exists_chars_of_left (opens.not_isLineEnd rfl) breaks left
    rw [List.flatMap_append, texts]
    exact exists_marker_of_line opens _
  | block opens _ =>
    rw [List.append_assoc, List.append_assoc] at left
    obtain ⟨rest, rfl, left, breaks⟩ := exists_chars_of_left (opens.not_isLineEnd rfl) breaks left
    rw [List.flatMap_append, texts]
    refine exists_marker_of_block opens (commentEnd_of_left breaks ?_)
    rw [left]
    exact List.infix_append' _ _ _

theorem Cut.unmarked_strip {cs : List Char} {pieces : List Piece} (cut : Cut cs pieces)
    (breaks : BreaksLine pieces) : Unmarked (stripMarkers cs) := by
  rw [cut.strip]
  induction cut with
  | nil => exact unmarked_nil
  | @char c cs pieces plain rest ih =>
    refine unmarked_cons_iff.2 ⟨?_, ih breaks.tail⟩
    cases found : markerLength? ([c] ++ pieces.flatMap Piece.left) with
    | none => exact found
    | some n =>
      obtain ⟨marker, after, same, is, -⟩ := markerLength?_eq_some_iff.1 found
      obtain ⟨marker', after', same', is'⟩ := exists_marker_of_left breaks same is
      rw [List.flatMap_cons, rest.text] at same'
      exact absurd is' (plain marker' after' same')
  | @marker marker after pieces _ _ ih =>
    rw [List.flatMap_cons, Piece.left, unmarked_replicate_iff]
    exact ih breaks.tail

/-- So the comment of stitched code is its only marker, where every marker of the code has a line end
in it or behind it. -/
theorem Cut.only_mapComment {code lead out : String} {pieces : List Piece}
    (cut : Cut code.toList pieces) (breaks : BreaksLine pieces)
    (ends : lead.toList.getLast? = some '\n') (plain : ¬ markerName <:+: lead.toList)
    {console : Console} {map : Value} {file : Option String} {stitched : Mapping}
    (accepted : (stitch console code map lead file).1 = ⟨out, some stitched⟩) :
    ∃ front comment, out.toList = front ++ '\n' :: comment ∧ mapComment stitched = .ok comment ∧
      IsMarker comment [] ∧ ∀ before marker after, out.toList = before ++ marker ++ after →
        IsMarker marker after → before = front ++ ['\n'] ∧ marker = comment ∧ after = [] := by
  obtain ⟨comment, written, text⟩ := eq_append_of_stitch accepted
  refine ⟨_, comment, text, written, isMarker_mapComment written, ?_⟩
  rw [text, only_mapComment_iff written, unmarked_front_iff ends plain]
  exact cut.unmarked_strip breaks

end BuildPipeline.SourceMap
