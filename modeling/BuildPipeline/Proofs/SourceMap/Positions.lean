import BuildPipeline.Proofs.SourceMap.Acceptance
import BuildPipeline.Proofs.SourceMap.Removal

set_option autoImplicit false

/-!
What becomes of the mapping of a single character. Main statement: a character that stays in the
code keeps its mapping under every map, just when no marker that is removed stands before it on its
line.
-/

namespace BuildPipeline.SourceMap

structure Place where
  line : Nat
  column : Nat
  deriving DecidableEq, Repr

def placeAfter (cs : List Char) : Place :=
  ⟨cs.count '\n', Text.width16 (lastLine cs)⟩

def Lines.Maps (lines : Lines) (place : Place) (origin : Option Origin) : Prop :=
  ∃ line, lines[place.line]? = some line ∧ ⟨place.column, origin⟩ ∈ line

theorem count_left (pieces : List Piece) :
    (pieces.flatMap Piece.left).count '\n' = (pieces.flatMap Piece.text).count '\n' := by
  induction pieces with
  | nil => rfl
  | cons piece pieces ih =>
    cases piece <;> simp [Piece.left, Piece.text, ih, List.count_append, List.count_cons]

/-- Behind the last marker there is a newline. -/
def ClearLine (pieces : List Piece) : Prop :=
  ∀ before marker after, pieces = before ++ .marker marker :: after → .char '\n' ∈ after

theorem clearLine_nil : ClearLine [] := by
  intro before marker after same
  simp at same

theorem clearLine_concat_char {pieces : List Piece} {c : Char} :
    ClearLine (pieces ++ [.char c]) ↔ c = '\n' ∨ ClearLine pieces := by
  constructor
  · intro clear
    by_cases newline : c = '\n'
    · exact .inl newline
    · refine .inr fun before marker after same => ?_
      have later := clear before marker (after ++ [.char c]) (by simp [same])
      simpa [Ne.symm newline] using later
  · intro clear before marker after same
    obtain ⟨after, rfl, rfl⟩ : ∃ after', after = after' ++ [.char c] ∧
        pieces = before ++ .marker marker :: after' := by
      rcases List.eq_nil_or_concat after with rfl | ⟨after, last, rfl⟩
      · simp at same
      · rw [List.concat_eq_append, ← List.cons_append, ← List.append_assoc] at same
        obtain ⟨rfl, last⟩ := List.append_inj' same rfl
        cases last
        exact ⟨after, List.concat_eq_append, rfl⟩
    rcases clear with rfl | clear
    · exact List.mem_concat_self
    · exact List.mem_append_left _ (clear before marker after rfl)

theorem not_clearLine_concat_marker (pieces : List Piece) (marker : List Char) :
    ¬ ClearLine (pieces ++ [.marker marker]) := by
  intro clear
  simpa using clear pieces marker [] rfl

theorem IsMarker.width_pos {marker after : List Char} (is : IsMarker marker after) :
    0 < Text.width16 (lastLine marker) := by
  obtain ⟨front, last, rfl, closes⟩ := is.exists_last
  have inLine : '\n' ∉ [last] := by
    rintro (_ | ⟨_, ⟨⟩⟩)
    cases closes
  have units : 0 < Text.unitsOf last := by
    rw [Text.unitsOf]
    split <;> decide
  rw [lastLine_append inLine, Text.width16_append, Text.width16, Text.width16]
  omega

theorem width_lastLine_replicate (n : Nat) :
    Text.width16 (lastLine (List.replicate n '\n')) = 0 := by
  cases n with
  | zero => rfl
  | succ n =>
    rw [List.replicate_succ', lastLine_append_newline]
    rfl

theorem width_left_le {pieces : List Piece}
    (markers : ∀ marker, .marker marker ∈ pieces → ∃ after, IsMarker marker after) :
    Text.width16 (lastLine (pieces.flatMap Piece.left)) ≤
        Text.width16 (lastLine (pieces.flatMap Piece.text)) ∧
      (Text.width16 (lastLine (pieces.flatMap Piece.left)) =
        Text.width16 (lastLine (pieces.flatMap Piece.text)) ↔ ClearLine pieces) := by
  -- The last piece decides, so the induction is from the right; the bound makes a marker's width
  -- one that no marker before it on the line can make up for.
  induction pieces using List.reverseRecOn with
  | nil => simp [clearLine_nil]
  | append_singleton pieces piece ih =>
    obtain ⟨bound, same⟩ := ih fun marker member => markers marker (List.mem_append_left _ member)
    rw [List.flatMap_append, List.flatMap_append, List.flatMap_singleton, List.flatMap_singleton]
    cases piece with
    | char c =>
      rw [clearLine_concat_char, ← same, Piece.left, Piece.text, width_lastLine_append,
        width_lastLine_append]
      by_cases newline : c = '\n'
      · simp [newline]
      · simp [newline, bound]
    | marker marker =>
      obtain ⟨after, is⟩ := markers marker (by simp)
      have wide := is.width_pos
      rw [Piece.left, Piece.text, width_lastLine_append, width_lastLine_append,
        width_lastLine_replicate]
      simp only [not_clearLine_concat_marker, iff_false, List.count_replicate_self]
      by_cases here : marker.count '\n' = 0
      · rw [if_pos here, if_pos here]
        omega
      · rw [if_neg here, if_neg here]
        omega

theorem placeAfter_left_iff {pieces : List Piece}
    (markers : ∀ marker, .marker marker ∈ pieces → ∃ after, IsMarker marker after) :
    placeAfter (pieces.flatMap Piece.left) = placeAfter (pieces.flatMap Piece.text) ↔
      ClearLine pieces := by
  rw [placeAfter, placeAfter, Place.mk.injEq, count_left, and_iff_right rfl]
  exact (width_left_le markers).2

theorem getElem?_stitchLines (lead body : List Char) (lines : Lines) {i : Nat}
    (within : i ≤ body.count '\n') :
    (stitchLines lead body lines)[lead.count '\n' + i]? = lines[i]?.map
      (List.map (Segment.shift ((if i = 0 then Text.width16 (lastLine lead) else 0 : Nat) : Int))) := by
  have past : lead.count '\n' + i - (List.replicate (lead.count '\n') ([] : List Segment)).length = i := by
    simp
  rw [stitchLines, List.getElem?_append_right (by simp), past, shiftFirst_eq_modifyHead]
  cases i with
  | zero => cases lines <;> simp
  | succ i =>
    rw [if_neg (Nat.succ_ne_zero i)]
    cases lines with
    | nil => simp
    | cons line lines =>
      simp [Segment.shift_zero, Nat.lt_of_succ_le within]

theorem mem_map_shift_iff {n column : Int} {origin : Option Origin} {line : List Segment} :
    ⟨n + column, origin⟩ ∈ line.map (Segment.shift n) ↔ ⟨column, origin⟩ ∈ line := by
  rw [List.mem_map]
  constructor
  · rintro ⟨⟨column', origin'⟩, member, same⟩
    obtain ⟨place, rfl⟩ := Segment.mk.inj same
    obtain rfl : column' = column := by
      rw [Int.add_comm] at place
      exact Int.add_left_cancel place
    exact member
  · intro member
    exact ⟨_, member, by simp [Segment.shift, Int.add_comm]⟩

theorem maps_stitchLines_iff {lead front rest : List Char} {lines : Lines} {origin : Option Origin} :
    (stitchLines lead (front ++ rest) lines).Maps (placeAfter (lead ++ front)) origin ↔
      lines.Maps (placeAfter front) origin := by
  have within : front.count '\n' ≤ (front ++ rest).count '\n' := by simp
  -- The columns of the segments on the first line move by what the place moves by, and on the other
  -- lines both stay.
  simp only [Lines.Maps, placeAfter, List.count_append, width_lastLine_append,
    getElem?_stitchLines lead _ lines within, Option.map_eq_some_iff, Int.natCast_add]
  constructor
  · rintro ⟨_, ⟨line, found, rfl⟩, member⟩
    exact ⟨line, found, mem_map_shift_iff.1 member⟩
  · rintro ⟨line, found, member⟩
    exact ⟨_, ⟨line, found, rfl⟩, mem_map_shift_iff.2 member⟩

def Decodes (map : Mapping) (lines : Lines) : Prop :=
  ∃ sources names mappings, Lists map "sources" sources ∧ Lists map "names" names ∧
    map.member "mappings" = .str mappings ∧
    Lines.read ⟨sources.length, names.length⟩ mappings.toList = .ok lines

theorem Decodes.unique {map : Mapping} {lines lines' : Lines} (decodes : Decodes map lines)
    (decodes' : Decodes map lines') : lines = lines' := by
  obtain ⟨sources, names, mappings, listed, named, encoded, read⟩ := decodes
  obtain ⟨sources', names', mappings', listed', named', encoded', read'⟩ := decodes'
  rw [← listMember_eq_ok_iff] at listed named listed' named'
  cases listed.symm.trans listed'
  cases named.symm.trans named'
  cases encoded.symm.trans encoded'
  exact Except.ok.inj (read.symm.trans read')

theorem decodes_of_stitchMap {code lead : List Char} {map : Mapping} {file : Option String}
    {s : Stitched} (stitches : stitchMap code map lead file = .ok s) :
    ∃ lines, Decodes map lines ∧ Decodes s.map (stitchLines lead (body code) lines) := by
  obtain ⟨p, lines, comment, parts, decoded, -, -, rfl⟩ := stitchMap_eq_ok_iff.1 stitches
  obtain ⟨-, encoded, listed, named, -⟩ := exists_of_parts parts
  refine ⟨lines, ⟨p.sources, p.names, _, listed, named, encoded, ?_⟩,
    ⟨p.sources, p.names, String.ofList (stitchLines lead (body code) lines).write, ?_, ?_, ?_, ?_⟩⟩
  · rw [String.toList_ofList]
    exact decoded
  · exact .inl (by simp [Mapping.member, get?_stitchedMap])
  · exact .inl (by simp [Mapping.member, get?_stitchedMap])
  · simp [Mapping.member, get?_stitchedMap]
  · rw [String.toList_ofList]
    exact read_write_stitchLines decoded lead (body code)

theorem IsAcceptable.decodes {map : Mapping} {sources names : List Value} {lines : Lines}
    (acceptable : IsAcceptable map sources names lines) : Decodes map lines := by
  obtain ⟨mappings, encoded, read⟩ := acceptable.mappings
  exact ⟨sources, names, mappings, acceptable.sources.1, acceptable.names.1, encoded, read⟩

def Lines.only (place : Place) (origin : Option Origin) : Lines :=
  List.replicate place.line [] ++ [[⟨place.column, origin⟩]]

theorem maps_only_iff {place place' : Place} {origin origin' : Option Origin} :
    (Lines.only place origin).Maps place' origin' ↔ place' = place ∧ origin' = origin := by
  obtain ⟨line, column⟩ := place
  obtain ⟨line', column'⟩ := place'
  rw [Lines.Maps, Lines.only, Place.mk.injEq]
  constructor
  · rintro ⟨segments, found, member⟩
    by_cases above : line' < line
    · rw [List.getElem?_append_left (by simpa using above), List.getElem?_replicate_of_lt above] at found
      cases found
      cases member
    · rw [List.getElem?_append_right (by simpa using above), List.length_replicate,
        List.getElem?_singleton] at found
      split at found
      next here =>
        cases found
        cases List.mem_singleton.1 member
        exact ⟨⟨Nat.le_antisymm (Nat.sub_eq_zero_iff_le.1 here) (Nat.le_of_not_lt above), rfl⟩, rfl⟩
      next => cases found
  · rintro ⟨⟨rfl, rfl⟩, rfl⟩
    exact ⟨[⟨column', origin'⟩], by simp, List.mem_singleton_self _⟩

theorem fits_only (place : Place) : (Lines.only place (some ⟨0, 0, 0, none⟩)).Fits ⟨1, 0⟩ := by
  have origin : Origin.Fits ⟨1, 0⟩ ⟨0, 0, 0, none⟩ := ⟨by decide, by decide, by decide, by simp⟩
  intro line member
  rcases List.mem_append.1 member with blank | only
  · simp [List.eq_of_mem_replicate blank]
  · rw [List.mem_singleton.1 only, List.forall_mem_singleton]
    exact ⟨Int.natCast_nonneg _, fun o this => Option.some.inj this ▸ origin⟩

theorem exists_isAcceptable {lines : Lines} (nonempty : lines ≠ []) (fits : lines.Fits ⟨1, 0⟩) :
    ∃ map, Value.MembersWhole map ∧ IsAcceptable map [.str "s"] [] lines := by
  have read : Lines.read ⟨1, 0⟩ (String.ofList lines.write).toList = .ok lines := by
    rw [String.toList_ofList, Lines.read_write nonempty fits]
  generalize String.ofList lines.write = mappings at read
  have get? (key : String) : Mapping.get? [(.str "sources", .list [.str "s"]),
      (.str "mappings", .str mappings)] (.str key) =
        if "sources" = key then some (.list [.str "s"])
        else if "mappings" = key then some (.str mappings) else none := by
    simp only [Mapping.get?_cons_str, Mapping.get?_nil]
  refine ⟨[(.str "sources", .list [.str "s"]), (.str "mappings", .str mappings)], ?_, ?_⟩
  · simp [Value.MembersWhole, Value.IsWhole, Value.AllWhole, Mapping.get?_cons_str]
  · exact {
      version := by simp [get?]
      mappings := ⟨mappings, by simp [Mapping.member, get?], read⟩
      sources := ⟨.inl (by simp [Mapping.member, get?]), rfl⟩
      names := ⟨.inr (by simp [Mapping.member, get?, Value.truthy]), rfl⟩
      root := by simp [get?]
      content := by simp [contents?, Mapping.member, get?] }

theorem exists_body_eq {code front rest : List Char} {c : Char}
    (left : stripMarkers code = front ++ c :: rest)
    (stays : ∃ d ∈ c :: rest, isLineEnd d = false) : ∃ more, body code = front ++ c :: more := by
  obtain ⟨tail, whole, ends⟩ := Text.dropTailWhile_append isLineEnd (stripMarkers code)
  -- Nothing but line ends is dropped, and from here on there is something else.
  obtain ⟨d, member, other⟩ := stays
  rw [left] at whole
  rcases List.append_eq_append_iff.1 whole with ⟨more, kept, split⟩ | ⟨more, -, rfl⟩
  · cases more with
    | nil =>
      cases split
      rw [ends d member] at other
      cases other
    | cons c' more =>
      cases split
      exact ⟨more, by rw [body, left, kept]⟩
  · rw [ends d (List.mem_append_right more member)] at other
    cases other

/-- What any accepted map tells of the character `c` behind `earlier`, the stitched map tells of it
where it stands in the stitched code. -/
def KeepsMapping (code lead : String) (earlier : List Piece) (c : Char) : Prop :=
  ∀ (console : Console) (map : Mapping) (file : Option String) (out : String) (stitched : Mapping)
    (lines : Lines) (origin : Option Origin),
    (stitch console code (.map map) lead file).1 = ⟨out, some stitched⟩ → Decodes map lines →
    lines.Maps (placeAfter (earlier.flatMap Piece.text)) origin →
    ∃ moved rest, Decodes stitched moved ∧
      out.toList = lead.toList ++ earlier.flatMap Piece.left ++ c :: rest ∧
      moved.Maps (placeAfter (lead.toList ++ earlier.flatMap Piece.left)) origin

/-- A character of the code outside its markers, and not among the line ends at its end, keeps its
mapping just when no marker stands before it on its line. -/
theorem keeps_mapping_iff {code : String} {earlier later : List Piece} {c : Char}
    (cut : Cut code.toList (earlier ++ .char c :: later))
    (stays : ∃ d ∈ c :: later.flatMap Piece.left, isLineEnd d = false) (lead : String) :
    KeepsMapping code lead earlier c ↔ ClearLine earlier := by
  have left : stripMarkers code.toList =
      earlier.flatMap Piece.left ++ c :: later.flatMap Piece.left := by
    simp [cut.strip, Piece.left]
  obtain ⟨more, shape⟩ := exists_body_eq left stays
  have place := placeAfter_left_iff fun marker member =>
    cut.isMarker_of_mem (List.mem_append_left _ member)
  constructor
  · intro keeps
    -- A map that tells the origin of this one place does not tell it anywhere else.
    obtain ⟨map, whole, acceptable⟩ := exists_isAcceptable (by simp [Lines.only])
      (fits_only (placeAfter (earlier.flatMap Piece.text)))
    obtain ⟨s, stitches⟩ := exists_stitchMap_of_isAcceptable whole (show "f" ≠ "" by decide)
      acceptable code.toList lead.toList
    obtain ⟨lines, decodes, decodes'⟩ := decodes_of_stitchMap stitches
    obtain rfl := acceptable.decodes.unique decodes
    obtain ⟨moved, -, decodes'', -, maps⟩ := keeps (.named "none") map (some "f") _ _ _ _
      (stitch_eq_some_iff.2 ⟨map, s, rfl, stitches, rfl, rfl⟩) decodes (maps_only_iff.2 ⟨rfl, rfl⟩)
    obtain rfl := decodes'.unique decodes''
    rw [shape, maps_stitchLines_iff] at maps
    exact place.1 (maps_only_iff.1 maps).1
  · intro clear console map file out stitched lines origin accepted decodes maps
    obtain ⟨comment, -, text⟩ := eq_append_of_stitch accepted
    obtain ⟨members, s, same, stitches, -, rfl⟩ := stitch_eq_some_iff.1 accepted
    cases same
    obtain ⟨lines', decodes', moved⟩ := decodes_of_stitchMap stitches
    obtain rfl := decodes.unique decodes'
    refine ⟨_, more ++ '\n' :: comment, moved, by simp [text, shape], ?_⟩
    rw [shape, maps_stitchLines_iff, place.2 clear]
    exact maps

def oneSourceMap (mappings : String) : Mapping :=
  [(.str "version", .int 3), (.str "file", .str "a.js"), (.str "sources", .list [.str "a.imba"]),
    (.str "names", .list []), (.str "mappings", .str mappings)]

theorem decodes_oneSourceMap {mappings : String} {lines : Lines}
    (read : Lines.read ⟨1, 0⟩ mappings.toList = .ok lines) :
    Decodes (oneSourceMap mappings) lines := by
  refine ⟨[.str "a.imba"], [], mappings, .inl ?_, .inl ?_, ?_, read⟩ <;>
    simp [oneSourceMap, Mapping.member, Mapping.get?_cons_str]

theorem cut_blockMarker {cs : List Char} (unmarked : Unmarked cs) :
    Cut ("/*# sourceMappingURL=x*/".toList ++ cs)
      (.marker "/*# sourceMappingURL=x*/".toList :: cs.map .char) := by
  have opens : IsOpening '*' ('/' :: '*' :: '#' :: ([' '] ++ markerName)) :=
    .intro (.inl rfl) (by simp) (by simp [isPad])
  have first : ¬ ['*', '/'] <:+: ['x'] := fun here =>
    absurd (here.subset (show '*' ∈ ['*', '/'] by simp)) (by decide)
  exact .marker (IsMarker.block opens first) (cut_of_unmarked unmarked)

theorem keeps_mapping_below_marker : ∃ out stitched moved rest,
    (stitch (.named "none") "/*# sourceMappingURL=x*/a;\nb;" (.map (oneSourceMap "wBAAA;AACA"))
      "import 'x';\n" none).1 = ⟨out, some stitched⟩ ∧ Decodes stitched moved ∧
    out.toList = "import 'x';\na;\n".toList ++ 'b' :: rest ∧
    moved.Maps ⟨2, 0⟩ (some ⟨0, 1, 0, none⟩) := by
  obtain ⟨out, stitched, accepted⟩ := Output.eq_of_isSome (o := (stitch (.named "none")
    "/*# sourceMappingURL=x*/a;\nb;" (.map (oneSourceMap "wBAAA;AACA")) "import 'x';\n" none).1)
    (by decide +kernel)
  have plain : Unmarked "a;\nb;".toList := stripMarkers_eq_self_iff.1 (by decide)
  have cut : Cut "/*# sourceMappingURL=x*/a;\nb;".toList
      (([.marker "/*# sourceMappingURL=x*/".toList, .char 'a', .char ';'] ++ [.char '\n'])
        ++ .char 'b' :: [.char ';']) :=
    cut_blockMarker plain
  have clear : ClearLine ([.marker "/*# sourceMappingURL=x*/".toList, .char 'a', .char ';']
      ++ [.char '\n']) := clearLine_concat_char.2 (.inl rfl)
  have decoded : Decodes (oneSourceMap "wBAAA;AACA")
      [[⟨24, some ⟨0, 0, 0, none⟩⟩], [⟨0, some ⟨0, 1, 0, none⟩⟩]] :=
    decodes_oneSourceMap (by decide +kernel)
  obtain ⟨moved, rest, decodes, text, maps⟩ := (keeps_mapping_iff
    cut ⟨'b', by decide, rfl⟩ "import 'x';\n").2 clear (.named "none") _ none out stitched _ _
    accepted decoded ⟨_, rfl, List.mem_singleton_self _⟩
  exact ⟨out, stitched, moved, rest, accepted, decodes, text, maps⟩

/-- Behind a marker that is removed a character moves, and its mapping stays where it was. -/
theorem loses_mapping_behind_marker : ∃ out stitched comment,
    (stitch (.named "none") "/*# sourceMappingURL=x*/a" (.map (oneSourceMap "wBAAA")) "" none).1 =
      ⟨out, some stitched⟩ ∧
    Decodes (oneSourceMap "wBAAA") [[⟨24, some ⟨0, 0, 0, none⟩⟩]] ∧
    placeAfter "/*# sourceMappingURL=x*/".toList = ⟨0, 24⟩ ∧
    out.toList = 'a' :: '\n' :: comment ∧
    ∀ moved, Decodes stitched moved → ¬ moved.Maps ⟨0, 0⟩ (some ⟨0, 0, 0, none⟩) := by
  obtain ⟨out, stitched, accepted⟩ := Output.eq_of_isSome (o := (stitch (.named "none")
    "/*# sourceMappingURL=x*/a" (.map (oneSourceMap "wBAAA")) "" none).1) (by decide +kernel)
  have decodes : Decodes (oneSourceMap "wBAAA") [[⟨24, some ⟨0, 0, 0, none⟩⟩]] :=
    decodes_oneSourceMap (by decide +kernel)
  have left : body "/*# sourceMappingURL=x*/a".toList = ['a'] := by decide +kernel
  obtain ⟨comment, -, text⟩ := eq_append_of_stitch accepted
  have place : placeAfter "/*# sourceMappingURL=x*/".toList = ⟨0, 24⟩ := by decide +kernel
  refine ⟨out, stitched, comment, accepted, decodes, place, by rw [text, left]; rfl, ?_⟩
  obtain ⟨members, s, same, stitches, -, rfl⟩ := stitch_eq_some_iff.1 accepted
  cases same
  obtain ⟨lines, decodes', stitched⟩ := decodes_of_stitchMap stitches
  obtain rfl := decodes.unique decodes'
  rintro moved decodes'' ⟨line, found, member⟩
  obtain rfl := stitched.unique decodes''
  rw [left] at found
  cases found
  exact absurd member (by decide)

end BuildPipeline.SourceMap
