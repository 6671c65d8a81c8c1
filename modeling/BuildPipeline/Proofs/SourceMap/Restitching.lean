import BuildPipeline.Proofs.SourceMap.InlineMap
import BuildPipeline.Proofs.Text.Blank

set_option autoImplicit false

namespace BuildPipeline.SourceMap

open Value

theorem mapComment_eq_ok {map : Mapping} {comment : List Char}
    (written : mapComment map = .ok comment) :
    ∃ bytes, comment = inlineLead ++ Base64.encode bytes := by
  obtain ⟨json, -, same⟩ := Sequencing.bind_eq_ok_iff.1 written
  cases same
  exact ⟨_, rfl⟩

theorem not_mem_base64 {c : Char} (foreign : isDataChar c = false) (bytes : List UInt8) :
    c ∉ Base64.encode bytes := by
  intro digit
  rcases Base64.isData_of_mem_encode digit with value | rfl
  · simp [isDataChar, value] at foreign
  · cases foreign

theorem not_mem_mapComment {map : Mapping} {comment : List Char}
    (written : mapComment map = .ok comment) {c : Char} (lead : c ∉ inlineLead)
    (data : isDataChar c = false) : c ∉ comment := by
  obtain ⟨bytes, rfl⟩ := mapComment_eq_ok written
  rw [List.mem_append, not_or]
  exact ⟨lead, not_mem_base64 data bytes⟩

theorem newline_not_mem_mapComment {map : Mapping} {comment : List Char}
    (written : mapComment map = .ok comment) : '\n' ∉ comment :=
  not_mem_mapComment written (by decide) (by decide)

theorem star_not_mem_mapComment {map : Mapping} {comment : List Char}
    (written : mapComment map = .ok comment) : '*' ∉ comment :=
  not_mem_mapComment written (by decide) (by decide)

theorem isLineEnd_of_mem_mapComment {map : Mapping} {comment : List Char}
    (written : mapComment map = .ok comment) : ∀ c ∈ comment, isLineEnd c = false := by
  have back : '\r' ∉ comment := not_mem_mapComment written (by decide) (by decide)
  intro c member
  rw [isLineEnd, Bool.or_eq_false_iff, beq_eq_false_iff_ne, beq_eq_false_iff_ne]
  exact ⟨fun same => back (same ▸ member),
    fun same => newline_not_mem_mapComment written (same ▸ member)⟩

theorem stripFrom_mapComment {map : Mapping} {comment : List Char}
    (written : mapComment map = .ok comment) : stripFrom 0 comment = [] := by
  have line := newline_not_mem_mapComment written
  obtain ⟨rest, opens⟩ : ∃ rest, opening? '/' comment = some rest := by
    obtain ⟨bytes, rfl⟩ := mapComment_eq_ok written
    exact ⟨_, opening?_inlineLead _⟩
  have whole : rest.dropWhile (!isLineEnd ·) = [] := by
    rw [List.dropWhile_eq_nil_iff]
    intro c member
    have here : c ∈ comment := (suffix_of_opening? opens).subset member
    simp [isLineEnd_of_mem_mapComment written c here]
  have length : markerLength? comment = some comment.length := by
    simp [markerLength?, afterLineMarker?, opens, whole]
  cases comment with
  | nil => rfl
  | cons c tail =>
    rw [List.mem_cons, not_or] at line
    rw [stripFrom, length]
    simp only [if_neg (Ne.symm line.1)]
    exact stripFrom_of_length_le (Nat.le_refl _) line.2

theorem body_eq_rdropWhile (code : List Char) :
    body code = (stripMarkers code).rdropWhile isLineEnd :=
  Text.dropTailWhile_eq_rdropWhile isLineEnd _

theorem body_comment {map : Mapping} {comment : List Char} (written : mapComment map = .ok comment)
    (front : List Char) : body (front ++ '\n' :: comment) = body front := by
  rw [body_eq_rdropWhile, body_eq_rdropWhile, stripMarkers,
    stripFrom_line _ (star_not_mem_mapComment written) (Nat.zero_le _),
    stripFrom_mapComment written]
  exact List.rdropWhile_concat_pos _ _ _ rfl

theorem body_stitched {map : Mapping} {comment lead body' : List Char}
    (written : mapComment map = .ok comment) (plain : ¬ markerName <:+: lead) :
    body (lead ++ ['\n'] ++ body' ++ '\n' :: comment) =
      (lead ++ '\n' :: stripMarkers body').rdropWhile isLineEnd := by
  have joined : lead ++ ['\n'] ++ body' = lead ++ '\n' :: body' := by simp
  rw [body_comment written, joined, body_eq_rdropWhile, stripMarkers, stripFrom_unmarked plain]
  rfl

theorem rdropWhile_eq_iff (lead code : List Char) :
    (lead ++ '\n' :: stripMarkers (body code)).rdropWhile isLineEnd = lead ++ '\n' :: body code ↔
      body code ≠ [] ∧ stripMarkers (body code) = body code := by
  constructor
  · intro same
    constructor
    · intro empty
      have again := List.rdropWhile_idempotent isLineEnd (lead ++ '\n' :: stripMarkers (body code))
      rw [same, empty, List.rdropWhile_concat_pos _ _ _ rfl] at again
      have shorter := (List.rdropWhile_prefix isLineEnd (l := lead)).length_le
      rw [again, List.length_append] at shorter
      exact absurd shorter (by simp)
    -- What stays is no longer than the body, and what it was is the beginning of what stays.
    · have front : body code <+: stripMarkers (body code) := by
        have whole := List.rdropWhile_prefix isLineEnd (l := lead ++ '\n' :: stripMarkers (body code))
        rw [same] at whole
        simpa using whole
      exact (stripFrom_sublist 0 (body code)).eq_of_length_le front.length_le
  · rintro ⟨nonempty, kept⟩
    rw [kept, List.rdropWhile_eq_self_iff]
    intro _
    rw [body_eq_rdropWhile] at nonempty
    have last := List.rdropWhile_last_not isLineEnd _ nonempty
    simpa [body_eq_rdropWhile, List.getLast_cons nonempty] using last

theorem body_stitched_eq_iff {map : Mapping} {comment lead : List Char}
    (written : mapComment map = .ok comment) (plain : ¬ markerName <:+: lead) (code : List Char) :
    body (lead ++ ['\n'] ++ body code ++ '\n' :: comment) = lead ++ ['\n'] ++ body code ↔
      body code ≠ [] ∧ stripMarkers (body code) = body code := by
  have same := rdropWhile_eq_iff lead code
  rw [body_stitched written plain, ← same]
  simp

theorem append_newline_inj {a b c d : List Char} (line : '\n' ∉ c) (line' : '\n' ∉ d)
    (same : a ++ '\n' :: c = b ++ '\n' :: d) : a = b ∧ c = d := by
  induction a generalizing b with
  | nil =>
    cases b with
    | nil => simpa using same
    | cons y b =>
      obtain ⟨-, tail⟩ := List.cons.inj same
      exact absurd (tail ▸ List.mem_append_right b List.mem_cons_self) line
  | cons x a ih =>
    cases b with
    | nil =>
      obtain ⟨-, tail⟩ := List.cons.inj same
      exact absurd (tail ▸ List.mem_append_right a List.mem_cons_self) line'
    | cons y b =>
      obtain ⟨rfl, tail⟩ := List.cons.inj same
      simpa using ih tail

theorem decimalText_ne_nil (a : Nat) (d : Int) : Number.Double.decimalText a d ≠ [] := by
  simp only [Number.Double.decimalText]
  repeat' split
  all_goals simp

theorem text_double_ne_empty (x : Number.Double) : x.text ≠ "" := by
  simp only [Number.Double.text]
  repeat' split
  all_goals simp [decimalText_ne_nil]

theorem text_moment_ne_empty (m : Moment) : m.text ≠ "" := by
  cases m <;> simp [Moment.text, Date.text, Clock.text]

theorem append_ne_empty (s : String) {t : String} (nonempty : t ≠ "") : s ++ t ≠ "" := by
  simp [nonempty]

-- What is not a number ends in a quote or a bracket of its own.
theorem quoted_ne_empty (v : Value) : v.quoted ≠ "" := by
  cases v with
  | null => decide
  | bool b => cases b <;> decide
  | int n => cases n <;> simp [quoted, Number.intText, Number.intChars, Number.digits_ne_nil]
  | float x => exact text_double_ne_empty x
  | str s => simp [quoted, Text.quoted, Text.quotedChars]
  | bytes bs => simp [quoted, Text.quotedBytes]
  | moment m => cases m <;> exact append_ne_empty _ (by decide)
  | list items | map members => exact append_ne_empty _ (by decide)
  | tuple items =>
    rw [quoted]
    split <;> exact append_ne_empty _ (by decide)
  | set items =>
    cases items with
    | nil => decide
    | cons _ _ => exact append_ne_empty _ (by decide)
  | enclosing c => cases c <;> decide

theorem text_ne_empty {v : Value} (truthy : v.truthy = true) : v.text ≠ "" := by
  cases v with
  | str s =>
    rw [Value.text]
    simpa [Value.truthy] using truthy
  | moment m => exact text_moment_ne_empty m
  | _ => exact quoted_ne_empty _

theorem contents?_stitchedMap (map : Mapping) (p : Parts) (lines : Lines) :
    contents? (stitchedMap map p lines) = contents? map := by
  have found := get?_stitchedMap map p lines "sourcesContent"
  simp only [String.reduceEq, ↓reduceIte] at found
  rw [contents?, Mapping.member, found, contents?]
  cases map.member "sourcesContent" <;> rfl

theorem stitchedMap_again (map : Mapping) (p : Parts) (lines lines' : Lines)
    (mappings : List Char) :
    stitchedMap (stitchedMap map p lines) ⟨mappings, p.sources, p.names, .str p.file.text⟩ lines' =
      stitchedMap map p lines' := by
  have root := get?_stitchedMap map p lines "sourceRoot"
  rw [stitchedMap, root, contents?_stitchedMap]
  rfl

theorem partsOf_stitchedMap (map : Mapping) {p : Parts} (lines : Lines)
    (named : p.file.text ≠ "") :
    Parts.of (stitchedMap map p lines) none =
      .ok ⟨lines.write, p.sources, p.names, .str p.file.text⟩ := by
  have aim : target (stitchedMap map p lines) none = .str p.file.text := by
    simp [target, Mapping.member, get?_stitchedMap]
  have encoded : (stitchedMap map p lines).member "mappings" = .str (String.ofList lines.write) := by
    simp [Mapping.member, get?_stitchedMap]
  have sources : Lists (stitchedMap map p lines) "sources" p.sources :=
    .inl (by simp [Mapping.member, get?_stitchedMap])
  have names : Lists (stitchedMap map p lines) "names" p.names :=
    .inl (by simp [Mapping.member, get?_stitchedMap])
  have version : ∀ v, (stitchedMap map p lines).get? (.str "version") = some v →
      v.sameKey (.int 3) = true := by
    simp [get?_stitchedMap, sameKey, numeric]
  rw [Parts.of_eq_ok version encoded sources names (by simp [aim, Value.truthy, named]), aim,
    String.toList_ofList]

theorem exists_mapComment_iff {map : Mapping} : (∃ comment, mapComment map = .ok comment) ↔
    ∃ parts, Json.writeMembers .compact map = .ok parts := by
  simp only [mapComment, Json.writeValue, Sequencing.bind_eq_ok_iff, Except.ok.injEq]
  constructor
  · rintro ⟨_, _, ⟨parts, written, -⟩, -⟩
    exact ⟨parts, written⟩
  · rintro ⟨parts, written⟩
    exact ⟨_, _, ⟨parts, written, rfl⟩, rfl⟩

theorem exists_mapComment_stitchedMap {map : Mapping} {p : Parts} {lines : Lines}
    {comment : List Char} (written : mapComment (stitchedMap map p lines) = .ok comment)
    (lines' : Lines) : ∃ comment', mapComment (stitchedMap map p lines') = .ok comment' := by
  have members := exists_mapComment_iff.1 ⟨comment, written⟩
  rw [exists_mapComment_iff]
  simp only [stitchedMap, Json.exists_writeMembers_append_iff,
    Json.exists_writeMembers_cons_iff] at members ⊢
  obtain ⟨front, key, names, key', -, rest⟩ := members
  exact ⟨front, key, names, key', ⟨_, rfl⟩, rest⟩

theorem stitchMap_stitchedMap {map : Mapping} {p : Parts} {lines : Lines} {comment : List Char}
    (named : p.file.text ≠ "") (decoded : Lines.read p.counts lines.write = .ok lines)
    (written : mapComment (stitchedMap map p lines) = .ok comment) (code lead : List Char) :
    ∃ comment', mapComment (stitchedMap map p (stitchLines lead (body code) lines)) = .ok comment' ∧
      stitchMap code (stitchedMap map p lines) lead none =
        .ok ⟨lead ++ body code ++ '\n' :: comment',
          stitchedMap map p (stitchLines lead (body code) lines), .str p.file.text⟩ := by
  obtain ⟨comment', written'⟩ :=
    exists_mapComment_stitchedMap written (stitchLines lead (body code) lines)
  have again := stitchedMap_again map p lines (stitchLines lead (body code) lines) lines.write
  refine ⟨comment', written', stitchMap_eq_ok_iff.2 ⟨_, lines, comment',
    partsOf_stitchedMap map lines named, decoded, rfl, ?_, ?_⟩⟩
  · rw [again, written']
  · rw [again]

theorem stitchMap_again {code lead : List Char} {map : Mapping} {file : Option String}
    {s : Stitched} (plain : ¬ markerName <:+: lead)
    (stitches : stitchMap code map (lead ++ ['\n']) file = .ok s) :
    ∃ again, stitchMap s.code s.map [] none = .ok again ∧
      (again.code = s.code ↔ body code ≠ [] ∧ stripMarkers (body code) = body code) ∧
      (again.code = s.code → again.map = s.map) := by
  obtain ⟨p, lines, comment, parts, decoded, -, written, rfl⟩ := stitchMap_eq_ok_iff.1 stitches
  obtain ⟨-, -, -, -, -, truthy⟩ := exists_of_parts parts
  have left := body_stitched_eq_iff written plain code
  have settled := stitchLines_append [] (lead ++ ['\n']) (body code) lines
  have decoded' := read_write_stitchLines decoded (lead ++ ['\n']) (body code)
  rw [List.nil_append] at settled
  generalize stitchLines (lead ++ ['\n']) (body code) lines = moved at *
  generalize lead ++ ['\n'] ++ body code = front at *
  obtain ⟨comment', written', stitches'⟩ :=
    stitchMap_stitchedMap (text_ne_empty truthy) decoded' written (front ++ '\n' :: comment) []
  have line := newline_not_mem_mapComment written
  have line' := newline_not_mem_mapComment written'
  -- Under the same front the same map is written, and so the same comment.
  have same : body (front ++ '\n' :: comment) = front →
      stitchedMap map p (stitchLines [] (body (front ++ '\n' :: comment)) moved) =
        stitchedMap map p moved := by
    intro whole
    rw [whole, settled]
  have front' : [] ++ body (front ++ '\n' :: comment) ++ '\n' :: comment' =
      front ++ '\n' :: comment ↔ body (front ++ '\n' :: comment) = front := by
    constructor
    · intro code'
      exact (append_newline_inj line' line code').1
    · intro whole
      rw [same whole] at written'
      cases written.symm.trans written'
      rw [whole, List.nil_append]
  exact ⟨_, stitches', front'.trans left, fun code' => same (front'.1 code')⟩

/-- Stitching again with the map that stitched code holds, and nothing in front, rebuilds a map
every time. It gives the same code, and then also the same map, just when the code had a body and
no marker is left in it: the line ends that close the text in front are otherwise taken for those of
the body, or the marker is removed. -/
theorem stitch_again_eq_iff {map : Mapping} (exact' : (Value.map map).IsExact)
    (console console' : Console) (code lead : String) (file : Option String)
    (ends : lead.toList.getLast? = some '\n') (plain : ¬ markerName <:+: lead.toList)
    {once again : Output} (first : (stitch console code (.map map) lead file).1 = once)
    (accepted : once.map.isSome = true)
    (second : (stitch console' once.code
      ((readInlineMap once.code.toList).elim .null .map) "" none).1 = again) :
    again.map.isSome = true ∧
      (again.code = once.code ↔
        body code.toList ≠ [] ∧ stripMarkers (body code.toList) = body code.toList) ∧
      (again.code = once.code → again = once) := by
  obtain ⟨front, shape⟩ := List.getLast?_eq_some_iff.1 ends
  have plain' : ¬ markerName <:+: front := fun here =>
    plain (shape ▸ here.trans (List.prefix_append front _).isInfix)
  simp only [stitch, stitch?] at first
  split at first
  next s stitches =>
    subst first
    rw [shape] at stitches
    have holds := readInlineMap_of_stitchMap exact' stitches
    obtain ⟨s', stitches', stable, same⟩ := stitchMap_again plain' stitches
    have rebuilt : again = ⟨String.ofList s'.code, some s'.map⟩ := by
      simpa [stitch, stitch?, holds, stitches'] using second.symm
    subst rebuilt
    refine ⟨rfl, by simpa [String.ofList_inj] using stable, ?_⟩
    intro code'
    have code'' : s'.code = s.code := by simpa [String.ofList_inj] using code'
    rw [code'', same code'']
  next =>
    subst first
    cases accepted

def oneLineMap : Mapping :=
  [(.str "version", .int 3), (.str "file", .str "a.js"), (.str "sources", .list [.str "a.imba"]),
    (.str "names", .list []), (.str "mappings", .str "AAAA")]

/-- Code without a line loses the newline before its comment when it is stitched again, code with a
line stays. -/
theorem stitch_again_drops_newline :
    (∃ once again,
      (stitch (.named "none") "" (.map oneLineMap) "import 'x';\n" none).1 = once ∧
      (stitch (.named "none") once.code
        ((readInlineMap once.code.toList).elim .null .map) "" none).1 = again ∧
      once.map.isSome = true ∧ again.map.isSome = true ∧ again.code ≠ once.code) ∧
    ∃ once,
      (stitch (.named "none") "a;\n" (.map oneLineMap) "import 'x';\n" none).1 = once ∧
      once.map.isSome = true ∧
      (stitch (.named "none") once.code
        ((readInlineMap once.code.toList).elim .null .map) "" none).1 = once := by
  have three : Number.isTooLong 3 = false := Number.isTooLong_of_lt_ten (by decide)
  have kept : (Value.map oneLineMap).IsExact := by
    simp [oneLineMap, IsExact, AllExact, MembersExact, Mapping.get?_cons_str, three]
  have ends : "import 'x';\n".toList.getLast? = some '\n' := by decide
  have plain : ¬ markerName <:+: "import 'x';\n".toList := fun here =>
    absurd (here.subset (show '=' ∈ markerName by decide)) (by decide)
  constructor
  · have accepted : (stitch (.named "none") "" (.map oneLineMap) "import 'x';\n" none).1.map.isSome
        = true := by decide +kernel
    obtain ⟨once, first⟩ : ∃ once,
      (stitch (.named "none") "" (.map oneLineMap) "import 'x';\n" none).1 = once := ⟨_, rfl⟩
    obtain ⟨again, second⟩ : ∃ again, (stitch (.named "none") once.code
      ((readInlineMap once.code.toList).elim .null .map) "" none).1 = again := ⟨_, rfl⟩
    rw [first] at accepted
    obtain ⟨rebuilt, stable, -⟩ := stitch_again_eq_iff kept (.named "none") (.named "none") "" _ none
      ends plain first accepted second
    exact ⟨once, again, first, second, accepted, rebuilt, fun same => (stable.1 same).1 (by decide)⟩
  · have accepted : (stitch (.named "none") "a;\n" (.map oneLineMap) "import 'x';\n" none).1.map.isSome
        = true := by decide +kernel
    obtain ⟨once, first⟩ : ∃ once,
      (stitch (.named "none") "a;\n" (.map oneLineMap) "import 'x';\n" none).1 = once := ⟨_, rfl⟩
    obtain ⟨again, second⟩ : ∃ again, (stitch (.named "none") once.code
      ((readInlineMap once.code.toList).elim .null .map) "" none).1 = again := ⟨_, rfl⟩
    rw [first] at accepted
    obtain ⟨-, stable, same⟩ := stitch_again_eq_iff kept (.named "none") (.named "none") "a;\n" _ none
      ends plain first accepted second
    rw [same (stable.2 (by decide))] at second
    exact ⟨once, first, accepted, second⟩

end BuildPipeline.SourceMap
