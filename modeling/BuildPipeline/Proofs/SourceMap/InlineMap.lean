import BuildPipeline.Proofs.Base64
import BuildPipeline.Proofs.Json.RoundTrip
import BuildPipeline.Proofs.SourceMap.Marker
import BuildPipeline.Proofs.SourceMap.Stitching
import BuildPipeline.Proofs.Text.Utf8

set_option autoImplicit false

namespace BuildPipeline.SourceMap

open Value

theorem afterCharset_line (line more : List Char) :
    afterCharset (line ++ '\n' :: more) = afterCharset line ++ '\n' :: more := by
  rw [afterCharset, afterCharset, after?_line (by decide)]
  cases found : after? ";charset=".toList line with
  | none => rfl
  | some rest =>
    cases rest with
    | nil => rfl
    | cons c rest =>
      simp only [Option.map_some, List.cons_append]
      split
      · exact dropWhile_line (by decide) rest more
      · rfl

theorem inlineData?_line (line more : List Char) :
    inlineData? (line ++ '\n' :: more) =
      (inlineData? line).map fun r => (r.1, r.2 ++ '\n' :: more) := by
  simp only [inlineData?, bind]
  rw [opening?_line (by decide)]
  cases opening? '/' line with
  | none => rfl
  | some rest =>
    simp only [Option.map_some, Option.bind_some]
    rw [after?_line (by decide)]
    cases after? "data:application/json".toList rest with
    | none => rfl
    | some rest =>
      simp only [Option.map_some, Option.bind_some]
      rw [afterCharset_line, after?_line (by decide)]
      cases after? ";base64,".toList (afterCharset rest) with
      | none => rfl
      | some rest =>
        simp only [Option.map_some, Option.bind_some]
        rw [takeWhile_line (by decide), dropWhile_line (by decide)]
        split <;> rfl

theorem inlineDataFrom_line (line more : List Char) {inside : Nat} (within : inside ≤ line.length) :
    inlineDataFrom inside (line ++ '\n' :: more) =
      inlineDataFrom inside line ++ inlineDataFrom 0 more := by
  induction line generalizing inside with
  | nil =>
    cases Nat.le_zero.1 within
    have ends : inlineData? ('\n' :: more) = none := rfl
    simp [inlineDataFrom, ends]
  | cons c line ih =>
    cases inside with
    | zero =>
      have found := inlineData?_line (c :: line) more
      rw [List.cons_append] at found ⊢
      rw [inlineDataFrom, inlineDataFrom, found]
      cases inlineData? (c :: line) with
      | none => exact ih (Nat.zero_le _)
      | some r =>
        simp only [Option.map_some, List.length_append, Nat.add_sub_add_right]
        rw [ih (Nat.sub_le _ _)]
        rfl
    | succ inside => exact ih (Nat.le_of_succ_le_succ within)

theorem inlineDataFrom_of_length_le {inside : Nat} {cs : List Char} (covers : cs.length ≤ inside) :
    inlineDataFrom inside cs = [] := by
  induction cs generalizing inside with
  | nil => cases inside <;> rfl
  | cons c cs ih =>
    cases inside with
    | zero => cases covers
    | succ inside => exact ih (Nat.le_of_succ_le_succ covers)

theorem opening?_inlineLead (data : List Char) : opening? '/' (inlineLead ++ data) =
    some ("data:application/json;charset=utf-8;base64,".toList ++ data) := by
  rfl

theorem inlineData?_lead {data : List Char} (nonempty : data ≠ [])
    (all : ∀ c ∈ data, isDataChar c = true) :
    inlineData? (inlineLead ++ data) = some (data, []) := by
  have typed : after? "data:application/json".toList
      ("data:application/json;charset=utf-8;base64,".toList ++ data) =
      some (";charset=utf-8;base64,".toList ++ data) := rfl
  have named : afterCharset (";charset=utf-8;base64,".toList ++ data) =
      ";base64,".toList ++ data := rfl
  have based : after? ";base64,".toList (";base64,".toList ++ data) = some data := rfl
  have taken : data.takeWhile isDataChar = data := by
    simpa using @List.takeWhile_append_of_pos _ _ data [] all
  have dropped : data.dropWhile isDataChar = [] := by
    simpa using @List.dropWhile_append_of_pos _ _ data [] all
  simp only [inlineData?, bind, opening?_inlineLead, Option.bind_some, typed, named, based]
  rw [taken, dropped]
  split
  · exact absurd rfl nonempty
  · rfl

theorem inlineDataFrom_lead {data : List Char} (nonempty : data ≠ [])
    (all : ∀ c ∈ data, isDataChar c = true) : inlineDataFrom 0 (inlineLead ++ data) = [data] := by
  have found := inlineData?_lead nonempty all
  obtain ⟨tail, shape⟩ : ∃ tail, inlineLead ++ data = '/' :: tail := ⟨_, rfl⟩
  rw [shape] at found ⊢
  rw [inlineDataFrom, found]
  exact congrArg (data :: ·) (inlineDataFrom_of_length_le (Nat.le_refl _))

theorem readInlineMap_mapComment {map : Mapping} (exact' : (Value.map map).IsExact)
    (text : List Char) : ∃ comment,
      mapComment map = .ok comment ∧ readInlineMap (text ++ '\n' :: comment) = some map := by
  obtain ⟨json, written⟩ := Json.exists_writeValue .compact exact'.isJson
  obtain ⟨parts, shape, -⟩ := Json.writeValue_map_eq_ok written
  have nonempty : Base64.encode (Text.Utf8.encode json) ≠ [] := by
    rw [shape]
    exact Base64.encode_ne_nil (Text.Utf8.encode_cons_ne_nil _ _)
  have all : ∀ c ∈ Base64.encode (Text.Utf8.encode json), isDataChar c = true := by
    intro c member
    simpa [isDataChar] using Base64.isData_of_mem_encode member
  refine ⟨inlineLead ++ Base64.encode (Text.Utf8.encode json), by rw [mapComment, written]; rfl, ?_⟩
  rw [readInlineMap, inlineDataFrom_line _ _ (Nat.zero_le _), inlineDataFrom_lead nonempty all]
  simp [readData?, Base64.decode?_encode, Text.Utf8.decode_encode,
    Json.readAll_writeValue exact' written, Value.members?, Except.toOption, bind]

theorem allExact_of_lists {map : Mapping} {key : String} {items : List Value}
    (members : MembersExact map) (lists : Lists map key items) : AllExact items := by
  rcases lists with found | ⟨-, rfl⟩
  · have value := isExact_member members key
    rwa [found] at value
  · trivial

theorem isExact_of_contents? {map : Mapping} (members : MembersExact map) {v : Value}
    (found : contents? map = some v) : v.IsExact := by
  rw [contents?] at found
  split at found
  next items there =>
    cases found
    exact there ▸ isExact_member members "sourcesContent"
  next => cases found

theorem membersExact_stitchedMap {map : Mapping} {p : Parts}
    (root : ∀ v, map.get? (.str "sourceRoot") = some v → v.IsExact)
    (content : ∀ v, contents? map = some v → v.IsExact)
    (sources : AllExact p.sources) (names : AllExact p.names) (lines : Lines) :
    MembersExact (stitchedMap map p lines) := by
  have three : (Value.int 3).IsExact := Number.isTooLong_of_lt_ten (by decide)
  rw [stitchedMap]
  -- With or without the two members that may be missing, no key comes twice.
  cases found : map.get? (.str "sourceRoot") <;> cases found' : contents? map <;>
    simp_all [MembersExact, Mapping.get?_cons_str, IsExact]

theorem stitchMap_eq_ok_iff {code lead : List Char} {map : Mapping} {file : Option String}
    {s : Stitched} : stitchMap code map lead file = .ok s ↔ ∃ p lines comment,
      Parts.of map file = .ok p ∧ Lines.read p.counts p.mappings = .ok lines ∧
      p.file.isTooLong = false ∧
      mapComment (stitchedMap map p (stitchLines lead (body code) lines)) = .ok comment ∧
      s = ⟨lead ++ body code ++ '\n' :: comment,
        stitchedMap map p (stitchLines lead (body code) lines), p.file⟩ := by
  constructor
  · intro stitches
    obtain ⟨p, parts, stitches⟩ := Sequencing.bind_eq_ok_iff.1 stitches
    obtain ⟨lines, decoded, stitches⟩ := Sequencing.bind_eq_ok_iff.1 stitches
    split at stitches
    · cases stitches
    next short =>
      simp only at stitches
      split at stitches
      · cases stitches
      next comment written =>
        cases stitches
        exact ⟨p, lines, comment, parts, decoded, by simpa using short, written, rfl⟩
  · rintro ⟨p, lines, comment, parts, decoded, short, written, rfl⟩
    simp [stitchMap, parts, decoded, short, written, bind, Except.bind]

theorem stitch_eq_some_iff {console : Console} {code lead out : String} {map : Value}
    {file : Option String} {stitched : Mapping} :
    (stitch console code map lead file).1 = ⟨out, some stitched⟩ ↔ ∃ members s, map = .map members ∧
      stitchMap code.toList members lead.toList file = .ok s ∧ String.ofList s.code = out ∧
        s.map = stitched := by
  constructor
  · intro accepted
    rw [stitch] at accepted
    split at accepted
    next s stitches =>
      cases accepted
      cases map with
      | map members => exact ⟨members, s, rfl, stitches, rfl, rfl⟩
      | _ => cases stitches
    next => cases accepted
  · rintro ⟨members, s, rfl, stitches, rfl, rfl⟩
    simp [stitch, stitch?, stitches]

theorem membersExact_of_stitchMap {code lead : List Char} {map : Mapping} {file : Option String}
    {s : Stitched} (members : MembersExact map) (stitches : stitchMap code map lead file = .ok s) :
    MembersExact s.map := by
  obtain ⟨p, lines, comment, parts, -, -, -, rfl⟩ := stitchMap_eq_ok_iff.1 stitches
  obtain ⟨-, -, listed, named, -⟩ := exists_of_parts parts
  exact membersExact_stitchedMap (fun _ => isExact_of_get? members)
    (fun _ => isExact_of_contents? members) (allExact_of_lists members listed)
    (allExact_of_lists members named) _

theorem readInlineMap_of_stitchMap {code lead : List Char} {map : Mapping} {file : Option String}
    {s : Stitched} (members : MembersExact map) (stitches : stitchMap code map lead file = .ok s) :
    readInlineMap s.code = some s.map := by
  have kept : (Value.map s.map).IsExact := membersExact_of_stitchMap members stitches
  obtain ⟨p, lines, comment, -, -, -, written, rfl⟩ := stitchMap_eq_ok_iff.1 stitches
  obtain ⟨comment', written', read⟩ := readInlineMap_mapComment kept (lead ++ body code)
  cases written.symm.trans written'
  exact read

/-- A map written behind a text is the map that is read there, and so stitched code holds the map
that it was stitched with. -/
theorem readInlineMap_reads_back {map : Mapping} (exact' : (Value.map map).IsExact) :
    (∀ text : List Char, ∃ comment,
      mapComment map = .ok comment ∧ readInlineMap (text ++ '\n' :: comment) = some map) ∧
    ∀ (console : Console) (code lead : String) (file : Option String) (stitched : Mapping),
      (stitch console code (.map map) lead file).1.map = some stitched →
      readInlineMap (stitch console code (.map map) lead file).1.code.toList = some stitched := by
  refine ⟨readInlineMap_mapComment exact', ?_⟩
  intro console code lead file stitched given
  simp only [stitch, stitch?] at given ⊢
  split at given
  next s stitches =>
    cases given
    simpa [stitches] using readInlineMap_of_stitchMap exact' stitches
  next => cases given

def escapedMap : Mapping :=
  [(.str "version", .int 3), (.str "file", .str "a\"\x1f\u00e9.js"), (.str "mappings", .str "AAAA"),
    (.str "sources", .list [.null]), (.str "x", .map [(.str "", .bool true)])]

theorem readInlineMap_reads_back_past_maps :
    (∃ comment, mapComment escapedMap = .ok comment ∧
      readInlineMap ("//# sourceMappingURL=data:application/json;base64,e3".toList
        ++ '\n' :: comment) = some escapedMap) ∧
    ∃ stitched,
      (stitch (.named "none") "a;\n/*# sourceMappingURL=data:application/json;base64,e30=*/"
        (.map escapedMap) "//# sourceMappingURL=" none).1.map = some stitched ∧
      readInlineMap (stitch (.named "none")
        "a;\n/*# sourceMappingURL=data:application/json;base64,e30=*/"
        (.map escapedMap) "//# sourceMappingURL=" none).1.code.toList = some stitched := by
  have three : Number.isTooLong 3 = false := Number.isTooLong_of_lt_ten (by decide)
  have kept : (Value.map escapedMap).IsExact := by
    simp [escapedMap, IsExact, AllExact, MembersExact, Mapping.get?_cons_str, three]
  obtain ⟨reads, stitches⟩ := readInlineMap_reads_back kept
  have given : (stitch (.named "none")
      "a;\n/*# sourceMappingURL=data:application/json;base64,e30=*/"
      (.map escapedMap) "//# sourceMappingURL=" none).1.map.isSome = true := by decide +kernel
  obtain ⟨stitched, given⟩ := Option.isSome_iff_exists.1 given
  exact ⟨reads _, stitched, given, stitches _ _ _ _ stitched given⟩

end BuildPipeline.SourceMap
