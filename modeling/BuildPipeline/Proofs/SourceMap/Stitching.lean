import BuildPipeline.Proofs.Json.Writable
import BuildPipeline.Proofs.SourceMap.Mappings
import BuildPipeline.Proofs.SourceMap.Marker
import BuildPipeline.SourceMap.Stitching

set_option autoImplicit false

namespace BuildPipeline.SourceMap

open Value

/-- The items that a map lists under a key: none where it has no such key or an empty value. -/
def Lists (map : Mapping) (key : String) (items : List Value) : Prop :=
  map.member key = .list items ∨ (map.member key).truthy = false ∧ items = []

theorem listMember_eq_ok_iff {map : Mapping} {key : String} {items : List Value} :
    listMember map key = .ok items ↔ Lists map key items := by
  rw [listMember, Lists]
  split
  next found =>
    rw [found]
    simp only [Except.ok.injEq, Value.list.injEq, truthy, Bool.not_eq_false', List.isEmpty_iff]
    constructor
    · exact .inl
    · rintro (same | ⟨rfl, rfl⟩)
      · exact same
      · rfl
  next other =>
    have noList : map.member key ≠ .list items := other items
    cases holds : (map.member key).truthy <;> simp [noList, eq_comm]

theorem allJson_of_lists {map : Mapping} {key : String} {items : List Value}
    (json : MembersJson map) (lists : Lists map key items) : AllJson items := by
  rcases lists with found | ⟨-, rfl⟩
  · have value := isJson_member json key
    rwa [found] at value
  · trivial

theorem isJson_target {map : Mapping} (json : MembersJson map) (file : Option String) :
    (target map file).IsJson := by
  cases file with
  | none => exact isJson_member json "file"
  | some name =>
    simp only [target]
    split
    · exact isJson_member json "file"
    · trivial

theorem shiftFirst_eq_modifyHead (n : Int) (lines : Lines) :
    shiftFirst n lines = lines.modifyHead (List.map (Segment.shift n)) := by
  cases lines <;> rfl

theorem Segment.Fits.shift {counts : Counts} {s : Segment} (fits : s.Fits counts) (n : Nat) :
    (s.shift n).Fits counts := by
  have column := fits.column
  exact ⟨by simp only [Segment.shift]; omega, fits.origin⟩

theorem fits_shiftFirst {counts : Counts} {lines : Lines} (fits : lines.Fits counts) (n : Nat) :
    (shiftFirst n lines).Fits counts := by
  cases lines with
  | nil => exact fits
  | cons line lines =>
    simp only [Lines.Fits, List.mem_cons, forall_eq_or_imp] at fits
    simp only [shiftFirst, Lines.Fits, List.mem_cons, forall_eq_or_imp, List.mem_map,
      forall_exists_index, and_imp, forall_apply_eq_imp_iff₂]
    exact ⟨fun s member => (fits.1 s member).shift n, fits.2⟩

theorem fits_stitchLines {counts : Counts} {lines : Lines} (fits : lines.Fits counts)
    (lead body : List Char) : (stitchLines lead body lines).Fits counts := by
  have kept : Lines.Fits counts (lines.take (body.count '\n' + 1)) :=
    fun line member => fits line (List.mem_of_mem_take member)
  intro line member
  rcases List.mem_append.1 member with blank | moved
  · simp [List.eq_of_mem_replicate blank]
  · exact fits_shiftFirst kept _ line moved

theorem Segment.shift_zero : Segment.shift 0 = id := by
  funext s
  simp [Segment.shift]

theorem Segment.shift_comp_shift (m n : Int) :
    Segment.shift m ∘ Segment.shift n = Segment.shift (m + n) := by
  funext s
  simp [Segment.shift, Int.add_left_comm, Int.add_comm]

theorem stitchLines_of_lastLine {lead : List Char} (closed : lastLine lead = []) (body : List Char)
    (lines : Lines) : stitchLines lead body lines =
      List.replicate (lead.count '\n') [] ++ lines.take (body.count '\n' + 1) := by
  rw [stitchLines, closed]
  cases lines <;> simp [shiftFirst, Text.width16, Segment.shift_zero]

theorem lastLine_append_newline (cs more : List Char) :
    lastLine (cs ++ '\n' :: more) = lastLine more := by
  rw [lastLine, lastLine, List.reverse_append, List.reverse_cons, List.append_assoc,
    List.singleton_append, takeWhile_line (by simp)]

theorem lastLine_of_getLast? {cs : List Char} (ends : cs.getLast? = some '\n') :
    lastLine cs = [] := by
  obtain ⟨front, rfl⟩ := List.getLast?_eq_some_iff.1 ends
  exact lastLine_append_newline front []

theorem lastLine_append {more : List Char} (inLine : '\n' ∉ more) (cs : List Char) :
    lastLine (cs ++ more) = lastLine cs ++ more := by
  rw [lastLine, lastLine, List.reverse_append, List.takeWhile_append_of_pos, List.reverse_append,
    List.reverse_reverse]
  intro c member
  have other : c ≠ '\n' := by
    rintro rfl
    exact inLine (List.mem_reverse.1 member)
  simpa using other

theorem width_lastLine_append (lead cs : List Char) :
    Text.width16 (lastLine (lead ++ cs)) =
      (if cs.count '\n' = 0 then Text.width16 (lastLine lead) else 0)
        + Text.width16 (lastLine cs) := by
  by_cases inLine : '\n' ∈ cs
  · obtain ⟨first, rest, rfl⟩ := List.append_of_mem inLine
    rw [← List.append_assoc, lastLine_append_newline, lastLine_append_newline]
    simp
  · rw [lastLine_append inLine, if_pos (List.count_eq_zero.2 inLine), Text.width16_append]
    exact congrArg (_ + Text.width16 ·) (lastLine_append inLine []).symm

theorem length_stitchLines_le (lead body : List Char) (lines : Lines) :
    (stitchLines lead body lines).length ≤ (lead ++ body).count '\n' + 1 := by
  rw [stitchLines, shiftFirst_eq_modifyHead]
  simp
  omega

theorem stitchLines_append (first lead body : List Char) (lines : Lines) :
    stitchLines first (lead ++ body) (stitchLines lead body lines) =
      stitchLines (first ++ lead) body lines := by
  rw [stitchLines, List.take_of_length_le (length_stitchLines_le lead body lines), stitchLines,
    stitchLines, width_lastLine_append, List.count_append]
  generalize lines.take (body.count '\n' + 1) = kept
  -- The second text moves the columns of a first line that is there already.
  cases newlines : lead.count '\n' with
  | zero =>
    cases kept with
    | nil => rfl
    | cons line kept => simp [shiftFirst, Segment.shift_comp_shift]
  | succ n =>
    have blank : List.replicate (first.count '\n' + (n + 1)) ([] : List Segment) =
        List.replicate (first.count '\n') [] ++ List.replicate (n + 1) [] :=
      List.replicate_append_replicate.symm
    rw [if_neg (Nat.succ_ne_zero n), Nat.zero_add, blank, List.append_assoc]
    rfl

theorem stitchLines_ne_nil {lines : Lines} (nonempty : lines ≠ []) (lead body : List Char) :
    stitchLines lead body lines ≠ [] := by
  cases lines with
  | nil => exact absurd rfl nonempty
  | cons line lines => simp [stitchLines, shiftFirst]

theorem read_write_stitchLines {counts : Counts} {mappings : List Char} {lines : Lines}
    (decoded : Lines.read counts mappings = .ok lines) (lead body : List Char) :
    Lines.read counts (stitchLines lead body lines).write = .ok (stitchLines lead body lines) := by
  obtain ⟨nonempty, fits⟩ := Lines.fits_of_read decoded
  exact Lines.read_write (stitchLines_ne_nil nonempty lead body) (fits_stitchLines fits lead body)

theorem getD_version_iff {map : Mapping} :
    ((map.get? (.str "version")).getD (.int 3)).sameKey (.int 3) = true ↔
      ∀ v, map.get? (.str "version") = some v → v.sameKey (.int 3) = true := by
  cases map.get? (.str "version") <;> simp [sameKey, numeric]

theorem Parts.of_eq_ok {map : Mapping} {file : Option String} {mappings : String}
    {sources names : List Value}
    (version : ∀ v, map.get? (.str "version") = some v → v.sameKey (.int 3) = true)
    (encoded : map.member "mappings" = .str mappings)
    (listed : Lists map "sources" sources) (named : Lists map "names" names)
    (aimed : (target map file).truthy = true) :
    Parts.of map file = .ok ⟨mappings.toList, sources, names, target map file⟩ := by
  simp [Parts.of, getD_version_iff.2 version, encoded, listMember_eq_ok_iff.2 listed,
    listMember_eq_ok_iff.2 named, aimed, bind, Except.bind]

theorem exists_of_parts {map : Mapping} {file : Option String} {p : Parts}
    (parts : Parts.of map file = .ok p) :
    (∀ v, map.get? (.str "version") = some v → v.sameKey (.int 3) = true) ∧
      map.member "mappings" = .str (String.ofList p.mappings) ∧ Lists map "sources" p.sources ∧
      Lists map "names" p.names ∧ p.file = target map file ∧ p.file.truthy = true := by
  simp only [Parts.of, ← listMember_eq_ok_iff, ← getD_version_iff] at parts ⊢
  split at parts
  · cases parts
  next three =>
    split at parts
    next mappings encoded =>
      obtain ⟨sources, listed, parts⟩ := Sequencing.bind_eq_ok_iff.1 parts
      obtain ⟨names, named, parts⟩ := Sequencing.bind_eq_ok_iff.1 parts
      split at parts
      next truthy =>
        cases parts
        exact ⟨by simpa using three, by simpa using encoded, listed, named, rfl, truthy⟩
      next => cases parts
    next => cases parts

theorem membersJson_stitchedMap {map : Mapping} {p : Parts} (json : MembersJson map)
    (sources : AllJson p.sources) (names : AllJson p.names) (lines : Lines) :
    MembersJson (stitchedMap map p lines) := by
  have three : (Value.int 3).IsJson := Number.isTooLong_of_lt_ten (by decide)
  have root : MembersJson
      ((map.get? (.str "sourceRoot")).map fun v => (Value.str "sourceRoot", v)).toList := by
    cases found : map.get? (.str "sourceRoot") with
    | none => trivial
    | some v => exact ⟨⟨_, rfl⟩, isJson_of_get? json found, trivial⟩
  have content : MembersJson
      ((contents? map).map fun v => (Value.str "sourcesContent", v)).toList := by
    have value := isJson_member json "sourcesContent"
    rw [contents?]
    split
    next items found => exact ⟨⟨_, rfl⟩, found ▸ value, trivial⟩
    next => trivial
  simp only [stitchedMap, membersJson_append]
  exact ⟨⟨⟨⟨⟨⟨_, rfl⟩, three, ⟨_, rfl⟩, trivial, trivial⟩, root⟩, ⟨_, rfl⟩, sources, trivial⟩, content⟩,
    ⟨_, rfl⟩, names, ⟨_, rfl⟩, trivial, trivial⟩

theorem get?_stitchedMap (map : Mapping) (p : Parts) (lines : Lines) (key : String) :
    (stitchedMap map p lines).get? (.str key) =
      if key = "version" then some (.int 3)
      else if key = "file" then some (.str p.file.text)
      else if key = "sourceRoot" then map.get? (.str "sourceRoot")
      else if key = "sources" then some (.list p.sources)
      else if key = "sourcesContent" then contents? map
      else if key = "names" then some (.list p.names)
      else if key = "mappings" then some (.str (String.ofList lines.write))
      else none := by
  simp only [stitchedMap, Mapping.get?_append, Mapping.get?_cons_str, Mapping.get?_optional_str,
    Mapping.get?_nil, eq_comm (b := key)]
  -- These two members may be missing, and then nothing further on has their key.
  by_cases root : key = "sourceRoot"
  · simp [root]
  by_cases content : key = "sourcesContent"
  · simp [content]
  repeat' split
  all_goals simp_all

theorem stitchMap_eq_ok {map : Mapping} {file : Option String} {p : Parts} {lines : Lines}
    (code lead : List Char) (json : MembersJson map) (parts : Parts.of map file = .ok p)
    (sources : AllJson p.sources) (names : AllJson p.names) (short : p.file.isTooLong = false)
    (decoded : Lines.read p.counts p.mappings = .ok lines) :
    ∃ comment,
      mapComment (stitchedMap map p (stitchLines lead (body code) lines)) = .ok comment ∧
      stitchMap code map lead file =
        .ok ⟨lead ++ body code ++ '\n' :: comment,
          stitchedMap map p (stitchLines lead (body code) lines), p.file⟩ := by
  have writable : (Value.map (stitchedMap map p (stitchLines lead (body code) lines))).IsJson :=
    membersJson_stitchedMap json sources names _
  obtain ⟨text, written⟩ := Json.exists_writeValue .compact writable
  have comment : mapComment (stitchedMap map p (stitchLines lead (body code) lines)) =
      .ok (inlineLead ++ Base64.encode (Text.Utf8.encode text)) := by
    rw [mapComment, written]
    rfl
  exact ⟨_, comment, by simp [stitchMap, parts, decoded, short, comment, bind, Except.bind]⟩

/-- A map that can be rebuilt is embedded behind the code, without the code's own markers and last
line ends. Its lines move down by the lines of `lead`, those past the code are left out, and the
first one moves to the right by the last line of `lead`. -/
theorem stitch_moves_lines (console : Console) (code lead mappings : String)
    (file : Option String) (map : Mapping) (sources names : List Value) (lines : Lines)
    (json : (Value.map map).IsJson)
    (version : ∀ v, map.get? (.str "version") = some v → v.sameKey (.int 3) = true)
    (encoded : map.member "mappings" = .str mappings)
    (listed : Lists map "sources" sources) (named : Lists map "names" names)
    (aimed : (target map file).truthy = true)
    (decoded : Lines.read ⟨sources.length, names.length⟩ mappings.toList = .ok lines) :
    ∃ stitched comment text,
      (stitch console code (.map map) lead file).1 =
          ⟨String.ofList (lead.toList ++ body code.toList ++ '\n' :: comment), some stitched⟩ ∧
        mapComment stitched = .ok comment ∧
        stitched.get? (.str "mappings") = some (.str text) ∧
        Lines.read ⟨sources.length, names.length⟩ text.toList =
          .ok (List.replicate (lead.toList.count '\n') [] ++
            (lines.take ((body code.toList).count '\n' + 1)).modifyHead (List.map fun s =>
              { s with column := s.column + Text.width16 (lastLine lead.toList) })) ∧
        stitched.get? (.str "version") = some (.int 3) ∧
        stitched.get? (.str "file") = some (.str (target map file).text) ∧
        stitched.get? (.str "sources") = some (.list sources) ∧
        stitched.get? (.str "names") = some (.list names) ∧
        stitched.get? (.str "sourceRoot") = map.get? (.str "sourceRoot") ∧
        stitched.get? (.str "sourcesContent") = contents? map := by
  have parts := Parts.of_eq_ok version encoded listed named aimed
  obtain ⟨comment, written, stitches⟩ := stitchMap_eq_ok code.toList lead.toList json parts
    (allJson_of_lists json listed) (allJson_of_lists json named)
    (isTooLong_of_isJson (isJson_target json file)) decoded
  refine ⟨_, comment, _, ?_, written, get?_stitchedMap .., ?_, ?_⟩
  · simp only [stitch, stitch?, stitches]
  · rw [String.toList_ofList, read_write_stitchLines decoded, stitchLines, shiftFirst_eq_modifyHead]
    rfl
  · simp [get?_stitchedMap]

theorem stitch_moves_named_segment :
    ∃ stitched comment text,
      (stitch (.named "none") "a;\nb;\n//# sourceMappingURL=x\n"
          (.map [(.str "version", .int 3), (.str "file", .str "f.js"),
            (.str "sources", .list [.str "s"]), (.str "names", .list [.str "n"]),
            (.str "mappings", .str "A,EAAAA;;C")]) "import 'x';\n😀" none).1 =
          ⟨String.ofList ("import 'x';\n😀a;\nb;\n".toList ++ comment), some stitched⟩ ∧
        mapComment stitched = .ok comment ∧
        stitched.get? (.str "mappings") = some (.str text) ∧
        Lines.read ⟨1, 1⟩ text.toList =
          .ok [[], [⟨2, none⟩, ⟨4, some ⟨0, 0, 0, some 0⟩⟩], []] := by
  have three : Number.isTooLong 3 = false := Number.isTooLong_of_lt_ten (by decide)
  obtain ⟨stitched, comment, text, output, written, encoded, decoded, -⟩ :=
    stitch_moves_lines (.named "none") "a;\nb;\n//# sourceMappingURL=x\n" "import 'x';\n😀"
      "A,EAAAA;;C" none
      [(.str "version", .int 3), (.str "file", .str "f.js"), (.str "sources", .list [.str "s"]),
        (.str "names", .list [.str "n"]), (.str "mappings", .str "A,EAAAA;;C")]
      [.str "s"] [.str "n"] [[⟨0, none⟩, ⟨2, some ⟨0, 0, 0, some 0⟩⟩], [], [⟨1, none⟩]]
      (by simp [IsJson, AllJson, MembersJson, three])
      (by simp [Mapping.get?_cons_str, sameKey, numeric])
      (by simp [Mapping.member, Mapping.get?_cons_str])
      (.inl (by simp [Mapping.member, Mapping.get?_cons_str]))
      (.inl (by simp [Mapping.member, Mapping.get?_cons_str]))
      (by simp [target, Mapping.member, Mapping.get?_cons_str, truthy])
      (by decide +kernel)
  exact ⟨stitched, comment, text, output, written, encoded, decoded⟩

end BuildPipeline.SourceMap
