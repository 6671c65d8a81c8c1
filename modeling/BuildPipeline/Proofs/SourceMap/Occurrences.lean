import BuildPipeline.Proofs.SourceMap.Restitching

set_option autoImplicit false

namespace BuildPipeline.SourceMap

inductive IsOpening (second : Char) : List Char → Prop where
  | intro {sign : Char} {pads : List Char} (signs : sign = '#' ∨ sign = '@') (padded : pads ≠ [])
    (blank : ∀ c ∈ pads, isPad c = true) :
    IsOpening second ('/' :: second :: sign :: (pads ++ markerName))

/-- A marker, with the text behind it: a line marker goes on to the next line end, and a block
marker to the first end of a comment. -/
inductive IsMarker : List Char → List Char → Prop where
  | line {opening address after : List Char} (opens : IsOpening '/' opening)
    (inLine : ∀ c ∈ address, isLineEnd c = false) (ends : ∀ c ∈ after.head?, isLineEnd c = true) :
    IsMarker (opening ++ address) after
  | block {opening address after : List Char} (opens : IsOpening '*' opening)
    (first : ¬ ['*', '/'] <:+: address) : IsMarker (opening ++ address ++ ['*', '/']) after

def Unmarked (text : List Char) : Prop :=
  ∀ before marker after, text = before ++ marker ++ after → ¬ IsMarker marker after

theorem opening?_eq_some_iff {second : Char} {cs rest : List Char} :
    opening? second cs = some rest ↔ ∃ opening, IsOpening second opening ∧ cs = opening ++ rest := by
  rw [opening?_eq_some]
  constructor
  · rintro ⟨sign, pad, tail, rfl, signs, pads, named⟩
    have padded : pad :: tail.takeWhile isPad ≠ [] := List.cons_ne_nil _ _
    refine ⟨_, .intro signs padded ?_, ?_⟩
    · simp only [List.mem_cons, forall_eq_or_imp]
      exact ⟨pads, fun c member => List.mem_takeWhile_imp member⟩
    · simp only [List.cons_append, List.append_assoc, ← named, List.takeWhile_append_dropWhile]
  · rintro ⟨_, @⟨sign, pads, signs, padded, blank⟩, rfl⟩
    cases pads with
    | nil => exact absurd rfl padded
    | cons pad pads =>
      simp only [List.mem_cons, forall_eq_or_imp] at blank
      refine ⟨sign, pad, pads ++ markerName ++ rest, by simp, signs, blank.1, ?_⟩
      rw [List.append_assoc, List.dropWhile_append_of_pos blank.2]
      rfl

theorem commentEnd_cons_iff {c : Char} {cs : List Char} :
    ['*', '/'] <:+: c :: cs ↔ (∃ tail, c = '*' ∧ cs = '/' :: tail) ∨ ['*', '/'] <:+: cs := by
  rw [List.infix_cons_iff]
  apply or_congr_left
  constructor
  · rintro ⟨tail, same⟩
    cases same
    exact ⟨tail, rfl, rfl⟩
  · rintro ⟨tail, rfl, rfl⟩
    exact ⟨tail, rfl⟩

theorem afterCommentEnd?_eq_some_iff {cs rest : List Char} :
    afterCommentEnd? cs = some rest ↔
      ∃ address, cs = address ++ '*' :: '/' :: rest ∧ ¬ ['*', '/'] <:+: address := by
  fun_induction afterCommentEnd? cs with
  | case1 => simp
  | case2 tail =>
    constructor
    · rintro ⟨⟩
      exact ⟨[], rfl, by simp⟩
    · rintro ⟨address, same, first⟩
      -- A longer address would hold this end of a comment.
      rcases address with _ | ⟨c, _ | ⟨d, address⟩⟩
      · simpa using same
      · cases same
      · cases same
        exact absurd (commentEnd_cons_iff.2 (.inl ⟨address, rfl, rfl⟩)) first
  | case3 c cs other ih =>
    rw [ih]
    constructor
    · rintro ⟨address, rfl, first⟩
      refine ⟨c :: address, rfl, fun here => ?_⟩
      rcases commentEnd_cons_iff.1 here with ⟨tail, star, rfl⟩ | later
      · exact other _ star rfl
      · exact first later
    · rintro ⟨address, same, first⟩
      cases address with
      | nil =>
        cases same
        exact absurd rfl (other rest rfl)
      | cons d address =>
        cases same
        exact ⟨address, rfl, fun later => first (commentEnd_cons_iff.2 (.inr later))⟩

theorem afterLineMarker?_eq_some_iff {cs after : List Char} :
    afterLineMarker? cs = some after ↔ ∃ opening address, IsOpening '/' opening ∧
      cs = opening ++ address ++ after ∧ (∀ c ∈ address, isLineEnd c = false) ∧
        ∀ c ∈ after.head?, isLineEnd c = true := by
  rw [afterLineMarker?, Option.map_eq_some_iff]
  constructor
  · rintro ⟨rest, opens, rfl⟩
    obtain ⟨opening, begins, rfl⟩ := opening?_eq_some_iff.1 opens
    refine ⟨opening, rest.takeWhile (!isLineEnd ·), begins, ?_, ?_, ?_⟩
    · rw [List.append_assoc, List.takeWhile_append_dropWhile]
    · exact fun c member => by simpa using List.mem_takeWhile_imp member
    · intro c first
      have stops := List.head?_dropWhile_not (!isLineEnd ·) rest
      rw [Option.mem_def.1 first] at stops
      simpa using stops
  · rintro ⟨opening, address, begins, rfl, inLine, ends⟩
    refine ⟨address ++ after, opening?_eq_some_iff.2 ⟨opening, begins, by simp⟩, ?_⟩
    rw [List.dropWhile_append_of_pos (by simpa using inLine)]
    cases after with
    | nil => rfl
    | cons c after => simpa using ends

theorem afterBlockMarker?_eq_some_iff {cs after : List Char} :
    afterBlockMarker? cs = some after ↔ ∃ opening address, IsOpening '*' opening ∧
      cs = opening ++ address ++ ['*', '/'] ++ after ∧ ¬ ['*', '/'] <:+: address := by
  rw [afterBlockMarker?, Option.bind_eq_some_iff]
  constructor
  · rintro ⟨rest, opens, closes⟩
    obtain ⟨opening, begins, rfl⟩ := opening?_eq_some_iff.1 opens
    obtain ⟨address, rfl, first⟩ := afterCommentEnd?_eq_some_iff.1 closes
    exact ⟨opening, address, begins, by simp, first⟩
  · rintro ⟨opening, address, begins, rfl, first⟩
    exact ⟨address ++ '*' :: '/' :: after, opening?_eq_some_iff.2 ⟨opening, begins, by simp⟩,
      afterCommentEnd?_eq_some_iff.2 ⟨address, rfl, first⟩⟩

theorem IsOpening.opening?_eq_none {opening rest : List Char} (opens : IsOpening '*' opening) :
    opening? '/' (opening ++ rest) = none := by
  obtain ⟨signs, padded, blank⟩ := opens
  cases found : opening? '/' _ with
  | none => rfl
  | some rest =>
    obtain ⟨_, _, _, same, -⟩ := opening?_eq_some.1 found
    cases same

theorem afterMarker?_eq_some_iff {cs after : List Char} :
    (afterLineMarker? cs).or (afterBlockMarker? cs) = some after ↔
      ∃ marker, cs = marker ++ after ∧ IsMarker marker after := by
  constructor
  · intro found
    rcases Option.or_eq_some_iff.1 found with line | ⟨-, block⟩
    · obtain ⟨opening, address, opens, rfl, inLine, ends⟩ := afterLineMarker?_eq_some_iff.1 line
      exact ⟨_, rfl, .line opens inLine ends⟩
    · obtain ⟨opening, address, opens, rfl, first⟩ := afterBlockMarker?_eq_some_iff.1 block
      exact ⟨_, rfl, .block opens first⟩
  · rintro ⟨marker, rfl, is⟩
    cases is with
    | @line opening address _ opens inLine ends =>
      rw [afterLineMarker?_eq_some_iff.2 ⟨opening, address, opens, rfl, inLine, ends⟩]
      rfl
    | @block opening address _ opens first =>
      -- The second character tells a block marker from a line marker.
      have noLine : afterLineMarker? (opening ++ address ++ ['*', '/'] ++ after) = none := by
        rw [afterLineMarker?, List.append_assoc, List.append_assoc, opens.opening?_eq_none]
        rfl
      rw [noLine, Option.none_or]
      exact afterBlockMarker?_eq_some_iff.2 ⟨opening, address, opens, rfl, first⟩

theorem markerLength?_eq_some_iff {cs : List Char} {n : Nat} :
    markerLength? cs = some n ↔
      ∃ marker after, cs = marker ++ after ∧ IsMarker marker after ∧ marker.length = n := by
  rw [markerLength?, Option.map_eq_some_iff]
  simp only [afterMarker?_eq_some_iff]
  constructor
  · rintro ⟨after, ⟨marker, rfl, is⟩, rfl⟩
    exact ⟨marker, after, rfl, is, by simp⟩
  · rintro ⟨marker, after, rfl, is, rfl⟩
    exact ⟨after, ⟨marker, rfl, is⟩, by simp⟩

theorem IsMarker.markerLength? {marker after : List Char} (is : IsMarker marker after) :
    markerLength? (marker ++ after) = some marker.length :=
  markerLength?_eq_some_iff.2 ⟨marker, after, rfl, is, rfl⟩

theorem IsMarker.exists_cons {marker after : List Char} (is : IsMarker marker after) :
    ∃ rest, marker = '/' :: rest := by
  cases is with
  | line opens _ _ | block opens _ =>
    obtain ⟨_, _, _⟩ := opens
    exact ⟨_, rfl⟩

theorem unmarked_nil : Unmarked [] := by
  intro before marker after same is
  obtain ⟨rest, rfl⟩ := is.exists_cons
  simp at same

theorem unmarked_cons_iff {c : Char} {cs : List Char} :
    Unmarked (c :: cs) ↔ markerLength? (c :: cs) = none ∧ Unmarked cs := by
  constructor
  · intro unmarked
    constructor
    · cases found : markerLength? (c :: cs) with
      | none => rfl
      | some n =>
        obtain ⟨marker, after, same, is, -⟩ := markerLength?_eq_some_iff.1 found
        exact absurd is (unmarked [] marker after same)
    · rintro before marker after rfl
      exact unmarked (c :: before) marker after rfl
  · rintro ⟨none', later⟩ before marker after same is
    cases before with
    | nil =>
      rw [List.nil_append] at same
      rw [same, is.markerLength?] at none'
      cases none'
    | cons d before =>
      cases same
      exact later before marker after rfl is

/-- Removing markers leaves a text as it is just when it has none. -/
theorem stripMarkers_eq_self_iff {cs : List Char} : stripMarkers cs = cs ↔ Unmarked cs := by
  rw [stripMarkers]
  induction cs with
  | nil => simp [stripFrom, unmarked_nil]
  | cons c cs ih =>
    rw [unmarked_cons_iff, ← ih, stripFrom]
    cases found : markerLength? (c :: cs) with
    | none => simp
    | some n =>
      -- Its first character goes, a slash, and nothing comes in its place.
      have shorter := (stripFrom_sublist (n - 1) cs).length_le
      obtain ⟨marker, after, same, is, -⟩ := markerLength?_eq_some_iff.1 found
      obtain ⟨rest, rfl⟩ := is.exists_cons
      cases same
      simp only [show ¬ '/' = '\n' by decide, if_false, reduceCtorEq, false_and, iff_false]
      intro kept
      rw [kept] at shorter
      exact absurd shorter (by simp)

theorem IsOpening.not_isLineEnd {second : Char} {opening : List Char}
    (opens : IsOpening second opening) (inLine : isLineEnd second = false) :
    ∀ c ∈ opening, isLineEnd c = false := by
  obtain ⟨signs, -, blank⟩ := opens
  have name : ∀ c ∈ markerName, isLineEnd c = false := by
    simpa using List.all_eq_true.1 (show markerName.all (!isLineEnd ·) = true by decide)
  have padding (c : Char) (pad : isPad c = true) : isLineEnd c = false := by
    simp only [isPad, Bool.or_eq_true, beq_iff_eq] at pad
    rcases pad with rfl | rfl <;> rfl
  simp only [List.forall_mem_cons, List.forall_mem_append]
  refine ⟨rfl, inLine, ?_, fun c member => padding c (blank c member), name⟩
  rcases signs with rfl | rfl <;> rfl

theorem IsMarker.exists_last {marker after : List Char} (is : IsMarker marker after) :
    ∃ front last, marker = front ++ [last] ∧ isLineEnd last = false := by
  obtain ⟨rest, nonempty⟩ := is.exists_cons
  refine ⟨marker.dropLast, marker.getLast (nonempty ▸ List.cons_ne_nil _ _),
    (List.dropLast_append_getLast _).symm, ?_⟩
  cases is with
  | line opens inLine _ =>
    have member := List.getLast_mem (nonempty ▸ List.cons_ne_nil _ _)
    exact (List.mem_append.1 member).elim (opens.not_isLineEnd rfl _) (inLine _)
  | block => simp [isLineEnd]

theorem isMarker_append_iff {marker after ends : List Char}
    (lineEnds : ∀ c ∈ ends, isLineEnd c = true) :
    IsMarker marker (after ++ ends) ↔ IsMarker marker after := by
  have head : (∀ c ∈ (after ++ ends).head?, isLineEnd c = true) ↔
      ∀ c ∈ after.head?, isLineEnd c = true := by
    cases after with
    | nil => simpa using fun c first => lineEnds c (List.mem_of_mem_head? first)
    | cons c after => rfl
  constructor
  · rintro (⟨opens, inLine, ends'⟩ | ⟨opens, first⟩)
    · exact .line opens inLine (head.1 ends')
    · exact .block opens first
  · rintro (⟨opens, inLine, ends'⟩ | ⟨opens, first⟩)
    · exact .line opens inLine (head.2 ends')
    · exact .block opens first

theorem unmarked_append_iff {cs ends : List Char} (lineEnds : ∀ c ∈ ends, isLineEnd c = true) :
    Unmarked (cs ++ ends) ↔ Unmarked cs := by
  constructor
  · rintro unmarked before marker after rfl is
    exact unmarked before marker (after ++ ends) (by simp) ((isMarker_append_iff lineEnds).2 is)
  · intro unmarked before marker after same is
    -- A marker ends in a character that is no line end, so it ends before them.
    obtain ⟨front, last, rfl, closes⟩ := is.exists_last
    have inside : ∃ tail, cs = before ++ (front ++ [last]) ++ tail ∧ after = tail ++ ends := by
      rcases List.append_eq_append_iff.1 same with ⟨beyond, whole, rest⟩ | inside
      · rcases List.eq_nil_or_concat beyond with rfl | ⟨beyond, c, rfl⟩
        · exact ⟨[], by simpa using whole.symm, by simpa using rest.symm⟩
        · have same' : last = c := by simpa using congrArg List.getLast? whole
          have lineEnd := lineEnds c (by rw [rest]; simp)
          rw [← same', closes] at lineEnd
          cases lineEnd
      · exact inside
    obtain ⟨tail, rfl, rfl⟩ := inside
    exact unmarked before _ tail rfl ((isMarker_append_iff lineEnds).1 is)

theorem unmarked_body_iff {code : List Char} :
    Unmarked (body code) ↔ Unmarked (stripMarkers code) := by
  obtain ⟨tail, whole, ends⟩ := Text.dropTailWhile_append isLineEnd (stripMarkers code)
  rw [whole, unmarked_append_iff ends, body]

theorem isMarker_line {marker tail : List Char} (is : IsMarker marker tail) (more : List Char) :
    IsMarker marker (tail ++ '\n' :: more) := by
  cases is with
  | line opens inLine ends =>
    refine .line opens inLine ?_
    cases tail with
    | nil => simp [isLineEnd]
    | cons c tail => exact ends
  | block opens first => exact .block opens first

theorem IsMarker.cases_line {line more before marker after : List Char} (is : IsMarker marker after)
    (plain : '*' ∉ more) (same : line ++ '\n' :: more = before ++ (marker ++ after)) :
    (∃ tail, line = before ++ marker ++ tail ∧ IsMarker marker tail) ∨
      ∃ front, before = line ++ '\n' :: front ∧ more = front ++ marker ++ after := by
  rcases List.append_eq_append_iff.1 same with ⟨front, rfl, rest⟩ | ⟨rest, rfl, shared⟩
  · cases front with
    | nil =>
      obtain ⟨tail, rfl⟩ := is.exists_cons
      cases rest
    | cons c front =>
      cases rest
      exact .inr ⟨front, rfl, by simp⟩
  -- The marker begins in the line, where the scan finds the same one without what follows.
  · have length := markerLength?_line rest plain
    rw [← shared, is.markerLength?] at length
    obtain ⟨marker', tail, rfl, is', same'⟩ := markerLength?_eq_some_iff.1 length.symm
    rw [List.append_assoc] at shared
    obtain ⟨rfl, -⟩ := List.append_inj shared same'.symm
    exact .inl ⟨tail, by simp, is'⟩

theorem unmarked_lead_iff {lead : List Char} (plain : ¬ markerName <:+: lead) (cs : List Char) :
    Unmarked (lead ++ '\n' :: cs) ↔ Unmarked cs := by
  induction lead with
  | nil => exact unmarked_cons_iff.trans (and_iff_right rfl)
  | cons c lead ih =>
    have later : ¬ markerName <:+: lead := fun here => plain (here.trans (List.suffix_cons c lead).isInfix)
    exact unmarked_cons_iff.trans ((and_iff_right (markerLength?_eq_none plain cs)).trans (ih later))

theorem isMarker_mapComment {map : Mapping} {comment : List Char}
    (written : mapComment map = .ok comment) : IsMarker comment [] := by
  have line := isLineEnd_of_mem_mapComment written
  obtain ⟨bytes, rfl⟩ := mapComment_eq_ok written
  have opens : IsOpening '/' ('/' :: '/' :: '#' :: ([' '] ++ markerName)) :=
    .intro (.inl rfl) (by simp) (by simp [isPad])
  have lead : inlineLead = '/' :: '/' :: '#' :: ([' '] ++ markerName) ++
      "data:application/json;charset=utf-8;base64,".toList := by decide +kernel
  rw [lead, List.append_assoc] at line ⊢
  exact .line opens (fun c member => line c (List.mem_append_right _ member)) (by simp)

theorem IsMarker.exists_sign {marker after : List Char} (is : IsMarker marker after) :
    ∃ second sign rest, marker = '/' :: second :: sign :: rest ∧ (second = '/' ∨ second = '*') ∧
      (sign = '#' ∨ sign = '@') := by
  cases is with
  | line opens _ _ =>
    obtain ⟨signs, -, -⟩ := opens
    exact ⟨_, _, _, rfl, .inl rfl, signs⟩
  | block opens _ =>
    obtain ⟨signs, -, -⟩ := opens
    exact ⟨_, _, _, rfl, .inr rfl, signs⟩

theorem IsMarker.unique {marker after marker' after' : List Char} (is : IsMarker marker after)
    (is' : IsMarker marker' after') (same : marker ++ after = marker' ++ after') :
    marker = marker' ∧ after = after' := by
  have length := is.markerLength?
  rw [same, is'.markerLength?] at length
  exact List.append_inj same (Option.some.inj length).symm

-- Only the third character of the comment is one that tells a marker from other comments.
theorem exists_mapComment_eq {map : Mapping} {comment : List Char}
    (written : mapComment map = .ok comment) :
    ∃ tail, comment = '/' :: '/' :: '#' :: tail ∧ '#' ∉ tail ∧ '@' ∉ tail := by
  obtain ⟨bytes, rfl⟩ := mapComment_eq_ok written
  refine ⟨inlineLead.drop 3 ++ Base64.encode bytes, rfl, ?_, ?_⟩ <;> rw [List.mem_append, not_or]
  · exact ⟨by decide, not_mem_base64 (by decide) bytes⟩
  · exact ⟨by decide, not_mem_base64 (by decide) bytes⟩

theorem eq_of_isMarker_mapComment {map : Mapping} {comment before marker after : List Char}
    (written : mapComment map = .ok comment) (same : comment = before ++ (marker ++ after))
    (is : IsMarker marker after) : before = [] ∧ marker = comment ∧ after = [] := by
  have first : before = [] := by
    obtain ⟨tail, shape, sharp, ats⟩ := exists_mapComment_eq written
    obtain ⟨second, sign, rest, rfl, seconds, signs⟩ := is.exists_sign
    rw [shape] at same
    rcases before with _ | ⟨a, _ | ⟨b, _ | ⟨c, before⟩⟩⟩
    · rfl
    · cases same
      simp at seconds
    · cases same
    · cases same
      rcases signs with rfl | rfl
      · exact absurd (by simp) sharp
      · exact absurd (by simp) ats
  subst first
  obtain ⟨rfl, rfl⟩ := is.unique (isMarker_mapComment written) (by simpa using same.symm)
  exact ⟨rfl, rfl, rfl⟩

theorem eq_append_of_stitch {console : Console} {code lead out : String} {map : Value}
    {file : Option String} {stitched : Mapping}
    (accepted : (stitch console code map lead file).1 = ⟨out, some stitched⟩) :
    ∃ comment, mapComment stitched = .ok comment ∧
      out.toList = lead.toList ++ body code.toList ++ '\n' :: comment := by
  obtain ⟨members, s, -, stitches, rfl, rfl⟩ := stitch_eq_some_iff.1 accepted
  obtain ⟨p, lines, comment, -, -, -, written, rfl⟩ := stitchMap_eq_ok_iff.1 stitches
  exact ⟨comment, written, by simp⟩

theorem unmarked_front_iff {lead : String} (ends : lead.toList.getLast? = some '\n')
    (plain : ¬ markerName <:+: lead.toList) (code : List Char) :
    Unmarked (lead.toList ++ body code) ↔ Unmarked (stripMarkers code) := by
  obtain ⟨above, shape⟩ := List.getLast?_eq_some_iff.1 ends
  have plain' : ¬ markerName <:+: above := fun here =>
    plain (shape ▸ here.trans (List.prefix_append above _).isInfix)
  rw [shape, List.append_assoc, ← unmarked_body_iff]
  exact unmarked_lead_iff plain' _

theorem only_mapComment_iff {map : Mapping} {comment : List Char} (written : mapComment map = .ok comment)
    (front : List Char) :
    (∀ before marker after, front ++ '\n' :: comment = before ++ marker ++ after →
        IsMarker marker after → before = front ++ ['\n'] ∧ marker = comment ∧ after = []) ↔
      Unmarked front := by
  have star := star_not_mem_mapComment written
  constructor
  · rintro only before marker after rfl is
    -- A marker before the last line would be that line.
    obtain ⟨-, -, behind⟩ := only before marker _ (by simp) (isMarker_line is comment)
    simp at behind
  · rintro unmarked before marker after same is
    rw [List.append_assoc] at same
    rcases is.cases_line star same with ⟨tail, rfl, is'⟩ | ⟨rest, rfl, split⟩
    · exact absurd is' (unmarked before marker tail rfl)
    · rw [List.append_assoc] at split
      obtain ⟨rfl, whole, rfl⟩ := eq_of_isMarker_mapComment written split is
      exact ⟨rfl, whole, rfl⟩

/-- Stitched code ends in a line of its own that is a marker, the comment of its map. Behind a text
of whole lines that does not name a marker it holds no other, just when no marker was left when those
of the code were removed. -/
theorem stitch_marks_once_iff (console : Console) (code lead : String) (map : Value)
    (file : Option String) (ends : lead.toList.getLast? = some '\n')
    (plain : ¬ markerName <:+: lead.toList) {out : String} {stitched : Mapping}
    (accepted : (stitch console code map lead file).1 = ⟨out, some stitched⟩) :
    ∃ front comment, out.toList = front ++ ['\n'] ++ comment ∧ '\n' ∉ comment ∧
      mapComment stitched = .ok comment ∧ IsMarker comment [] ∧
      ((∀ before marker after, out.toList = before ++ marker ++ after → IsMarker marker after →
          before = front ++ ['\n'] ∧ marker = comment ∧ after = []) ↔
        Unmarked (stripMarkers code.toList)) := by
  obtain ⟨comment, written, text⟩ := eq_append_of_stitch accepted
  refine ⟨lead.toList ++ body code.toList, comment, by rw [text]; simp,
    newline_not_mem_mapComment written, written, isMarker_mapComment written, ?_⟩
  rw [text, only_mapComment_iff written, unmarked_front_iff ends plain]

theorem Output.eq_of_isSome {o : Output} (mapped : o.map.isSome = true) :
    ∃ out stitched, o = ⟨out, some stitched⟩ := by
  obtain ⟨out, map⟩ := o
  obtain ⟨stitched, rfl⟩ := Option.isSome_iff_exists.1 mapped
  exact ⟨out, stitched, rfl⟩

theorem stitch_marks_once_mixed : ∃ out stitched front comment,
    (stitch (.named "none") "a;\n/*# sourceMappingURL=x\n*/b;\n//@\tsourceMappingURL=y\r\n"
      (.map oneLineMap) "import 'x';\n" none).1 = ⟨out, some stitched⟩ ∧
    out.toList = front ++ ['\n'] ++ comment ∧
    ∀ before marker after, out.toList = before ++ marker ++ after → IsMarker marker after →
      before = front ++ ['\n'] ∧ marker = comment ∧ after = [] := by
  obtain ⟨out, stitched, accepted⟩ := Output.eq_of_isSome (o := (stitch (.named "none")
    "a;\n/*# sourceMappingURL=x\n*/b;\n//@\tsourceMappingURL=y\r\n" (.map oneLineMap)
    "import 'x';\n" none).1) (by decide +kernel)
  obtain ⟨front, comment, text, -, -, -, once⟩ := stitch_marks_once_iff (.named "none")
    "a;\n/*# sourceMappingURL=x\n*/b;\n//@\tsourceMappingURL=y\r\n" "import 'x';\n"
    (.map oneLineMap) none (by decide) (not_infix_of_not_mem (by decide)) accepted
  have left : Unmarked
      (stripMarkers "a;\n/*# sourceMappingURL=x\n*/b;\n//@\tsourceMappingURL=y\r\n".toList) :=
    stripMarkers_eq_self_iff.1 (by decide +kernel)
  exact ⟨out, stitched, front, comment, accepted, text, once.2 left⟩

/-- Removing a marker may join what stood around it to another one, which then stays. -/
theorem stitch_leaves_joined_marker : ∃ out stitched comment,
    (stitch (.named "none") "//# source/*# sourceMappingURL=*/MappingURL=x" (.map oneLineMap)
      "import 'x';\n" none).1 = ⟨out, some stitched⟩ ∧
    out.toList = "import 'x';\n".toList ++ "//# sourceMappingURL=x".toList ++ '\n' :: comment ∧
    IsMarker "//# sourceMappingURL=x".toList ('\n' :: comment) ∧ IsMarker comment [] := by
  obtain ⟨out, stitched, accepted⟩ := Output.eq_of_isSome (o := (stitch (.named "none")
    "//# source/*# sourceMappingURL=*/MappingURL=x" (.map oneLineMap) "import 'x';\n" none).1)
    (by decide +kernel)
  obtain ⟨comment, written, text⟩ := eq_append_of_stitch accepted
  have left : body "//# source/*# sourceMappingURL=*/MappingURL=x".toList =
      "//# sourceMappingURL=x".toList := by decide +kernel
  have opens : IsOpening '/' ('/' :: '/' :: '#' :: ([' '] ++ markerName)) :=
    .intro (.inl rfl) (by simp) (by simp [isPad])
  have inLine : ∀ c ∈ ['x'], isLineEnd c = false := by simp [isLineEnd]
  exact ⟨out, stitched, comment, accepted, by rw [text, left],
    .line opens inLine (by simp [isLineEnd]), isMarker_mapComment written⟩

end BuildPipeline.SourceMap
