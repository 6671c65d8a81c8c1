import BuildPipeline.SourceMap.Marker

set_option autoImplicit false

namespace BuildPipeline.SourceMap

theorem after?_line {ps : List Char} (plain : '\n' ∉ ps) (line more : List Char) :
    after? ps (line ++ '\n' :: more) = (after? ps line).map (· ++ '\n' :: more) := by
  induction ps generalizing line with
  | nil => simp [after?]
  | cons p ps ih =>
    rw [List.mem_cons, not_or] at plain
    cases line with
    | nil => simp [after?, Ne.symm plain.1]
    | cons c line =>
      rw [List.cons_append, after?, after?]
      split
      · exact ih plain.2 line
      · rfl

theorem dropWhile_line {p : Char → Bool} (stops : p '\n' = false) (line more : List Char) :
    (line ++ '\n' :: more).dropWhile p = line.dropWhile p ++ '\n' :: more := by
  induction line with
  | nil => simp [stops]
  | cons c line ih => cases here : p c <;> simp [here, ih]

theorem takeWhile_line {p : Char → Bool} (stops : p '\n' = false) (line more : List Char) :
    (line ++ '\n' :: more).takeWhile p = line.takeWhile p := by
  induction line with
  | nil => simp [stops]
  | cons c line ih => cases here : p c <;> simp [here, ih]

theorem opening?_eq_some {second : Char} {cs rest : List Char} :
    opening? second cs = some rest ↔ ∃ sign pad tail, cs = '/' :: second :: sign :: pad :: tail ∧
      (sign = '#' ∨ sign = '@') ∧ isPad pad = true ∧ tail.dropWhile isPad = markerName ++ rest := by
  constructor
  · intro opens
    rw [opening?.eq_def] at opens
    split at opens
    next c sign pad tail =>
      split at opens
      next fits =>
        simp only [Bool.and_eq_true, Bool.or_eq_true, decide_eq_true_eq, beq_iff_eq] at fits
        exact ⟨sign, pad, tail, by rw [fits.1.1], fits.1.2, fits.2, after?_eq_some.1 opens⟩
      next => cases opens
    next => cases opens
  · rintro ⟨sign, pad, tail, rfl, signs, pads, named⟩
    simp [opening?, signs, pads, after?_eq_some.2 named]

theorem suffix_of_opening? {second : Char} {cs rest : List Char}
    (opens : opening? second cs = some rest) : rest <:+ cs := by
  obtain ⟨sign, pad, tail, rfl, -, -, named⟩ := opening?_eq_some.1 opens
  have inside : rest <:+ tail := (named ▸ List.suffix_append markerName rest).trans
    (List.dropWhile_suffix isPad)
  exact inside.trans (List.suffix_append ['/', second, sign, pad] tail)

theorem opening?_line {second : Char} (other : second ≠ '\n') (line more : List Char) :
    opening? second (line ++ '\n' :: more) = (opening? second line).map (· ++ '\n' :: more) := by
  match line with
  | [] | [_] | [_, _] | [_, _, _] =>
    -- The newline stands among the characters that open a marker, none of which it is.
    simp only [List.cons_append, List.nil_append, opening?.eq_def]
    split
    · grind [isPad]
    · rfl
  | a :: c :: sign :: pad :: rest =>
    by_cases slash : a = '/'
    · subst slash
      simp only [List.cons_append, opening?]
      split
      · rw [dropWhile_line rfl, after?_line (by decide)]
      · rfl
    · simp only [List.cons_append, opening?.eq_def]
      grind

theorem afterCommentEnd?_eq_none {cs : List Char} (plain : '*' ∉ cs) :
    afterCommentEnd? cs = none := by
  induction cs with
  | nil => rfl
  | cons c cs ih =>
    rw [List.mem_cons, not_or] at plain
    rw [afterCommentEnd?]
    · exact ih plain.2
    · exact fun _ star _ => plain.1 star.symm

theorem afterCommentEnd?_line (line : List Char) {more : List Char} (plain : '*' ∉ more) :
    afterCommentEnd? (line ++ '\n' :: more) =
      (afterCommentEnd? line).map (· ++ '\n' :: more) := by
  fun_induction afterCommentEnd? line with
  | case1 => exact afterCommentEnd?_eq_none (by simpa using plain)
  | case2 rest => rfl
  | case3 c rest other ih =>
    rw [List.cons_append, afterCommentEnd?, ih]
    intro rest' star slash
    cases rest with
    | nil => cases slash
    | cons d rest =>
      cases slash
      exact other _ star rfl

theorem markerLength?_line (line : List Char) {more : List Char} (plain : '*' ∉ more) :
    markerLength? (line ++ '\n' :: more) = markerLength? line := by
  have ends : afterLineMarker? (line ++ '\n' :: more) =
      (afterLineMarker? line).map (· ++ '\n' :: more) := by
    rw [afterLineMarker?, afterLineMarker?, opening?_line (by decide)]
    cases opening? '/' line with
    | none => rfl
    | some rest => exact congrArg some (dropWhile_line rfl rest more)
  have closes : afterBlockMarker? (line ++ '\n' :: more) =
      (afterBlockMarker? line).map (· ++ '\n' :: more) := by
    rw [afterBlockMarker?, afterBlockMarker?, opening?_line (by decide)]
    cases opening? '*' line with
    | none => rfl
    | some rest => exact afterCommentEnd?_line rest plain
  rw [markerLength?, markerLength?, ends, closes]
  cases afterLineMarker? line <;> cases afterBlockMarker? line <;> simp <;> omega

theorem markerLength?_le {cs : List Char} {n : Nat} (found : markerLength? cs = some n) :
    n ≤ cs.length := by
  obtain ⟨rest, -, rfl⟩ := Option.map_eq_some_iff.1 found
  exact Nat.sub_le _ _

theorem stripFrom_line (line : List Char) {more : List Char} (plain : '*' ∉ more) {inside : Nat}
    (within : inside ≤ line.length) :
    stripFrom inside (line ++ '\n' :: more) = stripFrom inside line ++ '\n' :: stripFrom 0 more := by
  induction line generalizing inside with
  | nil =>
    cases Nat.le_zero.1 within
    have none' : markerLength? ('\n' :: more) = none := rfl
    simp [stripFrom, none']
  | cons c line ih =>
    cases inside with
    | zero =>
      -- No block marker of the line is closed behind it, so that none spans both.
      have same := markerLength?_line (c :: line) plain
      rw [List.cons_append] at same ⊢
      rw [stripFrom, stripFrom, same]
      cases found : markerLength? (c :: line) with
      | none => exact congrArg (c :: ·) (ih (Nat.zero_le _))
      | some n =>
        have bound := markerLength?_le found
        rw [List.length_cons] at bound
        simp only [ih (show n - 1 ≤ line.length by omega)]
        split <;> rfl
    | succ inside =>
      rw [List.cons_append, stripFrom, stripFrom, ih (Nat.le_of_succ_le_succ within)]
      split <;> rfl

theorem stripFrom_of_length_le {inside : Nat} {cs : List Char} (covers : cs.length ≤ inside)
    (line : '\n' ∉ cs) : stripFrom inside cs = [] := by
  induction cs generalizing inside with
  | nil => cases inside <;> rfl
  | cons c cs ih =>
    rw [List.mem_cons, not_or] at line
    cases inside with
    | zero => cases covers
    | succ inside =>
      rw [stripFrom, if_neg (Ne.symm line.1), ih (Nat.le_of_succ_le_succ covers) line.2]

theorem stripFrom_sublist (inside : Nat) (cs : List Char) : (stripFrom inside cs).Sublist cs := by
  fun_induction stripFrom inside cs <;> simp_all

theorem not_infix_of_not_mem {cs : List Char} (absent : '=' ∉ cs) : ¬ markerName <:+: cs :=
  fun here => absent (here.subset (by decide))

theorem opening?_eq_none {second : Char} {cs : List Char} (plain : ¬ markerName <:+: cs) :
    opening? second cs = none := by
  cases opens : opening? second cs with
  | none => rfl
  | some rest =>
    obtain ⟨sign, pad, tail, rfl, -, -, named⟩ := opening?_eq_some.1 opens
    have here : markerName <:+: tail :=
      (List.prefix_append markerName rest).isInfix.trans (named ▸ (List.dropWhile_suffix _).isInfix)
    exact absurd (here.trans ((List.suffix_append ['/', second, sign, pad] tail).isInfix)) plain

theorem markerLength?_eq_none {line : List Char} (plain : ¬ markerName <:+: line) (more : List Char) :
    markerLength? (line ++ '\n' :: more) = none := by
  rw [markerLength?, afterLineMarker?, afterBlockMarker?, opening?_line (by decide),
    opening?_line (by decide), opening?_eq_none plain, opening?_eq_none plain]
  rfl

theorem stripFrom_unmarked {line : List Char} (plain : ¬ markerName <:+: line) (more : List Char) :
    stripFrom 0 (line ++ '\n' :: more) = line ++ '\n' :: stripFrom 0 more := by
  induction line with
  | nil =>
    have none' : markerLength? ('\n' :: more) = none := rfl
    simp [stripFrom, none']
  | cons c line ih =>
    have later : ¬ markerName <:+: line := fun here => plain (here.trans (List.suffix_cons c line).isInfix)
    have none' := markerLength?_eq_none plain more
    rw [List.cons_append] at none' ⊢
    rw [stripFrom, none']
    exact congrArg (c :: ·) (ih later)

end BuildPipeline.SourceMap
