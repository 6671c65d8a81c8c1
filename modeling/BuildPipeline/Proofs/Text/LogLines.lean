import BuildPipeline.Text.Pieces

set_option autoImplicit false

namespace BuildPipeline.Text

theorem logLinesFrom_nil (line : List Char) :
    logLinesFrom line [] = if line.isEmpty then [] else [line.reverse] :=
  rfl

theorem logLinesFrom_pair (line cs : List Char) :
    logLinesFrom line ('\r' :: '\n' :: cs) = line.reverse :: logLinesFrom [] cs :=
  rfl

theorem logLinesFrom_boundary {c : Char} {cs : List Char} (boundary : isLineBoundary c = true)
    (single : ∀ rest, c = '\r' → cs ≠ '\n' :: rest) (line : List Char) :
    logLinesFrom line (c :: cs) = line.reverse :: logLinesFrom [] cs := by
  rw [logLinesFrom.eq_def]
  split
  next none => cases none
  next rest pair =>
    cases pair
    exact absurd rfl (single rest rfl)
  next c cs _ here =>
    cases here
    rw [if_pos boundary]

theorem logLinesFrom_plain {c : Char} (plain : isLineBoundary c = false) (line cs : List Char) :
    logLinesFrom line (c :: cs) = logLinesFrom (c :: line) cs := by
  rw [logLinesFrom.eq_def]
  split
  next none => cases none
  next rest pair =>
    cases pair
    cases plain
  next c cs _ here =>
    cases here
    rw [if_neg (by simp [plain])]

theorem logLinesFrom_newline (line rest : List Char) :
    logLinesFrom line ('\n' :: rest) = line.reverse :: logLinesFrom [] rest :=
  logLinesFrom_boundary rfl (fun _ same => absurd same (by decide)) line

theorem logLinesFrom_append (line cs rest : List Char) :
    logLinesFrom line (cs ++ '\n' :: rest) = logLinesFrom line (cs ++ ['\n']) ++ logLinesFrom [] rest := by
  fun_induction logLinesFrom line cs with
  | case1 line | case2 line => simp [logLinesFrom_newline, logLinesFrom_nil]
  | case3 line cs ih => simp [logLinesFrom_pair, ih]
  | case4 line c cs apart boundary ih =>
    by_cases return' : c = '\r' ∧ cs = []
    · -- The carriage return and the newline are one boundary on both sides.
      obtain ⟨rfl, rfl⟩ := return'
      simp [logLinesFrom_nil, logLinesFrom_pair]
    · have single (rest : List Char) : ∀ cs', c = '\r' → cs ++ '\n' :: rest ≠ '\n' :: cs' := by
        intro cs' carriage same
        cases cs with
        | nil => exact return' ⟨carriage, rfl⟩
        | cons c' cs =>
          rw [List.cons_append, List.cons.injEq] at same
          exact apart cs carriage (by rw [same.1])
      rw [List.cons_append, List.cons_append, logLinesFrom_boundary boundary (single rest),
        logLinesFrom_boundary boundary (single []), ih, List.cons_append]
  | case5 line c cs apart plain ih =>
    have plain : isLineBoundary c = false := by simpa using plain
    rw [List.cons_append, List.cons_append, logLinesFrom_plain plain, logLinesFrom_plain plain, ih]

theorem logLines_append {a b : String} (ends : a = "" ∨ a.toList.getLast? = some '\n') :
    logLines (a ++ b) = logLines a ++ logLines b := by
  rcases ends with rfl | ends
  · simp [logLines, logLinesFrom_nil]
  · obtain ⟨front, split⟩ := List.getLast?_eq_some_iff.1 ends
    rw [logLines, logLines, String.toList_append, split, List.append_assoc, List.singleton_append,
      logLinesFrom_append]
    rfl

def IsOneLine (cs : List Char) : Prop :=
  ∀ c ∈ cs, isLineBoundary c = false

instance (cs : List Char) : Decidable (IsOneLine cs) :=
  decidable_of_iff ((cs.all fun c => !isLineBoundary c) = true) (by simp [IsOneLine])

theorem isOneLine_append {cs ds : List Char} : IsOneLine (cs ++ ds) ↔ IsOneLine cs ∧ IsOneLine ds :=
  List.forall_mem_append

theorem logLinesFrom_line {cs : List Char} (plain : IsOneLine cs) (line rest : List Char) :
    logLinesFrom line (cs ++ '\n' :: rest) = (line.reverse ++ cs) :: logLinesFrom [] rest := by
  induction cs generalizing line with
  | nil => simpa using logLinesFrom_newline line rest
  | cons c cs ih =>
    obtain ⟨first, others⟩ := List.forall_mem_cons.1 plain
    rw [List.cons_append, logLinesFrom_plain first, ih others]
    simp

theorem logLinesFrom_lines {lines : List (List Char)} (plain : ∀ line ∈ lines, IsOneLine line) :
    logLinesFrom [] (lines.flatMap (· ++ ['\n'])) = lines := by
  induction lines with
  | nil => rfl
  | cons line lines ih =>
    obtain ⟨first, others⟩ := List.forall_mem_cons.1 plain
    rw [List.flatMap_cons, List.append_assoc, List.singleton_append, logLinesFrom_line first, ih others]
    rfl

end BuildPipeline.Text
