set_option autoImplicit false

namespace BuildPipeline.Text

def pieces (sep : Char) : List Char → List (List Char)
  | [] => [[]]
  | c :: cs =>
    if c = sep then [] :: pieces sep cs
    else match pieces sep cs with
      | [] => [[c]]
      | p :: ps => (c :: p) :: ps

def glue (sep : List Char) : List (List Char) → List Char
  | [] => []
  | [p] => p
  | p :: q :: ps => p ++ sep ++ glue sep (q :: ps)

theorem pieces_ne_nil (sep : Char) (cs : List Char) : pieces sep cs ≠ [] := by
  cases cs with
  | nil => simp [pieces]
  | cons c cs =>
    unfold pieces
    split
    · simp
    · split <;> simp

theorem pieces_cons_self (sep : Char) (cs : List Char) :
    pieces sep (sep :: cs) = [] :: pieces sep cs := by
  rw [pieces, if_pos rfl]

theorem exists_pieces_cons {sep c : Char} (other : c ≠ sep) (cs : List Char) :
    ∃ p ps, pieces sep cs = p :: ps ∧ pieces sep (c :: cs) = (c :: p) :: ps := by
  obtain ⟨p, ps, found⟩ := List.exists_cons_of_ne_nil (pieces_ne_nil sep cs)
  exact ⟨p, ps, found, by rw [pieces, if_neg other, found]⟩

theorem glue_cons_cons (sep : List Char) (c : Char) (p : List Char) (ps : List (List Char)) :
    glue sep ((c :: p) :: ps) = c :: glue sep (p :: ps) := by
  cases ps <;> simp [glue]

theorem glue_pieces (sep : Char) (cs : List Char) : glue [sep] (pieces sep cs) = cs := by
  induction cs with
  | nil => rfl
  | cons c cs ih =>
    by_cases separates : c = sep
    · subst separates
      obtain ⟨p, ps, found⟩ := List.exists_cons_of_ne_nil (pieces_ne_nil c cs)
      rw [found] at ih
      rw [pieces_cons_self, found, glue, ih, List.nil_append, List.singleton_append]
    · obtain ⟨p, ps, found, whole⟩ := exists_pieces_cons separates cs
      rw [whole, glue_cons_cons, ← found, ih]

theorem not_mem_of_mem_pieces {sep : Char} {cs p : List Char} (h : p ∈ pieces sep cs) :
    sep ∉ p := by
  induction cs generalizing p with
  | nil =>
    rw [List.mem_singleton.1 h]
    exact List.not_mem_nil
  | cons c cs ih =>
    by_cases separates : c = sep
    · subst separates
      rw [pieces_cons_self, List.mem_cons] at h
      rcases h with rfl | later
      · exact List.not_mem_nil
      · exact ih later
    · obtain ⟨q, qs, found, whole⟩ := exists_pieces_cons separates cs
      rw [found] at ih
      rw [whole, List.mem_cons] at h
      rcases h with rfl | later
      · rw [List.mem_cons, not_or]
        exact ⟨Ne.symm separates, ih List.mem_cons_self⟩
      · exact ih (List.mem_cons_of_mem q later)

theorem exists_mem_pieces {sep c : Char} {cs : List Char} (there : c ∈ cs) (other : c ≠ sep) :
    ∃ p ∈ pieces sep cs, c ∈ p := by
  induction cs with
  | nil => cases there
  | cons first rest ih =>
    by_cases separates : first = sep
    · subst separates
      obtain ⟨p, piece, member⟩ := ih ((List.mem_cons.1 there).resolve_left other)
      rw [pieces_cons_self]
      exact ⟨p, List.mem_cons_of_mem _ piece, member⟩
    · obtain ⟨p, ps, found, whole⟩ := exists_pieces_cons separates rest
      rw [whole]
      rcases List.mem_cons.1 there with rfl | later
      · exact ⟨_, List.mem_cons_self, List.mem_cons_self⟩
      · obtain ⟨q, piece, member⟩ := ih later
        rcases List.mem_cons.1 (found ▸ piece) with rfl | further
        · exact ⟨_, List.mem_cons_self, List.mem_cons_of_mem _ member⟩
        · exact ⟨q, List.mem_cons_of_mem _ further, member⟩

theorem length_pieces (sep : Char) (cs : List Char) :
    (pieces sep cs).length = cs.count sep + 1 := by
  induction cs with
  | nil => rfl
  | cons c cs ih =>
    by_cases separates : c = sep
    · subst separates
      rw [pieces_cons_self, List.length_cons, ih, List.count_cons_self]
    · obtain ⟨p, ps, found, whole⟩ := exists_pieces_cons separates cs
      rw [found] at ih
      rw [whole, List.count_cons_of_ne separates, ← ih, List.length_cons, List.length_cons]

theorem pieces_of_not_mem {sep : Char} {p : List Char} (absent : sep ∉ p) :
    pieces sep p = [p] := by
  induction p with
  | nil => rfl
  | cons c cs ih =>
    rw [List.mem_cons, not_or] at absent
    rw [pieces, if_neg (Ne.symm absent.1), ih absent.2]

theorem pieces_append_cons (sep : Char) (cs rest : List Char) :
    pieces sep (cs ++ sep :: rest) = pieces sep cs ++ pieces sep rest := by
  induction cs with
  | nil => exact pieces_cons_self sep rest
  | cons c cs ih =>
    by_cases separates : c = sep
    · subst separates
      rw [List.cons_append, pieces_cons_self, pieces_cons_self, ih, List.cons_append]
    · obtain ⟨p, ps, found, whole⟩ := exists_pieces_cons separates cs
      rw [List.cons_append, pieces, if_neg separates, ih, whole, found]
      rfl

theorem pieces_glue {sep : Char} {ps : List (List Char)} (nonempty : ps ≠ [])
    (clean : ∀ p ∈ ps, sep ∉ p) : pieces sep (glue [sep] ps) = ps := by
  induction ps with
  | nil => exact absurd rfl nonempty
  | cons p ps ih =>
    have absent : sep ∉ p := clean p List.mem_cons_self
    cases ps with
    | nil => exact pieces_of_not_mem absent
    | cons q ps =>
      have later := ih (List.cons_ne_nil q ps) fun r member => clean r (List.mem_cons_of_mem p member)
      rw [glue, List.append_assoc, List.singleton_append, pieces_append_cons,
        pieces_of_not_mem absent, later, List.singleton_append]

def join (sep : String) (parts : List String) : String :=
  sep.intercalate parts

def unifyNewlines : List Char → List Char
  | [] => []
  | '\r' :: '\n' :: cs => '\n' :: unifyNewlines cs
  | '\r' :: cs => '\n' :: unifyNewlines cs
  | c :: cs => c :: unifyNewlines cs

def isLineBoundary (c : Char) : Bool :=
  c == '\n' || c == '\r' || c == '\x0b' || c == '\x0c' || c == '\x1c' || c == '\x1d'
    || c == '\x1e' || c == '\x85' || c == '\u2028' || c == '\u2029'

/-- Cuts at every line boundary, a carriage return with its newline being one. A boundary at the
end of the text opens no further line. `line` holds the current line backwards. -/
def logLinesFrom (line : List Char) : List Char → List (List Char)
  | [] => if line.isEmpty then [] else [line.reverse]
  | '\r' :: '\n' :: cs => line.reverse :: logLinesFrom [] cs
  | c :: cs =>
    if isLineBoundary c then line.reverse :: logLinesFrom [] cs else logLinesFrom (c :: line) cs

def logLines (s : String) : List (List Char) :=
  logLinesFrom [] s.toList

end BuildPipeline.Text
