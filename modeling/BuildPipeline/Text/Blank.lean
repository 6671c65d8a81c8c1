import BuildPipeline.Text.CodeRange

set_option autoImplicit false

namespace BuildPipeline.Text

def blankRanges : List (Nat × Nat) :=
  [(9, 13), (28, 32), (133, 133), (160, 160), (5760, 5760), (8192, 8202), (8232, 8233),
   (8239, 8239), (8287, 8287), (12288, 12288)]

def isBlank (c : Char) : Bool :=
  covers blankRanges c.toNat

def dropBlanks (cs : List Char) : List Char :=
  cs.dropWhile isBlank

def dropTailWhile {α : Type} (p : α → Bool) : List α → List α
  | [] => []
  | x :: xs =>
    match dropTailWhile p xs with
    | [] => if p x then [] else [x]
    | y :: ys => x :: y :: ys

def trimChars (cs : List Char) : List Char :=
  dropTailWhile isBlank (dropBlanks cs)

def trim (s : String) : String :=
  String.ofList (trimChars s.toList)

theorem isBlank_of_isWhitespace {c : Char} (h : c.isWhitespace = true) : isBlank c = true := by
  simp only [Char.isWhitespace, Bool.or_eq_true, decide_eq_true_eq] at h
  rcases h with ((rfl | rfl) | rfl) | rfl <;> decide

theorem dropTailWhile_append {α : Type} (p : α → Bool) (xs : List α) :
    ∃ tail, xs = dropTailWhile p xs ++ tail ∧ ∀ x ∈ tail, p x = true := by
  induction xs with
  | nil => exact ⟨[], rfl, by simp⟩
  | cons x xs ih =>
    obtain ⟨tail, eq, all⟩ := ih
    cases kept : dropTailWhile p xs with
    | nil =>
      rw [kept, List.nil_append] at eq
      by_cases hx : p x = true
      · exact ⟨x :: tail, by simp only [dropTailWhile, kept, hx]; simp [eq], by simpa [hx] using all⟩
      · exact ⟨tail, by simp only [dropTailWhile, kept, hx]; simp [eq], all⟩
    | cons y ys =>
      refine ⟨tail, ?_, all⟩
      simp only [dropTailWhile, kept, List.cons_append]
      rw [← List.cons_append, ← kept, ← eq]

end BuildPipeline.Text
