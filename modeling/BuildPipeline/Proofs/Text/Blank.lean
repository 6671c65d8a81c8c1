import BuildPipeline.Text.Blank
import Mathlib.Data.List.DropRight

set_option autoImplicit false

namespace BuildPipeline.Text

def Blanks (cs : List Char) : Prop :=
  ∀ c ∈ cs, isBlank c = true

theorem dropBlanks_append {blanks : List Char} (all : Blanks blanks) (cs : List Char) :
    dropBlanks (blanks ++ cs) = dropBlanks cs :=
  List.dropWhile_append_of_pos all

theorem dropBlanks_cons {c : Char} (solid : isBlank c = false) (cs : List Char) :
    dropBlanks (c :: cs) = c :: cs := by
  simp [dropBlanks, solid]

theorem exists_dropBlanks (cs : List Char) : ∃ blanks, cs = blanks ++ dropBlanks cs ∧ Blanks blanks :=
  ⟨cs.takeWhile isBlank, List.takeWhile_append_dropWhile.symm, fun _ => List.mem_takeWhile_imp⟩

theorem head_of_dropBlanks {cs rest : List Char} {c : Char} (kept : dropBlanks cs = c :: rest) :
    isBlank c = false := by
  have := List.head?_dropWhile_not isBlank cs
  rw [dropBlanks] at kept
  simpa [kept] using this

variable {α : Type} (p : α → Bool)

theorem dropTailWhile_concat (xs : List α) (x : α) :
    dropTailWhile p (xs ++ [x]) = if p x then dropTailWhile p xs else xs ++ [x] := by
  induction xs with
  | nil => simp [dropTailWhile]
  | cons y xs ih =>
    rw [List.cons_append, dropTailWhile, dropTailWhile, ih]
    by_cases last : p x = true
    · simp [last]
    · cases xs <;> simp [last]

theorem dropTailWhile_eq_rdropWhile (xs : List α) : dropTailWhile p xs = xs.rdropWhile p := by
  induction xs using List.reverseRecOn with
  | nil => rfl
  | append_singleton xs x ih => rw [dropTailWhile_concat, List.rdropWhile_concat, ih]

end BuildPipeline.Text
