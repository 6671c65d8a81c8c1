import BuildPipeline.SourceMap.Marker

set_option autoImplicit false

namespace BuildPipeline.Text

open BuildPipeline.SourceMap (after? after?_eq_some)

/-- A part of a pattern: one of some words, as many characters of a class as can be, the same but at
least one, or a character of a class with as few as can be of another behind it. -/
inductive Part where
  | word (choices : List (List Char))
  | star (p : Char → Bool)
  | plus (p : Char → Bool)
  | few (first p : Char → Bool)

def runs (p : Char → Bool) : List Char → List (List Char × List Char)
  | [] => [([], [])]
  | c :: cs =>
    ([], c :: cs) :: if p c then (runs p cs).map fun cut => (c :: cut.1, cut.2) else []

def Part.cuts : Part → List Char → List (List Char × List Char)
  | .word choices, cs => choices.filterMap fun word => (after? word cs).map (word, ·)
  | .star p, cs => (runs p cs).reverse
  | .plus p, cs => (runs p cs).tail.reverse
  | .few first p, c :: cs =>
    if first c then (runs p cs).map fun cut => (c :: cut.1, cut.2) else []
  | .few _ _, [] => []

inductive Step where
  | group (part : Part)
  | pass (part : Part)

abbrev Pattern := List Step

/-- The groups of the match of a whole line. Where a part can be cut in several ways, a later way is
tried only when what comes behind it does not match after any earlier one. -/
def Pattern.find? : Pattern → List Char → Option (List (List Char))
  | [], cs => if cs = [] then some [] else none
  | .group part :: rest, cs =>
    (part.cuts cs).findSome? fun cut => (Pattern.find? rest cut.2).map (cut.1 :: ·)
  | .pass part :: rest, cs => (part.cuts cs).findSome? fun cut => Pattern.find? rest cut.2

def Step.part : Step → Part
  | .group part | .pass part => part

def Part.Matches : Part → List Char → Prop
  | .word choices, cs => cs ∈ choices
  | .star p, cs => ∀ c ∈ cs, p c = true
  | .plus p, cs => cs ≠ [] ∧ ∀ c ∈ cs, p c = true
  | .few first p, cs => ∃ c rest, cs = c :: rest ∧ first c = true ∧ ∀ c ∈ rest, p c = true

section

variable {p : Char → Bool} {c : Char} {cs head rest : List Char}

theorem mem_map_cons_iff {cuts : List (List Char × List Char)} :
    (head, rest) ∈ cuts.map (fun cut => (c :: cut.1, cut.2)) ↔
      ∃ more, head = c :: more ∧ (more, rest) ∈ cuts := by
  rw [List.mem_map]
  constructor
  · rintro ⟨⟨more, rest⟩, member, ⟨⟩⟩
    exact ⟨more, rfl, member⟩
  · rintro ⟨more, rfl, member⟩
    exact ⟨_, member, rfl⟩

theorem mem_runs_iff :
    (head, rest) ∈ runs p cs ↔ cs = head ++ rest ∧ ∀ c ∈ head, p c = true := by
  induction cs generalizing head with
  | nil =>
    rw [runs, List.mem_singleton]
    constructor
    · rintro ⟨⟩
      simp
    · rintro ⟨nothing, -⟩
      obtain ⟨rfl, rfl⟩ := List.append_eq_nil_iff.1 nothing.symm
      rfl
  | cons c cs ih =>
    rw [runs, List.mem_cons]
    by_cases member : p c = true
    · simp only [if_pos member, mem_map_cons_iff, ih]
      cases head <;> grind
    · cases head <;> grind

theorem mem_tail_runs_iff :
    (head, rest) ∈ (runs p cs).tail ↔ head ≠ [] ∧ (head, rest) ∈ runs p cs := by
  cases cs with
  | nil => cases head <;> simp [runs]
  | cons c cs =>
    rw [runs, List.tail_cons, List.mem_cons]
    by_cases member : p c = true
    · simp only [if_pos member, mem_map_cons_iff]
      grind
    · cases head <;> simp [member]

theorem Part.mem_cuts_iff {part : Part} :
    (head, rest) ∈ part.cuts cs ↔ cs = head ++ rest ∧ part.Matches head := by
  cases part with
  | word choices =>
    simp only [cuts, Matches, List.mem_filterMap, Option.map_eq_some_iff, after?_eq_some,
      Prod.mk.injEq]
    grind
  | star p => rw [cuts, Matches, List.mem_reverse, mem_runs_iff]
  | plus p =>
    rw [cuts, Matches, List.mem_reverse, mem_tail_runs_iff, mem_runs_iff]
    grind
  | few first p =>
    cases cs with
    | nil => cases head <;> simp [cuts, Matches]
    | cons c cs =>
      rw [cuts, Matches]
      by_cases member : first c = true
      · simp only [if_pos member, mem_map_cons_iff, mem_runs_iff]
        grind
      · rw [if_neg member]
        grind

end

namespace Pattern

section

variable {part : Part} {rest : Pattern} {cs : List Char} {groups : List (List Char)}

theorem find?_nil_eq_some : Pattern.find? [] cs = some groups ↔ cs = [] ∧ groups = [] := by
  rw [find?]
  split <;> simp_all [eq_comm]

theorem exists_of_find?_group (found : Pattern.find? (.group part :: rest) cs = some groups) :
    ∃ head tail more, cs = head ++ tail ∧ part.Matches head ∧ Pattern.find? rest tail = some more ∧
      groups = head :: more := by
  obtain ⟨⟨head, tail⟩, cut, found⟩ := List.exists_of_findSome?_eq_some found
  obtain ⟨whole, fits⟩ := Part.mem_cuts_iff.1 cut
  obtain ⟨more, behind, rfl⟩ := Option.map_eq_some_iff.1 found
  exact ⟨head, tail, more, whole, fits, behind, rfl⟩

theorem exists_of_find?_pass (found : Pattern.find? (.pass part :: rest) cs = some groups) :
    ∃ head tail, cs = head ++ tail ∧ part.Matches head ∧ Pattern.find? rest tail = some groups := by
  obtain ⟨⟨head, tail⟩, cut, found⟩ := List.exists_of_findSome?_eq_some found
  obtain ⟨whole, fits⟩ := Part.mem_cuts_iff.1 cut
  exact ⟨head, tail, whole, fits, found⟩

theorem isSome_find?_cons (step : Step) {head tail : List Char} (fits : step.part.Matches head)
    (behind : (Pattern.find? rest tail).isSome = true) :
    (Pattern.find? (step :: rest) (head ++ tail)).isSome = true := by
  have cut : (head, tail) ∈ step.part.cuts (head ++ tail) := Part.mem_cuts_iff.2 ⟨rfl, fits⟩
  cases step with
  | group part => exact List.findSome?_isSome_iff.2 ⟨_, cut, by simpa using behind⟩
  | pass part => exact List.findSome?_isSome_iff.2 ⟨_, cut, behind⟩

end

section

variable {α : Type} {p : Char → Bool} {cs : List Char} {f : List Char × List Char → Option α}

theorem findSome?_runs_cons (c : Char) (cs : List Char) :
    (runs p (c :: cs)).findSome? f = (f ([], c :: cs)).or
      (if p c then (runs p cs).findSome? fun cut => f (c :: cut.1, cut.2) else none) := by
  rw [runs, List.findSome?_cons]
  split <;> split <;> simp_all [List.findSome?_map, Function.comp_def]

theorem findSome?_reverse_runs_cons (c : Char) (cs : List Char) :
    (runs p (c :: cs)).reverse.findSome? f =
      (if p c then (runs p cs).reverse.findSome? fun cut => f (c :: cut.1, cut.2) else none).or
        (f ([], c :: cs)) := by
  rw [runs, List.reverse_cons, List.findSome?_append]
  split <;> simp [← List.map_reverse, List.findSome?_map, Function.comp_def]

theorem findSome?_reverse_tail_runs_cons (c : Char) (cs : List Char) :
    (runs p (c :: cs)).tail.reverse.findSome? f =
      if p c then (runs p cs).reverse.findSome? fun cut => f (c :: cut.1, cut.2) else none := by
  rw [runs, List.tail_cons]
  split <;> simp [← List.map_reverse, List.findSome?_map, Function.comp_def]

theorem findSome?_reverse_runs
    (apart : ∀ head c rest, p c = true → f (head, c :: rest) = none) :
    (runs p cs).reverse.findSome? f = f (cs.takeWhile p, cs.dropWhile p) := by
  induction cs generalizing f with
  | nil => simp [runs]
  | cons c cs ih =>
    rw [findSome?_reverse_runs_cons]
    by_cases member : p c = true
    · rw [if_pos member, ih fun head => apart (c :: head), apart [] c cs member, Option.or_none,
        List.takeWhile_cons_of_pos member, List.dropWhile_cons_of_pos member]
    · rw [if_neg member, Option.none_or, List.takeWhile_cons_of_neg member,
        List.dropWhile_cons_of_neg member]

end

section

variable (word : List Char) (choices : List (List Char)) (rest : Pattern) (cs : List Char)

theorem findSome?_cuts_word {α : Type} (f : List Char × List Char → Option α) :
    ((Part.word (word :: choices)).cuts cs).findSome? f =
      ((after? word cs).bind fun tail => f (word, tail)).or
        (((Part.word choices).cuts cs).findSome? f) := by
  rw [Part.cuts, List.filterMap_cons]
  cases after? word cs with
  | none => rfl
  | some tail =>
    rw [Option.map_some, List.findSome?_cons, Option.bind_some]
    cases f (word, tail) <;> rfl

theorem find?_word_cons :
    Pattern.find? (.pass (.word (word :: choices)) :: rest) cs =
      ((after? word cs).bind rest.find?).or (Pattern.find? (.pass (.word choices) :: rest) cs) :=
  findSome?_cuts_word ..

theorem find?_group_word_cons :
    Pattern.find? (.group (.word (word :: choices)) :: rest) cs =
      ((after? word cs).bind fun tail => (rest.find? tail).map (word :: ·)).or
        (Pattern.find? (.group (.word choices) :: rest) cs) :=
  findSome?_cuts_word ..

theorem find?_word_nil : Pattern.find? (.pass (.word []) :: rest) cs = none :=
  rfl

theorem find?_group_word_nil : Pattern.find? (.group (.word []) :: rest) cs = none :=
  rfl

end

section

variable {p : Char → Bool} {rest : Pattern} {c : Char}

theorem find?_star_cons (cs : List Char) :
    Pattern.find? (.pass (.star p) :: rest) (c :: cs) =
      (if p c then Pattern.find? (.pass (.star p) :: rest) cs else none).or
        (Pattern.find? rest (c :: cs)) :=
  findSome?_reverse_runs_cons c cs

theorem find?_plus_cons (cs : List Char) :
    Pattern.find? (.pass (.plus p) :: rest) (c :: cs) =
      if p c then Pattern.find? (.pass (.star p) :: rest) cs else none :=
  findSome?_reverse_tail_runs_cons c cs

theorem find?_star (apart : ∀ c cs, p c = true → Pattern.find? rest (c :: cs) = none)
    (cs : List Char) :
    Pattern.find? (.pass (.star p) :: rest) cs = Pattern.find? rest (cs.dropWhile p) :=
  findSome?_reverse_runs fun _ => apart

theorem find?_group_plus (apart : ∀ c cs, p c = true → Pattern.find? rest (c :: cs) = none)
    (cs : List Char) :
    Pattern.find? (.group (.plus p) :: rest) cs =
      if cs.takeWhile p = [] then none
      else (Pattern.find? rest (cs.dropWhile p)).map (cs.takeWhile p :: ·) := by
  cases cs with
  | nil => rfl
  | cons c cs =>
    rw [find?, Part.cuts, findSome?_reverse_tail_runs_cons]
    by_cases member : p c = true
    · rw [if_pos member, findSome?_reverse_runs fun head d tail other => by rw [apart d tail other]; rfl]
      simp [member]
    · simp [member]

end

end Pattern

end BuildPipeline.Text
