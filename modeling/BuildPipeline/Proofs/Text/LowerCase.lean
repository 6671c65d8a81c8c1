import BuildPipeline.Text.LowerCase
import Mathlib.Data.List.Basic

set_option autoImplicit false

namespace BuildPipeline.Text

def lowerOne (before : List Char) (c : Char) (after : List Char) : List Char :=
  if c == 'Σ' then [if endsWord before after then 'ς' else 'σ'] else lowerChar c

def lowerWithin (before : List Char) : List Char → List Char → List Char
  | [], _ => []
  | c :: rest, after => lowerOne before c (rest ++ after) ++ lowerWithin (c :: before) rest after

section

variable {before cs after : List Char} {c : Char}

theorem lowerFrom_eq_lowerWithin (before cs : List Char) :
    lowerFrom before cs = lowerWithin before cs [] := by
  induction cs generalizing before with
  | nil => rfl
  | cons c rest ih => rw [lowerFrom, lowerWithin, ih, List.append_nil, lowerOne]

theorem lowerWithin_append (before cs more after : List Char) :
    lowerWithin before (cs ++ more) after =
      lowerWithin before cs (more ++ after) ++ lowerWithin (cs.reverse ++ before) more after := by
  induction cs generalizing before with
  | nil => rfl
  | cons c rest ih => simp [lowerWithin, ih]

theorem lowerWithin_concat (before cs after : List Char) (c : Char) :
    lowerWithin before (cs ++ [c]) after =
      lowerWithin before cs (c :: after) ++ lowerOne (cs.reverse ++ before) c after := by
  simp [lowerWithin_append, lowerWithin]

theorem length_lowerOne (before after after' : List Char) (c : Char) :
    (lowerOne before c after).length = (lowerOne before c after').length := by
  rw [lowerOne, lowerOne]
  split <;> rfl

theorem lowerOne_eq_iff {after' : List Char} :
    lowerOne before c after = lowerOne before c after' ↔
      (c = 'Σ' → endsWord before after = endsWord before after') := by
  by_cases sigma : c = 'Σ'
  · simp only [lowerOne, sigma, beq_self_eq_true, if_true, forall_const]
    cases endsWord before after <;> cases endsWord before after' <;> simp
  · simp [lowerOne, sigma]

theorem lowerWithin_eq_iff {after' : List Char} :
    lowerWithin before cs after = lowerWithin before cs after' ↔
      ∀ first rest, cs = first ++ 'Σ' :: rest →
        endsWord (first.reverse ++ before) (rest ++ after) =
          endsWord (first.reverse ++ before) (rest ++ after') := by
  induction cs generalizing before with
  | nil => simp [lowerWithin]
  | cons c rest ih =>
    have both : lowerWithin before (c :: rest) after = lowerWithin before (c :: rest) after' ↔
        lowerOne before c (rest ++ after) = lowerOne before c (rest ++ after') ∧
          lowerWithin (c :: before) rest after = lowerWithin (c :: before) rest after' :=
      ⟨fun same => List.append_inj same (length_lowerOne _ _ _ _), fun ⟨one, others⟩ => by
        rw [lowerWithin, lowerWithin, one, others]⟩
    rw [both, ih, lowerOne_eq_iff]
    -- A sigma of the whole text is its first character, or one of the rest.
    constructor
    · rintro ⟨here, later⟩ first others same
      rcases List.cons_eq_append_iff.1 same with ⟨rfl, start⟩ | ⟨front, rfl, further⟩
      · obtain ⟨rfl, rfl⟩ := List.cons.inj start
        exact here rfl
      · simpa using later front others further
    · intro all
      refine ⟨?_, fun first others same => ?_⟩
      · rintro rfl
        exact all [] rest rfl
      · simpa using all (c :: first) others (by rw [same, List.cons_append])

end

def leadsCased (cs : List Char) : Bool :=
  ((cs.dropWhile isCaseIgnorable).head?.map isCased).getD false

theorem endsWord_eq (before after : List Char) :
    endsWord before after = (leadsCased before && !leadsCased after) :=
  rfl

theorem leadsCased_cons (c : Char) (rest : List Char) :
    leadsCased (c :: rest) = if isCaseIgnorable c then leadsCased rest else isCased c := by
  rw [leadsCased, List.dropWhile_cons]
  split <;> rfl

theorem leadsCased_iff {cs : List Char} :
    leadsCased cs = true ↔ ∃ first c rest, cs = first ++ c :: rest ∧
      (∀ d ∈ first, isCaseIgnorable d = true) ∧ isCaseIgnorable c = false ∧ isCased c = true := by
  induction cs with
  | nil => simp [leadsCased]
  | cons c cs ih =>
    rw [leadsCased_cons]
    constructor
    · intro leads
      split at leads
      next ignorable =>
        obtain ⟨first, d, rest, rfl, all, last⟩ := ih.1 leads
        exact ⟨c :: first, d, rest, rfl, by simpa [ignorable] using all, last⟩
      next cased => exact ⟨[], c, cs, rfl, by simp, by simpa using cased, leads⟩
    · rintro ⟨first, d, rest, same, all, notIgnorable, cased⟩
      rcases List.cons_eq_append_iff.1 same with ⟨rfl, here⟩ | ⟨front, rfl, later⟩
      · obtain ⟨rfl, rfl⟩ := List.cons.inj here
        simp [notIgnorable, cased]
      · rw [List.forall_mem_cons] at all
        rw [if_pos all.1]
        exact ih.2 ⟨front, d, rest, later, all.2, notIgnorable, cased⟩

theorem leadsCased_append {cs more : List Char} :
    leadsCased (cs ++ more) =
      if cs.all isCaseIgnorable then leadsCased more else leadsCased cs := by
  induction cs with
  | nil => simp
  | cons c cs ih =>
    rw [List.cons_append, leadsCased_cons, leadsCased_cons, ih]
    by_cases ignorable : isCaseIgnorable c = true <;> simp [ignorable]

/-- A text ends in a capital sigma that ends a word, case-ignorable characters left aside. -/
def EndsInSigma (cs : List Char) : Prop :=
  ∃ front c middle after, cs = front ++ c :: (middle ++ 'Σ' :: after) ∧
    (isCased c = true ∧ isCaseIgnorable c = false) ∧
    ∀ d ∈ middle ++ after, isCaseIgnorable d = true

theorem EndsInSigma.mem {cs : List Char} (ends : EndsInSigma cs) : 'Σ' ∈ cs := by
  obtain ⟨front, c, middle, after, rfl, -⟩ := ends
  simp

theorem endsInSigma_iff {cs : List Char} :
    EndsInSigma cs ↔ ∃ first rest, cs = first ++ 'Σ' :: rest ∧ leadsCased first.reverse = true ∧
      ∀ d ∈ rest, isCaseIgnorable d = true := by
  constructor
  · rintro ⟨front, c, middle, after, rfl, ⟨cased, notIgnorable⟩, all⟩
    rw [List.forall_mem_append] at all
    refine ⟨front ++ c :: middle, after, by simp, ?_, all.2⟩
    exact leadsCased_iff.2 ⟨middle.reverse, c, front.reverse, by simp, by simpa using all.1,
      notIgnorable, cased⟩
  · rintro ⟨first, rest, rfl, leads, all⟩
    obtain ⟨middle, c, front, same, ignorable, notIgnorable, cased⟩ := leadsCased_iff.1 leads
    rw [List.reverse_eq_iff] at same
    refine ⟨front.reverse, c, middle.reverse, rest, by simp [same], ⟨cased, notIgnorable⟩, ?_⟩
    rw [List.forall_mem_append]
    exact ⟨by simpa using ignorable, all⟩

theorem endsWord_append_iff {before rest after : List Char} (cased : leadsCased after = true) :
    endsWord before rest = endsWord before (rest ++ after) ↔
      ¬ (leadsCased before = true ∧ ∀ d ∈ rest, isCaseIgnorable d = true) := by
  rw [endsWord_eq, endsWord_eq, leadsCased_append, ← List.all_eq_true]
  -- Only past case-ignorable characters does what follows come into view.
  by_cases all : rest.all isCaseIgnorable = true
  · have alone : leadsCased rest = false := by
      have nothing := @leadsCased_append rest []
      rwa [List.append_nil, if_pos all] at nothing
    rw [if_pos all, cased, alone, and_iff_left all]
    cases leadsCased before <;> simp
  · rw [if_neg all]
    exact iff_of_true rfl fun both => all both.2

/-- A text that a cased character follows is lowered as if nothing followed, unless a sigma at its
end would end a word then. -/
theorem lowerWithin_nil_iff {cs after : List Char} (cased : leadsCased after = true) :
    lowerWithin [] cs [] = lowerWithin [] cs after ↔ ¬ EndsInSigma cs := by
  rw [lowerWithin_eq_iff, endsInSigma_iff]
  simp only [List.append_nil, endsWord_append_iff cased]
  exact ⟨fun all ⟨first, rest, same, both⟩ => all first rest same both,
    fun none first rest same both => none ⟨first, rest, same, both⟩⟩

def IsAsciiForm (x : Char) : Prop :=
  (0 < x.toNat ∧ x.toNat < 128) ∧ x ≠ 'i' ∧
    ∀ run ∈ caseRuns, (x.toNat : Int) < run.first + run.shift ∨ run.last + run.shift < x.toNat

instance (x : Char) : Decidable (IsAsciiForm x) :=
  inferInstanceAs (Decidable (_ ∧ _))

theorem ascii_induction (holds : Char → Prop) (all : ∀ n < 128, holds (Char.ofNat n)) {c : Char}
    (ascii : c.toNat < 128) : holds c := by
  rw [← Char.ofNat_toNat c]
  exact all c.toNat ascii

section

variable {before cs after lowered : List Char} {c x : Char}

theorem lowerOne_of_ascii (ascii : c.toNat < 128) : lowerOne before c after = [c.toLower] := by
  have other : c ≠ 'Σ' := by
    rintro rfl
    exact absurd ascii (by decide)
  rw [lowerOne, if_neg (by simpa using other), lowerChar_of_ascii ascii]

theorem lowerOne_ne_nil (before : List Char) (c : Char) (after : List Char) :
    lowerOne before c after ≠ [] := by
  rw [lowerOne, lowerChar]
  split
  · simp
  split
  · simp
  split
  · simp
  split <;> simp

theorem toNat_ofNat_cases (n : Nat) : (Char.ofNat n).toNat = n ∨ (Char.ofNat n).toNat = 0 := by
  by_cases valid : n.isValidChar
  · rw [Char.ofNat, dif_pos valid]
    exact .inl rfl
  · rw [Char.ofNat, dif_neg valid]
    exact .inr rfl

theorem ne_ofNat_of_covers {run : CaseRun} (form : IsAsciiForm x) (member : run ∈ caseRuns)
    {n : Nat} (covers : run.covers n = true) : x ≠ Char.ofNat (n + run.shift).toNat := by
  rintro rfl
  simp only [CaseRun.covers, Bool.and_eq_true, decide_eq_true_eq] at covers
  obtain ⟨⟨positive, -⟩, -, apart⟩ := form
  have away := apart run member
  rcases toNat_ofNat_cases (n + run.shift).toNat with same | zero
  · rw [same] at positive away
    omega
  · exact absurd zero (Nat.ne_of_gt positive)

theorem toLower_of_mem_lowerOne (form : IsAsciiForm x) (member : x ∈ lowerOne before c after) :
    c.toNat < 128 ∧ c.toLower = x := by
  have small := form.1.2
  by_cases ascii : c.toNat < 128
  · rw [lowerOne_of_ascii ascii, List.mem_singleton] at member
    exact ⟨ascii, member.symm⟩
  exfalso
  rw [lowerOne, lowerChar, if_neg ascii] at member
  split at member
  · split at member <;> rw [List.mem_singleton] at member <;>
      exact absurd small (by rw [member]; decide)
  split at member
  · simp only [List.mem_cons, List.not_mem_nil, or_false] at member
    rcases member with rfl | rfl
    · exact form.2.1 rfl
    · exact absurd small (by decide)
  split at member
  next run found =>
    have covers := List.find?_some found
    exact ne_ofNat_of_covers form (List.mem_of_find?_eq_some found) covers
      (List.mem_singleton.1 member)
  next => exact ascii (List.mem_singleton.1 member ▸ small)

theorem exists_concat_of_lowerWithin (form : IsAsciiForm x)
    (same : lowerWithin before cs after = lowered ++ [x]) :
    ∃ front c, cs = front ++ [c] ∧ (c.toNat < 128 ∧ c.toLower = x) ∧
      lowerWithin before front (c :: after) = lowered := by
  rcases cs.eq_nil_or_concat' with rfl | ⟨front, c, rfl⟩
  · simp [lowerWithin] at same
  · rw [lowerWithin_concat] at same
    have member : x ∈ lowerOne (front.reverse ++ before) c after := by
      obtain none | ⟨m, y, last⟩ := (lowerOne (front.reverse ++ before) c after).eq_nil_or_concat'
      · exact absurd none (lowerOne_ne_nil _ _ _)
      · rw [last, ← List.append_assoc] at same
        rw [last, ← List.singleton_inj.1 (List.append_inj' same rfl).2]
        simp
    have source := toLower_of_mem_lowerOne form member
    rw [lowerOne_of_ascii source.1] at same
    exact ⟨front, c, rfl, source, (List.append_inj' same rfl).1⟩

theorem forall_dot_iff :
    (∀ d ∈ lowerWithin before cs after, d = '.') ↔ ∀ d ∈ cs, d = '.' := by
  induction cs generalizing before with
  | nil => simp [lowerWithin]
  | cons c rest ih =>
    have here : (∀ d ∈ lowerOne before c (rest ++ after), d = '.') ↔ c = '.' := by
      constructor
      · intro all
        obtain ⟨d, member⟩ := List.exists_mem_of_ne_nil _ (lowerOne_ne_nil before c (rest ++ after))
        obtain ⟨ascii, form⟩ :=
          toLower_of_mem_lowerOne (by decide +kernel : IsAsciiForm '.') (all d member ▸ member)
        exact ascii_induction (fun c => c.toLower = '.' → c = '.') (by decide) ascii form
      · rintro rfl
        rw [lowerOne_of_ascii (by decide)]
        have form : '.'.toLower = '.' := by decide
        simp [form]
    rw [lowerWithin, List.forall_mem_append, List.forall_mem_cons, ih, here]

end

end BuildPipeline.Text
