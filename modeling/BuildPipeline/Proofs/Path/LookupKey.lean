import BuildPipeline.BuildTree.Walk
import BuildPipeline.Proofs.Path.Text
import BuildPipeline.Proofs.Text.LowerCase
import Mathlib.Data.List.TakeWhile

set_option autoImplicit false

namespace BuildPipeline.FileName

open Text BuildTree

theorem exists_script_parts {cs lowered : List Char}
    (same : lowerFrom [] cs = lowered ++ ['.', 'j', 's']) :
    ∃ stem j s, cs = stem ++ ['.', j, s] ∧ (j = 'j' ∨ j = 'J') ∧ (s = 's' ∨ s = 'S') ∧
      lowerWithin [] stem ['.', j, s] = lowered := by
  have parts : lowered ++ ['.', 'j', 's'] = lowered ++ ['.'] ++ ['j'] ++ ['s'] := by simp
  rw [lowerFrom_eq_lowerWithin, parts] at same
  -- The ending is read backwards, a character at a time: only ASCII characters have these forms.
  obtain ⟨front, s, rfl, ⟨asciiS, formS⟩, same⟩ :=
    exists_concat_of_lowerWithin (by decide +kernel) same
  obtain ⟨front, j, rfl, ⟨asciiJ, formJ⟩, same⟩ :=
    exists_concat_of_lowerWithin (by decide +kernel) same
  obtain ⟨front, d, rfl, ⟨asciiD, formD⟩, same⟩ :=
    exists_concat_of_lowerWithin (by decide +kernel) same
  have dot := ascii_induction (fun c => c.toLower = '.' → c = '.') (by decide) asciiD formD
  subst dot
  refine ⟨front, j, s, by simp, ?_, ?_, same⟩
  · exact ascii_induction (fun c => c.toLower = 'j' → c = 'j' ∨ c = 'J') (by decide) asciiJ formJ
  · exact ascii_induction (fun c => c.toLower = 's' → c = 's' ∨ c = 'S') (by decide) asciiS formS

theorem splitExtension_script {stem : List Char} {j s : Char} (hj : j = 'j' ∨ j = 'J')
    (hs : s = 's' ∨ s = 'S') (clean : '/' ∉ stem) (named : ∃ c ∈ stem, c ≠ '.') :
    splitExtension (stem ++ ['.', j, s]) = (stem, ['.', j, s]) := by
  have tail : (stem ++ ['.', j, s]).reverse.takeWhile (fun c => c ≠ '.' && c ≠ '/') = [s, j] := by
    rcases hj with rfl | rfl <;> rcases hs with rfl | rfl <;> simp
  have whole : stem.reverse.takeWhile (· ≠ '/') = stem.reverse := by
    rw [List.takeWhile_eq_self_iff]
    intro c member
    have other : c ≠ '/' := by
      rintro rfl
      exact clean (List.mem_reverse.1 member)
    simpa using other
  have stands : (stem.reverse.takeWhile (· ≠ '/')).any (· ≠ '.') = true := by
    rw [whole]
    simpa using named
  have backwards : (stem ++ ['.', j, s]).reverse = s :: j :: '.' :: stem.reverse := by simp
  rw [splitExtension, tail, backwards]
  simp only [List.length_cons, List.length_nil, List.drop_succ_cons, List.drop_zero, if_pos stands]
  simp

theorem classify_script {n : String} (script : (classify .standard n).1 = .script) :
    ∃ lowered, lowerFrom [] n.toList = lowered ++ ['.', 'j', 's'] ∧
      (classify .standard n).2 = String.ofList lowered := by
  have lower : (Text.lower n).toList = lowerFrom [] n.toList := String.toList_ofList
  simp only [classify, lower] at script ⊢
  split at script
  next ending =>
    obtain ⟨lowered, same⟩ := List.isSuffixOf_iff_suffix.1 ending
    have suffix : Endings.standard.script = ['.', 'j', 's'] := by decide
    rw [suffix] at same ending
    refine ⟨lowered, same.symm, ?_⟩
    rw [suffix, if_pos ending, ← same]
    simp [cutEnding]
  next => split at script <;> cases script

theorem name_of_slashed {n s : String} (part : Path.IsPart n) (clean : '\\' ∉ n.toList)
    (ends : s = n ∨ ∃ before sep, (sep = '/' ∨ sep = '\\') ∧ s.toList = before ++ sep :: n.toList) :
    (Path.ofText (String.ofList (s.toList.map fun c => if c = '\\' then '/' else c))).name = n := by
  have kept : n.toList.map (fun c => if c = '\\' then '/' else c) = n.toList := by
    refine (List.map_congr_left fun c member => ?_).trans (List.map_id _)
    rw [if_neg, id]
    rintro rfl
    exact clean member
  rw [Path.name, Path.ofText, String.toList_ofList]
  rcases ends with rfl | ⟨before, sep, separates, same⟩
  · rw [kept, Path.partsOf_toList part]
    rfl
  · have slash : (if sep = '\\' then '/' else sep) = '/' := by
      rcases separates with rfl | rfl <;> rfl
    rw [same, List.map_append, List.map_cons, kept, slash, Path.partsOf_append_slash,
      Path.partsOf_toList part, List.getLast?_concat]
    rfl

theorem lookupKey_of_script {n s : String} {stem ending : List Char} (part : Path.IsPart n)
    (clean : '\\' ∉ n.toList) (split : splitExtension n.toList = (stem, ending)) (some : stem ≠ [])
    (ends : s = n ∨ ∃ before sep, (sep = '/' ∨ sep = '\\') ∧ s.toList = before ++ sep :: n.toList) :
    lookupKey s = String.ofList (lowerWithin [] stem []) := by
  unfold lookupKey
  simp only [name_of_slashed part clean ends, split]
  rw [Text.lower, String.toList_ofList, lowerFrom_eq_lowerWithin]

/-- A specifier that ends in a name with the lower form of a script's is looked up by the script's
stem, unless the stem of the name ends in a sigma that ends a word. -/
theorem lookupKey_eq_stem_iff (path : Path) (n n' s : String)
    (script : (fileOf .standard path n).kind = .script)
    (named : ∃ c ∈ n.toList.take (n.toList.length - 3), c ≠ '.')
    (clean : '/' ∉ n'.toList ∧ '\\' ∉ n'.toList) (same : Text.lower n' = Text.lower n)
    (ends : s = n' ∨
      ∃ before sep, (sep = '/' ∨ sep = '\\') ∧ s.toList = before ++ sep :: n'.toList) :
    lookupKey s = (fileOf .standard path n).stem ↔
      ¬ EndsInSigma (n'.toList.take (n'.toList.length - 3)) := by
  simp only [fileOf] at script ⊢
  obtain ⟨lowered, whole, stem⟩ := classify_script script
  have whole' : lowerFrom [] n'.toList = lowered ++ ['.', 'j', 's'] := by
    rw [← whole, ← @String.toList_ofList (lowerFrom [] n'.toList)]
    exact (congrArg String.toList same).trans String.toList_ofList
  obtain ⟨front, _, _, parts, -, -, lowers⟩ := exists_script_parts whole
  obtain ⟨front', j, e, parts', hj, he, lowers'⟩ := exists_script_parts whole'
  have cut : n.toList.take (n.toList.length - 3) = front := by simp [parts]
  have cut' : n'.toList.take (n'.toList.length - 3) = front' := by simp [parts']
  -- Dots are lowered to dots, and nothing else is.
  have named' : ∃ c ∈ front', c ≠ '.' := by
    by_contra none
    push Not at none
    rw [← forall_dot_iff, lowers', ← lowers, forall_dot_iff] at none
    obtain ⟨c, member, other⟩ := named
    exact other (none c (cut ▸ member))
  have part : Path.IsPart n' := by
    refine ⟨?_, clean.1⟩
    have long : front' ++ ['.', j, e] ≠ ['.'] := by
      intro dot
      simpa using congrArg List.length dot
    rw [parts']
    simp [Path.isPart, long]
  have split : splitExtension n'.toList = (front', ['.', j, e]) := by
    rw [parts'] at clean ⊢
    exact splitExtension_script hj he (fun slash => clean.1 (List.mem_append_left _ slash)) named'
  have nonempty : front' ≠ [] := by
    rintro rfl
    simp at named'
  have cased : leadsCased ['.', j, e] = true := by
    rcases hj with rfl | rfl <;> rcases he with rfl | rfl <;> decide
  rw [lookupKey_of_script part clean.2 split nonempty ends, stem, String.ofList_inj, cut',
    ← lowers', lowerWithin_nil_iff cased]

theorem lookupKey_eq_stem_iff_words :
    lookupKey "./src/MAIN.js" = (fileOf .standard ⟨.root, ["w", "Main.JS"]⟩ "Main.JS").stem ∧
      lookupKey "ΑΣ.js" ≠ (fileOf .standard ⟨.root, ["w", "ΑΣ.js"]⟩ "ΑΣ.js").stem := by
  constructor
  · refine (lookupKey_eq_stem_iff ⟨.root, ["w", "Main.JS"]⟩ "Main.JS" "MAIN.js" "./src/MAIN.js"
      (by decide +kernel) ⟨'M', by decide, by decide⟩ (by decide) (by decide +kernel)
      (.inr ⟨"./src".toList, '/', .inl rfl, by decide⟩)).2 fun sigma => ?_
    exact absurd sigma.mem (by decide)
  · refine mt (lookupKey_eq_stem_iff ⟨.root, ["w", "ΑΣ.js"]⟩ "ΑΣ.js" "ΑΣ.js" "ΑΣ.js"
      (by decide +kernel) ⟨'Α', by decide, by decide⟩ (by decide) rfl (.inl rfl)).1 (not_not.2 ?_)
    exact ⟨[], 'Α', [], [], by decide, by decide +kernel, by simp⟩

end BuildPipeline.FileName
