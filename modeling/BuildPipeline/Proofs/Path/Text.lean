import BuildPipeline.Path.Basic

set_option autoImplicit false

namespace BuildPipeline.Path

def IsPart (name : String) : Prop :=
  isPart name.toList = true ∧ '/' ∉ name.toList

instance (name : String) : Decidable (IsPart name) :=
  inferInstanceAs (Decidable (_ ∧ _))

theorem IsPart.ne_dot {name : String} (part : IsPart name) : name ≠ "." := by
  rintro rfl
  exact absurd part.1 (by decide)

def IsClean (p : Path) : Prop :=
  ∀ name ∈ p.parts, IsPart name

instance (p : Path) : Decidable p.IsClean :=
  inferInstanceAs (Decidable (∀ name ∈ p.parts, IsPart name))

def IsPlain (p : Path) : Prop :=
  ∀ name ∈ p.parts, IsPart name ∧ name ≠ ".."

instance (p : Path) : Decidable p.IsPlain :=
  inferInstanceAs (Decidable (∀ name ∈ p.parts, IsPart name ∧ name ≠ ".."))

theorem IsPlain.isClean {p : Path} (plain : p.IsPlain) : p.IsClean :=
  fun name member => (plain name member).1

theorem isPart_of_mem_partsOf {cs : List Char} {name : String} (member : name ∈ partsOf cs) :
    IsPart name := by
  obtain ⟨piece, found, rfl⟩ := List.mem_map.1 member
  obtain ⟨piece', part⟩ := List.mem_filter.1 found
  rw [IsPart, String.toList_ofList]
  exact ⟨part, Text.not_mem_of_mem_pieces piece'⟩

theorem isClean_ofText (s : String) : (ofText s).IsClean :=
  fun _ => isPart_of_mem_partsOf

theorem name_ofText_ne_empty {s : String} {c : Char} (there : c ∈ s.toList) (slash : c ≠ '/')
    (dot : c ≠ '.') : (ofText s).name ≠ "" := by
  obtain ⟨piece, found, member⟩ := Text.exists_mem_pieces there slash
  have part : isPart piece = true := by
    have nonempty : piece ≠ [] := List.ne_nil_of_mem member
    have other : piece ≠ ['.'] := by
      rintro rfl
      exact dot (List.mem_singleton.1 member)
    simp [isPart, nonempty, other]
  have some : String.ofList piece ∈ partsOf s.toList :=
    List.mem_map_of_mem (List.mem_filter.2 ⟨found, part⟩)
  have last := isPart_of_mem_partsOf (List.getLast_mem (List.ne_nil_of_mem some))
  rw [name, ofText, List.getLast?_eq_some_getLast (List.ne_nil_of_mem some), Option.getD_some]
  intro empty
  rw [empty] at last
  exact absurd last.1 (by decide)

theorem forall_join {p q : Path} {holds : String → Prop} (first : ∀ name ∈ p.parts, holds name)
    (second : ∀ name ∈ q.parts, holds name) : ∀ name ∈ (p.join q).parts, holds name := by
  rw [join]
  split
  · exact second
  · intro name member
    rcases List.mem_append.1 member with member | member
    · exact first name member
    · exact second name member

theorem partsOf_append_slash (cs rest : List Char) :
    partsOf (cs ++ '/' :: rest) = partsOf cs ++ partsOf rest := by
  simp [partsOf, Text.pieces_append_cons]

theorem partsOf_toList {name : String} (part : IsPart name) : partsOf name.toList = [name] := by
  simp [partsOf, Text.pieces_of_not_mem part.2, part.1]

theorem partsOf_intercalate {names : List String} (clean : ∀ name ∈ names, IsPart name) :
    partsOf ("/".intercalate names).toList = names := by
  induction names with
  | nil => rfl
  | cons name rest ih =>
    simp only [List.mem_cons, forall_eq_or_imp] at clean
    cases rest with
    | nil => rw [String.intercalate_singleton, partsOf_toList clean.1]
    | cons next rest =>
      have joined : ("/".intercalate (name :: next :: rest)).toList =
          name.toList ++ '/' :: ("/".intercalate (next :: rest)).toList := by
        simp
      rw [joined, partsOf_append_slash, partsOf_toList clean.1, ih clean.2, List.singleton_append]

theorem partsOf_text {p : Path} (clean : p.IsClean) : partsOf p.text.toList = p.parts := by
  have names := partsOf_intercalate clean
  have slash (cs : List Char) : partsOf ('/' :: cs) = partsOf cs := partsOf_append_slash [] cs
  obtain ⟨anchor, parts⟩ := p
  cases anchor with
  | relative =>
    cases parts with
    | nil => decide
    | cons name rest => simpa [text, Anchor.text] using names
  | root => simpa [text, Anchor.text, slash] using names
  | doubleRoot => simpa [text, Anchor.text, slash] using names

theorem partsOf_textBelow (base tail : String) :
    partsOf (textBelow base tail).toList = partsOf base.toList ++ partsOf tail.toList := by
  rw [textBelow]
  split
  next separated =>
    -- What ends in a slash, or is empty, has nothing after its last slash.
    rw [Bool.or_eq_true, decide_eq_true_eq, decide_eq_true_eq] at separated
    rcases separated with rfl | last
    · simp [partsOf, Text.pieces, isPart]
    · obtain ⟨before, same⟩ := List.getLast?_eq_some_iff.1 last
      have ended : partsOf base.toList = partsOf before := by
        rw [same, partsOf_append_slash]
        simp [partsOf, Text.pieces, isPart]
      rw [String.toList_append, ended, same, List.append_assoc, List.singleton_append,
        partsOf_append_slash]
  next =>
    have joined : (base ++ "/" ++ tail).toList = base.toList ++ '/' :: tail.toList := by simp
    rw [joined, partsOf_append_slash]

theorem head?_text {p : Path} (absolute : p.isAbsolute = true) : p.text.toList.head? = some '/' := by
  obtain ⟨anchor, parts⟩ := p
  cases anchor with
  | relative => simp [isAbsolute] at absolute
  | root | doubleRoot => simp [text, Anchor.text]

theorem isAbsolute_ofText {s : String} (slash : s.toList.head? = some '/') :
    (ofText s).isAbsolute = true := by
  obtain ⟨rest, same⟩ := List.head?_eq_some_iff.1 slash
  rw [isAbsolute, ofText, same, decide_eq_true_eq]
  unfold anchorOf
  split <;> simp_all

theorem isAbsolute_ofText_textBelow {p : Path} (absolute : p.isAbsolute = true) (tail : String) :
    (ofText (textBelow p.text tail)).isAbsolute = true := by
  have head := head?_text absolute
  apply isAbsolute_ofText
  rw [textBelow]
  split <;> simp [head]

end BuildPipeline.Path
