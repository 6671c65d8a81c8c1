import BuildPipeline.Proofs.Path.Text
import BuildPipeline.Transpile
import Mathlib.Logic.Relation

set_option autoImplicit false

namespace BuildPipeline.Path

/-- One double dot is taken back, with the name in front of it, or at the root by itself. -/
inductive TakesBack : List String → List String → Prop
  | name {name : String} (plain : name ≠ "..") (above below : List String) :
    TakesBack (above ++ name :: ".." :: below) (above ++ below)
  | root (below : List String) : TakesBack (".." :: below) below

def Collapses (parts names : List String) : Prop :=
  Relation.ReflTransGen TakesBack parts names ∧ ".." ∉ names

def SamePlace (p q : Path) : Prop :=
  ∃ names, Collapses p.parts names ∧ Collapses q.parts names

/-- A relative path that goes up, and then down by names. It is a single dot if it does neither. -/
structure IsWay (p : Path) : Prop where
  relative : p.anchor = .relative
  descends : ∃ ups names, p.parts = List.replicate ups ".." ++ names ∧
    ∀ name ∈ names, IsPart name ∧ name ≠ ".."

theorem collapseFrom_append (done xs ys : List String) :
    collapseFrom done (xs ++ ys) = collapseFrom (collapseFrom done xs).reverse ys := by
  fun_induction collapseFrom done xs with
  | case1 done => rw [List.nil_append, List.reverse_reverse]
  | case2 done xs ih => rw [List.cons_append, collapseFrom, if_pos rfl, ih]
  | case3 done part xs other ih => rw [List.cons_append, collapseFrom, if_neg other, ih]

theorem collapseFrom_of_plain (done : List String) {names : List String} (plain : ".." ∉ names) :
    collapseFrom done names = done.reverse ++ names := by
  induction names generalizing done with
  | nil => simp [collapseFrom]
  | cons name names ih =>
    rw [List.mem_cons, not_or] at plain
    rw [collapseFrom, if_neg (Ne.symm plain.1), ih (name :: done) plain.2]
    simp

theorem collapse_of_plain {names : List String} (plain : ".." ∉ names) : collapse names = names :=
  collapseFrom_of_plain [] plain

theorem collapse_append (xs ys : List String) :
    collapse (xs ++ ys) = collapseFrom (collapse xs).reverse ys :=
  collapseFrom_append [] xs ys

theorem mem_of_mem_collapseFrom {done parts : List String} {name : String}
    (member : name ∈ collapseFrom done parts) : name ∈ done ∨ name ∈ parts := by
  fun_induction collapseFrom done parts with
  | case1 done => exact .inl (List.mem_reverse.1 member)
  | case2 done parts ih => exact (ih member).imp List.mem_of_mem_tail (List.mem_cons_of_mem _)
  | case3 done part parts _ ih =>
    rcases ih member with here | later
    · rcases List.mem_cons.1 here with rfl | here
      · exact .inr List.mem_cons_self
      · exact .inl here
    · exact .inr (List.mem_cons_of_mem part later)

theorem mem_of_mem_collapse {parts : List String} {name : String} (member : name ∈ collapse parts) :
    name ∈ parts :=
  (mem_of_mem_collapseFrom member).resolve_left (List.not_mem_nil)

theorem plain_collapseFrom {done : List String} (plain : ".." ∉ done) (parts : List String) :
    ".." ∉ collapseFrom done parts := by
  fun_induction collapseFrom done parts with
  | case1 done => rwa [List.mem_reverse]
  | case2 done parts ih => exact ih fun member => plain (List.mem_of_mem_tail member)
  | case3 done part parts other ih =>
    exact ih (by rw [List.mem_cons, not_or]; exact ⟨Ne.symm other, plain⟩)

theorem plain_collapse (parts : List String) : ".." ∉ collapse parts :=
  plain_collapseFrom List.not_mem_nil parts

theorem TakesBack.collapse_eq {parts parts' : List String} (takes : TakesBack parts parts') :
    collapse parts = collapse parts' := by
  cases takes with
  | name plain above below =>
    rw [collapse_append, collapse_append, collapseFrom, if_neg plain, collapseFrom, if_pos rfl]
    rfl
  | root below => rfl

-- What `done` holds stands in front backwards, and has no double dot left.
theorem takesBack_collapseFrom {done : List String} (plain : ".." ∉ done) (parts : List String) :
    Relation.ReflTransGen TakesBack (done.reverse ++ parts) (collapseFrom done parts) := by
  induction parts generalizing done with
  | nil => rw [collapseFrom, List.append_nil]
  | cons part parts ih =>
    by_cases up : part = ".."
    · subst up
      have shorter : ".." ∉ done.tail := fun member => plain (List.mem_of_mem_tail member)
      rw [collapseFrom, if_pos rfl]
      refine .head ?_ (ih shorter)
      cases done with
      | nil => exact .root parts
      | cons name done =>
        rw [List.mem_cons, not_or] at plain
        rw [List.reverse_cons, List.append_assoc]
        exact .name (Ne.symm plain.1) done.reverse parts
    · have longer : ".." ∉ part :: done := by
        rw [List.mem_cons, not_or]
        exact ⟨Ne.symm up, plain⟩
      rw [collapseFrom, if_neg up]
      simpa using ih longer

theorem collapses_iff {parts names : List String} :
    Collapses parts names ↔ collapse parts = names := by
  constructor
  · rintro ⟨steps, plain⟩
    induction steps using Relation.ReflTransGen.head_induction_on with
    | refl => exact collapse_of_plain plain
    | head takes _ ih => rw [takes.collapse_eq, ih]
  · rintro rfl
    exact ⟨takesBack_collapseFrom List.not_mem_nil parts, plain_collapse parts⟩

theorem samePlace_iff {p q : Path} : SamePlace p q ↔ collapse p.parts = collapse q.parts := by
  simp only [SamePlace, collapses_iff, exists_eq_left']
  exact eq_comm

-- The first name goes down and the last double dot takes it back, so the run is cut from both ends.
theorem collapseFrom_up_again (done : List String) {names : List String} (plain : ".." ∉ names)
    (rest : List String) :
    collapseFrom done (names ++ List.replicate names.length ".." ++ rest) = collapseFrom done rest := by
  induction names generalizing done rest with
  | nil => rfl
  | cons name names ih =>
    rw [List.mem_cons, not_or] at plain
    have up := ih (name :: done) plain.2 (".." :: rest)
    rw [List.length_cons, List.replicate_succ', List.cons_append, List.cons_append, collapseFrom,
      if_neg (Ne.symm plain.1)]
    simp only [List.append_assoc, List.singleton_append] at up ⊢
    rw [up, collapseFrom, if_pos rfl, List.tail_cons]

theorem collapseFrom_wayBetween (done : List String) {start goal : List String}
    (plain : ".." ∉ start) (plain' : ".." ∉ goal) :
    collapseFrom done (start ++ wayBetween start goal) = done.reverse ++ goal := by
  fun_induction wayBetween start goal generalizing done with
  | case1 base p parts ih =>
    rw [List.mem_cons, not_or] at plain plain'
    rw [List.cons_append, collapseFrom, if_neg (Ne.symm plain.1), ih _ plain.2 plain'.2]
    simp
  | case2 b base p parts _ =>
    rw [← List.append_assoc, ← List.length_cons, collapseFrom_up_again done plain,
      collapseFrom_of_plain done plain']
  | case3 base parts _ =>
    rw [← List.append_assoc, collapseFrom_up_again done plain, collapseFrom_of_plain done plain']

theorem exists_wayBetween (start goal : List String) :
    ∃ ups names, wayBetween start goal = List.replicate ups ".." ++ names ∧ names <:+ goal := by
  fun_induction wayBetween start goal with
  | case1 base p parts ih =>
    obtain ⟨ups, names, way, inside⟩ := ih
    exact ⟨ups, names, way, inside.trans (List.suffix_cons p parts)⟩
  | case2 b base p parts _ => exact ⟨_, _, rfl, List.suffix_refl _⟩
  | case3 base parts _ => exact ⟨_, _, rfl, List.suffix_refl _⟩

variable {base p q : Path}

theorem relativeTo_of_isAbsolute (cwd : Path) (rooted : base.isAbsolute = true) :
    relativeTo cwd p base =
      ⟨.relative, wayBetween (collapse base.parts) (collapse (base.join p).parts)⟩ := by
  have joined : (base.join p).isAbsolute = true := by
    rw [join]
    split
    · assumption
    · exact rooted
  rw [relativeTo, absolute, absolute, if_pos rooted, if_pos joined]

theorem isWay_relativeTo (cwd : Path) (rooted : base.isAbsolute = true) (clean : base.IsClean)
    (clean' : p.IsClean) : IsWay (relativeTo cwd p base) := by
  rw [relativeTo_of_isAbsolute cwd rooted]
  obtain ⟨ups, names, way, inside⟩ :=
    exists_wayBetween (collapse base.parts) (collapse (base.join p).parts)
  refine ⟨rfl, ups, names, way, fun name member => ?_⟩
  have left := inside.subset member
  exact ⟨forall_join clean clean' name (mem_of_mem_collapse left),
    fun up => plain_collapse _ (up ▸ left)⟩

theorem collapse_join_relativeTo (cwd : Path) (rooted : base.isAbsolute = true) :
    collapse (base.join (relativeTo cwd p base)).parts = collapse (base.join p).parts := by
  rw [relativeTo_of_isAbsolute cwd rooted]
  have back := collapseFrom_wayBetween [] (plain_collapse base.parts)
    (plain_collapse (base.join p).parts)
  rw [collapseFrom_append, collapseFrom_of_plain [] (plain_collapse base.parts)] at back
  exact (collapse_append base.parts _).trans back

theorem relativeTo_eq_iff (cwd : Path) (rooted : base.isAbsolute = true) :
    relativeTo cwd p base = relativeTo cwd q base ↔
      collapse (base.join p).parts = collapse (base.join q).parts := by
  constructor
  · intro same
    rw [← collapse_join_relativeTo cwd rooted (p := p), same, collapse_join_relativeTo cwd rooted]
  · intro same
    rw [relativeTo_of_isAbsolute cwd rooted, relativeTo_of_isAbsolute cwd rooted, same]

/-- The way from an absolute directory to a path, however their texts are spelled, goes up and then
down, and leads to where the path does. Two paths have the same way just when they lead to the same
place, and then compiling them in that directory gives the same. -/
theorem relativeTo_canonical (cwd : Path) {dir : String} (rooted : (ofText dir).isAbsolute = true)
    (s t : String) :
    IsWay (relativeTo cwd (ofText s) (ofText dir)) ∧
    SamePlace ((ofText dir).join (relativeTo cwd (ofText s) (ofText dir)))
      ((ofText dir).join (ofText s)) ∧
    (relativeTo cwd (ofText s) (ofText dir) = relativeTo cwd (ofText t) (ofText dir) ↔
      SamePlace ((ofText dir).join (ofText s)) ((ofText dir).join (ofText t))) ∧
    (SamePlace ((ofText dir).join (ofText s)) ((ofText dir).join (ofText t)) →
      ∀ (transpiler : Transpiler) (compile : Compile) (fs : FileSystem) (console : Console),
        transpiler.workingDir.getD ⟨.root, fs.cwd⟩ = ofText dir →
        transpiler.transpile compile fs console (ofText s) =
          transpiler.transpile compile fs console (ofText t)) := by
  refine ⟨isWay_relativeTo cwd rooted (isClean_ofText dir) (isClean_ofText s), ?_, ?_, ?_⟩
  · exact samePlace_iff.2 (collapse_join_relativeTo cwd rooted)
  · rw [samePlace_iff]
    exact relativeTo_eq_iff cwd rooted
  · intro same transpiler compile fs console working
    have source := (relativeTo_eq_iff ⟨.root, fs.cwd⟩ rooted).2 (samePlace_iff.1 same)
    rw [Transpiler.transpile, Transpiler.transpile]
    simp only [working, source]

def dottedTranspiler : Transpiler where
  host := {}
  options := {}
  workingDir := some (ofText "/srv//app/./x/..")

-- The first path goes above the root on its way, the second names the same source below the root.
theorem relativeTo_canonical_dotted :
    (ofText "/srv//app/./x/..").isAbsolute = true ∧
    relativeTo here (ofText "../../../etc/./a.imba") (ofText "/srv//app/./x/..") =
      ofText "../../etc/a.imba" ∧
    SamePlace ((ofText "/srv//app/./x/..").join (ofText "../../../etc/./a.imba"))
      ((ofText "/srv//app/./x/..").join (ofText "//etc//b/../a.imba")) ∧
    ∀ compile,
      dottedTranspiler.transpile compile ⟨[], []⟩ (.named "none") (ofText "../../../etc/./a.imba") =
        dottedTranspiler.transpile compile ⟨[], []⟩ (.named "none") (ofText "//etc//b/../a.imba") := by
  have rooted : (ofText "/srv//app/./x/..").isAbsolute = true := by decide
  obtain ⟨-, -, ways, compiled⟩ :=
    relativeTo_canonical here rooted "../../../etc/./a.imba" "//etc//b/../a.imba"
  have same := ways.1 (by decide +kernel)
  exact ⟨rooted, by decide +kernel, same, fun compile => compiled same _ compile _ _ rfl⟩

end BuildPipeline.Path
