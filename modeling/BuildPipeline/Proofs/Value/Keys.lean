import BuildPipeline.Value.Basic

set_option autoImplicit false

namespace BuildPipeline

open Number

namespace Moment

def instant? : Moment → Option Int
  | .dateTime d t (some offset) => some (microsUpTo d t offset)
  | _ => none

theorem same_iff {m n : Moment} :
    m.same n = true ↔ m = n ∨ m.instant?.isSome = true ∧ m.instant? = n.instant? := by
  unfold same
  split
  next d t o d' t' o' =>
    simp only [decide_eq_true_eq, instant?, Option.isSome_some, true_and, Option.some.injEq]
    constructor
    · exact .inr
    · rintro (equal | equal)
      · cases equal
        rfl
      · exact equal
  -- Only date-times with offsets have instants.
  next apart =>
    simp only [decide_eq_true_eq, iff_self_or, and_imp]
    intro timed equal
    cases m with
    | date _ | time _ => cases timed
    | dateTime d t offset =>
      cases offset with
      | none => cases timed
      | some o =>
        cases n with
        | date _ | time _ => cases equal
        | dateTime d' t' offset' =>
          cases offset' with
          | none => cases equal
          | some o' => exact absurd rfl (apart d t o d' t' o' rfl)

theorem same_refl (m : Moment) : m.same m = true :=
  same_iff.2 (.inl rfl)

theorem same_symm {m n : Moment} (equal : m.same n = true) : n.same m = true := by
  rw [same_iff] at equal ⊢
  rcases equal with rfl | ⟨timed, equal⟩
  · exact .inl rfl
  · exact .inr ⟨equal ▸ timed, equal.symm⟩

theorem same_trans {l m n : Moment} (first : l.same m = true) (second : m.same n = true) :
    l.same n = true := by
  rw [same_iff] at first second ⊢
  rcases first with rfl | ⟨timed, first⟩
  · exact second
  · rcases second with rfl | ⟨-, second⟩
    · exact .inr ⟨timed, first⟩
    · exact .inr ⟨timed, first.trans second⟩

end Moment

namespace Value

def keyForm (v : Value) : Value :=
  v.numeric.getD v

def isAtom : Value → Bool
  | .tuple _ => false
  | .moment _ => false
  | _ => true

theorem sameKey_tuple_iff {as : List Value} {b : Value} :
    (Value.tuple as).sameKey b = true ↔ ∃ bs, b = .tuple bs ∧ sameKeys as bs = true := by
  cases b <;> simp [sameKey, numeric]

theorem sameKey_str_iff {k : Value} {name : String} :
    k.sameKey (.str name) = true ↔ k = .str name := by
  cases k <;> simp [sameKey, numeric]

theorem sameKey_moment_iff {m : Moment} {b : Value} :
    (Value.moment m).sameKey b = true ↔ ∃ n, b = .moment n ∧ m.same n = true := by
  cases b <;> simp [sameKey, numeric]

theorem toInt?_of_isZero {x : Double} (zero : x.isZero = true) : x.toInt? = some 0 := by
  simp only [Double.isZero, Bool.and_eq_true, decide_eq_true_eq] at zero
  obtain ⟨field, fraction⟩ := zero
  have significand : x.significand = 0 := by simp [Double.significand, field, fraction]
  simp [Double.toInt?, field, significand]

theorem same_iff_of_toInt? {x y : Double} (fractional : x.toInt? = none) :
    x.same y = true ↔ x = y := by
  have nonzero : x.isZero = false := by
    rw [Bool.eq_false_iff]
    intro zero
    rw [toInt?_of_isZero zero] at fractional
    cases fractional
  cases x
  cases y
  simp [Double.same, nonzero]

theorem numeric_cases (v : Value) : v.numeric = none ∨ (∃ n, v.numeric = some (.int n)) ∨
    ∃ x, v.numeric = some (.float x) ∧ x.toInt? = none := by
  cases v with
  | bool b => exact .inr (.inl ⟨_, rfl⟩)
  | int n => exact .inr (.inl ⟨n, rfl⟩)
  | float x =>
    cases whole : x.toInt? with
    | none => exact .inr (.inr ⟨x, by simp [numeric, whole], whole⟩)
    | some n => exact .inr (.inl ⟨n, by simp [numeric, whole]⟩)
  | _ => exact .inl rfl

theorem sameKey_eq_of_isAtom {a : Value} (atom : a.isAtom = true) (b : Value) :
    a.sameKey b = match a.numeric, b.numeric with
      | some (.float x), some (.float y) => x.same y
      | some m, some n => m == n
      | none, none => a == b
      | _, _ => false := by
  cases a with
  | tuple _ | moment _ => cases atom
  | _ => cases b <;> rfl

theorem sameKey_iff_of_isAtom {a : Value} (atom : a.isAtom = true) (b : Value) :
    a.sameKey b = true ↔ a.keyForm = b.keyForm := by
  rw [sameKey_eq_of_isAtom atom, keyForm, keyForm]
  rcases numeric_cases a with plain | ⟨m, whole⟩ | ⟨x, fraction, fractional⟩ <;>
    rcases numeric_cases b with plain' | ⟨n, whole'⟩ | ⟨y, fraction', -⟩
  · -- What is no number is the same key as no number.
    simp [plain, plain']
  · simp only [plain, whole', Bool.false_eq_true, Option.getD_none, Option.getD_some, false_iff]
    rintro rfl
    cases plain
  · simp only [plain, fraction', Bool.false_eq_true, Option.getD_none, Option.getD_some, false_iff]
    rintro rfl
    cases plain
  · simp only [whole, plain', Bool.false_eq_true, Option.getD_none, Option.getD_some, false_iff]
    rintro rfl
    cases plain'
  · simp [whole, whole']
  · simp [whole, fraction']
  · simp only [fraction, plain', Bool.false_eq_true, Option.getD_none, Option.getD_some, false_iff]
    rintro rfl
    cases plain'
  · simp [fraction, whole']
  · simp [fraction, fraction', same_iff_of_toInt? fractional]

theorem isAtom_congr {a b : Value} (form : a.keyForm = b.keyForm) : a.isAtom = b.isAtom := by
  have kept (v : Value) : v.keyForm.isAtom = v.isAtom := by
    rcases numeric_cases v with plain | ⟨n, whole⟩ | ⟨x, fraction, -⟩
    · simp [keyForm, plain]
    · cases v <;> simp_all [keyForm, isAtom, numeric]
    · cases v <;> simp_all [keyForm, isAtom, numeric]
  rw [← kept a, ← kept b, form]

mutual

theorem sameKey_refl : ∀ a : Value, a.sameKey a = true
  | .tuple items => sameKey_tuple_iff.2 ⟨items, rfl, sameKeys_refl items⟩
  | .moment m => sameKey_moment_iff.2 ⟨m, rfl, m.same_refl⟩
  | .null | .bool _ | .int _ | .float _ | .str _ | .bytes _ | .list _ | .set _ | .map _
  | .enclosing _ => (sameKey_iff_of_isAtom rfl _).2 rfl

theorem sameKeys_refl : ∀ as : List Value, sameKeys as as = true
  | [] => rfl
  | a :: as => by simp [sameKeys, sameKey_refl a, sameKeys_refl as]

end

mutual

theorem sameKey_symm : ∀ {a b : Value}, a.sameKey b = true → b.sameKey a = true
  | .tuple items, b, same => by
    obtain ⟨items', rfl, same⟩ := sameKey_tuple_iff.1 same
    exact sameKey_tuple_iff.2 ⟨items, rfl, sameKeys_symm same⟩
  | .moment m, b, same => by
    obtain ⟨n, rfl, same⟩ := sameKey_moment_iff.1 same
    exact sameKey_moment_iff.2 ⟨m, rfl, Moment.same_symm same⟩
  | .null, b, same | .bool _, b, same | .int _, b, same | .float _, b, same | .str _, b, same
  | .bytes _, b, same | .list _, b, same | .set _, b, same | .map _, b, same
  | .enclosing _, b, same => by
    have form := (sameKey_iff_of_isAtom rfl b).1 same
    exact (sameKey_iff_of_isAtom (isAtom_congr form).symm _).2 form.symm

theorem sameKeys_symm : ∀ {as bs : List Value}, sameKeys as bs = true → sameKeys bs as = true
  | [], [], _ => rfl
  | [], _ :: _, same | _ :: _, [], same => by simp [sameKeys] at same
  | a :: as, b :: bs, same => by
    simp only [sameKeys, Bool.and_eq_true] at same ⊢
    exact ⟨sameKey_symm same.1, sameKeys_symm same.2⟩

end

mutual

theorem sameKey_trans : ∀ {a b c : Value}, a.sameKey b = true → b.sameKey c = true →
    a.sameKey c = true
  | .tuple as, b, c, first, second => by
    obtain ⟨bs, rfl, first⟩ := sameKey_tuple_iff.1 first
    obtain ⟨cs, rfl, second⟩ := sameKey_tuple_iff.1 second
    exact sameKey_tuple_iff.2 ⟨cs, rfl, sameKeys_trans first second⟩
  | .moment l, b, c, first, second => by
    obtain ⟨m, rfl, first⟩ := sameKey_moment_iff.1 first
    obtain ⟨n, rfl, second⟩ := sameKey_moment_iff.1 second
    exact sameKey_moment_iff.2 ⟨n, rfl, Moment.same_trans first second⟩
  | .null, b, c, first, second | .bool _, b, c, first, second | .int _, b, c, first, second
  | .float _, b, c, first, second | .str _, b, c, first, second | .bytes _, b, c, first, second
  | .list _, b, c, first, second | .set _, b, c, first, second | .map _, b, c, first, second
  | .enclosing _, b, c, first, second => by
    have form := (sameKey_iff_of_isAtom rfl b).1 first
    have form' := (sameKey_iff_of_isAtom (isAtom_congr form).symm c).1 second
    exact (sameKey_iff_of_isAtom rfl c).2 (form.trans form')

theorem sameKeys_trans : ∀ {as bs cs : List Value}, sameKeys as bs = true →
    sameKeys bs cs = true → sameKeys as cs = true
  | [], [], _, _, second => second
  | [], _ :: _, _, first, _ | _ :: _, [], _, first, _ => by simp [sameKeys] at first
  | _ :: _, _ :: _, [], _, second => by simp [sameKeys] at second
  | a :: as, b :: bs, c :: cs, first, second => by
    simp only [sameKeys, Bool.and_eq_true] at first second ⊢
    exact ⟨sameKey_trans first.1 second.1, sameKeys_trans first.2 second.2⟩

end

end Value

end BuildPipeline
