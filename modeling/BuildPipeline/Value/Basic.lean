import BuildPipeline.Number.Double
import BuildPipeline.Value.Moment

set_option autoImplicit false

/-!
Values of configurations, maps and manifests. A mapping is the list of its members in order; its
keys may be of any kind. Keys are the same when they are equal as numbers, a truth value being
zero or one, or when they are the same moment, or else when they are equal.
-/

namespace BuildPipeline

inductive Collection where
  | list
  | set
  | map
  deriving DecidableEq, Repr

inductive Value where
  | null
  | bool (b : Bool)
  | int (n : Int)
  | float (x : Number.Double)
  | str (s : String)
  | bytes (bs : List UInt8)
  | moment (m : Moment)
  | list (items : List Value)
  | tuple (items : List Value)
  | set (items : List Value)
  | map (members : List (Value × Value))
  -- Inside a collection, that collection itself. It is a leaf: a mapping met again inside itself does
  -- not merge as a mapping does, where following the cycle would merge its members once more.
  | enclosing (c : Collection)
  deriving Repr

abbrev Mapping := List (Value × Value)

instance : Inhabited Value := ⟨.null⟩

namespace Value

mutual

def beq : Value → Value → Bool
  | .null, .null => true
  | .bool a, .bool b => a == b
  | .int a, .int b => a == b
  | .float a, .float b => a == b
  | .str a, .str b => a == b
  | .bytes a, .bytes b => a == b
  | .moment a, .moment b => a == b
  | .list a, .list b => beqItems a b
  | .tuple a, .tuple b => beqItems a b
  | .set a, .set b => beqItems a b
  | .map a, .map b => beqMembers a b
  | .enclosing a, .enclosing b => a == b
  | _, _ => false

def beqItems : List Value → List Value → Bool
  | [], [] => true
  | a :: as, b :: bs => beq a b && beqItems as bs
  | _, _ => false

def beqMembers : List (Value × Value) → List (Value × Value) → Bool
  | [], [] => true
  | (k, v) :: as, (l, w) :: bs => beq k l && beq v w && beqMembers as bs
  | _, _ => false

end

mutual

theorem beq_refl : ∀ a : Value, beq a a = true
  | .null => rfl
  | .bool _ | .int _ | .float _ | .str _ | .bytes _ | .moment _ | .enclosing _ => by simp [beq]
  | .list items => by simp [beq, beqItems_refl items]
  | .tuple items => by simp [beq, beqItems_refl items]
  | .set items => by simp [beq, beqItems_refl items]
  | .map members => by simp [beq, beqMembers_refl members]

theorem beqItems_refl : ∀ as : List Value, beqItems as as = true
  | [] => rfl
  | a :: as => by simp [beqItems, beq_refl a, beqItems_refl as]

theorem beqMembers_refl : ∀ as : List (Value × Value), beqMembers as as = true
  | [] => rfl
  | (k, v) :: as => by simp [beqMembers, beq_refl k, beq_refl v, beqMembers_refl as]

end

mutual

theorem eq_of_beq : ∀ a b : Value, beq a b = true → a = b
  | .null, b, h => by cases b <;> simp_all [beq]
  | .bool _, b, h | .int _, b, h | .float _, b, h | .str _, b, h | .bytes _, b, h
  | .moment _, b, h | .enclosing _, b, h => by cases b <;> simp_all [beq]
  | .list items, b, h => by
    cases b <;> simp [beq] at h
    rw [eqItems_of_beq items _ h]
  | .tuple items, b, h => by
    cases b <;> simp [beq] at h
    rw [eqItems_of_beq items _ h]
  | .set items, b, h => by
    cases b <;> simp [beq] at h
    rw [eqItems_of_beq items _ h]
  | .map members, b, h => by
    cases b <;> simp [beq] at h
    rw [eqMembers_of_beq members _ h]

theorem eqItems_of_beq : ∀ as bs : List Value, beqItems as bs = true → as = bs
  | [], bs, h => by cases bs <;> simp_all [beqItems]
  | a :: as, bs, h => by
    cases bs with
    | nil => simp [beqItems] at h
    | cons b bs =>
      simp only [beqItems, Bool.and_eq_true] at h
      rw [eq_of_beq a b h.1, eqItems_of_beq as bs h.2]

theorem eqMembers_of_beq : ∀ as bs : List (Value × Value), beqMembers as bs = true → as = bs
  | [], bs, h => by cases bs <;> simp_all [beqMembers]
  | (k, v) :: as, bs, h => by
    cases bs with
    | nil => simp [beqMembers] at h
    | cons b bs =>
      simp only [beqMembers, Bool.and_eq_true] at h
      rw [eq_of_beq k b.1 h.1.1, eq_of_beq v b.2 h.1.2, eqMembers_of_beq as bs h.2]

end

instance : DecidableEq Value := fun a b =>
  decidable_of_iff (beq a b = true) ⟨eq_of_beq a b, fun h => h ▸ beq_refl a⟩

/-- The number a value stands for among keys: a truth value is zero or one, and a float with a
whole value is that whole number. -/
def numeric : Value → Option Value
  | .bool b => some (.int (if b then 1 else 0))
  | .int n => some (.int n)
  | .float x => some (match x.toInt? with | some n => .int n | none => .float x)
  | _ => none

mutual

def sameKey : Value → Value → Bool
  | .tuple as, .tuple bs => sameKeys as bs
  | .moment m, .moment n => m.same n
  | a, b =>
    match numeric a, numeric b with
    | some (.float x), some (.float y) => x.same y
    | some m, some n => m == n
    | none, none => a == b
    | _, _ => false

def sameKeys : List Value → List Value → Bool
  | [], [] => true
  | a :: as, b :: bs => sameKey a b && sameKeys as bs
  | _, _ => false

end

def truthy : Value → Bool
  | .null => false
  | .bool b => b
  | .int n => n ≠ 0
  | .float x => !x.isZero
  | .str s => s ≠ ""
  | .bytes bs => !bs.isEmpty
  | .moment _ => true
  | .list items => !items.isEmpty
  | .tuple items => !items.isEmpty
  | .set items => !items.isEmpty
  | .map members => !members.isEmpty
  | .enclosing _ => true

def isNull : Value → Bool
  | .null => true
  | _ => false

def members? : Value → Option Mapping
  | .map members => some members
  | _ => none

end Value

namespace Mapping

def get? (m : Mapping) (key : Value) : Option Value :=
  (m.find? fun member => member.1.sameKey key).map (·.2)

def contains (m : Mapping) (key : Value) : Bool :=
  m.any fun member => member.1.sameKey key

def insert : Mapping → Value → Value → Mapping
  | [], key, value => [(key, value)]
  | (k, v) :: rest, key, value =>
    if k.sameKey key then (k, value) :: rest else (k, v) :: insert rest key value

def insertAll (m : Mapping) (members : List (Value × Value)) : Mapping :=
  members.foldl (fun acc member => acc.insert member.1 member.2) m

def ofList (members : List (Value × Value)) : Mapping :=
  insertAll [] members

def member (m : Mapping) (key : String) : Value :=
  (m.get? (.str key)).getD .null

def keys (m : Mapping) : List Value :=
  m.map (·.1)

def without (m : Mapping) (key : String) : Mapping :=
  m.filter fun member => !member.1.sameKey (.str key)

theorem get?_append (a b : Mapping) (key : Value) :
    Mapping.get? (a ++ b) key = (a.get? key).or (b.get? key) := by
  simp only [get?, List.find?_append]
  cases List.find? (fun member => member.1.sameKey key) a <;> rfl

theorem of_get? {P : Value → Prop} {m : Mapping} {key v : Value} (all : ∀ member ∈ m, P member.2)
    (found : m.get? key = some v) : P v := by
  obtain ⟨member, there, rfl⟩ := Option.map_eq_some_iff.1 found
  exact all member (List.mem_of_find?_eq_some there)

@[simp] theorem get?_nil (key : Value) : Mapping.get? [] key = none := rfl

theorem get?_cons_str (k : String) (v : Value) (rest : Mapping) (key : String) :
    Mapping.get? ((.str k, v) :: rest) (.str key) =
      if k = key then some v else Mapping.get? rest (.str key) := by
  by_cases same : k = key <;> simp [get?, Value.sameKey, Value.numeric, same]

theorem get?_optional_str (k : String) (v : Option Value) (key : String) :
    Mapping.get? (v.map fun v => (Value.str k, v)).toList (.str key) =
      if k = key then v else none := by
  cases v <;> simp [get?_cons_str]

end Mapping

end BuildPipeline
