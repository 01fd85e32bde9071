/-
# Equal documents

Documents are equal when they differ in nothing but the signs of zeros.  So each document has
a normal form, in which no zero has a sign, and two documents are equal exactly when their
normal forms are the same (`Json.same_iff`).  All that an equality must satisfy follows from
that.
-/

import Parley.Json.Basic

namespace Parley

namespace Decimal.Binary64

/-- The number, without a sign when it is zero. -/
def normal (x : Binary64) : Binary64 :=
  ⟨x.negative && !x.magnitude.isZero, x.magnitude⟩

/-- Numbers are equal exactly when they are the same but for the sign of zero. -/
theorem same_iff (x y : Binary64) : x.same y = true ↔ x.normal = y.normal := by
  obtain ⟨negative, magnitude⟩ := x
  obtain ⟨negative', magnitude'⟩ := y
  simp only [same, normal, Bool.and_eq_true, Bool.or_eq_true, beq_iff_eq, mk.injEq]
  constructor
  · rintro ⟨rfl, rfl | hzero⟩
    · exact ⟨rfl, rfl⟩
    · simp [hzero]
  · rintro ⟨hsign, rfl⟩
    refine ⟨rfl, ?_⟩
    cases hzero : magnitude.isZero with
    | true => exact .inr rfl
    | false => exact .inl (by simpa [hzero] using hsign)

end Decimal.Binary64

namespace Json

/-- The number, without a sign when it is the fraction zero. -/
def Number.normal : Number → Number
  | .int i => .int i
  | .real x => .real x.normal

/-- Numbers are the same when their normal forms are. -/
theorem Number.same_iff (x y : Number) : x.same y = true ↔ x.normal = y.normal := by
  cases x <;> cases y <;> simp [Number.same, Number.normal, Decimal.Binary64.same_iff]

mutual

/-- The document with the sign of every zero left out. -/
def normal : Json → Json
  | .null => .null
  | .bool b => .bool b
  | .num n => .num n.normal
  | .str s => .str s
  | .arr items => .arr (normalItems items)
  | .obj fields => .obj (normalFields fields)

/-- `normal` on the items of an array. -/
def normalItems : List Json → List Json
  | [] => []
  | x :: xs => normal x :: normalItems xs

/-- `normal` on the values of an object. -/
def normalFields : List (String × Json) → List (String × Json)
  | [] => []
  | (key, x) :: more => (key, normal x) :: normalFields more

end

mutual

/-- Documents are equal exactly when their normal forms are the same. -/
theorem same_iff (x y : Json) : x.same y = true ↔ x.normal = y.normal := by
  cases x with
  | arr items =>
    cases y with
    | arr items' => simp only [same, normal, arr.injEq, sameItems_iff items items']
    | _ => simp [same, normal]
  | obj fields =>
    cases y with
    | obj fields' => simp only [same, normal, obj.injEq, sameFields_iff fields fields']
    | _ => simp [same, normal]
  | num n => cases y <;> simp [same, normal, Number.same_iff]
  | _ => cases y <;> simp [same, normal]

/-- `same_iff` on the items of arrays. -/
theorem sameItems_iff (xs ys : List Json) :
    sameItems xs ys = true ↔ normalItems xs = normalItems ys := by
  cases xs with
  | nil => cases ys <;> simp [sameItems, normalItems]
  | cons x xs =>
    cases ys with
    | nil => simp [sameItems, normalItems]
    | cons y ys =>
      simp only [sameItems, normalItems, Bool.and_eq_true, List.cons.injEq, same_iff x y,
        sameItems_iff xs ys]

/-- `same_iff` on the fields of objects. -/
theorem sameFields_iff (xs ys : List (String × Json)) :
    sameFields xs ys = true ↔ normalFields xs = normalFields ys := by
  cases xs with
  | nil => cases ys <;> simp [sameFields, normalFields]
  | cons field xs =>
    obtain ⟨key, x⟩ := field
    cases ys with
    | nil => simp [sameFields, normalFields]
    | cons field' ys =>
      obtain ⟨key', y⟩ := field'
      simp only [sameFields, normalFields, Bool.and_eq_true, beq_iff_eq, List.cons.injEq,
        Prod.mk.injEq, same_iff x y, sameFields_iff xs ys]

end

end Json

end Parley
