import AbiDoc.Assoc
import AbiDoc.Binary64

/-!
# JSON values

The documents that are merged hold arbitrary JSON.  Objects keep the order of their members, whole
numbers are unbounded, and numbers with a fraction or an exponent are double-precision ones.

Two equalities are defined.  Equality of values (`=`, decidable) tells `true` from `1` and sees the
order of members.  `Json.same` is the equality by which documents are compared: numbers by their
value, whatever their form, with `true` and `false` as one and zero, and objects without order.
-/

namespace AbiDoc

/-- A JSON value. -/
inductive Json where
  | null
  | bool (b : Bool)
  | int (n : Int)
  | float (x : Binary64)
  | str (s : String)
  | arr (items : List Json)
  | obj (members : List (String × Json))
  deriving Repr, Inhabited

namespace Json

mutual

/-- Decides equality of values. -/
def beq : Json → Json → Bool
  | .null, .null => true
  | .bool b, .bool c => b == c
  | .int m, .int n => m == n
  | .float x, .float y => x == y
  | .str s, .str t => s == t
  | .arr xs, .arr ys => beqItems xs ys
  | .obj xs, .obj ys => beqMembers xs ys
  | _, _ => false
termination_by structural value => value

/-- Decides equality of lists of values. -/
def beqItems : List Json → List Json → Bool
  | [], [] => true
  | x :: xs, y :: ys => beq x y && beqItems xs ys
  | _, _ => false
termination_by structural items => items

/-- Decides equality of lists of members. -/
def beqMembers : List (String × Json) → List (String × Json) → Bool
  | [], [] => true
  | (k, x) :: xs, (l, y) :: ys => k == l && beq x y && beqMembers xs ys
  | _, _ => false
termination_by structural members => members

end

mutual

theorem beq_self : (x : Json) → beq x x = true
  | .null => by simp [beq]
  | .bool _ => by simp [beq]
  | .int _ => by simp [beq]
  | .float _ => by simp [beq]
  | .str _ => by simp [beq]
  | .arr xs => by simpa [beq] using beqItems_self xs
  | .obj xs => by simpa [beq] using beqMembers_self xs
termination_by structural x => x

theorem beqItems_self : (xs : List Json) → beqItems xs xs = true
  | [] => rfl
  | x :: xs => by simp [beqItems, beq_self x, beqItems_self xs]
termination_by structural xs => xs

theorem beqMembers_self : (xs : List (String × Json)) → beqMembers xs xs = true
  | [] => rfl
  | (_, x) :: xs => by simp [beqMembers, beq_self x, beqMembers_self xs]
termination_by structural xs => xs

end

mutual

theorem eq_of_beq : (x y : Json) → beq x y = true → x = y
  | .null, y, h => by cases y <;> simp_all [beq]
  | .bool _, y, h => by cases y <;> simp_all [beq]
  | .int _, y, h => by cases y <;> simp_all [beq]
  | .float _, y, h => by cases y <;> simp_all [beq]
  | .str _, y, h => by cases y <;> simp_all [beq]
  | .arr xs, .arr ys, h => by rw [eq_of_beqItems xs ys (by simpa [beq] using h)]
  | .obj xs, .obj ys, h => by rw [eq_of_beqMembers xs ys (by simpa [beq] using h)]
  | .arr _, .null, h | .arr _, .bool _, h | .arr _, .int _, h | .arr _, .float _, h
  | .arr _, .str _, h | .arr _, .obj _, h => by simp [beq] at h
  | .obj _, .null, h | .obj _, .bool _, h | .obj _, .int _, h | .obj _, .float _, h
  | .obj _, .str _, h | .obj _, .arr _, h => by simp [beq] at h
termination_by structural x => x

theorem eq_of_beqItems : (xs ys : List Json) → beqItems xs ys = true → xs = ys
  | [], [], _ => rfl
  | x :: xs, y :: ys, h => by
    simp only [beqItems, Bool.and_eq_true] at h
    rw [eq_of_beq x y h.1, eq_of_beqItems xs ys h.2]
  | [], _ :: _, h | _ :: _, [], h => by simp [beqItems] at h
termination_by structural xs => xs

theorem eq_of_beqMembers : (xs ys : List (String × Json)) → beqMembers xs ys = true → xs = ys
  | [], [], _ => rfl
  | (k, x) :: xs, (l, y) :: ys, h => by
    simp only [beqMembers, Bool.and_eq_true, beq_iff_eq] at h
    rw [h.1.1, eq_of_beq x y h.1.2, eq_of_beqMembers xs ys h.2]
  | [], _ :: _, h | _ :: _, [], h => by simp [beqMembers] at h
termination_by structural xs => xs

end

instance : DecidableEq Json := fun x y =>
  if h : beq x y = true then .isTrue (eq_of_beq x y h)
  else .isFalse fun heq => h (heq ▸ beq_self x)

/-- A value that counts as given: all but null, false, zero and what is empty. -/
def truthy : Json → Bool
  | .null => false
  | .bool b => b
  | .int n => n != 0
  | .float x => !x.isZero
  | .str s => s != ""
  | .arr items => !items.isEmpty
  | .obj members => !members.isEmpty

/-- Equality of numbers by value; a truth value counts as one or zero. -/
def sameNumber : Json → Json → Bool
  | .bool b, .bool c => b == c
  | .bool b, .int n => (b.toNat : Int) == n
  | .bool b, .float x => x.eqInt b.toNat
  | .int n, .bool b => (b.toNat : Int) == n
  | .int m, .int n => m == n
  | .int n, .float x => x.eqInt n
  | .float x, .bool b => x.eqInt b.toNat
  | .float x, .int n => x.eqInt n
  | .float x, .float y => x == y || (x.isZero && y.isZero)
  | _, _ => false

mutual

/-- The equality by which documents are compared: numbers by value, objects without order. -/
def same : Json → Json → Bool
  | .null, .null => true
  | .str s, .str t => s == t
  | .arr xs, .arr ys => sameItems xs ys
  | .obj xs, .obj ys => xs.length == ys.length && sameMembers xs ys
  | x, y => sameNumber x y
termination_by structural value => value

/-- Lists are compared item by item. -/
def sameItems : List Json → List Json → Bool
  | [], [] => true
  | x :: xs, y :: ys => same x y && sameItems xs ys
  | _, _ => false
termination_by structural items => items

/-- Every member on the left has its key and a same value on the right. -/
def sameMembers : List (String × Json) → List (String × Json) → Bool
  | [], _ => true
  | (key, x) :: xs, ys =>
    (match Assoc.find? key ys with
      | some y => same x y
      | none => false) && sameMembers xs ys
termination_by structural members => members

end

end Json

end AbiDoc
