/-
  The arithmetic on the coordinates of a box.

  `Evaluated` is that of the scripts: an expression over ints and floats gives a number or raises.
  The definitions of Geometry that only compute with coordinates are over any `Coordinate`, so that
  the search for a negative window can also be read over the rationals, where nothing is rounded
  and nothing raises.
-/
import Mathlib.Data.Rat.Floor
import LookAway.Data.Rows

namespace LookAway.Data

open LookAway.Base

def PyError.ofNumber : NumberError → PyError
  | .overflow text => .library "OverflowError" text
  | .zeroDivision text => .library "ZeroDivisionError" text
  | .value text => .valueError text

/-- The arithmetic of a box's coordinates. -/
class Coordinate (α : Type) extends Add α, Sub α, Mul α, Div α, Max α, Min α, IntCast α where
  /-- A float as it is written. -/
  literal : ℚ → α
  /-- `x if c else y` -/
  ifTruthy (c x y : α) : α
  /-- `a < b` -/
  lt (a b : α) : Except PyError Bool

instance : Coordinate ℚ where
  literal q := q
  ifTruthy c x y := if c = 0 then y else x
  lt a b := .ok (decide (a < b))

/-! ## Python's -/

/-- What the evaluation of an expression gives: a number, or what it raises. -/
abbrev Evaluated := Except PyError PyNumber

namespace Evaluated

/-- An operator, its operands evaluated from left to right. -/
def operator (f : PyNumber → PyNumber → Except NumberError PyNumber) (a b : Evaluated) :
    Evaluated := do
  let x ← a
  let y ← b
  (f x y).mapError PyError.ofNumber

instance : Coordinate Evaluated where
  add := operator PyNumber.add
  sub := operator PyNumber.sub
  mul := operator PyNumber.mul
  div := operator PyNumber.div
  max := operator fun x y => .ok (x.max y)
  min := operator fun x y => .ok (x.min y)
  intCast n := .ok (.int n)
  literal q := .ok (.float (Binary64.ofRat q))
  ifTruthy c x y := do
    let v ← c
    if v.truthy then x else y
  lt a b := do
    let x ← a
    let y ← b
    return x.lt y

/-- `int(x)` -/
def toInt (a : Evaluated) : Except PyError ℤ := do
  let x ← a
  x.toInt.mapError PyError.ofNumber

@[simp] theorem intCast_eq (n : ℤ) : (n : Evaluated) = .ok (.int n) := rfl

@[simp] theorem int_add (a b : ℤ) :
    (.ok (.int a) + .ok (.int b) : Evaluated) = .ok (.int (a + b)) := rfl

@[simp] theorem int_sub (a b : ℤ) :
    (.ok (.int a) - .ok (.int b) : Evaluated) = .ok (.int (a - b)) := rfl

end Evaluated

end LookAway.Data
