/-
  The numbers of Python: integers without bound, and floats as doubles.

  `+`, `-` and `*` are exact on integers; as soon as one operand is a float the other becomes one,
  and the result is rounded (`Binary64`). `/` is always a float. What raises are an integer that is
  too large for a float, and a division by zero. Two numbers are compared by their values, and
  nothing compares with NaN. The sign of a zero is left out: only a division by it could show it,
  and that raises.
-/
import LookAway.Base.BinaryFloat

namespace LookAway.Base

/-! ## Doubles -/

/-- A double: a number of the format, an infinity, or NaN. -/
inductive Binary64 where
  | finite (x : {x : ℚ // binary64.finite? x = some x})
  | infinite (negative : Bool)
  | nan
  deriving DecidableEq

/-- What a value is rounded to is a number of the format. -/
theorem finite?_of_finite? {x y : ℚ} (h : binary64.finite? x = some y) :
    binary64.finite? y = some y := by
  unfold FloatFormat.finite? at h ⊢
  split at h
  · cases h
  · rename_i hle
    cases h
    rw [FloatFormat.round_round (by decide), if_neg hle]

namespace Binary64

/-- The double closest to a value; beyond the largest one it is an infinity. -/
def ofRat (x : ℚ) : Binary64 :=
  match h : binary64.finite? x with
  | some y => .finite ⟨y, finite?_of_finite? h⟩
  | none => .infinite (decide (x < 0))

def add : Binary64 → Binary64 → Binary64
  | .finite x, .finite y => ofRat (x.1 + y.1)
  | .nan, _ => .nan
  | _, .nan => .nan
  | .infinite s, .infinite t => if s = t then .infinite s else .nan
  | .infinite s, .finite _ => .infinite s
  | .finite _, .infinite t => .infinite t

def sub : Binary64 → Binary64 → Binary64
  | .finite x, .finite y => ofRat (x.1 - y.1)
  | .nan, _ => .nan
  | _, .nan => .nan
  | .infinite s, .infinite t => if s = t then .nan else .infinite s
  | .infinite s, .finite _ => .infinite s
  | .finite _, .infinite t => .infinite (!t)

/-- The sign is negative. -/
def isNegative : Binary64 → Bool
  | .finite x => decide (x.1 < 0)
  | .infinite s => s
  | .nan => false

def isZero : Binary64 → Bool
  | .finite x => decide (x.1 = 0)
  | _ => false

def mul : Binary64 → Binary64 → Binary64
  | .finite x, .finite y => ofRat (x.1 * y.1)
  | .nan, _ => .nan
  | _, .nan => .nan
  | x, y =>
      if x.isZero || y.isZero then .nan else .infinite (x.isNegative != y.isNegative)

/-- `x / y`, for a `y` that is not zero. -/
def div : Binary64 → Binary64 → Binary64
  | .finite x, .finite y => ofRat (x.1 / y.1)
  | .nan, _ => .nan
  | _, .nan => .nan
  | .finite _, .infinite _ => ofRat 0
  | .infinite _, .infinite _ => .nan
  | .infinite s, .finite y => .infinite (s != decide (y.1 < 0))

end Binary64

/-! ## Numbers -/

/-- What arithmetic raises. -/
inductive NumberError where
  | overflow (text : String)
  | zeroDivision (text : String)
  | value (text : String)
  deriving DecidableEq

/-- An int or a float. -/
inductive PyNumber where
  | int (n : ℤ)
  | float (x : Binary64)
  deriving DecidableEq

instance (n : ℕ) : OfNat PyNumber n := ⟨.int n⟩

namespace PyNumber

/-- `float(x)` -/
def toFloat : PyNumber → Except NumberError Binary64
  | .int n =>
      match Binary64.ofRat n with
      | .finite x => .ok (.finite x)
      | _ => .error (.overflow "int too large to convert to float")
  | .float x => .ok x

/-- An operator that keeps integers. -/
def arith (onInts : ℤ → ℤ → ℤ) (onFloats : Binary64 → Binary64 → Binary64) :
    PyNumber → PyNumber → Except NumberError PyNumber
  | .int a, .int b => .ok (.int (onInts a b))
  | a, b => do
      let x ← a.toFloat
      let y ← b.toFloat
      return .float (onFloats x y)

def add : PyNumber → PyNumber → Except NumberError PyNumber := arith (· + ·) Binary64.add

def sub : PyNumber → PyNumber → Except NumberError PyNumber := arith (· - ·) Binary64.sub

def mul : PyNumber → PyNumber → Except NumberError PyNumber := arith (· * ·) Binary64.mul

/-- `a / b`. The quotient of two integers is rounded once. -/
def div : PyNumber → PyNumber → Except NumberError PyNumber
  | .int a, .int b =>
      if b = 0 then .error (.zeroDivision "division by zero")
      else
        match Binary64.ofRat (a / b) with
        | .finite x => .ok (.float (.finite x))
        | _ => .error (.overflow "integer division result too large for a float")
  | a, b => do
      let x ← a.toFloat
      let y ← b.toFloat
      if y.isZero then .error (.zeroDivision "float division by zero")
      else return .float (x.div y)

/-- `bool(x)` -/
def truthy : PyNumber → Bool
  | .int n => decide (n ≠ 0)
  | .float x => !x.isZero

/-- The value, with its infinities; NaN has none. -/
def value? : PyNumber → Option (WithBot (WithTop ℚ))
  | .int n => some ((n : ℚ) : WithTop ℚ)
  | .float (.finite x) => some (x.1 : WithTop ℚ)
  | .float (.infinite false) => some (⊤ : WithTop ℚ)
  | .float (.infinite true) => some ⊥
  | .float .nan => none

/-- `a < b` -/
def lt (a b : PyNumber) : Bool :=
  match a.value?, b.value? with
  | some x, some y => decide (x < y)
  | _, _ => false

/-- `max(a, b)` -/
def max (a b : PyNumber) : PyNumber := if a.lt b then b else a

/-- `min(a, b)` -/
def min (a b : PyNumber) : PyNumber := if b.lt a then b else a

/-- `int(x)`: toward zero. -/
def toInt : PyNumber → Except NumberError ℤ
  | .int n => .ok n
  | .float (.finite x) => .ok (if 0 ≤ x.1 then ⌊x.1⌋ else ⌈x.1⌉)
  | .float (.infinite _) => .error (.overflow "cannot convert float infinity to integer")
  | .float .nan => .error (.value "cannot convert float NaN to integer")

end PyNumber

end LookAway.Base
