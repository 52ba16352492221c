/-
  Rounding to a binary floating-point format, half to even, over the rationals.

  A value is rounded to a multiple of the unit in the last place of its binade
  (`FloatFormat.round`), which is never below the unit of the subnormal numbers. Up to
  `2 ^ precision` units are kept (`round_units`), so a rounded value is a number of the format
  (`round_round`), and so is a natural number up to `2 ^ precision` (`round_natCast`).
-/
import Mathlib.Data.Int.Log
import Mathlib.Data.Rat.Floor
import Mathlib.Tactic.Linarith
import Mathlib.Tactic.NormNum
import Mathlib.Tactic.Positivity

namespace LookAway.Base

/-- The closest integer, the even one of two that are equally close. -/
def roundHalfEven (x : ℚ) : ℤ :=
  if x - ⌊x⌋ < 1 / 2 then ⌊x⌋
  else if 1 / 2 < x - ⌊x⌋ then ⌊x⌋ + 1
  else if ⌊x⌋ % 2 = 0 then ⌊x⌋ else ⌊x⌋ + 1

theorem roundHalfEven_intCast (n : ℤ) : roundHalfEven n = n := by
  unfold roundHalfEven
  rw [Int.floor_intCast, sub_self, if_pos (by norm_num)]

theorem roundHalfEven_nonneg {x : ℚ} (h : 0 ≤ x) : 0 ≤ roundHalfEven x := by
  have hfloor : 0 ≤ ⌊x⌋ := Int.floor_nonneg.mpr h
  unfold roundHalfEven
  split
  · exact hfloor
  · split
    · omega
    · split <;> omega

/-- Rounding does not pass an integer. -/
theorem roundHalfEven_le {x : ℚ} {n : ℤ} (h : x ≤ n) : roundHalfEven x ≤ n := by
  rcases h.lt_or_eq with hlt | rfl
  · have hfloor : ⌊x⌋ < n := Int.floor_lt.mpr hlt
    unfold roundHalfEven
    split
    · omega
    · split
      · omega
      · split <;> omega
  · rw [roundHalfEven_intCast]

theorem le_roundHalfEven {x : ℚ} {n : ℤ} (h : (n : ℚ) ≤ x) : n ≤ roundHalfEven x := by
  have hfloor : n ≤ ⌊x⌋ := Int.le_floor.mpr h
  unfold roundHalfEven
  split
  · exact hfloor
  · split
    · omega
    · split <;> omega

/-- A bound of the absolute value is kept. -/
theorem abs_roundHalfEven_le {x : ℚ} {n : ℤ} (h : |x| ≤ n) : |roundHalfEven x| ≤ n := by
  obtain ⟨hlow, hhigh⟩ := abs_le.mp h
  exact abs_le.mpr ⟨le_roundHalfEven (by push_cast; exact hlow), roundHalfEven_le hhigh⟩

/-- `precision` digits of the significand; the exponents are those of the last digit. -/
structure FloatFormat where
  precision : ℕ
  minExp : ℤ
  maxExp : ℤ

def binary32 : FloatFormat := ⟨24, -149, 104⟩

def binary64 : FloatFormat := ⟨53, -1074, 971⟩

namespace FloatFormat

variable {f : FloatFormat}

/-- The exponent of the last digit of `x`. -/
def unitExp (f : FloatFormat) (x : ℚ) : ℤ := max (Int.log 2 |x| - (f.precision - 1)) f.minExp

/-- `x`, rounded as if there were no largest number. -/
def round (f : FloatFormat) (x : ℚ) : ℚ :=
  roundHalfEven (x / 2 ^ f.unitExp x) * 2 ^ f.unitExp x

/-- The largest number of the format. -/
def largest (f : FloatFormat) : ℚ := (2 ^ f.precision - 1) * 2 ^ f.maxExp

/-- The number a value is rounded to, if it is finite. -/
def finite? (f : FloatFormat) (x : ℚ) : Option ℚ :=
  if f.largest < |f.round x| then none else some (f.round x)

theorem round_of_multiple {x : ℚ} {k : ℤ} (h : x = k * 2 ^ f.unitExp x) : f.round x = x := by
  have hunit : (2 : ℚ) ^ f.unitExp x ≠ 0 := zpow_ne_zero _ two_ne_zero
  have hquot : x / 2 ^ f.unitExp x = k := by
    rw [div_eq_iff hunit]
    exact h
  unfold round
  rw [hquot, roundHalfEven_intCast]
  exact h.symm

/-- A multiple of a larger unit is a multiple of the own one. -/
theorem round_of_multiple_ge {x : ℚ} {n v : ℤ} (h : x = n * 2 ^ v) (hv : f.unitExp x ≤ v) :
    f.round x = x := by
  obtain ⟨j, hj⟩ := Int.eq_ofNat_of_zero_le (sub_nonneg.mpr hv)
  apply round_of_multiple (k := n * 2 ^ j)
  have hpow : (2 : ℚ) ^ v = 2 ^ j * 2 ^ f.unitExp x := by
    rw [← zpow_natCast, ← zpow_add₀ two_ne_zero, show (j : ℤ) + f.unitExp x = v by omega]
  push_cast
  rw [mul_assoc, ← hpow]
  exact h

/-- A value has at most `2 ^ precision` of its units. -/
theorem abs_lt_units (f : FloatFormat) (x : ℚ) : |x| < 2 ^ (f.precision + f.unitExp x) := by
  have hunit : Int.log 2 |x| - (f.precision - 1) ≤ f.unitExp x := le_max_left _ _
  exact (Int.lt_zpow_succ_log_self (b := 2) (by decide) |x|).trans_le
    (zpow_le_zpow_right₀ one_le_two (by omega))

theorem exists_round_eq (f : FloatFormat) (x : ℚ) :
    ∃ n : ℤ, |n| ≤ 2 ^ f.precision ∧ f.round x = n * 2 ^ f.unitExp x := by
  have hunit : (0 : ℚ) < 2 ^ f.unitExp x := zpow_pos two_pos _
  have hscaled : |x / 2 ^ f.unitExp x| ≤ ((2 ^ f.precision : ℤ) : ℚ) := by
    rw [abs_div, abs_of_pos hunit, div_le_iff₀ hunit]
    push_cast
    rw [← zpow_natCast, ← zpow_add₀ two_ne_zero]
    exact (abs_lt_units f x).le
  exact ⟨roundHalfEven (x / 2 ^ f.unitExp x), abs_roundHalfEven_le hscaled, rfl⟩

/-- Fewer than `2 ^ precision` units do not need a larger one. -/
theorem round_units_of_lt {n u : ℤ} (hu : f.minExp ≤ u) (hn : |n| < 2 ^ f.precision) :
    f.round (n * 2 ^ u) = n * 2 ^ u := by
  have hpos : (0 : ℚ) < 2 ^ u := zpow_pos two_pos _
  rcases eq_or_ne n 0 with rfl | hzero
  · exact round_of_multiple (k := 0) (by simp)
  · have hsize : |(n : ℚ) * 2 ^ u| = |n| * 2 ^ u := by
      rw [abs_mul, abs_of_pos hpos, Int.cast_abs]
    have hbelow : |(n : ℚ) * 2 ^ u| < 2 ^ (f.precision + u) := by
      rw [hsize, zpow_add₀ two_ne_zero, zpow_natCast]
      exact mul_lt_mul_of_pos_right (by exact_mod_cast hn) hpos
    have hlog : Int.log 2 |(n : ℚ) * 2 ^ u| < f.precision + u :=
      (Int.lt_zpow_iff_log_lt (b := 2) (by decide) (by positivity)).mp (by exact_mod_cast hbelow)
    exact round_of_multiple_ge rfl (max_le (by omega) hu)

/-- As many units as the significand counts are kept. -/
theorem round_units (hp : 0 < f.precision) {n u : ℤ} (hu : f.minExp ≤ u)
    (hn : |n| ≤ 2 ^ f.precision) : f.round (n * 2 ^ u) = n * 2 ^ u := by
  rcases hn.lt_or_eq with hlt | heq
  · exact round_units_of_lt hu hlt
  · -- half as many units of twice the size
    obtain ⟨m, hm, rfl⟩ : ∃ m : ℤ, |m| < 2 ^ f.precision ∧ n = m * 2 := by
      have htwice : (2 : ℤ) ^ f.precision = 2 ^ (f.precision - 1) * 2 := by
        rw [← pow_succ, Nat.sub_add_cancel hp]
      have hhalf : (0 : ℤ) < 2 ^ (f.precision - 1) := by positivity
      rcases eq_or_eq_neg_of_abs_eq heq with h | h
      · exact ⟨2 ^ (f.precision - 1), by rw [abs_of_pos hhalf]; omega, by omega⟩
      · exact ⟨-2 ^ (f.precision - 1), by rw [abs_neg, abs_of_pos hhalf]; omega, by omega⟩
    have hdouble : ((m * 2 : ℤ) : ℚ) * 2 ^ u = m * 2 ^ (u + 1) := by
      rw [zpow_add_one₀ two_ne_zero]
      push_cast
      ring
    rw [hdouble]
    exact round_units_of_lt (by omega) hm

/-- A rounded value is a number of the format. -/
theorem round_round (hp : 0 < f.precision) (x : ℚ) : f.round (f.round x) = f.round x := by
  obtain ⟨n, hn, hround⟩ := exists_round_eq f x
  rw [hround]
  exact round_units hp (le_max_right _ _) hn

theorem round_nonneg {x : ℚ} (h : 0 ≤ x) : 0 ≤ f.round x := by
  have hunit : (0 : ℚ) < 2 ^ f.unitExp x := zpow_pos two_pos _
  have hround : 0 ≤ roundHalfEven (x / 2 ^ f.unitExp x) :=
    roundHalfEven_nonneg (div_nonneg h hunit.le)
  unfold round
  exact mul_nonneg (by exact_mod_cast hround) hunit.le

/-- Up to `2 ^ precision` natural numbers are kept. -/
theorem round_natCast (hmin : f.minExp ≤ 0) (hp : 0 < f.precision) {n : ℕ}
    (h : n ≤ 2 ^ f.precision) : f.round n = n := by
  have hunits := round_units hp hmin (n := n) (by rw [Nat.abs_cast]; exact_mod_cast h)
  simpa using hunits

end FloatFormat

/-- The double closest to `x`. The operations of double precision are the exact ones, rounded. -/
def dbl (x : ℚ) : ℚ := binary64.round x

end LookAway.Base
