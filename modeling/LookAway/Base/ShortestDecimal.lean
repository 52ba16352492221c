/-
  `repr` of a float: the shortest decimal that reads back as it. Nothing here names a program.

  `FloatFormat.round_shortest`: the decimal is rounded to the number it is the text of.
-/
import LookAway.Base.BinaryFloat
import LookAway.Base.Decimal

namespace LookAway.Base

/-- `d.1 * 10 ^ d.2` -/
def decimalValue (d : ℕ × ℤ) : ℚ := d.1 * 10 ^ d.2

/-- `m * 10 ^ e`, with `10` written as one digit. -/
def decimalOf (m : ℕ) (e : ℤ) : ℕ × ℤ := if m = 10 then (1, e + 1) else (m, e)

theorem decimalValue_decimalOf (m : ℕ) (e : ℤ) : decimalValue (decimalOf m e) = m * 10 ^ e := by
  unfold decimalValue decimalOf
  split
  · rename_i h
    rw [h, zpow_add₀ (by norm_num), zpow_one, Nat.cast_one, Nat.cast_ofNat]
    ring
  · rfl

/-- The two decimals of `n` digits around `x`, the closer one first. -/
def neighbours (x : ℚ) (n : ℕ) : List (ℕ × ℤ) :=
  let e := Int.log 10 x + 1 - n
  let scaled := x / 10 ^ e
  let closest := roundHalfEven scaled
  let other := if closest = ⌊scaled⌋ then ⌊scaled⌋ + 1 else ⌊scaled⌋
  [decimalOf closest.toNat e, decimalOf other.toNat e]

namespace FloatFormat

variable {f : FloatFormat}

/-- A decimal of `n` digits that reads as `x`. -/
def readsWith? (f : FloatFormat) (x : ℚ) (n : ℕ) : Option (ℕ × ℤ) :=
  (neighbours x n).find? fun d => f.round (decimalValue d) == x

/-- With so many digits every number of the format is written exactly. -/
def exactDigits (f : FloatFormat) : ℕ := (f.precision + f.maxExp - f.minExp).toNat

/-- The shortest decimal that reads as `x`, for a positive `x` of the format. -/
def shortest (f : FloatFormat) (x : ℚ) : ℕ × ℤ :=
  ((List.range' 1 f.exactDigits).findSome? (f.readsWith? x)).getD (0, 0)

/-! ## It is found -/

section Exact

variable {x : ℚ}

/-- A number of the format is a multiple of `10 ^ minExp`. -/
theorem div_pow_natCast (hmin : f.minExp ≤ 0) (hx : f.round x = x) (hpos : 0 < x) :
    ∃ k : ℕ, x / 10 ^ f.minExp = k := by
  have hunit : f.minExp ≤ f.unitExp x := le_max_right _ _
  obtain ⟨j, hj⟩ := Int.eq_ofNat_of_zero_le (sub_nonneg.mpr hunit)
  obtain ⟨i, hi⟩ := Int.eq_ofNat_of_zero_le (neg_nonneg.mpr hmin)
  have hvalue : x / 10 ^ f.minExp =
      ((roundHalfEven (x / 2 ^ f.unitExp x) * (5 ^ i * 2 ^ j) : ℤ) : ℚ) := by
    calc x / 10 ^ f.minExp
        = roundHalfEven (x / 2 ^ f.unitExp x) * 2 ^ f.unitExp x * 10 ^ (i : ℤ) := by
          nth_rewrite 1 [← hx]
          rw [← hi, zpow_neg, div_eq_mul_inv]
          rfl
      _ = roundHalfEven (x / 2 ^ f.unitExp x) *
            (5 ^ i * (2 ^ f.unitExp x * 2 ^ (-f.minExp))) := by
          rw [hi, zpow_natCast, zpow_natCast, show (10 : ℚ) = 5 * 2 by norm_num, mul_pow]
          ring
      _ = _ := by
          rw [← zpow_add₀ two_ne_zero, show f.unitExp x + -f.minExp = (j : ℤ) by omega,
            zpow_natCast]
          push_cast
          rfl
  have hnonneg : (0 : ℚ) ≤ x / 10 ^ f.minExp :=
    div_nonneg hpos.le (zpow_nonneg (by norm_num) _)
  rw [hvalue] at hnonneg ⊢
  obtain ⟨k, hk⟩ := Int.eq_ofNat_of_zero_le (by exact_mod_cast hnonneg)
  exact ⟨k, congrArg _ hk⟩

/-- With the number of digits that ends at that unit the decimal is exact. -/
theorem readsWith?_exact (hmin : f.minExp ≤ 0) (hx : f.round x = x) (hpos : 0 < x) {n : ℕ}
    (hn : Int.log 10 x + 1 - n = f.minExp) : (f.readsWith? x n).isSome = true := by
  obtain ⟨k, hk⟩ := div_pow_natCast hmin hx hpos
  have hten : (10 : ℚ) ^ f.minExp ≠ 0 := zpow_ne_zero _ (by norm_num)
  have hscaled : x / 10 ^ f.minExp = ((k : ℤ) : ℚ) := hk
  have hclosest : decimalValue (decimalOf (roundHalfEven (x / 10 ^ f.minExp)).toNat f.minExp) =
      x := by
    rw [decimalValue_decimalOf, hscaled, roundHalfEven_intCast, Int.toNat_natCast, ← hk,
      div_mul_cancel₀ x hten]
  unfold readsWith? neighbours
  dsimp only
  rw [hn, List.find?_cons_of_pos]
  · rfl
  · rw [hclosest, hx]
    exact beq_self_eq_true x

/-- The magnitudes of the numbers of the format. -/
theorem log_bounds (hmin : f.minExp ≤ 0) (hmax : 0 ≤ f.precision + f.maxExp) (hx : f.round x = x)
    (hpos : 0 < x) (hle : x ≤ f.largest) :
    f.minExp ≤ Int.log 10 x ∧ Int.log 10 x < f.precision + f.maxExp := by
  constructor
  · obtain ⟨k, hk⟩ := div_pow_natCast hmin hx hpos
    have hten : (0 : ℚ) < 10 ^ f.minExp := zpow_pos (by norm_num) _
    have hk0 : (0 : ℚ) < k := hk ▸ div_pos hpos hten
    have hk1 : (1 : ℚ) ≤ k := by exact_mod_cast hk0
    apply (Int.zpow_le_iff_le_log (by decide) hpos).mp
    rw [← hk, one_le_div hten] at hk1
    exact_mod_cast hk1
  · apply (Int.lt_zpow_iff_log_lt (by decide) hpos).mp
    calc x ≤ f.largest := hle
      _ < 2 ^ f.precision * 2 ^ f.maxExp :=
          mul_lt_mul_of_pos_right (sub_one_lt _) (zpow_pos two_pos _)
      _ = 2 ^ (f.precision + f.maxExp) := by rw [zpow_add₀ two_ne_zero, zpow_natCast]
      _ ≤ ((10 : ℕ) : ℚ) ^ (f.precision + f.maxExp) :=
          zpow_le_zpow_left₀ hmax two_pos.le (by norm_num)

/-- The decimal reads as the number. -/
theorem round_shortest (hmin : f.minExp ≤ 0) (hmax : 0 ≤ f.precision + f.maxExp)
    (hx : f.round x = x) (hpos : 0 < x) (hle : x ≤ f.largest) :
    f.round (decimalValue (f.shortest x)) = x := by
  obtain ⟨hlow, hhigh⟩ := log_bounds hmin hmax hx hpos hle
  obtain ⟨n, hn⟩ := Int.eq_ofNat_of_zero_le (show 0 ≤ Int.log 10 x + 1 - f.minExp by omega)
  have hmem : n ∈ List.range' 1 f.exactDigits := by
    rw [List.mem_range'_1]
    unfold exactDigits
    omega
  have hsome : ((List.range' 1 f.exactDigits).findSome? (f.readsWith? x)).isSome = true :=
    List.findSome?_isSome_iff.mpr ⟨n, hmem, readsWith?_exact hmin hx hpos (by omega)⟩
  obtain ⟨d, hd⟩ := Option.isSome_iff_exists.mp hsome
  obtain ⟨m, -, hm⟩ := List.exists_of_findSome?_eq_some hd
  unfold shortest
  rw [hd]
  exact beq_iff_eq.mp (List.find?_some (p := fun d => f.round (decimalValue d) == x) hm)

theorem shortest_pos (hpos : 0 < x) (h : f.round (decimalValue (f.shortest x)) = x) :
    0 < (f.shortest x).1 := by
  have hzero : f.round 0 = 0 := round_of_multiple (k := 0) (by simp)
  refine Nat.pos_of_ne_zero fun hm => hpos.ne ?_
  rw [decimalValue, hm, Nat.cast_zero, zero_mul, hzero] at h
  exact h

end Exact

end FloatFormat

/-! ## The text -/

/-- `e+16`, `e-05` -/
def exponentText (e : ℤ) : List Char :=
  'e' :: (if e < 0 then '-' else '+') :: padDigits 2 e.natAbs

/-- The digits after the point, if there are any. -/
def fractionText (digits : List Char) : List Char := if digits = [] then [] else '.' :: digits

/-- `0.digits * 10 ^ point`: in positional notation from `1e-04` to below `1e+16`. -/
def pointText (digits : List Char) (point : ℤ) : List Char :=
  if point ≤ -4 ∨ 16 < point then
    digits.take 1 ++ (fractionText (digits.drop 1) ++ exponentText (point - 1))
  else if point ≤ 0 then
    '0' :: '.' :: (List.replicate (-point).toNat '0' ++ digits)
  else if digits.length ≤ point then
    digits ++ (List.replicate (point - digits.length).toNat '0' ++ ['.', '0'])
  else digits.take point.toNat ++ '.' :: digits.drop point.toNat

/-- `repr(x)`, for a float of double precision that is not negative. -/
def unsignedText (x : ℚ) : List Char :=
  if x = 0 then ['0', '.', '0']
  else
    let digits := Nat.toDigits 10 (binary64.shortest x).1
    pointText digits ((binary64.shortest x).2 + digits.length)

/-- `repr` of the float `x`, or of `-x`. -/
def floatText (negative : Bool) (x : ℚ) : String :=
  String.ofList (if negative then '-' :: unsignedText x else unsignedText x)

example : [0, 1, 3 / 2, 10 ^ 16, 1 / 10 ^ 5, 123456].map
    (fun x => floatText false (binary64.round x)) =
    ["0.0", "1.0", "1.5", "1e+16", "1e-05", "123456.0"] := by decide +kernel

end LookAway.Base
