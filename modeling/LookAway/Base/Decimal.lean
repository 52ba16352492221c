/-
  Decimal texts: zero-padded integers as in a `0wd` format, and the text of an integer.
  `zeroPadded_injective`: two integers with one zero-padded text are equal.
-/
import Mathlib.Data.Int.Basic
import Mathlib.Logic.Function.Basic
import Mathlib.Tactic.Common

namespace LookAway.Base

/-- The digits of `n`, padded with zeros on the left to `width` characters. -/
def padDigits (width n : ℕ) : List Char :=
  List.replicate (width - (Nat.toDigits 10 n).length) '0' ++ Nat.toDigits 10 n

/-- `f"{n:0{width}d}"`: the sign counts towards the width. -/
def zeroPadded (width : ℕ) : ℤ → String
  | .ofNat n => String.ofList (padDigits width n)
  | .negSucc n => String.ofList ('-' :: padDigits (width - 1) (n + 1))

theorem ofDigitChars_padDigits (width n : ℕ) : Nat.ofDigitChars 10 (padDigits width n) 0 = n := by
  unfold padDigits
  rw [Nat.ofDigitChars_append, Nat.ofDigitChars_replicate_zero, Nat.mul_zero,
    Nat.ofDigitChars_ten_toDigits]

theorem padDigits_injective (width : ℕ) : Function.Injective (padDigits width) := by
  intro m n h
  rw [← ofDigitChars_padDigits width m, h, ofDigitChars_padDigits]

theorem isDigit_of_mem_padDigits {width n : ℕ} {c : Char} (h : c ∈ padDigits width n) :
    c.isDigit := by
  unfold padDigits at h
  rcases List.mem_append.mp h with h | h
  · rw [List.eq_of_mem_replicate h]
    decide
  · exact Nat.isDigit_of_mem_toDigits (by omega) (by omega) h

/-- A padded number does not start with a sign. -/
theorem padDigits_ne_sign (width n : ℕ) (ds : List Char) : padDigits width n ≠ '-' :: ds := by
  intro h
  have hmem : '-' ∈ padDigits width n := by simp [h]
  have hc : ('-').isDigit := isDigit_of_mem_padDigits hmem
  exact absurd hc (by decide)

theorem zeroPadded_injective (width : ℕ) : Function.Injective (zeroPadded width) := by
  intro a b h
  cases a with
  | ofNat m =>
      cases b with
      | ofNat n => rw [padDigits_injective width (String.ofList_injective h)]
      | negSucc n => exact absurd (String.ofList_injective h) (padDigits_ne_sign _ _ _)
  | negSucc m =>
      cases b with
      | ofNat n => exact absurd (String.ofList_injective h).symm (padDigits_ne_sign _ _ _)
      | negSucc n =>
          have ht := (List.cons.inj (String.ofList_injective h)).2
          have hs : m + 1 = n + 1 := padDigits_injective _ ht
          rw [Nat.succ.inj hs]

/-- `str(n)`. -/
def intText : ℤ → String
  | .ofNat n => String.ofList (Nat.toDigits 10 n)
  | .negSucc n => String.ofList ('-' :: Nat.toDigits 10 (n + 1))

end LookAway.Base
