/-
  Masked selection over an ordered list of positions, and the linearly interpolated
  quantile. Nothing here names a program.

  `select ps mask x` is the list of the values of `x` at the positions of `ps` the mask
  keeps, in order. `select_congr` is the reason a statistic of `x[mask]` cannot depend on a
  value outside the mask. The sum lemmas split and bound masked sums.
-/
import Mathlib.Data.List.Sort
import Mathlib.Algebra.BigOperators.Group.List.Basic
import Mathlib.Algebra.BigOperators.Ring.List
import Mathlib.Algebra.Order.BigOperators.Group.List
import Mathlib.Algebra.Order.Floor.Ring
import Mathlib.Algebra.Order.Floor.Semiring
import Mathlib.Tactic.Linarith
import Mathlib.Tactic.Ring
import Mathlib.Tactic.Positivity

namespace LookAway.Base

variable {ι α : Type*}

/-- `x[mask]`: the values of `x` at the kept positions, in the order of `ps`. -/
def select (ps : List ι) (mask : ι → Bool) (x : ι → α) : List α :=
  (ps.filter mask).map x

theorem length_select (ps : List ι) (mask : ι → Bool) (x : ι → α) :
    (select ps mask x).length = (ps.filter mask).length := by
  simp [select]

/-- Two tensors that agree on the mask have the same selection. -/
theorem select_congr {ps : List ι} {mask : ι → Bool} {x y : ι → α}
    (h : ∀ p, mask p = true → x p = y p) : select ps mask x = select ps mask y := by
  unfold select
  apply List.map_congr_left
  intro p hp
  exact h p (List.mem_filter.mp hp).2

section Sums

variable {R : Type*}

/-- Sum of `x` over the kept positions. -/
def sumOn [AddMonoid R] (ps : List ι) (mask : ι → Bool) (x : ι → R) : R :=
  (select ps mask x).sum

theorem sumOn_congr [AddMonoid R] {ps : List ι} {mask : ι → Bool} {x y : ι → R}
    (h : ∀ p, mask p = true → x p = y p) : sumOn ps mask x = sumOn ps mask y := by
  unfold sumOn
  rw [select_congr h]

theorem sumOn_mul_right [Semiring R] (ps : List ι) (mask : ι → Bool) (x : ι → R) (c : R) :
    sumOn ps mask (fun p => x p * c) = sumOn ps mask x * c := by
  unfold sumOn select
  rw [List.sum_map_mul_right]

theorem sumOn_add [AddCommMonoid R] (ps : List ι) (mask : ι → Bool) (x y : ι → R) :
    sumOn ps mask (fun p => x p + y p) = sumOn ps mask x + sumOn ps mask y := by
  unfold sumOn select
  rw [List.sum_map_add]

theorem sumOn_const_one [Semiring R] (ps : List ι) (mask : ι → Bool) :
    sumOn ps mask (fun _ => (1 : R)) = ((ps.filter mask).length : R) := by
  simp [sumOn, select]

/-- A sum over a mask splits along a second mask inside it. -/
theorem sumOn_split [AddCommMonoid R] (ps : List ι) (outer inner : ι → Bool) (x : ι → R)
    (hsub : ∀ p, inner p = true → outer p = true) :
    sumOn ps outer x =
      sumOn ps inner x + sumOn ps (fun p => outer p && !inner p) x := by
  unfold sumOn select
  induction ps with
  | nil => simp
  | cons p ps ih =>
      by_cases hi : inner p = true
      · have ho := hsub p hi
        simp only [List.filter_cons, hi, ho, if_true, Bool.not_true, Bool.and_false,
          List.map_cons, List.sum_cons, Bool.false_eq_true, if_false]
        rw [ih, add_assoc]
      · rw [Bool.not_eq_true] at hi
        by_cases ho : outer p = true
        · simp only [List.filter_cons, hi, ho, if_true, Bool.not_false, Bool.and_true,
            List.map_cons, List.sum_cons, Bool.false_eq_true, if_false]
          rw [ih, add_left_comm]
        · rw [Bool.not_eq_true] at ho
          simp only [List.filter_cons, hi, ho, Bool.false_and, Bool.false_eq_true, if_false]
          exact ih

section Order

variable [Ring R] [LinearOrder R] [IsStrictOrderedRing R]

/-- Entries at least `1` sum to at least their number. -/
theorem length_le_sumOn {ps : List ι} {mask : ι → Bool} {x : ι → R}
    (h : ∀ p, mask p = true → 1 ≤ x p) : ((ps.filter mask).length : R) ≤ sumOn ps mask x := by
  rw [← sumOn_const_one]
  unfold sumOn select
  apply List.sum_le_sum
  intro p hp
  exact h p (List.mem_filter.mp hp).2

/-- One positive entry makes a sum of non-negative entries positive. -/
theorem sumOn_pos {ps : List ι} {mask : ι → Bool} {x : ι → R}
    (h : ∀ p, mask p = true → 0 ≤ x p) {q : ι} (hq : q ∈ ps) (hm : mask q = true)
    (hpos : 0 < x q) : 0 < sumOn ps mask x := by
  have hmem : q ∈ ps.filter mask := List.mem_filter.mpr ⟨hq, hm⟩
  have hle : x q ≤ sumOn ps mask x := by
    unfold sumOn select
    apply List.single_le_sum
    · intro v hv
      obtain ⟨p, hp, rfl⟩ := List.mem_map.mp hv
      exact h p (List.mem_filter.mp hp).2
    · exact List.mem_map_of_mem hmem
  exact lt_of_lt_of_le hpos hle

/-- A positive masked sum has a positive entry on the mask. -/
theorem exists_pos_of_sumOn_pos {ps : List ι} {mask : ι → Bool} {x : ι → R}
    (h : 0 < sumOn ps mask x) : ∃ p ∈ ps, mask p = true ∧ 0 < x p := by
  by_contra hno
  push Not at hno
  have hle : sumOn ps mask x ≤ sumOn ps mask (fun _ => (0 : R)) := by
    unfold sumOn select
    apply List.sum_le_sum
    intro p hp
    obtain ⟨hps, hm⟩ := List.mem_filter.mp hp
    exact hno p hps hm
  have hz : sumOn ps mask (fun _ => (0 : R)) = 0 := by simp [sumOn, select]
  rw [hz] at hle
  exact absurd h (not_lt.mpr hle)

end Order

end Sums

section Quantile

variable {K : Type*} [Field K] [LinearOrder K] [FloorSemiring K]

/-- The value at the fractional rank `r` of an ascending list, interpolated linearly
    between the two neighbouring ranks. -/
def valueAtRank (sorted : List K) (r : K) : K :=
  let below := sorted.getD ⌊r⌋₊ 0
  let above := sorted.getD ⌈r⌉₊ 0
  below + (r - (⌊r⌋₊ : K)) * (above - below)

/-- The linearly interpolated `q`-quantile: rank `q * (n - 1)` of the sorted values. -/
def quantile (xs : List K) (q : K) : K :=
  valueAtRank (xs.insertionSort (· ≤ ·)) (q * ((xs.length : K) - 1))

end Quantile

end LookAway.Base
