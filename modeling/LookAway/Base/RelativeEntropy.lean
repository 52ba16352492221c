/-
  Relative entropy of positive vectors on a finite index type, both given by their logarithms,
  and the weighted Jensen–Shannon divergence.

  `relEntropy q p = ∑ exp p (p - q)`: the terms are weighted by the first distribution of the
  usual notation `D(p ‖ q)`. Nonnegativity is the inequality `x + 1 ≤ exp x` at `q - p`, summed
  with the weights `exp p`; equality holds where it holds at every index.
-/
import Mathlib.Analysis.SpecialFunctions.BinaryEntropy

namespace LookAway.Base

variable {ι : Type*} [Fintype ι]

/-- `∑ exp (p k) (p k - q k)`, the relative entropy of `exp ∘ p` from `exp ∘ q`. -/
noncomputable def relEntropy (q p : ι → ℝ) : ℝ := ∑ k, Real.exp (p k) * (p k - q k)

/-- The logarithm of the mixture `(1 - a) exp q + a exp p`. -/
noncomputable def logMix (a : ℝ) (q p : ι → ℝ) : ι → ℝ :=
  fun k => Real.log ((1 - a) * Real.exp (q k) + a * Real.exp (p k))

/-- The Jensen–Shannon divergence with weights `1 - a` and `a`. -/
noncomputable def jensenShannon (a : ℝ) (q p : ι → ℝ) : ℝ :=
  (1 - a) * relEntropy (logMix a q p) q + a * relEntropy (logMix a q p) p

/-! ## Gibbs' inequality -/

/-- One term exceeds the difference of the masses. -/
theorem exp_sub_exp_le_term (x y : ℝ) :
    Real.exp x - Real.exp y ≤ Real.exp x * (x - y) := by
  have hfactor : Real.exp y = Real.exp x * Real.exp (y - x) := by
    rw [← Real.exp_add, add_sub_cancel]
  have hexp : y - x + 1 ≤ Real.exp (y - x) := Real.add_one_le_exp (y - x)
  have hpos : 0 < Real.exp x := Real.exp_pos x
  rw [hfactor]
  nlinarith

/-- It does so strictly where the two differ. -/
theorem exp_sub_exp_lt_term {x y : ℝ} (h : x ≠ y) :
    Real.exp x - Real.exp y < Real.exp x * (x - y) := by
  have hfactor : Real.exp y = Real.exp x * Real.exp (y - x) := by
    rw [← Real.exp_add, add_sub_cancel]
  have hexp : y - x + 1 < Real.exp (y - x) :=
    Real.add_one_lt_exp (sub_ne_zero.mpr (Ne.symm h))
  have hpos : 0 < Real.exp x := Real.exp_pos x
  rw [hfactor]
  nlinarith

/-- Gibbs' inequality, without normalization. -/
theorem sum_exp_sub_le_relEntropy (q p : ι → ℝ) :
    ∑ k, Real.exp (p k) - ∑ k, Real.exp (q k) ≤ relEntropy q p := by
  unfold relEntropy
  rw [← Finset.sum_sub_distrib]
  apply Finset.sum_le_sum
  intro k _
  exact exp_sub_exp_le_term (p k) (q k)

theorem relEntropy_nonneg {q p : ι → ℝ} (h : ∑ k, Real.exp (q k) = ∑ k, Real.exp (p k)) :
    0 ≤ relEntropy q p := by
  have hgibbs := sum_exp_sub_le_relEntropy q p
  rwa [h, sub_self] at hgibbs

@[simp] theorem relEntropy_self (p : ι → ℝ) : relEntropy p p = 0 := by
  unfold relEntropy
  simp

/-- Two vectors of one mass have relative entropy zero only when they are the same. -/
theorem relEntropy_eq_zero_iff {q p : ι → ℝ}
    (h : ∑ k, Real.exp (q k) = ∑ k, Real.exp (p k)) : relEntropy q p = 0 ↔ q = p := by
  constructor
  · intro hzero
    by_contra hne
    obtain ⟨k, hk⟩ := Function.ne_iff.mp hne
    have hlt : ∑ k, (Real.exp (p k) - Real.exp (q k)) < relEntropy q p := by
      unfold relEntropy
      apply Finset.sum_lt_sum
      · intro j _
        exact exp_sub_exp_le_term (p j) (q j)
      · exact ⟨k, Finset.mem_univ k, exp_sub_exp_lt_term (Ne.symm hk)⟩
    rw [Finset.sum_sub_distrib, h, sub_self, hzero] at hlt
    exact lt_irrefl 0 hlt
  · rintro rfl
    exact relEntropy_self q

/-! ## Mixtures -/

section Mixture

variable {a : ℝ}

theorem mix_pos (h0 : 0 < a) (h1 : a < 1) (x y : ℝ) :
    0 < (1 - a) * Real.exp x + a * Real.exp y := by
  have hx : 0 < (1 - a) * Real.exp x := mul_pos (by linarith) (Real.exp_pos x)
  have hy : 0 < a * Real.exp y := mul_pos h0 (Real.exp_pos y)
  linarith

omit [Fintype ι] in
theorem exp_logMix (h0 : 0 < a) (h1 : a < 1) (q p : ι → ℝ) (k : ι) :
    Real.exp (logMix a q p k) = (1 - a) * Real.exp (q k) + a * Real.exp (p k) :=
  Real.exp_log (mix_pos h0 h1 (q k) (p k))

/-- A mixture of two vectors of mass one has mass one. -/
theorem sum_exp_logMix (h0 : 0 < a) (h1 : a < 1) {q p : ι → ℝ}
    (hq : ∑ k, Real.exp (q k) = 1) (hp : ∑ k, Real.exp (p k) = 1) :
    ∑ k, Real.exp (logMix a q p k) = 1 := by
  simp only [exp_logMix h0 h1]
  rw [Finset.sum_add_distrib, ← Finset.mul_sum, ← Finset.mul_sum, hq, hp]
  ring

omit [Fintype ι] in
theorem logMix_comm (a : ℝ) (q p : ι → ℝ) : logMix a q p = logMix (1 - a) p q := by
  funext k
  unfold logMix
  rw [sub_sub_cancel, add_comm]

omit [Fintype ι] in
/-- The mixture is its first component only when the two components agree. -/
theorem logMix_eq_left_iff (h0 : 0 < a) (h1 : a < 1) {q p : ι → ℝ} :
    logMix a q p = q ↔ q = p := by
  constructor
  · intro h
    funext k
    have hk := exp_logMix h0 h1 q p k
    rw [h] at hk
    have hexp : a * Real.exp (q k) = a * Real.exp (p k) := by linarith
    exact Real.exp_injective (mul_left_cancel₀ h0.ne' hexp)
  · rintro rfl
    funext k
    unfold logMix
    rw [← add_mul, sub_add_cancel, one_mul, Real.log_exp]

omit [Fintype ι] in
/-- The mixture is above its first component scaled by `1 - a`. -/
theorem log_add_le_logMix (h0 : 0 < a) (h1 : a < 1) (q p : ι → ℝ) (k : ι) :
    Real.log (1 - a) + q k ≤ logMix a q p k := by
  have hpos : 0 < 1 - a := by linarith
  have hterm : 0 < a * Real.exp (p k) := mul_pos h0 (Real.exp_pos (p k))
  have hsum : Real.log (1 - a) + q k = Real.log ((1 - a) * Real.exp (q k)) := by
    rw [Real.log_mul hpos.ne' (Real.exp_pos (q k)).ne', Real.log_exp]
  rw [hsum]
  apply Real.log_le_log (mul_pos hpos (Real.exp_pos (q k)))
  linarith

/-- The relative entropy from a mixture is at most the cost of naming the component. -/
theorem relEntropy_logMix_le (h0 : 0 < a) (h1 : a < 1) {q : ι → ℝ} (p : ι → ℝ)
    (hq : ∑ k, Real.exp (q k) = 1) : relEntropy (logMix a q p) q ≤ -Real.log (1 - a) := by
  calc relEntropy (logMix a q p) q
      ≤ ∑ k, Real.exp (q k) * -Real.log (1 - a) := by
        apply Finset.sum_le_sum
        intro k _
        have hk := log_add_le_logMix h0 h1 q p k
        exact mul_le_mul_of_nonneg_left (by linarith) (Real.exp_pos (q k)).le
    _ = -Real.log (1 - a) := by rw [← Finset.sum_mul, hq, one_mul]

end Mixture

/-! ## The Jensen–Shannon divergence -/

section JensenShannon

variable {a : ℝ} {q p : ι → ℝ}

theorem jensenShannon_comm (a : ℝ) (q p : ι → ℝ) :
    jensenShannon a q p = jensenShannon (1 - a) p q := by
  unfold jensenShannon
  rw [logMix_comm a q p]
  ring

/-- Both components of the divergence are nonnegative. -/
theorem relEntropy_logMix_nonneg (h0 : 0 < a) (h1 : a < 1) (hq : ∑ k, Real.exp (q k) = 1)
    (hp : ∑ k, Real.exp (p k) = 1) : 0 ≤ relEntropy (logMix a q p) q :=
  relEntropy_nonneg ((sum_exp_logMix h0 h1 hq hp).trans hq.symm)

/-- The same for the second component, which is the first one of the swapped mixture. -/
theorem relEntropy_logMix_right_nonneg (h0 : 0 < a) (h1 : a < 1)
    (hq : ∑ k, Real.exp (q k) = 1) (hp : ∑ k, Real.exp (p k) = 1) :
    0 ≤ relEntropy (logMix a q p) p := by
  rw [logMix_comm]
  exact relEntropy_logMix_nonneg (by linarith) (by linarith) hp hq

theorem jensenShannon_nonneg (h0 : 0 < a) (h1 : a < 1) (hq : ∑ k, Real.exp (q k) = 1)
    (hp : ∑ k, Real.exp (p k) = 1) : 0 ≤ jensenShannon a q p := by
  have hleft := relEntropy_logMix_nonneg h0 h1 hq hp
  have hright := relEntropy_logMix_right_nonneg h0 h1 hq hp
  unfold jensenShannon
  nlinarith

theorem jensenShannon_eq_zero_iff (h0 : 0 < a) (h1 : a < 1) (hq : ∑ k, Real.exp (q k) = 1)
    (hp : ∑ k, Real.exp (p k) = 1) : jensenShannon a q p = 0 ↔ q = p := by
  have hleft := relEntropy_logMix_nonneg h0 h1 hq hp
  have hright := relEntropy_logMix_right_nonneg h0 h1 hq hp
  constructor
  · intro hzero
    have hzero' : relEntropy (logMix a q p) q = 0 := by
      unfold jensenShannon at hzero
      nlinarith
    have hmass := (sum_exp_logMix h0 h1 hq hp).trans hq.symm
    exact (logMix_eq_left_iff h0 h1).mp ((relEntropy_eq_zero_iff hmass).mp hzero')
  · rintro rfl
    unfold jensenShannon
    rw [(logMix_eq_left_iff h0 h1).mpr rfl]
    simp

/-- The divergence never exceeds the entropy of the choice between the two components. -/
theorem jensenShannon_le_binEntropy (h0 : 0 < a) (h1 : a < 1) (hq : ∑ k, Real.exp (q k) = 1)
    (hp : ∑ k, Real.exp (p k) = 1) : jensenShannon a q p ≤ Real.binEntropy a := by
  have hleft := relEntropy_logMix_le h0 h1 p hq
  have hright : relEntropy (logMix a q p) p ≤ -Real.log a := by
    have h := relEntropy_logMix_le (a := 1 - a) (by linarith) (by linarith) q hp
    rwa [← logMix_comm, sub_sub_cancel] at h
  unfold jensenShannon Real.binEntropy
  rw [Real.log_inv, Real.log_inv]
  nlinarith

end JensenShannon

end LookAway.Base
