/-
  Weighted and exponential moving averages in a real vector space. Nothing here names a program.

  `exists_average`: points of a convex set, weighted, are one of its points times the total weight.
  `emaRun_eq`: the closed form, its start and its points under weights that add up to one.
  `emaRun_mem`: a moving average stays in every convex set with its start and its points.
  `norm_emaRun_sub_le`: the start is forgotten geometrically.
-/
import Mathlib.Algebra.BigOperators.Field
import Mathlib.Analysis.Convex.Combination
import Mathlib.Analysis.Normed.Module.Basic

namespace LookAway.Base.MovingAverage

section Linear

variable {E : Type*} [AddCommGroup E] [Module ℝ E] {r : ℝ} {a : E} {xs : List E}

theorem exists_average {ι : Type*} {s : Set E} (hs : Convex ℝ s) {l : List ι} {w : ι → ℝ}
    {z : ι → E}
    (hw : ∀ i ∈ l, 0 ≤ w i) (hz : ∀ i ∈ l, z i ∈ s) (hpos : 0 < (l.map w).sum) :
    ∃ g ∈ s, (l.map fun i => w i • z i).sum = (l.map w).sum • g := by
  have htotal := hpos.ne'
  rw [← Fin.sum_univ_fun_getElem l w] at hpos htotal ⊢
  rw [← Fin.sum_univ_fun_getElem l fun i => w i • z i]
  refine ⟨∑ k : Fin l.length, (w l[(k : ℕ)] / ∑ k : Fin l.length, w l[(k : ℕ)]) • z l[(k : ℕ)],
    hs.sum_mem (fun k _ => div_nonneg (hw _ (List.getElem_mem _)) hpos.le) ?_
      fun k _ => hz _ (List.getElem_mem _), ?_⟩
  · rw [← Finset.sum_div, div_self htotal]
  · rw [Finset.smul_sum]
    refine Finset.sum_congr rfl fun k _ => ?_
    rw [smul_smul, mul_div_cancel₀ _ htotal]

/-- One step towards `x`. -/
def ema (r : ℝ) (a x : E) : E := (1 - r) • a + r • x

/-- The average after the points `xs`, the oldest first. -/
def emaRun (r : ℝ) (a : E) (xs : List E) : E := xs.foldl (ema r) a

/-- The part of the points in the average. -/
def emaSum (r : ℝ) : List E → E
  | [] => 0
  | x :: xs => (r * (1 - r) ^ xs.length) • x + emaSum r xs

theorem emaRun_eq (r : ℝ) (a : E) (xs : List E) :
    emaRun r a xs = (1 - r) ^ xs.length • a + emaSum r xs := by
  induction xs generalizing a with
  | nil => simp [emaRun, emaSum]
  | cons x xs ih =>
      show emaRun r (ema r a x) xs = _
      rw [ih, emaSum, ema, smul_add, smul_smul, smul_smul, List.length_cons, pow_succ, add_assoc,
        mul_comm r]

theorem emaRun_mem {s : Set E} (hs : Convex ℝ s) (h0 : 0 ≤ r) (h1 : r ≤ 1) (ha : a ∈ s)
    (hxs : ∀ x ∈ xs, x ∈ s) : emaRun r a xs ∈ s := by
  induction xs generalizing a with
  | nil => exact ha
  | cons x xs ih =>
      obtain ⟨hx, hxs⟩ := List.forall_mem_cons.mp hxs
      exact ih (hs ha hx (by linarith) h0 (by ring)) hxs

end Linear

section Normed

variable {E : Type*} [SeminormedAddCommGroup E] [NormedSpace ℝ E] {r ε : ℝ} {a y : E} {xs : List E}

/-- Points near `y` pull the average towards `y`. -/
theorem norm_emaRun_sub_le (h0 : 0 ≤ r) (h1 : r ≤ 1) (hxs : ∀ x ∈ xs, ‖x - y‖ ≤ ε) :
    ‖emaRun r a xs - y‖ ≤ (1 - r) ^ xs.length * ‖a - y‖ + (1 - (1 - r) ^ xs.length) * ε := by
  induction xs generalizing a with
  | nil => simp [emaRun]
  | cons x xs ih =>
      obtain ⟨hx, hxs⟩ := List.forall_mem_cons.mp hxs
      have hr : 0 ≤ 1 - r := by linarith
      have hsplit : ema r a x - y = (1 - r) • (a - y) + r • (x - y) := by
        rw [ema, smul_sub, smul_sub, sub_smul, sub_smul, one_smul, one_smul]
        abel
      have hstep : ‖ema r a x - y‖ ≤ (1 - r) * ‖a - y‖ + r * ε := by
        rw [hsplit]
        refine (norm_add_le _ _).trans (add_le_add ?_ ?_)
        · rw [norm_smul, Real.norm_of_nonneg hr]
        · rw [norm_smul, Real.norm_of_nonneg h0]
          exact mul_le_mul_of_nonneg_left hx h0
      calc ‖emaRun r (ema r a x) xs - y‖
          ≤ (1 - r) ^ xs.length * ‖ema r a x - y‖ + (1 - (1 - r) ^ xs.length) * ε := ih hxs
        _ ≤ (1 - r) ^ xs.length * ((1 - r) * ‖a - y‖ + r * ε) +
              (1 - (1 - r) ^ xs.length) * ε := by
            gcongr
        _ = (1 - r) ^ (x :: xs).length * ‖a - y‖ + (1 - (1 - r) ^ (x :: xs).length) * ε := by
            rw [List.length_cons, pow_succ]
            ring

end Normed

end LookAway.Base.MovingAverage
