/-
  The per-token divergence: `token_distillation_divergence` (verl/workers/actor/lookaway_utils.py)
  against the copy inside `compute_self_distillation_loss`, and against the relative entropy.

  The gate's function adds over the support and then interpolates, the loss interpolates entry by
  entry and then adds; over the reals the two agree because `lerp` is linear. On log-probabilities
  of mass one the endpoint branches are relative entropies in the two directions and the mixture
  branch is the weighted Jensen–Shannon divergence.
-/
import LookAway.Base.RelativeEntropy
import LookAway.Base.Control
import LookAway.Weights.BlockSpec
import LookAway.Weights.Loss
import Mathlib.Algebra.BigOperators.Field

namespace LookAway.Weights

open LookAway.Base

variable {B T K V : ℕ}

/-! ## The gate and the loss -/

theorem sum_klDivNone {K : ℕ} (input target : Fin K → ℝ) :
    ∑ k, klDivNone input target k = klDiv input target := rfl

theorem sum_lerp {K : ℕ} (x y : Fin K → ℝ) (w : ℝ) :
    ∑ k, lerp (x k) (y k) w = lerp (∑ k, x k) (∑ k, y k) w := by
  unfold lerp
  rw [Finset.sum_add_distrib, ← Finset.mul_sum, Finset.sum_sub_distrib]

/-- The copy inside the loss computes the divergence of the gate. -/
theorem sum_klLoss {K : ℕ} (student teacher : Fin K → ℝ) (alpha : ℝ) :
    ∑ k, klLoss student teacher alpha k = tokenDistillationDivergence student teacher alpha := by
  unfold klLoss tokenDistillationDivergence
  by_cases hzero : alpha = 0
  · rw [if_pos hzero, if_pos hzero, sum_klDivNone]
  · by_cases hone : alpha = 1
    · rw [if_neg hzero, if_pos hone, if_neg hzero, if_pos hone, sum_klDivNone]
    · rw [if_neg hzero, if_neg hone, if_neg hzero, if_neg hone]
      dsimp only
      rw [sum_lerp, sum_klDivNone, sum_klDivNone]
      rfl

theorem klLossSum_eq {K : ℕ} (student teacher : TopK B T K) (alpha : ℝ) :
    klLossSum student teacher alpha =
      fun p => tokenDistillationDivergence (student p) (teacher p) alpha := by
  funext p
  exact sum_klLoss (student p) (teacher p) alpha

/-- Top-k distillation with the top-k tensors at hand computes `topk_divergence`. -/
theorem rawPerTokenLoss_topk {cfg : SelfDistillationConfig} {x : LossInputs B T K V}
    {student teacher : TopK B T K} (htopk : hasTopk cfg = true)
    (hstudent : x.studentTopkLogProbs = some student)
    (hteacher : x.teacherTopkLogProbs = some teacher) :
    rawPerTokenLoss cfg x = .ok (topkDivergence cfg student teacher) := by
  have hset : cfg.fullLogitDistillation = true ∧ cfg.distillationTopk.isSome = true := by
    unfold hasTopk at htopk
    cases hfull : cfg.fullLogitDistillation <;> cases hk : cfg.distillationTopk <;>
      simp_all
  unfold rawPerTokenLoss topkDivergence
  rw [if_pos hset.1, if_pos hset.2, hstudent, hteacher]
  dsimp only
  by_cases htail : cfg.distillationAddTail = true
  · simp only [htail, if_true, klLossSum_eq]
  · simp only [htail, klLossSum_eq]
    rfl

/-- The `raw_jsd_token_mean` the loss reports is the masked mean of its raw loss. -/
theorem rawJsdTokenMean_eq {cfg : SelfDistillationConfig} {x : LossInputs B T K V}
    {raw : Tensor B T} (hraw : rawPerTokenLoss cfg x = .ok raw) {w : Option (Tensor B T)}
    {loss : ℝ} {metrics : LossMetrics}
    (h : computeSelfDistillationLoss cfg x w = .ok (loss, metrics)) :
    metrics.rawJsdTokenMean =
      maskedSum raw (fun p => x.responseMask p && rowMask x.selfDistillationMask p) /
        max (count fun p => x.responseMask p && rowMask x.selfDistillationMask p : ℝ) 1 := by
  unfold computeSelfDistillationLoss at h
  rw [hraw] at h
  obtain ⟨_, hok, h⟩ := except_bind_ok.mp h
  cases hok
  obtain ⟨_, -, h⟩ := except_bind_ok.mp h
  obtain ⟨_, -, h⟩ := except_bind_ok.mp h
  cases h
  rfl

/-- The ammunition gate compares the very loss it gates: its statistic is the raw per-token loss
    for the same tensors, whose masked mean the loss logs. -/
theorem jsdGate_measures_loss (cfg : SelfDistillationConfig) (mb : MicroBatch B T K)
    (x : LossInputs B T K V) (hasValid : Bool) (hgate : cfg.vdJsdGate = true)
    (htopk : hasTopk cfg = true) (hstudent : x.studentTopkLogProbs = some mb.studentTopkLogps)
    (hteacher : x.teacherTopkLogProbs = some mb.teacherTopkLogps) :
    ∃ gate, jsdGate cfg mb hasValid = .ok (some gate) ∧ rawPerTokenLoss cfg x = .ok gate.stat ∧
      ∀ w loss metrics, computeSelfDistillationLoss cfg x w = .ok (loss, metrics) →
        metrics.rawJsdTokenMean =
          maskedSum gate.stat (fun p => x.responseMask p && rowMask x.selfDistillationMask p) /
            max (count fun p => x.responseMask p && rowMask x.selfDistillationMask p : ℝ) 1 := by
  have hraw := rawPerTokenLoss_topk htopk hstudent hteacher
  unfold jsdGate
  rw [if_pos hgate, if_pos htopk]
  refine ⟨_, rfl, hraw, ?_⟩
  intro w loss metrics h
  exact rawJsdTokenMean_eq hraw h

/-- The loss of `sampleBatch`, as `update_policy` calls it. -/
noncomputable def sampleLoss : LossInputs 1 3 1 1 where
  studentLogProbs := (sampleBatch 0).logProb
  teacherLogProbs := (sampleBatch 0).teacherLogProb
  responseMask := (sampleBatch 0).responseMask
  oldLogProbs := some (sampleBatch 0).logProb
  studentAllLogProbs := none
  teacherAllLogProbs := none
  studentTopkLogProbs := some (sampleBatch 0).studentTopkLogps
  teacherTopkLogProbs := some (sampleBatch 0).teacherTopkLogps
  selfDistillationMask := (sampleBatch 0).selfDistillationMask
  lossAggMode := "token-mean"
  rolloutIsWeights := none
  batchNumTokens := none
  globalBatchSize := none
  lossScaleFactor := none

theorem jsdGate_measures_loss_sample :
    ∃ gate, jsdGate (launcherConfig "priors" "freq") (sampleBatch 0) true = .ok (some gate) ∧
      rawPerTokenLoss (launcherConfig "priors" "freq") sampleLoss = .ok gate.stat := by
  obtain ⟨gate, hgate, hraw, -⟩ := jsdGate_measures_loss (launcherConfig "priors" "freq")
    (sampleBatch 0) sampleLoss true rfl (by decide +kernel) rfl rfl
  exact ⟨gate, hgate, hraw⟩

/-! ## A divergence -/

section Divergence

variable {K : ℕ} {s t : Fin K → ℝ} {alpha : ℝ}

/-- The entries are the logarithms of a strictly positive probability vector. -/
def IsLogProb (x : Fin K → ℝ) : Prop := ∑ k, Real.exp (x k) = 1

theorem klDiv_eq_relEntropy (input target : Fin K → ℝ) :
    klDiv input target = relEntropy input target := rfl

/-- `logsumexp` of the two shifted vectors is the logarithm of their mixture. -/
theorem log_mixture_eq (h0 : 0 < alpha) (h1 : alpha < 1) (s t : Fin K → ℝ) :
    (fun k => Real.log (Real.exp (s k + Real.log (1 - alpha)) +
      Real.exp (t k + Real.log alpha))) = logMix alpha s t := by
  funext k
  unfold logMix
  rw [Real.exp_add, Real.exp_add, Real.exp_log h0, Real.exp_log (by linarith), mul_comm,
    mul_comm (Real.exp (t k))]

theorem tokenDistillationDivergence_zero (s t : Fin K → ℝ) :
    tokenDistillationDivergence s t 0 = relEntropy s t := by
  unfold tokenDistillationDivergence
  rw [if_pos rfl, klDiv_eq_relEntropy]

theorem tokenDistillationDivergence_one (s t : Fin K → ℝ) :
    tokenDistillationDivergence s t 1 = relEntropy t s := by
  unfold tokenDistillationDivergence
  rw [if_neg one_ne_zero, if_pos rfl, klDiv_eq_relEntropy]

/-- Between the endpoints it is the weighted Jensen–Shannon divergence. -/
theorem tokenDistillationDivergence_mixture (h0 : 0 < alpha) (h1 : alpha < 1)
    (s t : Fin K → ℝ) : tokenDistillationDivergence s t alpha = jensenShannon alpha s t := by
  unfold tokenDistillationDivergence jensenShannon
  rw [if_neg h0.ne', if_neg h1.ne, log_mixture_eq h0 h1]
  dsimp only
  rw [klDiv_eq_relEntropy, klDiv_eq_relEntropy]
  unfold lerp
  ring

/-- The three branches of the interpolation. -/
theorem alpha_cases (h0 : 0 ≤ alpha) (h1 : alpha ≤ 1) :
    alpha = 0 ∨ alpha = 1 ∨ (0 < alpha ∧ alpha < 1) := by
  rcases h0.eq_or_lt with hzero | hpos
  · exact Or.inl hzero.symm
  · rcases h1.eq_or_lt with hone | hlt
    · exact Or.inr (Or.inl hone)
    · exact Or.inr (Or.inr ⟨hpos, hlt⟩)

theorem tokenDistillationDivergence_nonneg (hs : IsLogProb s) (ht : IsLogProb t)
    (h0 : 0 ≤ alpha) (h1 : alpha ≤ 1) : 0 ≤ tokenDistillationDivergence s t alpha := by
  rcases alpha_cases h0 h1 with rfl | rfl | ⟨hpos, hlt⟩
  · rw [tokenDistillationDivergence_zero]
    exact relEntropy_nonneg (hs.trans ht.symm)
  · rw [tokenDistillationDivergence_one]
    exact relEntropy_nonneg (ht.trans hs.symm)
  · rw [tokenDistillationDivergence_mixture hpos hlt]
    exact jensenShannon_nonneg hpos hlt hs ht

theorem tokenDistillationDivergence_eq_zero_iff (hs : IsLogProb s) (ht : IsLogProb t)
    (h0 : 0 ≤ alpha) (h1 : alpha ≤ 1) : tokenDistillationDivergence s t alpha = 0 ↔ s = t := by
  rcases alpha_cases h0 h1 with rfl | rfl | ⟨hpos, hlt⟩
  · rw [tokenDistillationDivergence_zero]
    exact relEntropy_eq_zero_iff (hs.trans ht.symm)
  · rw [tokenDistillationDivergence_one, relEntropy_eq_zero_iff (ht.trans hs.symm)]
    exact eq_comm
  · rw [tokenDistillationDivergence_mixture hpos hlt]
    exact jensenShannon_eq_zero_iff hpos hlt hs ht

/-- Swapping the two sides mirrors the interpolation. -/
theorem tokenDistillationDivergence_comm (h0 : 0 ≤ alpha) (h1 : alpha ≤ 1) (s t : Fin K → ℝ) :
    tokenDistillationDivergence s t alpha = tokenDistillationDivergence t s (1 - alpha) := by
  rcases alpha_cases h0 h1 with rfl | rfl | ⟨hpos, hlt⟩
  · rw [sub_zero, tokenDistillationDivergence_zero, tokenDistillationDivergence_one]
  · rw [sub_self, tokenDistillationDivergence_one, tokenDistillationDivergence_zero]
  · rw [tokenDistillationDivergence_mixture hpos hlt,
      tokenDistillationDivergence_mixture (by linarith) (by linarith)]
    exact jensenShannon_comm alpha s t

theorem tokenDistillationDivergence_le_binEntropy (hs : IsLogProb s) (ht : IsLogProb t)
    (h0 : 0 < alpha) (h1 : alpha < 1) :
    tokenDistillationDivergence s t alpha ≤ Real.binEntropy alpha := by
  rw [tokenDistillationDivergence_mixture h0 h1]
  exact jensenShannon_le_binEntropy h0 h1 hs ht

/-- **A divergence for every interpolation.** On log-probabilities of mass one and every
    `alpha ∈ [0, 1]`: nonnegative, zero exactly on equal arguments, mirrored by swapping the
    arguments, and between the endpoints at most the binary entropy of `alpha`. -/
theorem tokenDistillationDivergence_is_divergence {K : ℕ} (s t : Fin K → ℝ) (alpha : ℝ)
    (hs : IsLogProb s) (ht : IsLogProb t) (h0 : 0 ≤ alpha) (h1 : alpha ≤ 1) :
    0 ≤ tokenDistillationDivergence s t alpha ∧
      (tokenDistillationDivergence s t alpha = 0 ↔ s = t) ∧
      tokenDistillationDivergence s t alpha = tokenDistillationDivergence t s (1 - alpha) ∧
      (0 < alpha → alpha < 1 →
        tokenDistillationDivergence s t alpha ≤ Real.binEntropy alpha) :=
  ⟨tokenDistillationDivergence_nonneg hs ht h0 h1,
    tokenDistillationDivergence_eq_zero_iff hs ht h0 h1,
    tokenDistillationDivergence_comm h0 h1 s t,
    fun hpos hlt => tokenDistillationDivergence_le_binEntropy hs ht hpos hlt⟩

/-- Two tokens with the masses `x` and `1 - x`. -/
theorem isLogProb_pair {x : ℝ} (hx : 0 < x) (hx1 : x < 1) :
    IsLogProb fun k : Fin 2 => if k.val = 0 then Real.log x else Real.log (1 - x) := by
  unfold IsLogProb
  rw [Fin.sum_univ_two]
  simp [Real.exp_log hx, Real.exp_log (sub_pos.mpr hx1)]

theorem tokenDistillationDivergence_is_divergence_sample :
    tokenDistillationDivergence
        (fun k : Fin 2 => if k.val = 0 then Real.log (9 / 10) else Real.log (1 - 9 / 10))
        (fun k : Fin 2 => if k.val = 0 then Real.log (1 / 2) else Real.log (1 - 1 / 2)) (1 / 2) ≤
      Real.binEntropy (1 / 2) := by
  obtain ⟨-, -, -, hbound⟩ := tokenDistillationDivergence_is_divergence _ _ (1 / 2)
    (isLogProb_pair (x := 9 / 10) (by norm_num) (by norm_num))
    (isLogProb_pair (x := 1 / 2) (by norm_num) (by norm_num)) (by norm_num) (by norm_num)
  exact hbound (by norm_num) (by norm_num)

end Divergence

/-! ## The statistics of the block -/

/-- Renormalized top-k log-probabilities have mass one. -/
theorem isLogProb_renormTopk {K : ℕ} (hK : 0 < K) (x : Fin K → ℝ) : IsLogProb (renormTopk x) := by
  unfold IsLogProb renormTopk logsumexp
  have hpos : 0 < ∑ k, Real.exp (x k) :=
    Finset.sum_pos (fun k _ => Real.exp_pos (x k)) ⟨⟨0, hK⟩, Finset.mem_univ _⟩
  simp only [Real.exp_sub, Real.exp_log hpos]
  rw [← Finset.sum_div, div_self hpos.ne']

/-- With a tail bucket they do as well, unless the clamp bites. -/
theorem isLogProb_addTailBucket {K : ℕ} (hK : 0 < K) {x : Fin K → ℝ}
    (h : logsumexp x ≤ -1 / 10 ^ 7) : IsLogProb (addTailBucket x) := by
  have hpos : 0 < ∑ k, Real.exp (x k) :=
    Finset.sum_pos (fun k _ => Real.exp_pos (x k)) ⟨⟨0, hK⟩, Finset.mem_univ _⟩
  have hlt : Real.exp (logsumexp x) < 1 := by
    rw [Real.exp_lt_one_iff]
    exact h.trans_lt (by norm_num)
  unfold IsLogProb addTailBucket
  rw [min_eq_left h, Fin.sum_univ_castSucc]
  simp only [Fin.snoc_castSucc, Fin.snoc_last]
  rw [Real.exp_log (by linarith), logsumexp, Real.exp_log hpos]
  ring

/-- The divergence of two top-k tensors is nonnegative, the clamp of the tail apart. -/
theorem topkDivergence_nonneg {cfg : SelfDistillationConfig} (hcfg : cfg.Accepted) (hK : 0 < K)
    {s t : TopK B T K} {p : Pos B T}
    (hmass : cfg.distillationAddTail = true →
      logsumexp (s p) ≤ -1 / 10 ^ 7 ∧ logsumexp (t p) ≤ -1 / 10 ^ 7) :
    0 ≤ topkDivergence cfg s t p := by
  have h0 : (0 : ℝ) ≤ cfg.alpha := Rat.cast_nonneg.mpr hcfg.alpha_mem.1
  have h1 : (cfg.alpha : ℝ) ≤ 1 := by exact_mod_cast hcfg.alpha_mem.2
  unfold topkDivergence
  split
  · rename_i htail
    exact tokenDistillationDivergence_nonneg (isLogProb_addTailBucket hK (hmass htail).1)
      (isLogProb_addTailBucket hK (hmass htail).2) h0 h1
  · exact tokenDistillationDivergence_nonneg (isLogProb_renormTopk hK _)
      (isLogProb_renormTopk hK _) h0 h1

end LookAway.Weights
