/-
  `vd_weights` preserves the token mean.

  From `rawWeights_ge_one` (every raw weight is at least 1): the masked sum is at least the
  number of valid positions, so the clamp at 1 is idle unless no position is valid, and then
  every weight is 1 anyway. Hence the normalized weights are positive, 1 off the valid
  positions, and sum to the number of valid positions (`normalize_*`).
-/
import LookAway.Weights.BlockSpec
import LookAway.Weights.Loss

namespace LookAway.Weights

open LookAway.Base

variable {B T K : ℕ}

/-! ## Normalization of raw weights at least 1 -/

section Normalize

variable {raw : Tensor B T} {valid : Mask B T}

theorem count_le_total (h : ∀ p, 1 ≤ raw p) : (count valid : ℝ) ≤ total valid raw :=
  length_le_sumOn fun p _ => h p

theorem count_pos_of_valid {p : Pos B T} (hp : valid p = true) : 1 ≤ count valid :=
  List.length_pos_of_mem (List.mem_filter.mpr ⟨mem_positions p, hp⟩)

/-- With a valid position the sum is at least 1, so clamping it changes nothing. -/
theorem one_le_total (h : ∀ p, 1 ≤ raw p) {p : Pos B T} (hp : valid p = true) :
    1 ≤ total valid raw := by
  have h1 : (1 : ℝ) ≤ count valid := by exact_mod_cast count_pos_of_valid hp
  exact h1.trans (count_le_total h)

theorem normalize_eq_unclamped (h : ∀ p, 1 ≤ raw p) :
    normalizeVdWeights raw valid = normalizeUnclamped raw valid := by
  funext p
  unfold normalizeVdWeights normalizeUnclamped normalizeWith
  cases hp : valid p
  · rfl
  · simp only [if_true, id_eq]
    rw [max_eq_left (one_le_total h hp)]

theorem normalizeUnclamped_valid {p : Pos B T} (hp : valid p = true) :
    normalizeUnclamped raw valid p = raw p * ((count valid : ℝ) / total valid raw) := by
  simp [normalizeUnclamped, normalizeWith, hp]

theorem normalizeUnclamped_invalid {p : Pos B T} (hp : valid p = false) :
    normalizeUnclamped raw valid p = 1 := by
  simp [normalizeUnclamped, normalizeWith, hp]

theorem normalizeUnclamped_pos (h : ∀ p, 1 ≤ raw p) (p : Pos B T) :
    0 < normalizeUnclamped raw valid p := by
  cases hp : valid p
  · rw [normalizeUnclamped_invalid hp]
    exact one_pos
  · rw [normalizeUnclamped_valid hp]
    have hc : (0 : ℝ) < count valid := by exact_mod_cast count_pos_of_valid hp
    have ht : 0 < total valid raw := lt_of_lt_of_le one_pos (one_le_total h hp)
    exact mul_pos (lt_of_lt_of_le one_pos (h p)) (div_pos hc ht)

/-- The normalized weights sum to the number of valid positions. -/
theorem total_normalizeUnclamped (h : ∀ p, 1 ≤ raw p) :
    total valid (normalizeUnclamped raw valid) = count valid := by
  have hscale : total valid (normalizeUnclamped raw valid) =
      total valid raw * ((count valid : ℝ) / total valid raw) := by
    rw [total_congr fun p hp => normalizeUnclamped_valid hp]
    exact sumOn_mul_right _ _ _ _
  rw [hscale]
  rcases Nat.eq_zero_or_pos (count valid) with hz | hpos
  · rw [hz]
    simp
  · have hc : (0 : ℝ) < count valid := by exact_mod_cast hpos
    have ht : 0 < total valid raw := lt_of_lt_of_le hc (count_le_total h)
    exact mul_div_cancel₀ _ ht.ne'

/-- A tensor that is 1 off `inner` and sums to its size on `inner` sums to the size of any
    larger mask. -/
theorem total_outer {outer inner : Mask B T} {w : Tensor B T}
    (hsub : ∀ p, inner p = true → outer p = true) (hone : ∀ p, inner p = false → w p = 1)
    (hsum : total inner w = count inner) : total outer w = count outer := by
  have hrest : sumOn (positions B T) (fun p => outer p && !inner p) w =
      sumOn (positions B T) (fun p => outer p && !inner p) (fun _ => 1) := by
    apply sumOn_congr
    intro p hp
    exact hone p (by simpa using (Bool.and_eq_true_iff.mp hp).2)
  have hin : sumOn (positions B T) inner w = sumOn (positions B T) inner (fun _ => 1) := by
    rw [sumOn_const_one]
    exact hsum
  calc total outer w
      = sumOn (positions B T) inner w +
          sumOn (positions B T) (fun p => outer p && !inner p) w :=
        sumOn_split _ _ _ _ hsub
    _ = sumOn (positions B T) outer (fun _ => 1) := by
        rw [hin, hrest, ← sumOn_split _ _ _ _ hsub]
    _ = count outer := sumOn_const_one _ _

end Normalize

/-! ## The block -/

theorem validPos_le_lossMask (mb : MicroBatch B T K) (p : Pos B T) (h : mb.validPos p = true) :
    mb.lossMask p = true := (Bool.and_eq_true_iff.mp h).1

/-- A loss constant on the mask keeps its masked sum under weights that sum to the mask size. -/
theorem maskedSum_weighted {mask : Mask B T} {w loss : Tensor B T} {c : ℝ}
    (hsum : total mask w = count mask) (hloss : ∀ p, mask p = true → loss p = c) :
    maskedSum (fun p => loss p * w p) mask = maskedSum loss mask := by
  have hw : total mask (fun p => loss p * w p) = total mask (fun p => w p * c) :=
    total_congr fun p hp => by rw [hloss p hp, mul_comm]
  have hc : total mask loss = total mask (fun _ => 1 * c) :=
    total_congr fun p hp => by rw [hloss p hp, one_mul]
  have hone : total mask (fun _ => (1 : ℝ)) = count mask := sumOn_const_one _ _
  calc maskedSum (fun p => loss p * w p) mask
      = total mask (fun p => w p * c) := by rw [maskedSum_eq_total, hw]
    _ = total mask w * c := sumOn_mul_right _ _ _ _
    _ = total mask (fun _ => (1 : ℝ)) * c := by rw [hsum, hone]
    _ = total mask (fun _ => 1 * c) := (sumOn_mul_right _ _ _ _).symm
    _ = maskedSum loss mask := by rw [maskedSum_eq_total, hc]

/-- **Mean preservation.** For an accepted config with `vd_gamma > 0` and any micro-batch on
    which the block runs to completion: the weights are positive, 1 off the valid positions,
    sum to the number of valid positions, and to the number of loss-masked tokens over the
    loss mask; a loss constant on the loss mask keeps its token mean; and the clamp of
    `normalize_vd_weights` does not change the result. -/
theorem vdWeights_mean_preserving (cfg : SelfDistillationConfig) (files : ActorFiles)
    (mb : MicroBatch B T K) (out : VdOutput B T) (hcfg : cfg.Accepted)
    (hfreq : files.FreqNonneg) (hrun : weightingBlock cfg files mb = .ok (some out)) :
    (∀ p, 0 < out.vdWeights p) ∧
    (∀ p, mb.validPos p = false → out.vdWeights p = 1) ∧
    total mb.validPos out.vdWeights = count mb.validPos ∧
    total mb.lossMask out.vdWeights = count mb.lossMask ∧
    (∀ (loss : Tensor B T) (c : ℝ) (scale : AggScale),
      (∀ p, mb.lossMask p = true → loss p = c) →
      aggLoss (fun p => loss p * out.vdWeights p) mb.lossMask "token-mean" scale =
        aggLoss loss mb.lossMask "token-mean" scale) ∧
    out.vdWeights = normalizeUnclamped out.raw.wRaw mb.validPos := by
  obtain ⟨neg, hg, -, hraw, hw⟩ := weightingBlock_cases.mp hrun
  have hone : ∀ p, 1 ≤ out.raw.wRaw p := rawWeights_ge_one hcfg hg hfreq hraw
  have hun : out.vdWeights = normalizeUnclamped out.raw.wRaw mb.validPos := by
    rw [hw, normalize_eq_unclamped hone]
  have hinv : ∀ p, mb.validPos p = false → out.vdWeights p = 1 := by
    intro p hp
    rw [hun, normalizeUnclamped_invalid hp]
  have hsum : total mb.validPos out.vdWeights = count mb.validPos := by
    rw [hun, total_normalizeUnclamped hone]
  have hloss : total mb.lossMask out.vdWeights = count mb.lossMask :=
    total_outer (validPos_le_lossMask mb) hinv hsum
  refine ⟨?_, hinv, hsum, hloss, ?_, hun⟩
  · intro p
    rw [hun]
    exact normalizeUnclamped_pos hone p
  · intro loss c scale hc
    simp only [aggLoss, if_true]
    rw [maskedSum_weighted hloss hc]

theorem vdWeights_mean_preserving_sample : ∃ out,
    weightingBlock (launcherConfig "priors" "freq") sampleFiles (sampleBatch 0) = .ok (some out) ∧
      total (sampleBatch 0).validPos out.vdWeights = count (sampleBatch 0).validPos := by
  obtain ⟨out, h⟩ := sample_runs 0
  exact ⟨out, h, (vdWeights_mean_preserving _ _ _ out (by decide +kernel) sampleFiles_nonneg
    h).2.2.1⟩

end LookAway.Weights
