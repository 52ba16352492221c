/-
  No contrast, no change.

  Where the negative teacher agrees with the positive one on every valid position, every branch of
  the block is neutral at once: the saturated statistics are 0, a quantile of zeros is 0 and is
  not exceeded, the clamped threshold of the vote is positive, and an empty budget is not
  redistributed. The raw weight is 1 on the valid positions and normalization keeps it there.
-/
import LookAway.Weights.MeanPreservation
import LookAway.Weights.Rationing

namespace LookAway.Weights

open LookAway.Base

variable {B T K V : ℕ}

/-! ## Divergence of a distribution from itself -/

section Divergence

theorem klDiv_self {K : ℕ} (x : Fin K → ℝ) : klDiv x x = 0 := by
  unfold klDiv
  simp

/-- The mixture of a distribution with itself. -/
theorem log_mixture_self {alpha : ℝ} (h0 : 0 < alpha) (h1 : alpha < 1) (x : ℝ) :
    Real.log (Real.exp (x + Real.log (1 - alpha)) + Real.exp (x + Real.log alpha)) = x := by
  rw [Real.exp_add, Real.exp_add, Real.exp_log h0, Real.exp_log (by linarith), ← mul_add]
  simp

theorem tokenDistillationDivergence_self {K : ℕ} (x : Fin K → ℝ) {alpha : ℝ} (h0 : 0 ≤ alpha)
    (h1 : alpha ≤ 1) : tokenDistillationDivergence x x alpha = 0 := by
  unfold tokenDistillationDivergence
  by_cases hz : alpha = 0
  · rw [if_pos hz, klDiv_self]
  · by_cases ho : alpha = 1
    · rw [if_neg hz, if_pos ho, klDiv_self]
    · have hpos : 0 < alpha := lt_of_le_of_ne h0 (Ne.symm hz)
      have hlt : alpha < 1 := lt_of_le_of_ne h1 ho
      rw [if_neg hz, if_neg ho]
      simp only [log_mixture_self hpos hlt, klDiv_self]
      simp [lerp]

theorem topkDivergence_self {cfg : SelfDistillationConfig} (hcfg : cfg.Accepted)
    {s t : TopK B T K} {p : Pos B T} (h : s p = t p) : topkDivergence cfg t s p = 0 := by
  have h0 : (0 : ℝ) ≤ cfg.alpha := Rat.cast_nonneg.mpr hcfg.alpha_mem.1
  have h1 : (cfg.alpha : ℝ) ≤ 1 := by exact_mod_cast hcfg.alpha_mem.2
  unfold topkDivergence
  rw [h]
  split
  · exact tokenDistillationDivergence_self _ h0 h1
  · exact tokenDistillationDivergence_self _ h0 h1

end Divergence

/-! ## The block without contrast -/

section Block

variable {cfg : SelfDistillationConfig} {files : ActorFiles} {mb : MicroBatch B T K}
  {neg : NegView B T K} {priors : VdPriors} {p : Pos B T}

/-- At every valid position the negative teacher gives what the positive one gives; with no valid
    position there is nothing to ask. -/
def NoContrast (cfg : SelfDistillationConfig) (mb : MicroBatch B T K) (neg : NegView B T K) :
    Prop :=
  ∀ p, mb.validPos p = true → neg.logProb p = mb.teacherLogProb p ∧
    (hasTopk cfg = true → neg.topkLogps p = mb.teacherTopkLogps p)

theorem absDd_eq_zero (h : NoContrast cfg mb neg) (hp : mb.validPos p = true) :
    absDd mb neg p = 0 := by
  unfold absDd
  rw [(h p hp).1, sub_self, abs_zero]

theorem saturate_eq_zero {x : Tensor B T} {tau : ℝ} (hx : x p = 0) : saturate x tau p = 0 := by
  unfold saturate
  rw [hx, zero_div]

theorem sDd_eq_zero (h : NoContrast cfg mb neg) (hp : mb.validPos p = true) :
    sDd mb neg p = 0 := saturate_eq_zero (absDd_eq_zero h hp)

theorem bonus_eq_zero (h : NoContrast cfg mb neg) (hp : mb.validPos p = true) :
    (baseSignals cfg mb neg).bonus p = 0 := by
  have hdd := absDd_eq_zero h hp
  unfold baseSignals
  by_cases hdual : cfg.vdDualSignal = true
  · rw [if_pos hdual]
    dsimp only
    split
    · exact saturate_eq_zero hdd
    · show saturate _ _ p * saturate _ _ p = 0
      rw [saturate_eq_zero hdd, zero_mul]
  · rw [if_neg hdual]
    exact saturate_eq_zero hdd

/-- A quantile of zeros is zero, and nothing is above it. -/
theorem not_ddAdmits (hq : cfg.QuantileFacts) (h : NoContrast cfg mb neg) :
    ¬DdAdmits cfg mb neg priors p := by
  intro hadmits
  have hp := hadmits.2.valid
  have hany : anyOn mb.validPos = true :=
    anyOn_of_count (count_pos_of_valid hp)
  have hne : select (positions B T) mb.validPos (sDd mb neg) ≠ [] := by
    apply List.ne_nil_of_mem (a := sDd mb neg p)
    exact List.mem_map_of_mem (List.mem_filter.mpr ⟨mem_positions p, hp⟩)
  have hcut : ddCut cfg mb neg = 0 := by
    unfold ddCut
    rw [if_pos hany]
    apply quantile_const (by exact_mod_cast hq.vdDdQ.2.le) hne
    intro x hx
    obtain ⟨q, hqmem, rfl⟩ := List.mem_map.mp hx
    exact sDd_eq_zero h (List.mem_filter.mp hqmem).2
  have habove := hadmits.1
  rw [hcut, sDd_eq_zero h hp] at habove
  exact lt_irrefl _ habove

/-- The vote's threshold is clamped above zero, where the divergence stays. -/
theorem not_jsdAdmits (hcfg : cfg.Accepted) (htopk : cfg.vdDdJsd = true → hasTopk cfg = true)
    (h : NoContrast cfg mb neg) : ¬JsdAdmits cfg mb neg priors p := by
  intro hadmits
  have hp := hadmits.2.2.valid
  have hzero : ddJsd cfg mb neg p = 0 :=
    topkDivergence_self hcfg ((h p hp).2 (htopk hadmits.1))
  have habove := hadmits.2.1
  rw [hzero] at habove
  exact absurd habove (not_lt.mpr ddJsdCut_pos.le)

theorem hasTopk_of_vote {gates : PriorGates B T} {jsd : Option (Threshold B T)}
    {vote : Option (JsdVote B T)} {hasValid : Bool}
    (h : ddJsdVote cfg mb neg hasValid gates jsd = .ok vote) :
    cfg.vdDdJsd = true → hasTopk cfg = true := by
  intro hon
  by_contra htopk
  unfold ddJsdVote at h
  rw [if_pos hon, if_neg htopk] at h
  cases h

/-- The leg puts no force anywhere. -/
theorem targetedLeg_ext_eq_zero (hcfg : cfg.Accepted) (hdual : cfg.vdDualSignal = true)
    (h : NoContrast cfg mb neg) {leg : TargetedLeg B T}
    (hleg : targetedLeg cfg files mb neg (baseSignals cfg mb neg).dual = .ok leg) :
    ∀ p, leg.ext p = 0 := by
  intro p
  obtain ⟨priors, helig⟩ := targetedLeg_elig hdual hleg
  obtain ⟨_, _, vote, -, -, hvote, rfl⟩ := targetedLeg_paths hdual hleg
  have hoff : ¬_ := fun hon => ((helig p).mp hon).elim (not_ddAdmits hcfg.quantileFacts h)
    (not_jsdAdmits hcfg (hasTopk_of_vote hvote) h)
  rw [Bool.not_eq_true] at hoff
  simp only [assembleLeg] at hoff ⊢
  rw [hoff]
  simp

/-- Every raw weight of a valid position is 1. -/
theorem rawWeights_eq_one (hcfg : cfg.Accepted) (h : NoContrast cfg mb neg)
    {raw : RawWeights B T} (hraw : rawWeights cfg files mb neg = .ok raw)
    (hp : mb.validPos p = true) : raw.wRaw p = 1 := by
  have hbase : baseWeight cfg mb neg p = 1 := by
    unfold baseWeight
    rw [bonus_eq_zero h hp, mul_zero, add_zero]
  rcases rawWeights_cases hraw with ⟨_, rfl⟩ | ⟨leg, ht, _, hleg, rfl⟩ |
    ⟨leg, _, nFreq, ht, _, hleg, _, _, rfl⟩
  · exact hbase
  · have hext := targetedLeg_ext_eq_zero hcfg (hcfg.blockFacts.dual_of_targeted ht) h hleg
    show baseWeight cfg mb neg p + leg.ext p = 1
    rw [hbase, hext p, add_zero]
  · have hext := targetedLeg_ext_eq_zero hcfg (hcfg.blockFacts.dual_of_targeted ht) h hleg
    have htotal : total mb.validPos leg.ext ≤ 0 := by
      rw [total_congr fun q _ => hext q]
      simp [total, sumOn, select]
    show baseWeight cfg mb neg p + leg.ext p - leg.ext p +
      (redistribute leg.ext nFreq mb.validPos defaultKappa).extNew p = 1
    rw [redistribute_of_total_nonpos htotal, hbase]
    simp

/-- Normalization keeps weights that are 1 on the mask at 1. -/
theorem normalizeVdWeights_eq_one {raw : Tensor B T} {valid : Mask B T}
    (h : ∀ p, valid p = true → raw p = 1) (p : Pos B T) : normalizeVdWeights raw valid p = 1 := by
  unfold normalizeVdWeights normalizeWith
  dsimp only
  by_cases hp : valid p = true
  · have hcount : (1 : ℝ) ≤ count valid := by exact_mod_cast count_pos_of_valid hp
    have htotal : total valid raw = count valid := by
      rw [total_congr (y := fun _ => 1) h]
      exact sumOn_const_one _ _
    rw [if_pos hp, htotal, max_eq_left hcount, h p hp, one_mul]
    exact div_self (by linarith)
  · rw [if_neg hp]

end Block

/-! ## The loss -/

/-- Weights that are all 1 leave a per-token loss as it is. -/
theorem timesWeights_one {w : Tensor B T} (h : ∀ p, w p = 1) (loss : Tensor B T) :
    timesWeights (some w) loss = timesWeights none loss := by
  funext p
  show loss p * w p = loss p
  rw [h p, mul_one]

theorem computeSelfDistillationLoss_one {w : Tensor B T} (h : ∀ p, w p = 1)
    (cfg : SelfDistillationConfig) (x : LossInputs B T K V) :
    computeSelfDistillationLoss cfg x (some w) = computeSelfDistillationLoss cfg x none := by
  unfold computeSelfDistillationLoss
  simp only [timesWeights_one h]

/-- **No contrast, no change.** For an accepted config and every micro-batch on which the block
    runs: if no position is valid, or the negative teacher agrees with the positive one on every
    valid position, then `vd_weights` is 1 everywhere and the loss is the one without weights, for
    every setting of the loss and every argument of it. -/
theorem no_contrast_neutral (cfg : SelfDistillationConfig) (files : ActorFiles)
    (mb : MicroBatch B T K) (neg : NegView B T K) (out : VdOutput B T) (hcfg : cfg.Accepted)
    (hneg : mb.teacherNeg = some neg) (hsame : NoContrast cfg mb neg)
    (hrun : weightingBlock cfg files mb = .ok (some out)) :
    (∀ p, out.vdWeights p = 1) ∧
      ∀ (lossCfg : SelfDistillationConfig) (x : LossInputs B T K V),
        computeSelfDistillationLoss lossCfg x (some out.vdWeights) =
          computeSelfDistillationLoss lossCfg x none := by
  obtain ⟨neg', -, hneg', hraw, hw⟩ := weightingBlock_cases.mp hrun
  have heq : neg' = neg := Option.some.inj (hneg'.symm.trans hneg)
  subst heq
  have hone : ∀ p, out.vdWeights p = 1 := by
    intro p
    rw [hw]
    exact normalizeVdWeights_eq_one (fun q hq => rawWeights_eq_one hcfg hsame hraw hq) p
  exact ⟨hone, fun lossCfg x => computeSelfDistillationLoss_one hone lossCfg x⟩

/-- `sampleBatch` with the positive teacher in both views. -/
noncomputable def neutralBatch : MicroBatch 1 3 1 :=
  { sampleBatch 0 with
    teacherNeg := some ⟨(sampleBatch 0).teacherLogProb, (sampleBatch 0).teacherTopkLogps⟩ }

theorem neutralBatch_runs : ∃ out,
    weightingBlock (launcherConfig "priors" "freq") sampleFiles neutralBatch = .ok (some out) :=
  weightingBlock_completes (by decide +kernel) (by decide +kernel) (by decide +kernel) rfl
    ⟨fun _ => ⟨_, rfl⟩, fun _ => ⟨_, rfl, sample_ids_in_range 0⟩⟩

theorem no_contrast_neutral_sample : ∃ out,
    weightingBlock (launcherConfig "priors" "freq") sampleFiles neutralBatch = .ok (some out) ∧
      ∀ p, out.vdWeights p = 1 := by
  obtain ⟨out, h⟩ := neutralBatch_runs
  exact ⟨out, h, (no_contrast_neutral (V := 1) _ _ _ _ out (by decide +kernel) rfl
    (fun _ _ => ⟨rfl, fun _ => rfl⟩) h).1⟩

end LookAway.Weights
