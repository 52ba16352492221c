/-
  Frequency decay reallocates the extrapolation budget and nothing else.

  `redistribute_total`, `redistribute_support`, `redistribute_ratio` and
  `redistribute_rarer_le` are about the helper, for every extrapolation tensor that is
  non-negative and zero off the valid positions. `freqDecay_reallocates` compares two runs
  of the whole block that differ in `vd_freq_decay` only, down to the final weights.
-/
import LookAway.Weights.MeanPreservation

namespace LookAway.Weights

open LookAway.Base

variable {B T K : ℕ}

/-! ## The helper -/

section Redistribute

variable {ext nFreq : Tensor B T} {valid : Mask B T} {kappa : ℝ}

/-- A budget that is not positive has no positive entry. -/
theorem ext_zero_of_total_nonpos (hext : ExtInv valid ext) (h : total valid ext ≤ 0)
    (p : Pos B T) : ext p = 0 := by
  by_contra hne
  have hpos : 0 < ext p := lt_of_le_of_ne (hext.nonneg p) (Ne.symm hne)
  cases hv : valid p
  · exact hne (hext.zero_invalid p hv)
  · have htot : 0 < total valid ext :=
      sumOn_pos (fun q _ => hext.nonneg q) (mem_positions p) hv hpos
    exact absurd h (not_le.mpr htot)

/-- The redistributed tensor has the same total, however small the budget is. -/
theorem redistribute_total (hk : 0 < kappa) (hn : ∀ p, 0 ≤ nFreq p) (hext : ExtInv valid ext) :
    total valid (redistribute ext nFreq valid kappa).extNew = total valid ext := by
  rcases le_or_gt (total valid ext) 0 with h | h
  · rw [redistribute_of_total_nonpos h]
    have hz : total valid ext = total valid fun _ => 0 :=
      total_congr fun p _ => ext_zero_of_total_nonpos hext h p
    rw [hz]
  · have hw := total_weighted_pos hk hn hext h
    calc total valid (redistribute ext nFreq valid kappa).extNew
        = total valid fun p => ext p * attenuation kappa (nFreq p) *
            (total valid ext / total valid fun q => ext q * attenuation kappa (nFreq q)) :=
          total_congr fun p _ => redistribute_of_total_pos h p
      _ = (total valid fun p => ext p * attenuation kappa (nFreq p)) *
            (total valid ext / total valid fun q => ext q * attenuation kappa (nFreq q)) :=
          sumOn_mul_right _ _ _ _
      _ = total valid ext := mul_div_cancel₀ _ hw.ne'

/-- A position receives force exactly when it had some. -/
theorem redistribute_support (hk : 0 < kappa) (hn : ∀ p, 0 ≤ nFreq p) (hext : ExtInv valid ext)
    (p : Pos B T) : (redistribute ext nFreq valid kappa).extNew p = 0 ↔ ext p = 0 := by
  rcases le_or_gt (total valid ext) 0 with h | h
  · rw [redistribute_of_total_nonpos h]
    exact ⟨fun _ => ext_zero_of_total_nonpos hext h p, fun _ => rfl⟩
  · rw [redistribute_of_total_pos h]
    have hw := total_weighted_pos hk hn hext h
    have hscale := (div_pos h hw).ne'
    have ha := (attenuation_pos hk (hn p)).ne'
    constructor
    · intro hz
      rcases mul_eq_zero.mp hz with hz | hz
      · exact (mul_eq_zero.mp hz).resolve_right ha
      · exact absurd hz hscale
    · intro hz
      rw [hz, zero_mul, zero_mul]

theorem total_pos_of_ext_pos (hext : ExtInv valid ext) {p : Pos B T} (hp : 0 < ext p) :
    0 < total valid ext := by
  by_contra h
  exact hp.ne' (ext_zero_of_total_nonpos hext (not_lt.mp h) p)

theorem attenuation_ratio {a b : ℝ} (hk : 0 < kappa) (ha : 0 ≤ a) (hb : 0 ≤ b) :
    attenuation kappa a / attenuation kappa b = √((b + kappa) / (a + kappa)) := by
  have hb' : 0 ≤ b + kappa := by linarith
  have hapos : 0 < √(a + kappa) := Real.sqrt_pos.mpr (by linarith)
  have hbpos : 0 < √(b + kappa) := Real.sqrt_pos.mpr (by linarith)
  unfold attenuation
  rw [Real.sqrt_div hb']
  field_simp

/-- The force ratio of two positions changes by the square root of the inverse count ratio. -/
theorem redistribute_ratio (hk : 0 < kappa) (hn : ∀ p, 0 ≤ nFreq p) (hext : ExtInv valid ext)
    {i j : Pos B T} (hi : 0 < ext i) :
    (redistribute ext nFreq valid kappa).extNew i / (redistribute ext nFreq valid kappa).extNew j =
      ext i / ext j * √((nFreq j + kappa) / (nFreq i + kappa)) := by
  have h := total_pos_of_ext_pos hext hi
  have hw := total_weighted_pos hk hn hext h
  rw [redistribute_of_total_pos h, redistribute_of_total_pos h,
    mul_div_mul_right _ _ (div_pos h hw).ne', mul_div_mul_comm,
    attenuation_ratio hk (hn i) (hn j)]

/-- A rarer token never loses to a commoner one with the same force. -/
theorem redistribute_rarer_le (hk : 0 < kappa) (hn : ∀ p, 0 ≤ nFreq p) (hext : ExtInv valid ext)
    {i j : Pos B T} (hsame : ext i = ext j) (hle : nFreq i ≤ nFreq j) :
    (redistribute ext nFreq valid kappa).extNew j ≤
      (redistribute ext nFreq valid kappa).extNew i := by
  rcases le_or_gt (total valid ext) 0 with h | h
  · rw [redistribute_of_total_nonpos h]
  · have hw := total_weighted_pos hk hn hext h
    have ha : attenuation kappa (nFreq j) ≤ attenuation kappa (nFreq i) := by
      unfold attenuation
      apply one_div_le_one_div_of_le (Real.sqrt_pos.mpr (by linarith [hn i]))
      exact Real.sqrt_le_sqrt (by linarith)
    rw [redistribute_of_total_pos h, redistribute_of_total_pos h, hsame]
    exact mul_le_mul_of_nonneg_right (mul_le_mul_of_nonneg_left ha (hext.nonneg j))
      (div_pos h hw).le

theorem redistribute_nFreq (ext nFreq : Tensor B T) (valid : Mask B T) (kappa : ℝ) :
    (redistribute ext nFreq valid kappa).nFreq = nFreq := by
  unfold redistribute
  dsimp only
  split <;> rfl

end Redistribute

/-! ## Two runs of the block -/

/-- The config with frequency decay switched off. -/
def withoutFreqDecay (cfg : SelfDistillationConfig) : SelfDistillationConfig :=
  { cfg with vdFreqDecay := false }

/-- A run with decay on determines the run with decay off: the same leg, and `w_raw` that
    differs by the exchange of `ext` for `ext_fd`. -/
theorem rawWeights_off {cfg : SelfDistillationConfig} {files : ActorFiles}
    {mb : MicroBatch B T K} {neg : NegView B T K} {raw : RawWeights B T}
    (hcfg : cfg.Accepted) (hon : cfg.vdFreqDecay = true)
    (h : rawWeights cfg files mb neg = .ok raw) :
    ∃ leg counts nFreq, targetedLeg cfg files mb neg (baseSignals cfg mb neg).dual = .ok leg ∧
      vdFreqTable cfg files = .ok counts ∧ gather counts mb.responses = some nFreq ∧
      raw.leg = some leg ∧
      raw.redistributed = some (redistribute leg.ext nFreq mb.validPos defaultKappa) ∧
      raw.wRaw = (fun p => baseWeight cfg mb neg p + leg.ext p - leg.ext p +
          (redistribute leg.ext nFreq mb.validPos defaultKappa).extNew p) ∧
      rawWeights (withoutFreqDecay cfg) files mb neg =
        .ok ⟨fun p => baseWeight cfg mb neg p + leg.ext p, some leg, none, none⟩ := by
  have ht := hcfg.blockFacts.targeted_of_freqDecay hon
  rcases rawWeights_cases h with ⟨hf, _⟩ | ⟨_, _, hf, _⟩ |
    ⟨leg, counts, nFreq, _, _, hleg, hc, hg, rfl⟩
  · rw [ht] at hf
    cases hf
  · rw [hon] at hf
    cases hf
  · refine ⟨leg, counts, nFreq, hleg, hc, hg, rfl, rfl, rfl, ?_⟩
    have hleg' : targetedLeg (withoutFreqDecay cfg) files mb neg
        (baseSignals (withoutFreqDecay cfg) mb neg).dual = .ok leg := hleg
    have ht' : (withoutFreqDecay cfg).vdTargeted = true := ht
    unfold rawWeights
    dsimp only
    rw [if_pos ht', hleg']
    rfl

/-- Raw weights with the same masked sum give normalized weights that agree wherever the raw
    weights do. -/
theorem normalizeVdWeights_of_total_eq {valid : Mask B T} {w w' : Tensor B T}
    (h : total valid w = total valid w') {p : Pos B T} (hp : w p = w' p) :
    normalizeVdWeights w valid p = normalizeVdWeights w' valid p := by
  unfold normalizeVdWeights normalizeWith
  rw [h, hp]

/-- **Frequency decay is a pure reallocation.** If the block runs to completion with decay on,
    it does with decay off, on the same extrapolation tensor `ext`, and: (a) the
    redistributed tensor has the same total over the valid positions; (b) the same support;
    (c) the force ratio of two positions with force changes by
    `sqrt((n_j + 50) / (n_i + 50))`, so a rarer token never loses to a commoner one with the
    same force; (d) the final weights have the same sum over the valid positions and are
    equal wherever `ext` is zero. -/
theorem freqDecay_reallocates (cfg : SelfDistillationConfig) (files : ActorFiles)
    (mb : MicroBatch B T K) (on : VdOutput B T) (hcfg : cfg.Accepted)
    (hon : cfg.vdFreqDecay = true) (hfreq : files.FreqNonneg)
    (hrun : weightingBlock cfg files mb = .ok (some on)) :
    ∃ off leg counts r, weightingBlock (withoutFreqDecay cfg) files mb = .ok (some off) ∧
      on.raw.leg = some leg ∧ off.raw.leg = some leg ∧ on.raw.redistributed = some r ∧
      vdFreqTable cfg files = .ok counts ∧ gather counts mb.responses = some r.nFreq ∧
      ExtInv mb.validPos leg.ext ∧
      total mb.validPos r.extNew = total mb.validPos leg.ext ∧
      (∀ p, r.extNew p ≠ 0 ↔ leg.ext p ≠ 0) ∧
      (∀ i j, 0 < leg.ext i → 0 < leg.ext j →
        r.extNew i / r.extNew j =
          leg.ext i / leg.ext j * √((r.nFreq j + 50) / (r.nFreq i + 50))) ∧
      (∀ i j, leg.ext i = leg.ext j → r.nFreq i ≤ r.nFreq j → r.extNew j ≤ r.extNew i) ∧
      total mb.validPos on.vdWeights = total mb.validPos off.vdWeights ∧
      (∀ p, leg.ext p = 0 → on.vdWeights p = off.vdWeights p) := by
  obtain ⟨neg, hg, hneg, hraw, hw⟩ := weightingBlock_cases.mp hrun
  obtain ⟨leg, counts, nFreq, hleg, hc, hgat, hol, hor, howr, hoff⟩ :=
    rawWeights_off hcfg hon hraw
  set r := redistribute leg.ext nFreq mb.validPos defaultKappa
  have facts := hcfg.blockFacts
  have hk := defaultKappa_pos
  have hn : ∀ q, 0 ≤ nFreq q := fun q => vdFreqTable_nonneg hfreq hc _ (gather_mem hgat q)
  have hext := targetedLeg_extInv facts.vdLambda_nonneg hleg
  have hrn : r.nFreq = nFreq := redistribute_nFreq _ _ _ _
  have htot : total mb.validPos r.extNew = total mb.validPos leg.ext :=
    redistribute_total hk hn hext
  have hsupp : ∀ p, r.extNew p = 0 ↔ leg.ext p = 0 := redistribute_support hk hn hext
  set wOff : Tensor B T := fun p => baseWeight cfg mb neg p + leg.ext p
  have hon' : ∀ p, on.raw.wRaw p = baseWeight cfg mb neg p + r.extNew p := by
    intro p
    rw [howr]
    ring
  have hsum : total mb.validPos on.raw.wRaw = total mb.validPos wOff := by
    calc total mb.validPos on.raw.wRaw
        = total mb.validPos (baseWeight cfg mb neg) + total mb.validPos r.extNew := by
          rw [total_congr fun p _ => hon' p]
          exact sumOn_add _ _ _ _
      _ = total mb.validPos wOff := by
          rw [htot]
          exact (sumOn_add _ _ _ _).symm
  have hoffBlock : weightingBlock (withoutFreqDecay cfg) files mb = .ok
      (some ⟨⟨wOff, some leg, none, none⟩, normalizeVdWeights wOff mb.validPos⟩) :=
    weightingBlock_cases.mpr ⟨neg, hg, hneg, hoff, rfl⟩
  have hone : ∀ p, 1 ≤ wOff p := base_add_ext_ge_one facts.vdTau_pos hg hext neg
  refine ⟨_, leg, counts, r, hoffBlock, hol, rfl, hor, hc, by rw [hrn]; exact hgat, hext, htot,
    fun p => not_congr (hsupp p), ?_, ?_, ?_, ?_⟩
  · intro i j hi _
    rw [hrn]
    exact redistribute_ratio hk hn hext hi
  · intro i j hsame hle
    rw [hrn] at hle
    exact redistribute_rarer_le hk hn hext hsame hle
  · have honeOn := rawWeights_ge_one hcfg hg hfreq hraw
    rw [hw, normalize_eq_unclamped honeOn, normalize_eq_unclamped hone,
      total_normalizeUnclamped honeOn, total_normalizeUnclamped hone]
  · intro p hp
    rw [hw]
    apply normalizeVdWeights_of_total_eq hsum
    rw [hon' p, (hsupp p).mpr hp]
    show _ = baseWeight cfg mb neg p + leg.ext p
    rw [hp]

theorem freqDecay_reallocates_sample : ∃ on off,
    weightingBlock (launcherConfig "priors" "freq") sampleFiles (sampleBatch 0) = .ok (some on) ∧
      weightingBlock (withoutFreqDecay (launcherConfig "priors" "freq")) sampleFiles
        (sampleBatch 0) = .ok (some off) ∧
      total (sampleBatch 0).validPos on.vdWeights =
        total (sampleBatch 0).validPos off.vdWeights := by
  obtain ⟨on, h⟩ := sample_runs 0
  obtain ⟨off, _, _, _, hoff, -, -, -, -, -, -, -, -, -, -, hsum, -⟩ :=
    freqDecay_reallocates _ _ _ on (by decide +kernel) rfl sampleFiles_nonneg h
  exact ⟨on, off, h, hoff, hsum⟩

end LookAway.Weights
