/-
  What each stage of the weighting block can do: one inversion lemma a stage, and the
  invariant carried to `w_raw` (`RawInv`: at least 1 everywhere).

  * `priorGates_rateOk`, `priorGates_tmplOk`: the loop over valid positions, pointwise.
  * `targetedLeg_extInv`: `ext` is non-negative and zero outside the valid positions.
  * `redistribute_nonneg`: redistribution keeps it non-negative.
  * `rawWeights_cases`: `w_raw` is the base weight, plus `ext`, plus `ext_fd` in its place.
-/
import LookAway.Base.Control
import LookAway.Weights.Block

namespace LookAway.Weights

open LookAway.Base

variable {B T K : ℕ}

/-! ## Base signal -/

theorem knee_pos (valid : Mask B T) (x : Tensor B T) : 0 < knee valid x := by
  unfold knee
  split
  · exact lt_of_lt_of_le (by norm_num) (le_max_right _ _)
  · norm_num

theorem saturate_nonneg {x : Tensor B T} (hx : ∀ p, 0 ≤ x p) {tau : ℝ} (ht : 0 < tau)
    (p : Pos B T) : 0 ≤ saturate x tau p :=
  div_nonneg (hx p) (add_nonneg (hx p) ht.le)

theorem absDd_nonneg (mb : MicroBatch B T K) (neg : NegView B T K) (p : Pos B T) :
    0 ≤ absDd mb neg p := abs_nonneg _

theorem studentGap_nonneg (mb : MicroBatch B T K) (p : Pos B T) : 0 ≤ studentGap mb p :=
  abs_nonneg _

theorem baseSignals_bonus_nonneg {cfg : SelfDistillationConfig} (htau : 0 < cfg.vdTau)
    (mb : MicroBatch B T K) (neg : NegView B T K) (p : Pos B T) :
    0 ≤ (baseSignals cfg mb neg).bonus p := by
  have hdd := saturate_nonneg (absDd_nonneg mb neg) (knee_pos mb.validPos (absDd mb neg)) p
  have herr := saturate_nonneg (studentGap_nonneg mb) (knee_pos mb.validPos (studentGap mb)) p
  have hfix := saturate_nonneg (absDd_nonneg mb neg) (Rat.cast_pos.mpr htau : (0 : ℝ) < cfg.vdTau) p
  unfold baseSignals
  dsimp only
  split
  · dsimp only
    split
    · exact hdd
    · exact mul_nonneg hdd herr
  · exact hfix

/-! ## Prior gates -/

/-- A loop that clears a mask at the positions where `c` holds. -/
theorem foldl_clear {ι : Type} [DecidableEq ι] (c : ι → Bool) (ps : List ι) (m : ι → Bool)
    (q : ι) :
    ps.foldl (fun m p => if c p then Function.update m p false else m) m q = true ↔
      m q = true ∧ (q ∈ ps → c q = false) := by
  induction ps generalizing m with
  | nil => simp
  | cons p ps ih =>
      rw [List.foldl_cons, ih]
      by_cases hq : q = p
      · subst hq
        cases hc : c q <;> simp
      · cases hc : c p <;> simp [hq]

theorem foldl_gateStep (priors : VdPriors) (rateCut : ℚ) (ids : Pos B T → ℤ) (valid : Mask B T)
    (ps : List (Pos B T)) (g : PriorGates B T) :
    (ps.foldl (gateStep priors rateCut ids valid) g).rateOk =
        ps.foldl (fun m p => if belowRateCut priors rateCut (ids p)
          then Function.update m p false else m) g.rateOk ∧
      (ps.foldl (gateStep priors rateCut ids valid) g).tmplOk =
        ps.foldl (fun m p => if closesTemplate priors ids valid p
          then Function.update m p false else m) g.tmplOk := by
  induction ps generalizing g with
  | nil => exact ⟨rfl, rfl⟩
  | cons p ps ih => exact ih (gateStep priors rateCut ids valid g p)

/-- `rate_ok` is false exactly at valid positions whose rate is below the cut. -/
theorem priorGates_rateOk (priors : VdPriors) (rateCut : ℚ) (ids : Pos B T → ℤ)
    (valid : Mask B T) (p : Pos B T) :
    (priorGates priors rateCut ids valid).rateOk p =
      !(valid p && belowRateCut priors rateCut (ids p)) := by
  unfold priorGates
  rw [(foldl_gateStep priors rateCut ids valid _ _).1, Bool.eq_iff_iff,
    foldl_clear (fun p => belowRateCut priors rateCut (ids p))]
  cases hv : valid p <;> simp [mem_positions, hv]

/-- `tmpl_ok` is false exactly at valid positions that close a template bigram. -/
theorem priorGates_tmplOk (priors : VdPriors) (rateCut : ℚ) (ids : Pos B T → ℤ)
    (valid : Mask B T) (p : Pos B T) :
    (priorGates priors rateCut ids valid).tmplOk p =
      !(valid p && closesTemplate priors ids valid p) := by
  unfold priorGates
  rw [(foldl_gateStep priors rateCut ids valid _ _).2, Bool.eq_iff_iff,
    foldl_clear (closesTemplate priors ids valid)]
  cases hv : valid p <;> simp [mem_positions, hv]

/-! ## Targeted leg -/

/-- What holds of every extrapolation tensor. -/
structure ExtInv (valid : Mask B T) (ext : Tensor B T) : Prop where
  nonneg : ∀ p, 0 ≤ ext p
  zero_invalid : ∀ p, valid p = false → ext p = 0

theorem targetedLeg_cases {cfg : SelfDistillationConfig} {files : ActorFiles}
    {mb : MicroBatch B T K} {neg : NegView B T K} {dual? : Option (DualSignal B T)}
    {leg : TargetedLeg B T} :
    targetedLeg cfg files mb neg dual? = .ok leg ↔
      ∃ priors dual jsd vote, vdPriors cfg files = .ok priors ∧ dual? = some dual ∧
        jsdGate cfg mb dual.hasValid = .ok jsd ∧
        ddJsdVote cfg mb neg dual.hasValid
          (priorGates priors cfg.vdRateCut mb.responses mb.validPos) jsd = .ok vote ∧
        leg = assembleLeg cfg mb.validPos dual
          (priorGates priors cfg.vdRateCut mb.responses mb.validPos) jsd vote := by
  unfold targetedLeg
  rw [except_bind_ok]
  cases dual? with
  | none =>
      constructor
      · rintro ⟨_, _, h⟩
        cases h
      · rintro ⟨_, _, _, _, _, h, _⟩
        cases h
  | some dual =>
      simp only [except_bind_ok]
      constructor
      · rintro ⟨priors, hp, jsd, hj, vote, hv, h⟩
        cases h
        exact ⟨priors, dual, jsd, vote, hp, rfl, hj, hv, rfl⟩
      · rintro ⟨priors, d, jsd, vote, hp, hd, hj, hv, rfl⟩
        cases hd
        exact ⟨priors, hp, jsd, hj, vote, hv, rfl⟩

theorem gatedBy_false {gate : Option (Threshold B T)} {mask : Mask B T} {p : Pos B T}
    (h : mask p = false) : gatedBy gate mask p = false := by
  cases gate with
  | none => exact h
  | some g => simp [gatedBy, h]

/-- The vote admits valid positions only. -/
theorem ddJsdVote_invalid {cfg : SelfDistillationConfig} {mb : MicroBatch B T K}
    {neg : NegView B T K} {hasValid : Bool} {gates : PriorGates B T}
    {jsd : Option (Threshold B T)} {v : JsdVote B T}
    (h : ddJsdVote cfg mb neg hasValid gates jsd = .ok (some v)) {p : Pos B T}
    (hp : mb.validPos p = false) : v.admitted p = false := by
  unfold ddJsdVote at h
  split at h
  · split at h
    · cases h
      exact gatedBy_false (by simp [hp])
    · cases h
  · cases h

theorem extMargin_nonneg (vote : Option (JsdVote B T)) {m : Tensor B T} (hm : ∀ p, 0 ≤ m p)
    (p : Pos B T) : 0 ≤ extMargin vote m p := by
  cases vote with
  | none => exact hm p
  | some v => exact le_trans (hm p) (le_max_left _ _)

theorem targetedLeg_extInv {cfg : SelfDistillationConfig} (hlam : 0 ≤ cfg.vdLambda)
    {files : ActorFiles} {mb : MicroBatch B T K} {neg : NegView B T K}
    {dual? : Option (DualSignal B T)} {leg : TargetedLeg B T}
    (h : targetedLeg cfg files mb neg dual? = .ok leg) : ExtInv mb.validPos leg.ext := by
  obtain ⟨priors, dual, jsd, vote, -, -, -, hv, rfl⟩ := targetedLeg_cases.mp h
  refine ⟨?_, ?_⟩
  · intro p
    exact mul_nonneg (mul_nonneg (Rat.cast_nonneg.mpr hlam)
      (extMargin_nonneg vote (fun _ => le_max_right _ _) p)) (Nat.cast_nonneg _)
  · intro p hp
    have hdd : gatedBy jsd (ddElig (thetaDd cfg mb.validPos dual) mb.validPos dual
        (priorGates priors cfg.vdRateCut mb.responses mb.validPos)) p = false :=
      gatedBy_false (by simp [ddElig, hp])
    have helig : eligOr vote (gatedBy jsd (ddElig (thetaDd cfg mb.validPos dual) mb.validPos dual
        (priorGates priors cfg.vdRateCut mb.responses mb.validPos))) p = false := by
      cases vote with
      | none => exact hdd
      | some v => simp [eligOr, hdd, ddJsdVote_invalid hv hp]
    simp [assembleLeg, helig]

/-! ## Frequency decay -/

theorem pyIndex_mem {α : Type} {values : List α} {i : ℤ} {a : α} (h : pyIndex values i = some a) :
    a ∈ values := by
  unfold pyIndex at h
  split at h
  · exact List.mem_of_getElem? h
  · split at h
    · exact List.mem_of_getElem? h
    · cases h

theorem gather_mem {α : Type} {values : List α} {ids : Pos B T → ℤ} {n : Pos B T → α}
    (h : gather values ids = some n) (p : Pos B T) : n p ∈ values := by
  unfold gather at h
  split at h
  · cases h
    exact pyIndex_mem (Option.some_get _).symm
  · cases h

theorem redistributeByFreq_cases {ext : Tensor B T} {freqCounts : List ℝ} {ids : Pos B T → ℤ}
    {valid : Mask B T} {r : Redistributed B T} :
    redistributeByFreq ext freqCounts ids valid = some r ↔
      ∃ nFreq, gather freqCounts ids = some nFreq ∧
        r = redistribute ext nFreq valid defaultKappa := by
  unfold redistributeByFreq
  cases gather freqCounts ids with
  | none => simp
  | some n => simp [eq_comm]

theorem defaultKappa_pos : 0 < defaultKappa := by
  unfold defaultKappa
  norm_num

theorem attenuation_pos {kappa n : ℝ} (hk : 0 < kappa) (hn : 0 ≤ n) : 0 < attenuation kappa n := by
  unfold attenuation
  positivity

section Redistribute

variable {ext nFreq : Tensor B T} {valid : Mask B T} {kappa : ℝ}

theorem redistribute_of_total_nonpos (h : total valid ext ≤ 0) :
    redistribute ext nFreq valid kappa = ⟨fun _ => 0, 1, nFreq⟩ := by
  unfold redistribute
  exact if_pos h

/-- With a positive budget every entry is scaled by one positive factor. -/
theorem redistribute_of_total_pos (h : 0 < total valid ext) (p : Pos B T) :
    (redistribute ext nFreq valid kappa).extNew p =
      ext p * attenuation kappa (nFreq p) *
        (total valid ext / total valid fun q => ext q * attenuation kappa (nFreq q)) := by
  unfold redistribute
  rw [if_neg (not_le.mpr h)]

/-- The attenuated budget cannot vanish while the budget is positive. -/
theorem total_weighted_pos (hk : 0 < kappa) (hn : ∀ p, 0 ≤ nFreq p) (hext : ExtInv valid ext)
    (h : 0 < total valid ext) : 0 < total valid fun q => ext q * attenuation kappa (nFreq q) := by
  obtain ⟨q, hq, hvq, hpos⟩ := exists_pos_of_sumOn_pos h
  refine sumOn_pos (fun p _ => ?_) hq hvq (mul_pos hpos (attenuation_pos hk (hn q)))
  exact mul_nonneg (hext.nonneg p) (attenuation_pos hk (hn p)).le

theorem redistribute_nonneg (hk : 0 < kappa) (hn : ∀ p, 0 ≤ nFreq p) (hext : ExtInv valid ext)
    (p : Pos B T) : 0 ≤ (redistribute ext nFreq valid kappa).extNew p := by
  rcases le_or_gt (total valid ext) 0 with h | h
  · rw [redistribute_of_total_nonpos h]
  · rw [redistribute_of_total_pos h]
    have hw := total_weighted_pos hk hn hext h
    exact mul_nonneg (mul_nonneg (hext.nonneg p) (attenuation_pos hk (hn p)).le)
      (div_pos h hw).le

end Redistribute

/-! ## Raw weights -/

/-- Every table the files hold has non-negative counts. -/
def ActorFiles.FreqNonneg (files : ActorFiles) : Prop :=
  ∀ path counts, files.freqFile path = .ok counts → ∀ n ∈ counts, 0 ≤ n

theorem vdFreqTable_nonneg {cfg : SelfDistillationConfig} {files : ActorFiles}
    (hfreq : files.FreqNonneg) {counts : List ℝ} (h : vdFreqTable cfg files = .ok counts) :
    ∀ n ∈ counts, 0 ≤ n := by
  unfold vdFreqTable at h
  split at h
  · split at h
    · cases h
    · exact hfreq _ _ h
  · cases h

/-- `1 + vd_gamma * bonus`. -/
noncomputable def baseWeight (cfg : SelfDistillationConfig) (mb : MicroBatch B T K)
    (neg : NegView B T K) : Tensor B T :=
  fun p => 1 + cfg.vdGamma * (baseSignals cfg mb neg).bonus p

/-- Everything `rawWeights` can return. -/
theorem rawWeights_cases {cfg : SelfDistillationConfig} {files : ActorFiles}
    {mb : MicroBatch B T K} {neg : NegView B T K} {raw : RawWeights B T}
    (h : rawWeights cfg files mb neg = .ok raw) :
    (cfg.vdTargeted = false ∧ raw = ⟨baseWeight cfg mb neg, none, none, none⟩) ∨
    (∃ leg, cfg.vdTargeted = true ∧ cfg.vdFreqDecay = false ∧
      targetedLeg cfg files mb neg (baseSignals cfg mb neg).dual = .ok leg ∧
      raw = ⟨fun p => baseWeight cfg mb neg p + leg.ext p, some leg, none, none⟩) ∨
    (∃ leg counts nFreq, cfg.vdTargeted = true ∧ cfg.vdFreqDecay = true ∧
      targetedLeg cfg files mb neg (baseSignals cfg mb neg).dual = .ok leg ∧
      vdFreqTable cfg files = .ok counts ∧ gather counts mb.responses = some nFreq ∧
      raw = ⟨fun p => baseWeight cfg mb neg p + leg.ext p - leg.ext p +
          (redistribute leg.ext nFreq mb.validPos defaultKappa).extNew p,
        some leg, some (redistribute leg.ext nFreq mb.validPos defaultKappa),
        some (freqDecayLog mb.validPos leg.ext
          (redistribute leg.ext nFreq mb.validPos defaultKappa))⟩) := by
  unfold rawWeights at h
  dsimp only at h
  split at h
  · rename_i ht
    right
    rw [except_bind_ok] at h
    obtain ⟨leg, hleg, h⟩ := h
    split at h
    · rename_i hf
      right
      rw [except_bind_ok] at h
      obtain ⟨counts, hc, h⟩ := h
      split at h
      · cases h
      · rename_i r hr
        obtain ⟨nFreq, hg, rfl⟩ := redistributeByFreq_cases.mp hr
        cases h
        exact ⟨leg, counts, nFreq, ht, hf, hleg, hc, hg, rfl⟩
    · rename_i hf
      left
      cases h
      exact ⟨leg, ht, by simpa using hf, hleg, rfl⟩
  · rename_i ht
    left
    cases h
    exact ⟨by simpa using ht, rfl⟩

theorem weightingBlock_cases {cfg : SelfDistillationConfig} {files : ActorFiles}
    {mb : MicroBatch B T K} {out : VdOutput B T} :
    weightingBlock cfg files mb = .ok (some out) ↔
      ∃ neg, 0 < cfg.vdGamma ∧ mb.teacherNeg = some neg ∧
        rawWeights cfg files mb neg = .ok out.raw ∧
        out.vdWeights = normalizeVdWeights out.raw.wRaw mb.validPos := by
  unfold weightingBlock
  by_cases hg : 0 < cfg.vdGamma
  · rw [if_pos hg]
    cases hneg : mb.teacherNeg with
    | none =>
        constructor
        · intro h
          cases h
        · rintro ⟨_, _, h, _⟩
          cases h
    | some neg =>
        simp only [except_bind_ok]
        constructor
        · rintro ⟨raw, hraw, h⟩
          cases h
          exact ⟨neg, hg, rfl, hraw, rfl⟩
        · rintro ⟨neg', _, h, hraw, hw⟩
          cases h
          refine ⟨out.raw, hraw, ?_⟩
          rw [← hw]
          rfl
  · rw [if_neg hg]
    constructor
    · intro h
      cases h
    · rintro ⟨_, h, _⟩
      exact absurd h hg

/-! ## Completion -/

theorem pyIndex_of_range {α : Type} {values : List α} {i : ℤ} (h0 : 0 ≤ i)
    (h1 : i < values.length) : (pyIndex values i).isSome := by
  unfold pyIndex
  rw [if_pos h0]
  have : i.toNat < values.length := by omega
  simp [this]

theorem gather_eq_some {α : Type} {values : List α} {ids : Pos B T → ℤ}
    (h : ∀ p, (pyIndex values (ids p)).isSome) :
    gather values ids = some fun p => (pyIndex values (ids p)).get (h p) := dif_pos h

/-- The files the config names are there, and every response id is in the vocabulary. -/
structure FilesReady (files : ActorFiles) (mb : MicroBatch B T K) : Prop where
  priors : ∀ path, ∃ pr, files.priorFile path = .ok pr
  freq : ∀ path, ∃ counts, files.freqFile path = .ok counts ∧
    ∀ p, 0 ≤ mb.responses p ∧ mb.responses p < counts.length

/-- The files the config names are there, and every response id is in the table. -/
structure ConfigFilesReady (cfg : SelfDistillationConfig) (files : ActorFiles)
    (mb : MicroBatch B T K) : Prop where
  priors : ∀ path, cfg.vdPriorFile = some path → ∃ pr, files.priorFile path = .ok pr
  freq : ∀ path, cfg.vdFreqFile = some path → ∃ counts, files.freqFile path = .ok counts ∧
    ∀ p, 0 ≤ mb.responses p ∧ mb.responses p < counts.length

theorem FilesReady.config {files : ActorFiles} {mb : MicroBatch B T K} (h : FilesReady files mb)
    (cfg : SelfDistillationConfig) : ConfigFilesReady cfg files mb :=
  ⟨fun path _ => h.priors path, fun path _ => h.freq path⟩

theorem vdPriors_ok {cfg : SelfDistillationConfig} {files : ActorFiles}
    (hfile : truthy cfg.vdPriorFile = true)
    (h : ∀ path, cfg.vdPriorFile = some path → ∃ pr, files.priorFile path = .ok pr) :
    ∃ pr, vdPriors cfg files = .ok pr := by
  unfold vdPriors
  cases e : cfg.vdPriorFile with
  | none => simp [e, truthy] at hfile
  | some path =>
      have hne : path ≠ "" := by simpa [e, truthy] using hfile
      dsimp only
      rw [if_neg hne]
      exact h path e

theorem vdFreqTable_ok {cfg : SelfDistillationConfig} (files : ActorFiles)
    (hfile : truthy cfg.vdFreqFile = true) :
    ∃ path, cfg.vdFreqFile = some path ∧ vdFreqTable cfg files = files.freqFile path := by
  unfold vdFreqTable
  cases e : cfg.vdFreqFile with
  | none => simp [e, truthy] at hfile
  | some path =>
      have hne : path ≠ "" := by simpa [e, truthy] using hfile
      exact ⟨path, rfl, if_neg hne⟩

theorem jsdGate_ok {cfg : SelfDistillationConfig} (htop : cfg.vdJsdGate = true → hasTopk cfg = true)
    (mb : MicroBatch B T K) (hasValid : Bool) : ∃ g, jsdGate cfg mb hasValid = .ok g := by
  unfold jsdGate
  split
  · rename_i hon
    rw [htop hon]
    exact ⟨_, rfl⟩
  · exact ⟨_, rfl⟩

theorem ddJsdVote_ok {cfg : SelfDistillationConfig} (htop : cfg.vdDdJsd = true → hasTopk cfg = true)
    (mb : MicroBatch B T K) (neg : NegView B T K) (hasValid : Bool) (gates : PriorGates B T)
    (g : Option (Threshold B T)) : ∃ v, ddJsdVote cfg mb neg hasValid gates g = .ok v := by
  unfold ddJsdVote
  split
  · rename_i hon
    rw [htop hon]
    exact ⟨_, rfl⟩
  · exact ⟨_, rfl⟩

/-- The dual signal of an accepted targeted config has been assigned. -/
theorem dual_of_targeted {cfg : SelfDistillationConfig} (hcfg : cfg.Accepted)
    (ht : cfg.vdTargeted = true) (mb : MicroBatch B T K) (neg : NegView B T K) :
    ∃ d, (baseSignals cfg mb neg).dual = some d := by
  unfold baseSignals
  rw [hcfg.blockFacts.dual_of_targeted ht]
  exact ⟨_, rfl⟩

/-- An accepted config never raises once its files are there, the batch holds the negative view,
    and the gates that need top-k tensors have them. -/
theorem weightingBlock_ok {cfg : SelfDistillationConfig} {files : ActorFiles}
    {mb : MicroBatch B T K} {neg : NegView B T K} (hcfg : cfg.Accepted) (hg : 0 < cfg.vdGamma)
    (htop : cfg.vdJsdGate = true ∨ cfg.vdDdJsd = true → hasTopk cfg = true)
    (hneg : mb.teacherNeg = some neg) (hfiles : ConfigFilesReady cfg files mb) :
    ∃ out, weightingBlock cfg files mb = .ok (some out) := by
  have facts := hcfg.blockFacts
  have hraw : ∃ raw, rawWeights cfg files mb neg = .ok raw := by
    unfold rawWeights
    dsimp only
    split
    · rename_i ht
      obtain ⟨pr, hpr⟩ := vdPriors_ok (facts.priorFile_of_targeted ht) hfiles.priors
      obtain ⟨d, hd⟩ := dual_of_targeted hcfg ht mb neg
      obtain ⟨g, hj⟩ := jsdGate_ok (fun hon => htop (Or.inl hon)) mb d.hasValid
      obtain ⟨v, hv⟩ := ddJsdVote_ok (fun hon => htop (Or.inr hon)) mb neg d.hasValid
        (priorGates pr cfg.vdRateCut mb.responses mb.validPos) g
      rw [targetedLeg_cases.mpr ⟨pr, d, g, v, hpr, hd, hj, hv, rfl⟩]
      simp only [bind, Except.bind]
      split
      · rename_i hf
        obtain ⟨path, hnamed, hpath⟩ := vdFreqTable_ok files (facts.freqFile_of_freqDecay hf)
        obtain ⟨counts, hc, hin⟩ := hfiles.freq path hnamed
        have hgat := gather_eq_some fun p => pyIndex_of_range (hin p).1 (hin p).2
        rw [hpath, hc]
        dsimp only
        rw [redistributeByFreq_cases.mpr ⟨_, hgat, rfl⟩]
        exact ⟨_, rfl⟩
      · exact ⟨_, rfl⟩
    · exact ⟨_, rfl⟩
  obtain ⟨raw, hraw⟩ := hraw
  exact ⟨⟨raw, normalizeVdWeights raw.wRaw mb.validPos⟩,
    weightingBlock_cases.mpr ⟨neg, hg, hneg, hraw, rfl⟩⟩

/-- The same with top-k distillation, for any files. -/
theorem weightingBlock_completes {cfg : SelfDistillationConfig} {files : ActorFiles}
    {mb : MicroBatch B T K} {neg : NegView B T K} (hcfg : cfg.Accepted) (hg : 0 < cfg.vdGamma)
    (htop : hasTopk cfg = true) (hneg : mb.teacherNeg = some neg) (hfiles : FilesReady files mb) :
    ∃ out, weightingBlock cfg files mb = .ok (some out) :=
  weightingBlock_ok hcfg hg (fun _ => htop) hneg (hfiles.config cfg)

/-! ## The errors of the block -/

/-- Without a negative view the block raises. -/
theorem weightingBlock_no_neg {cfg : SelfDistillationConfig} {files : ActorFiles}
    {mb : MicroBatch B T K} (hg : 0 < cfg.vdGamma) (hneg : mb.teacherNeg = none) :
    weightingBlock cfg files mb =
      .error (.keyError "vd_gamma > 0 requires teacher_neg_* tensors in the batch.") := by
  unfold weightingBlock
  rw [if_pos hg, hneg]
  rfl

/-- The block of an accepted config whose gates lack their top-k tensors raises in one of them. -/
theorem weightingBlock_no_topk {cfg : SelfDistillationConfig} {files : ActorFiles}
    {mb : MicroBatch B T K} {neg : NegView B T K} (hcfg : cfg.Accepted)
    (hon : cfg.vdJsdGate = true ∨ cfg.vdDdJsd = true) (htop : hasTopk cfg = false)
    (hneg : mb.teacherNeg = some neg) (hfiles : ConfigFilesReady cfg files mb) :
    weightingBlock cfg files mb =
        .error (.valueError "vd_jsd_gate requires top-k distillation.") ∨
      weightingBlock cfg files mb =
        .error (.valueError "vd_dd_jsd requires top-k distillation.") := by
  have ht : cfg.vdTargeted = true :=
    hon.elim hcfg.teacherFacts.targeted_of_jsdGate hcfg.teacherFacts.targeted_of_ddJsd
  obtain ⟨pr, hpr⟩ := vdPriors_ok (hcfg.blockFacts.priorFile_of_targeted ht) hfiles.priors
  obtain ⟨d, hd⟩ := dual_of_targeted hcfg ht mb neg
  unfold weightingBlock
  rw [if_pos (hcfg.teacherFacts.gamma_of_targeted ht), hneg]
  dsimp only
  unfold rawWeights targetedLeg
  rw [if_pos ht, hpr, hd]
  simp only [bind, Except.bind]
  by_cases hjsd : cfg.vdJsdGate = true
  · left
    have hgate : jsdGate cfg mb d.hasValid =
        .error (.valueError "vd_jsd_gate requires top-k distillation.") := by
      unfold jsdGate
      rw [if_pos hjsd, if_neg (by simp [htop])]
    rw [hgate]
  · right
    have hdd : cfg.vdDdJsd = true := hon.resolve_left hjsd
    have hgate : jsdGate cfg mb d.hasValid = .ok none := by
      unfold jsdGate
      rw [if_neg hjsd]
    have hvote : ∀ gates : PriorGates B T, ddJsdVote cfg mb neg d.hasValid gates none =
        .error (.valueError "vd_dd_jsd requires top-k distillation.") := by
      intro gates
      unfold ddJsdVote
      rw [if_pos hdd, if_neg (by simp [htop])]
    rw [hgate]
    dsimp only
    rw [hvote]

/-- A micro-batch of one response: two tokens and a pad position holding `pad`. -/
noncomputable def sampleBatch (pad : ℝ) : MicroBatch 1 3 1 where
  responses := fun p => if p.2.val = 1 then 1 else 0
  responseMask := fun p => decide (p.2.val < 2)
  selfDistillationMask := some fun _ => true
  vdNegViewMask := some fun _ => true
  logProb := fun p => if p.2.val = 2 then pad else -1
  teacherLogProb := fun p => if p.2.val = 0 then -1 / 2 else -2
  studentTopkLogps := fun _ _ => -1
  teacherTopkLogps := fun p _ => if p.2.val = 0 then -1 / 2 else -2
  teacherNeg := some ⟨fun _ => -3, fun _ _ => -3⟩

/-- Frozen files for `sampleBatch`: rates above the cut, no template, two counted tokens. -/
def sampleFiles : ActorFiles where
  priorFile := fun _ => .ok ⟨fun _ => some (1 / 2), fun _ => false⟩
  freqFile := fun _ => .ok [3, 40]

theorem sampleFiles_nonneg : sampleFiles.FreqNonneg := by
  intro path counts h
  cases h
  simp

theorem sample_ids_in_range (pad : ℝ) (p : Pos 1 3) :
    0 ≤ (sampleBatch pad).responses p ∧
      (sampleBatch pad).responses p < ([3, 40] : List ℝ).length := by
  simp only [sampleBatch]
  split <;> simp

theorem sample_runs (pad : ℝ) : ∃ out,
    weightingBlock (launcherConfig "priors" "freq") sampleFiles (sampleBatch pad) =
      .ok (some out) :=
  weightingBlock_completes (by decide +kernel) (by decide +kernel) (by decide +kernel) rfl
    ⟨fun _ => ⟨_, rfl⟩, fun _ => ⟨_, rfl, sample_ids_in_range pad⟩⟩

/-! ## The invariant of the raw weights -/

theorem baseWeight_ge_one {cfg : SelfDistillationConfig} (htau : 0 < cfg.vdTau)
    (hg : 0 < cfg.vdGamma) (mb : MicroBatch B T K) (neg : NegView B T K) (p : Pos B T) :
    1 ≤ baseWeight cfg mb neg p := by
  have hb := baseSignals_bonus_nonneg htau mb neg p
  have hγ : (0 : ℝ) ≤ cfg.vdGamma := (Rat.cast_pos.mpr hg).le
  unfold baseWeight
  linarith [mul_nonneg hγ hb]

/-- A base weight and a force that keeps the invariant are at least 1 together. -/
theorem base_add_ext_ge_one {cfg : SelfDistillationConfig} {mb : MicroBatch B T K}
    (htau : 0 < cfg.vdTau) (hg : 0 < cfg.vdGamma) {ext : Tensor B T}
    (hext : ExtInv mb.validPos ext) (neg : NegView B T K) (p : Pos B T) :
    1 ≤ baseWeight cfg mb neg p + ext p := by
  have hbase := baseWeight_ge_one htau hg mb neg p
  have hforce := hext.nonneg p
  linarith

/-- The invariant of the block: every raw weight is at least 1, through every branch. -/
theorem rawWeights_ge_one {cfg : SelfDistillationConfig} (hcfg : cfg.Accepted)
    (hg : 0 < cfg.vdGamma) {files : ActorFiles} (hfreq : files.FreqNonneg)
    {mb : MicroBatch B T K} {neg : NegView B T K} {raw : RawWeights B T}
    (h : rawWeights cfg files mb neg = .ok raw) (p : Pos B T) : 1 ≤ raw.wRaw p := by
  have facts := hcfg.blockFacts
  have hbase := baseWeight_ge_one facts.vdTau_pos hg mb neg p
  rcases rawWeights_cases h with ⟨_, rfl⟩ | ⟨leg, _, _, hleg, rfl⟩ |
    ⟨leg, counts, nFreq, _, _, hleg, hc, hgat, rfl⟩
  · exact hbase
  · exact base_add_ext_ge_one facts.vdTau_pos hg
      (targetedLeg_extInv facts.vdLambda_nonneg hleg) neg p
  · have hn : ∀ q, 0 ≤ nFreq q := fun q => vdFreqTable_nonneg hfreq hc _ (gather_mem hgat q)
    have hfd := redistribute_nonneg defaultKappa_pos hn
      (targetedLeg_extInv facts.vdLambda_nonneg hleg) p
    dsimp only
    linarith

end LookAway.Weights
