/-
  Values at invalid positions never reach `vd_weights`.

  Two micro-batches with one valid mask that agree at every valid position
  (`AgreeOnValid`) are run stage by stage. Each stage keeps its results related: the knees
  and thresholds are equal (they read `x[valid_pos]` only), the gates, `elig` and `ext` are
  equal everywhere, and `w_raw` agrees on the valid positions (`AgreeOn`). The token gather
  reads every position, so all ids have to be in the table (`InVocab`).
-/
import LookAway.Weights.BlockSpec

namespace LookAway.Weights

open LookAway.Base

variable {B T K : ℕ}

/-- Two tensors agree at every position of a mask. -/
def AgreeOn {α : Type} (mask : Mask B T) (x y : Pos B T → α) : Prop :=
  ∀ p, mask p = true → x p = y p

/-- The two batches hold the same keys, and the negative views agree on the mask. -/
def NegAgree (mask : Mask B T) : Option (NegView B T K) → Option (NegView B T K) → Prop
  | none, none => True
  | some n, some n' => AgreeOn mask n.logProb n'.logProb ∧ AgreeOn mask n.topkLogps n'.topkLogps
  | _, _ => False

/-- Same valid mask, and the same values at every valid position. -/
structure AgreeOnValid (mb mb' : MicroBatch B T K) : Prop where
  valid : mb'.validPos = mb.validPos
  responses : AgreeOn mb.validPos mb.responses mb'.responses
  logProb : AgreeOn mb.validPos mb.logProb mb'.logProb
  teacherLogProb : AgreeOn mb.validPos mb.teacherLogProb mb'.teacherLogProb
  studentTopk : AgreeOn mb.validPos mb.studentTopkLogps mb'.studentTopkLogps
  teacherTopk : AgreeOn mb.validPos mb.teacherTopkLogps mb'.teacherTopkLogps
  neg : NegAgree mb.validPos mb.teacherNeg mb'.teacherNeg

/-- Every response id indexes every frequency table the files hold. -/
def InVocab (files : ActorFiles) (mb : MicroBatch B T K) : Prop :=
  ∀ path counts, files.freqFile path = .ok counts →
    ∀ p, 0 ≤ mb.responses p ∧ mb.responses p < counts.length

section Stages

variable {cfg : SelfDistillationConfig} {files : ActorFiles} {mb mb' : MicroBatch B T K}
  {neg neg' : NegView B T K}

/-! ## Base signal -/

theorem knee_congr {valid : Mask B T} {x y : Tensor B T} (h : AgreeOn valid x y) :
    knee valid x = knee valid y := by
  unfold knee
  rw [maskedQuantile_congr h]

theorem saturate_agree {valid : Mask B T} {x y : Tensor B T} (h : AgreeOn valid x y) (tau : ℝ) :
    AgreeOn valid (saturate x tau) (saturate y tau) := by
  intro p hp
  unfold saturate
  rw [h p hp]

theorem absDd_agree (h : AgreeOnValid mb mb')
    (hneg : AgreeOn mb.validPos neg.logProb neg'.logProb) :
    AgreeOn mb.validPos (absDd mb neg) (absDd mb' neg') := by
  intro p hp
  unfold absDd
  rw [h.teacherLogProb p hp, hneg p hp]

theorem studentGap_agree (h : AgreeOnValid mb mb') :
    AgreeOn mb.validPos (studentGap mb) (studentGap mb') := by
  intro p hp
  unfold studentGap
  rw [h.logProb p hp, h.teacherLogProb p hp]

/-- The dual signals of two runs: same `has_valid`, and `s_dd` agrees on the mask. -/
structure DualAgree (mask : Mask B T) (d d' : DualSignal B T) : Prop where
  hasValid : d'.hasValid = d.hasValid
  sDd : AgreeOn mask d.sDd d'.sDd

/-- `s_dd` and `s_err` on agreeing signals. -/
theorem saturateKnee_agree {valid : Mask B T} {x y : Tensor B T} (h : AgreeOn valid x y) :
    AgreeOn valid (saturate x (knee valid x)) (saturate y (knee valid y)) := by
  rw [knee_congr h]
  exact saturate_agree h _

theorem baseSignals_agree (cfg : SelfDistillationConfig) (h : AgreeOnValid mb mb')
    (hneg : AgreeOn mb.validPos neg.logProb neg'.logProb) :
    AgreeOn mb.validPos (baseSignals cfg mb neg).bonus (baseSignals cfg mb' neg').bonus := by
  have hdd := saturateKnee_agree (absDd_agree h hneg)
  have herr := saturateKnee_agree (studentGap_agree h)
  unfold baseSignals
  dsimp only
  rw [h.valid]
  split
  · dsimp only
    split
    · exact hdd
    · intro p hp
      dsimp only
      rw [hdd p hp, herr p hp]
  · exact saturate_agree (absDd_agree h hneg) _

theorem dual_cases (cfg : SelfDistillationConfig) (h : AgreeOnValid mb mb')
    (hneg : AgreeOn mb.validPos neg.logProb neg'.logProb) :
    ((baseSignals cfg mb neg).dual = none ∧ (baseSignals cfg mb' neg').dual = none) ∨
      ∃ d d', (baseSignals cfg mb neg).dual = some d ∧
        (baseSignals cfg mb' neg').dual = some d' ∧ DualAgree mb.validPos d d' := by
  unfold baseSignals
  dsimp only
  rw [h.valid]
  split
  · right
    exact ⟨_, _, rfl, rfl, rfl, saturateKnee_agree (absDd_agree h hneg)⟩
  · left
    exact ⟨rfl, rfl⟩

/-! ## Gates -/

/-- The template look-back reads a valid neighbour only. -/
theorem closesTemplate_congr (priors : VdPriors) {valid : Mask B T} {ids ids' : Pos B T → ℤ}
    (h : AgreeOn valid ids ids') {p : Pos B T} (hp : valid p = true) :
    closesTemplate priors ids valid p = closesTemplate priors ids' valid p := by
  unfold closesTemplate
  cases hq : previous p with
  | none => rfl
  | some q =>
      dsimp only
      cases hv : valid q
      · simp
      · rw [h q hv, h p hp]

theorem priorGates_congr (priors : VdPriors) (rateCut : ℚ) {valid : Mask B T}
    {ids ids' : Pos B T → ℤ} (h : AgreeOn valid ids ids') :
    priorGates priors rateCut ids valid = priorGates priors rateCut ids' valid := by
  have hrate : (priorGates priors rateCut ids valid).rateOk =
      (priorGates priors rateCut ids' valid).rateOk := by
    funext p
    rw [priorGates_rateOk, priorGates_rateOk]
    cases hp : valid p
    · rfl
    · rw [h p hp]
  have htmpl : (priorGates priors rateCut ids valid).tmplOk =
      (priorGates priors rateCut ids' valid).tmplOk := by
    funext p
    rw [priorGates_tmplOk, priorGates_tmplOk]
    cases hp : valid p
    · rfl
    · rw [closesTemplate_congr priors h hp]
  calc priorGates priors rateCut ids valid
      = ⟨(priorGates priors rateCut ids valid).rateOk,
          (priorGates priors rateCut ids valid).tmplOk⟩ := rfl
    _ = priorGates priors rateCut ids' valid := by rw [hrate, htmpl]

theorem topkDivergence_agree (cfg : SelfDistillationConfig) {valid : Mask B T}
    {s s' t t' : TopK B T K} (hs : AgreeOn valid s s') (ht : AgreeOn valid t t') :
    AgreeOn valid (topkDivergence cfg s t) (topkDivergence cfg s' t') := by
  intro p hp
  unfold topkDivergence
  rw [hs p hp, ht p hp]

/-- Optional thresholds of two runs: same cut, and the statistic agrees on the mask. -/
def GateAgree (mask : Mask B T) (g g' : Option (Threshold B T)) : Prop :=
  AgreeOn mask (gatedBy g fun _ => true) (gatedBy g' fun _ => true) ∧ g'.isSome = g.isSome

theorem gatedBy_eq_and (g : Option (Threshold B T)) (m : Mask B T) (p : Pos B T) :
    gatedBy g m p = (m p && gatedBy g (fun _ => true) p) := by
  cases g with
  | none => simp [gatedBy]
  | some g => simp [gatedBy]

theorem jsdGate_agree (h : AgreeOnValid mb mb') (hasValid : Bool) :
    Related (GateAgree mb.validPos) (jsdGate cfg mb hasValid) (jsdGate cfg mb' hasValid) := by
  have hdiv := topkDivergence_agree cfg h.studentTopk h.teacherTopk
  unfold jsdGate
  split
  · split
    · refine .ok ⟨?_, rfl⟩
      intro p hp
      rw [h.valid, ← maskedQuantile_congr hdiv]
      simp only [gatedBy, Threshold.passes, hdiv p hp]
    · exact .error _
  · exact .ok ⟨fun _ _ => rfl, rfl⟩

/-- Optional votes of two runs: both cast or neither, the same admissions, and margins that
    agree on the mask. -/
def VoteAgree (mask : Mask B T) : Option (JsdVote B T) → Option (JsdVote B T) → Prop
  | none, none => True
  | some v, some v' => v'.admitted = v.admitted ∧ AgreeOn mask v.margin v'.margin
  | _, _ => False

/-- A gated mask inside the valid positions is equal everywhere. -/
theorem gatedBy_congr {valid : Mask B T} {g g' : Option (Threshold B T)} {m m' : Mask B T}
    (hg : GateAgree valid g g') (hm : AgreeOn valid m m') (h0 : ∀ p, valid p = false → m p = false)
    (h0' : ∀ p, valid p = false → m' p = false) : gatedBy g m = gatedBy g' m' := by
  funext p
  rw [gatedBy_eq_and, gatedBy_eq_and g' m']
  cases hp : valid p
  · rw [h0 p hp, h0' p hp]
    rfl
  · rw [hm p hp, hg.1 p hp]

theorem ddJsdVote_agree (h : AgreeOnValid mb mb')
    (hneg : AgreeOn mb.validPos neg.topkLogps neg'.topkLogps) (hasValid : Bool)
    (gates : PriorGates B T) {g g' : Option (Threshold B T)}
    (hg : GateAgree mb.validPos g g') :
    Related (VoteAgree mb.validPos) (ddJsdVote cfg mb neg hasValid gates g)
      (ddJsdVote cfg mb' neg' hasValid gates g') := by
  have hdiv := topkDivergence_agree cfg h.teacherTopk hneg
  unfold ddJsdVote
  dsimp only
  split
  · split
    · rw [h.valid, ← maskedQuantile_congr hdiv]
      generalize hth : max (if hasValid = true then maskedQuantile mb.validPos
        (topkDivergence cfg mb.teacherTopkLogps neg.topkLogps) cfg.vdDdJsdQ else 0)
        (1 / 10 ^ 6) = theta
      have hcut : AgreeOn mb.validPos
          (fun p => decide (theta < topkDivergence cfg mb.teacherTopkLogps neg.topkLogps p) &&
            gates.rateOk p && gates.tmplOk p && mb.validPos p)
          (fun p => decide (theta < topkDivergence cfg mb'.teacherTopkLogps neg'.topkLogps p) &&
            gates.rateOk p && gates.tmplOk p && mb.validPos p) := by
        intro p hp
        dsimp only
        rw [hdiv p hp]
      have hadm := gatedBy_congr hg hcut (fun p hp => by simp [hp]) (fun p hp => by simp [hp])
      refine .ok ⟨hadm.symm, ?_⟩
      intro p hp
      dsimp only
      rw [hadm, saturate_agree hdiv theta p hp]
    · exact .error _
  · exact .ok trivial

/-! ## Targeted leg and raw weights -/

theorem thetaDd_congr {mask : Mask B T} {d d' : DualSignal B T} (h : DualAgree mask d d') :
    thetaDd cfg mask d' = thetaDd cfg mask d := by
  unfold thetaDd
  rw [h.hasValid, maskedQuantile_congr h.sDd]

/-- `elig` is equal everywhere and `ext` agrees on the mask. -/
structure LegAgree (mask : Mask B T) (l l' : TargetedLeg B T) : Prop where
  elig : l'.elig = l.elig
  ext : AgreeOn mask l.ext l'.ext

theorem assembleLeg_agree {valid : Mask B T} {d d' : DualSignal B T} (hd : DualAgree valid d d')
    (gates : PriorGates B T) {g g' : Option (Threshold B T)} (hg : GateAgree valid g g')
    {v v' : Option (JsdVote B T)} (hv : VoteAgree valid v v') :
    LegAgree valid (assembleLeg cfg valid d gates g v) (assembleLeg cfg valid d' gates g' v') := by
  have hpre : AgreeOn valid (ddElig (thetaDd cfg valid d) valid d gates)
      (ddElig (thetaDd cfg valid d) valid d' gates) := by
    intro p hp
    unfold ddElig
    rw [hd.sDd p hp]
  have hdd : gatedBy g (ddElig (thetaDd cfg valid d) valid d gates) =
      gatedBy g' (ddElig (thetaDd cfg valid d) valid d' gates) :=
    gatedBy_congr hg hpre (fun p hp => by simp [ddElig, hp]) (fun p hp => by simp [ddElig, hp])
  have helig : eligOr v' (gatedBy g' (ddElig (thetaDd cfg valid d) valid d' gates)) =
      eligOr v (gatedBy g (ddElig (thetaDd cfg valid d) valid d gates)) := by
    rw [hdd]
    cases v with
    | none =>
        cases v' with
        | none => rfl
        | some _ => exact hv.elim
    | some v =>
        cases v' with
        | none => exact hv.elim
        | some v' => simp only [eligOr, hv.1]
  have hmargin : AgreeOn valid (extMargin v fun p => max (d.sDd p - thetaDd cfg valid d) 0)
      (extMargin v' fun p => max (d'.sDd p - thetaDd cfg valid d) 0) := by
    intro p hp
    cases v with
    | none =>
        cases v' with
        | none => simp only [extMargin, hd.sDd p hp]
        | some _ => exact hv.elim
    | some v =>
        cases v' with
        | none => exact hv.elim
        | some v' => simp only [extMargin, hd.sDd p hp, hv.2 p hp]
  unfold assembleLeg
  dsimp only
  rw [thetaDd_congr hd]
  refine ⟨helig, ?_⟩
  intro p hp
  dsimp only
  rw [helig, hmargin p hp]

theorem targetedLeg_agree (h : AgreeOnValid mb mb')
    (hlog : AgreeOn mb.validPos neg.logProb neg'.logProb)
    (htop : AgreeOn mb.validPos neg.topkLogps neg'.topkLogps) :
    Related (LegAgree mb.validPos)
      (targetedLeg cfg files mb neg (baseSignals cfg mb neg).dual)
      (targetedLeg cfg files mb' neg' (baseSignals cfg mb' neg').dual) := by
  unfold targetedLeg
  refine Related.bind (Related.refl _) ?_
  rintro priors _ rfl
  rcases dual_cases cfg h hlog with ⟨e, e'⟩ | ⟨d, d', e, e', hd⟩
  · rw [e, e']
    exact .error _
  · rw [e, e']
    dsimp only
    rw [h.valid, ← priorGates_congr priors cfg.vdRateCut h.responses, hd.hasValid]
    refine Related.bind (jsdGate_agree h _) ?_
    intro g g' hg
    refine Related.bind (ddJsdVote_agree h htop _ _ hg) ?_
    intro v v' hv
    exact .ok (assembleLeg_agree hd _ hg hv)

/-- Gathers with all ids in range succeed and agree where the ids do. -/
theorem gather_agree {valid : Mask B T} {values : List ℝ} {ids ids' : Pos B T → ℤ}
    (h : AgreeOn valid ids ids') (hin : ∀ p, 0 ≤ ids p ∧ ids p < values.length)
    (hin' : ∀ p, 0 ≤ ids' p ∧ ids' p < values.length) :
    ∃ n n', gather values ids = some n ∧ gather values ids' = some n' ∧ AgreeOn valid n n' := by
  refine ⟨_, _, gather_eq_some fun p => pyIndex_of_range (hin p).1 (hin p).2,
    gather_eq_some fun p => pyIndex_of_range (hin' p).1 (hin' p).2, ?_⟩
  intro p hp
  simp only [h p hp]

theorem redistribute_agree {valid : Mask B T} {e e' n n' : Tensor B T} (kappa : ℝ)
    (he : AgreeOn valid e e') (hn : AgreeOn valid n n') :
    AgreeOn valid (redistribute e n valid kappa).extNew
      (redistribute e' n' valid kappa).extNew := by
  have hw : AgreeOn valid (fun p => e p * attenuation kappa (n p))
      (fun p => e' p * attenuation kappa (n' p)) := by
    intro p hp
    dsimp only
    rw [he p hp, hn p hp]
  intro p hp
  unfold redistribute
  dsimp only
  rw [← total_congr he, ← total_congr hw]
  split
  · rfl
  · dsimp only
    rw [he p hp, hn p hp]

theorem rawWeights_agree (h : AgreeOnValid mb mb') (hin : InVocab files mb)
    (hin' : InVocab files mb') (hlog : AgreeOn mb.validPos neg.logProb neg'.logProb)
    (htop : AgreeOn mb.validPos neg.topkLogps neg'.topkLogps) :
    Related (fun r r' => AgreeOn mb.validPos r.wRaw r'.wRaw)
      (rawWeights cfg files mb neg) (rawWeights cfg files mb' neg') := by
  have hbonus := baseSignals_agree cfg h hlog
  unfold rawWeights
  dsimp only
  split
  · refine Related.bind (targetedLeg_agree h hlog htop) ?_
    intro leg leg' hleg
    split
    · cases hc : vdFreqTable cfg files with
      | error e => exact .error e
      | ok counts =>
          have hread : ∃ path, files.freqFile path = .ok counts := by
            unfold vdFreqTable at hc
            split at hc
            · split at hc
              · cases hc
              · exact ⟨_, hc⟩
            · cases hc
          obtain ⟨path, hpath⟩ := hread
          obtain ⟨n, n', hn, hn', hnn⟩ :=
            gather_agree h.responses (hin path counts hpath) (hin' path counts hpath)
          have e : redistributeByFreq leg.ext counts mb.responses mb.validPos =
              some (redistribute leg.ext n mb.validPos defaultKappa) :=
            redistributeByFreq_cases.mpr ⟨n, hn, rfl⟩
          have e' : redistributeByFreq leg'.ext counts mb'.responses mb'.validPos =
              some (redistribute leg'.ext n' mb'.validPos defaultKappa) :=
            redistributeByFreq_cases.mpr ⟨n', hn', rfl⟩
          simp only [bind, Except.bind, e, e']
          refine .ok ?_
          intro p hp
          dsimp only
          rw [hbonus p hp, hleg.ext p hp, h.valid,
            redistribute_agree defaultKappa hleg.ext hnn p hp]
    · refine .ok ?_
      intro p hp
      dsimp only
      rw [hbonus p hp, hleg.ext p hp]
  · refine .ok ?_
    intro p hp
    dsimp only
    rw [hbonus p hp]

/-- Normalization reads the mask only, and writes 1 off it. -/
theorem normalizeVdWeights_congr {valid : Mask B T} {w w' : Tensor B T} (h : AgreeOn valid w w') :
    normalizeVdWeights w valid = normalizeVdWeights w' valid := by
  funext p
  unfold normalizeVdWeights normalizeWith
  rw [total_congr h]
  cases hp : valid p
  · rfl
  · dsimp only
    rw [h p hp]

end Stages

/-- **Noninterference.** Two micro-batches with the same valid mask that agree at every valid
    position give the same `vd_weights` at every position (or raise the same error), whatever
    they hold elsewhere, as long as every response id is in the vocabulary. -/
theorem vdWeights_noninterference (cfg : SelfDistillationConfig) (files : ActorFiles)
    (mb mb' : MicroBatch B T K) (h : AgreeOnValid mb mb') (hin : InVocab files mb)
    (hin' : InVocab files mb') :
    (weightingBlock cfg files mb).map (Option.map VdOutput.vdWeights) =
      (weightingBlock cfg files mb').map (Option.map VdOutput.vdWeights) := by
  apply Related.map_eq
  have hneg := h.neg
  unfold weightingBlock
  split
  · cases e : mb.teacherNeg with
    | none =>
        cases e' : mb'.teacherNeg with
        | none => exact .error _
        | some neg' => rw [e, e'] at hneg; exact hneg.elim
    | some neg =>
        cases e' : mb'.teacherNeg with
        | none => rw [e, e'] at hneg; exact hneg.elim
        | some neg' =>
            rw [e, e'] at hneg
            refine Related.bind (rawWeights_agree h hin hin' hneg.1 hneg.2) ?_
            intro raw raw' hraw
            refine .ok ?_
            rw [h.valid]
            exact congrArg some (normalizeVdWeights_congr hraw)
  · exact .ok rfl

theorem sampleBatch_validPos (pad : ℝ) (p : Pos 1 3) :
    (sampleBatch pad).validPos p = decide (p.2.val < 2) := by
  simp [MicroBatch.validPos, MicroBatch.lossMask, rowMask, sampleBatch]

theorem sample_inVocab (pad : ℝ) : InVocab sampleFiles (sampleBatch pad) := by
  intro path counts h
  cases h
  exact sample_ids_in_range pad

/-- The pad position of `sampleBatch` does not reach its weights. -/
theorem vdWeights_noninterference_sample :
    (weightingBlock (launcherConfig "priors" "freq") sampleFiles (sampleBatch 0)).map
        (Option.map VdOutput.vdWeights) =
      (weightingBlock (launcherConfig "priors" "freq") sampleFiles (sampleBatch (-7))).map
        (Option.map VdOutput.vdWeights) := by
  refine vdWeights_noninterference _ _ _ _ ⟨?_, fun _ _ => rfl, ?_, fun _ _ => rfl,
    fun _ _ => rfl, fun _ _ => rfl, ?_⟩ (sample_inVocab 0) (sample_inVocab (-7))
  · funext p
    rw [sampleBatch_validPos, sampleBatch_validPos]
  · intro p hp
    rw [sampleBatch_validPos, decide_eq_true_eq] at hp
    simp [sampleBatch, Nat.ne_of_lt hp]
  · exact ⟨fun _ _ => rfl, fun _ _ => rfl⟩

end LookAway.Weights
