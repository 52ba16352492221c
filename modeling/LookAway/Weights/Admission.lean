/-
  Where extrapolation force lands.

  The block builds the eligibility mask and the margin apart and multiplies them at the end.
  `DdAdmits` and `JsdAdmits` are the two complete gate paths, each with all of its conditions;
  `ext_lands`: a token has force exactly when one of them admits it, and then the larger margin of
  those that do.
-/
import LookAway.Weights.BlockSpec

namespace LookAway.Weights

open LookAway.Base

variable {B T K : ℕ}

/-! ## The two paths -/

section Paths

variable (cfg : SelfDistillationConfig) (mb : MicroBatch B T K) (neg : NegView B T K)
  (priors : VdPriors) (p : Pos B T)

/-- `s_dd` -/
noncomputable def sDd : Tensor B T := saturate (absDd mb neg) (knee mb.validPos (absDd mb neg))

/-- `theta_dd` -/
noncomputable def ddCut : ℝ :=
  if anyOn mb.validPos then maskedQuantile mb.validPos (sDd mb neg) cfg.vdDdQ else 1 / 2

/-- `jsd_tok` -/
noncomputable def jsdTok : Tensor B T :=
  topkDivergence cfg mb.studentTopkLogps mb.teacherTopkLogps

/-- `jsd_thr` -/
noncomputable def jsdCut : ℝ :=
  if anyOn mb.validPos then maskedQuantile mb.validPos (jsdTok cfg mb) cfg.vdJsdQ else 0

/-- `dd_jsd` -/
noncomputable def ddJsd : Tensor B T := topkDivergence cfg mb.teacherTopkLogps neg.topkLogps

/-- `theta_jsd`, clamped -/
noncomputable def ddJsdCut : ℝ :=
  max (if anyOn mb.validPos then maskedQuantile mb.validPos (ddJsd cfg mb neg) cfg.vdDdJsdQ else 0)
    (1 / 10 ^ 6)

/-- `s_jsd` -/
noncomputable def sJsd : Tensor B T := saturate (ddJsd cfg mb neg) (ddJsdCut cfg mb neg)

/-- What both paths ask of a token. -/
structure CommonGates : Prop where
  valid : mb.validPos p = true
  rate : cfg.vdRateCut ≤ (priors.rateById (mb.responses p)).getD (1 / 10)
  template : ∀ q, previous p = some q → mb.validPos q = true →
    priors.tmplPairs (mb.responses q, mb.responses p) = false
  ammunition : cfg.vdJsdGate = true → jsdCut cfg mb < jsdTok cfg mb p

/-- The dd path admits the token. -/
def DdAdmits : Prop := ddCut cfg mb neg < sDd mb neg p ∧ CommonGates cfg mb priors p

/-- The distribution-level path admits the token. -/
def JsdAdmits : Prop :=
  cfg.vdDdJsd = true ∧ ddJsdCut cfg mb neg < ddJsd cfg mb neg p ∧ CommonGates cfg mb priors p

end Paths

/-! ## The masks are the paths -/

section Masks

variable {cfg : SelfDistillationConfig} {mb : MicroBatch B T K} {neg : NegView B T K}
  {priors : VdPriors} {p : Pos B T}

theorem ddJsdCut_pos : 0 < ddJsdCut cfg mb neg :=
  lt_of_lt_of_le (by norm_num) (le_max_right _ _)

theorem closesTemplate_eq_false_iff {ids : Pos B T → ℤ} {valid : Mask B T} :
    closesTemplate priors ids valid p = false ↔
      ∀ q, previous p = some q → valid q = true → priors.tmplPairs (ids q, ids p) = false := by
  unfold closesTemplate
  cases previous p with
  | none => simp
  | some q => simp

theorem belowRateCut_eq_false_iff {rateCut : ℚ} {rid : ℤ} :
    belowRateCut priors rateCut rid = false ↔ rateCut ≤ (priors.rateById rid).getD (1 / 10) := by
  unfold belowRateCut
  simp

/-- At a valid position the prior gates are the rate and the template condition. -/
theorem priorGates_iff (hv : mb.validPos p = true) :
    ((priorGates priors cfg.vdRateCut mb.responses mb.validPos).rateOk p = true ∧
      (priorGates priors cfg.vdRateCut mb.responses mb.validPos).tmplOk p = true) ↔
      cfg.vdRateCut ≤ (priors.rateById (mb.responses p)).getD (1 / 10) ∧
        ∀ q, previous p = some q → mb.validPos q = true →
          priors.tmplPairs (mb.responses q, mb.responses p) = false := by
  rw [priorGates_rateOk, priorGates_tmplOk, hv, Bool.true_and, Bool.true_and, Bool.not_eq_true',
    Bool.not_eq_true', belowRateCut_eq_false_iff, closesTemplate_eq_false_iff]

/-- The ammunition gate restricts a mask by its own condition, when it is on. -/
theorem gatedBy_jsdGate {jsd : Option (Threshold B T)}
    (h : jsdGate cfg mb (anyOn mb.validPos) = .ok jsd) (mask : Mask B T) :
    gatedBy jsd mask p = true ↔
      mask p = true ∧ (cfg.vdJsdGate = true → jsdCut cfg mb < jsdTok cfg mb p) := by
  unfold jsdGate at h
  split at h
  · rename_i hgate
    split at h
    · cases h
      have hpass : (Threshold.passes ⟨jsdTok cfg mb, jsdCut cfg mb⟩ : Mask B T) p = true ↔
          jsdCut cfg mb < jsdTok cfg mb p := decide_eq_true_iff
      show (mask p && Threshold.passes ⟨jsdTok cfg mb, jsdCut cfg mb⟩ p) = true ↔ _
      rw [Bool.and_eq_true, hpass]
      simp [hgate]
    · cases h
  · rename_i hgate
    cases h
    simp [gatedBy, hgate]

/-- A statistic above its threshold and the prior gates, then the ammunition gate: the common
    gates with the condition on the statistic. -/
theorem gated_iff {jsd : Option (Threshold B T)}
    (h : jsdGate cfg mb (anyOn mb.validPos) = .ok jsd) (stat : Tensor B T) (cut : ℝ) :
    gatedBy jsd (fun q => decide (cut < stat q) &&
        (priorGates priors cfg.vdRateCut mb.responses mb.validPos).rateOk q &&
        (priorGates priors cfg.vdRateCut mb.responses mb.validPos).tmplOk q && mb.validPos q) p =
        true ↔
      cut < stat p ∧ CommonGates cfg mb priors p := by
  rw [gatedBy_jsdGate h]
  simp only [Bool.and_eq_true, decide_eq_true_eq, and_assoc]
  constructor
  · rintro ⟨hcut, hrate, htmpl, hv, hammo⟩
    obtain ⟨hr, ht⟩ := (priorGates_iff hv).mp ⟨hrate, htmpl⟩
    exact ⟨hcut, hv, hr, ht, hammo⟩
  · rintro ⟨hcut, hv, hr, ht, hammo⟩
    obtain ⟨hrate, htmpl⟩ := (priorGates_iff hv).mpr ⟨hr, ht⟩
    exact ⟨hcut, hrate, htmpl, hv, hammo⟩

/-- What the vote is, when it runs. -/
theorem ddJsdVote_eq_ok {gates : PriorGates B T} {jsd : Option (Threshold B T)}
    {vote : Option (JsdVote B T)}
    (h : ddJsdVote cfg mb neg (anyOn mb.validPos) gates jsd = .ok vote) :
    (cfg.vdDdJsd = false ∧ vote = none) ∨
      ∃ v, cfg.vdDdJsd = true ∧ vote = some v ∧
        v.admitted = gatedBy jsd (fun q => decide (ddJsdCut cfg mb neg < ddJsd cfg mb neg q) &&
          gates.rateOk q && gates.tmplOk q && mb.validPos q) ∧
        v.margin = fun q => max (sJsd cfg mb neg q - 1 / 2) 0 * (v.admitted q).toNat := by
  unfold ddJsdVote at h
  split at h
  · rename_i hon
    split at h
    · cases h
      exact .inr ⟨_, hon, rfl, rfl, rfl⟩
    · cases h
  · rename_i hoff
    cases h
    exact .inl ⟨by simpa using hoff, rfl⟩

/-- `s_jsd` is above one half exactly when `dd_jsd` is above its threshold. -/
theorem half_lt_sJsd (h : ddJsdCut cfg mb neg < ddJsd cfg mb neg p) :
    1 / 2 < sJsd cfg mb neg p := by
  have hcut : 0 < ddJsdCut cfg mb neg := ddJsdCut_pos
  unfold sJsd saturate
  rw [lt_div_iff₀ (by linarith)]
  linarith

theorem DdAdmits.margin_pos (h : DdAdmits cfg mb neg priors p) :
    0 < sDd mb neg p - ddCut cfg mb neg := sub_pos.mpr h.1

theorem JsdAdmits.margin_pos (h : JsdAdmits cfg mb neg priors p) :
    0 < sJsd cfg mb neg p - 1 / 2 := sub_pos.mpr (half_lt_sJsd h.2.1)

/-- A token that only the other path admits passes the common gates, so it is not above
    `theta_dd`. -/
theorem JsdAdmits.ddMargin_nonpos (h : JsdAdmits cfg mb neg priors p)
    (hno : ¬DdAdmits cfg mb neg priors p) : sDd mb neg p - ddCut cfg mb neg ≤ 0 := by
  by_contra hpos
  exact hno ⟨sub_pos.mp (not_le.mp hpos), h.2.2⟩

end Masks

/-! ## The force -/

section Force

variable {cfg : SelfDistillationConfig} {files : ActorFiles} {mb : MicroBatch B T K}
  {neg : NegView B T K}

/-- The leg, with its two paths as masks. -/
theorem targetedLeg_paths {leg : TargetedLeg B T} (hdual : cfg.vdDualSignal = true)
    (h : targetedLeg cfg files mb neg (baseSignals cfg mb neg).dual = .ok leg) :
    ∃ priors jsd vote, vdPriors cfg files = .ok priors ∧
      jsdGate cfg mb (anyOn mb.validPos) = .ok jsd ∧
      ddJsdVote cfg mb neg (anyOn mb.validPos)
        (priorGates priors cfg.vdRateCut mb.responses mb.validPos) jsd = .ok vote ∧
      leg = assembleLeg cfg mb.validPos ⟨anyOn mb.validPos, sDd mb neg⟩
        (priorGates priors cfg.vdRateCut mb.responses mb.validPos) jsd vote := by
  obtain ⟨priors, dual, jsd, vote, hpriors, hsome, hjsd, hvote, hleg⟩ := targetedLeg_cases.mp h
  have hdual' : (baseSignals cfg mb neg).dual = some ⟨anyOn mb.validPos, sDd mb neg⟩ := by
    unfold baseSignals
    rw [hdual]
    rfl
  rw [hdual'] at hsome
  cases hsome
  exact ⟨priors, jsd, vote, hpriors, hjsd, hvote, hleg⟩

/-- The force at a token, from the paths that admit it. -/
structure ForceAt (cfg : SelfDistillationConfig) (mb : MicroBatch B T K) (neg : NegView B T K)
    (priors : VdPriors) (ext : ℝ) (p : Pos B T) : Prop where
  pos_iff : 0 < ext ↔ DdAdmits cfg mb neg priors p ∨ JsdAdmits cfg mb neg priors p
  both : DdAdmits cfg mb neg priors p → JsdAdmits cfg mb neg priors p →
    ext = cfg.vdLambda * max (sDd mb neg p - ddCut cfg mb neg) (sJsd cfg mb neg p - 1 / 2)
  dd : DdAdmits cfg mb neg priors p → ¬JsdAdmits cfg mb neg priors p →
    ext = cfg.vdLambda * (sDd mb neg p - ddCut cfg mb neg)
  jsd : ¬DdAdmits cfg mb neg priors p → JsdAdmits cfg mb neg priors p →
    ext = cfg.vdLambda * (sJsd cfg mb neg p - 1 / 2)
  neither : ¬DdAdmits cfg mb neg priors p → ¬JsdAdmits cfg mb neg priors p → ext = 0

/-- Force from the margins: the dd margin counts for nothing where only the other path admits,
    because there the token is not above `theta_dd`. -/
theorem forceAt_of_margins {priors : VdPriors} {p : Pos B T} {ext ddMargin : ℝ} {dd : Bool}
    (jsdMargin : ℝ) (jsd : Bool) (hlambda : 0 < cfg.vdLambda)
    (hdd : dd = true ↔ DdAdmits cfg mb neg priors p)
    (hjsd : jsd = true ↔ JsdAdmits cfg mb neg priors p)
    (hddMargin : ddMargin = max (sDd mb neg p - ddCut cfg mb neg) 0)
    (hjsdMargin : jsdMargin = max (sJsd cfg mb neg p - 1 / 2) 0 * jsd.toNat)
    (hext : ext = cfg.vdLambda * max ddMargin jsdMargin * ((dd || jsd).toNat : ℝ)) :
    ForceAt cfg mb neg priors ext p := by
  have hlam : (0 : ℝ) < cfg.vdLambda := Rat.cast_pos.mpr hlambda
  have hboth : DdAdmits cfg mb neg priors p → JsdAdmits cfg mb neg priors p →
      ext = cfg.vdLambda * max (sDd mb neg p - ddCut cfg mb neg) (sJsd cfg mb neg p - 1 / 2) := by
    intro hd hj
    rw [hext, hddMargin, hjsdMargin, hdd.mpr hd, hjsd.mpr hj, max_eq_left hd.margin_pos.le,
      max_eq_left hj.margin_pos.le]
    simp
  have honlyDd : DdAdmits cfg mb neg priors p → ¬JsdAdmits cfg mb neg priors p →
      ext = cfg.vdLambda * (sDd mb neg p - ddCut cfg mb neg) := by
    intro hd hj
    have hoff : jsd = false := by simpa using mt hjsd.mp hj
    rw [hext, hddMargin, hjsdMargin, hdd.mpr hd, hoff, max_eq_left hd.margin_pos.le]
    simp [hd.margin_pos.le]
  have honlyJsd : ¬DdAdmits cfg mb neg priors p → JsdAdmits cfg mb neg priors p →
      ext = cfg.vdLambda * (sJsd cfg mb neg p - 1 / 2) := by
    intro hd hj
    have hoff : dd = false := by simpa using mt hdd.mp hd
    rw [hext, hddMargin, hjsdMargin, hoff, hjsd.mpr hj, max_eq_right (hj.ddMargin_nonpos hd),
      max_eq_left hj.margin_pos.le]
    simpa using Or.inl hj.margin_pos.le
  have hneither : ¬DdAdmits cfg mb neg priors p → ¬JsdAdmits cfg mb neg priors p → ext = 0 := by
    intro hd hj
    have hoff : dd = false := by simpa using mt hdd.mp hd
    have hoff' : jsd = false := by simpa using mt hjsd.mp hj
    rw [hext, hoff, hoff']
    simp
  refine ⟨?_, hboth, honlyDd, honlyJsd, hneither⟩
  by_cases hd : DdAdmits cfg mb neg priors p
  · by_cases hj : JsdAdmits cfg mb neg priors p
    · rw [hboth hd hj]
      simp only [hd, hj, or_self, iff_true]
      exact mul_pos hlam (lt_of_lt_of_le hd.margin_pos (le_max_left _ _))
    · rw [honlyDd hd hj]
      simp only [hd, hj, or_false, iff_true]
      exact mul_pos hlam hd.margin_pos
  · by_cases hj : JsdAdmits cfg mb neg priors p
    · rw [honlyJsd hd hj]
      simp only [hd, hj, false_or, iff_true]
      exact mul_pos hlam hj.margin_pos
    · rw [hneither hd hj]
      simp [hd, hj]

/-- The leg puts force exactly where a path admits. -/
theorem targetedLeg_force {leg : TargetedLeg B T} (hdual : cfg.vdDualSignal = true)
    (hlambda : 0 < cfg.vdLambda)
    (h : targetedLeg cfg files mb neg (baseSignals cfg mb neg).dual = .ok leg) :
    ∃ priors, vdPriors cfg files = .ok priors ∧
      ∀ p, ForceAt cfg mb neg priors (leg.ext p) p := by
  obtain ⟨priors, jsd, vote, hpriors, hjsd, hvote, rfl⟩ := targetedLeg_paths hdual h
  refine ⟨priors, hpriors, fun p => ?_⟩
  have hdd : gatedBy jsd (ddElig (ddCut cfg mb neg) mb.validPos ⟨anyOn mb.validPos, sDd mb neg⟩
      (priorGates priors cfg.vdRateCut mb.responses mb.validPos)) p = true ↔
      DdAdmits cfg mb neg priors p := gated_iff hjsd _ _
  obtain ⟨hoff, rfl⟩ | ⟨v, hon, rfl, hadmitted, hmargin⟩ := ddJsdVote_eq_ok hvote
  · refine forceAt_of_margins 0 false hlambda hdd ?_ rfl ?_ ?_
    · simp [JsdAdmits, hoff]
    · simp
    · rw [Bool.or_false, max_eq_left (le_max_right _ _)]
      rfl
  · refine forceAt_of_margins (v.margin p) (v.admitted p) hlambda hdd ?_ rfl
      (congrFun hmargin p) rfl
    rw [hadmitted, gated_iff hjsd]
    simp [JsdAdmits, hon]

/-- With `vd_targeted` the raw weights carry the leg. -/
theorem rawWeights_leg {raw : RawWeights B T} (htargeted : cfg.vdTargeted = true)
    (h : rawWeights cfg files mb neg = .ok raw) :
    ∃ leg, targetedLeg cfg files mb neg (baseSignals cfg mb neg).dual = .ok leg ∧
      raw.leg = some leg := by
  rcases rawWeights_cases h with ⟨hoff, _⟩ | ⟨leg, _, _, hleg, hout⟩ |
    ⟨leg, _, _, _, _, hleg, _, _, hout⟩
  · rw [htargeted] at hoff
    cases hoff
  · exact ⟨leg, hleg, by rw [hout]⟩
  · exact ⟨leg, hleg, by rw [hout]⟩

/-- **Force lands exactly where a complete gate path admits it.** For an accepted config with the
    targeted leg and a positive `vd_lambda`, on every micro-batch the block runs on: a token has
    force if and only if the dd path or the distribution-level path admits it, and the force is
    `vd_lambda` times the larger margin of the paths that do. -/
theorem ext_lands (cfg : SelfDistillationConfig) (files : ActorFiles) (mb : MicroBatch B T K)
    (out : VdOutput B T) (hcfg : cfg.Accepted) (htargeted : cfg.vdTargeted = true)
    (hlambda : 0 < cfg.vdLambda) (hrun : weightingBlock cfg files mb = .ok (some out)) :
    ∃ neg priors leg, mb.teacherNeg = some neg ∧ vdPriors cfg files = .ok priors ∧
      out.raw.leg = some leg ∧ ∀ p, ForceAt cfg mb neg priors (leg.ext p) p := by
  obtain ⟨neg, -, hneg, hraw, -⟩ := weightingBlock_cases.mp hrun
  have hdual := hcfg.blockFacts.dual_of_targeted htargeted
  obtain ⟨leg, hleg, hout⟩ := rawWeights_leg htargeted hraw
  obtain ⟨priors, hpriors, hforce⟩ := targetedLeg_force hdual hlambda hleg
  exact ⟨neg, priors, leg, hneg, hpriors, hout, hforce⟩

theorem ext_lands_sample : ∃ out neg priors leg,
    weightingBlock (launcherConfig "priors" "freq") sampleFiles (sampleBatch 0) = .ok (some out) ∧
      (sampleBatch 0).teacherNeg = some neg ∧ out.raw.leg = some leg ∧
      ∀ p, ForceAt (launcherConfig "priors" "freq") (sampleBatch 0) neg priors (leg.ext p) p := by
  obtain ⟨out, h⟩ := sample_runs 0
  obtain ⟨neg, priors, leg, hneg, _, hleg, hforce⟩ := ext_lands _ _ _ out (by decide +kernel)
    (by decide +kernel) (by decide +kernel) h
  exact ⟨out, neg, priors, leg, h, hneg, hleg, hforce⟩

end Force

end LookAway.Weights
