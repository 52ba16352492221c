/-
  How many tokens the quantile gates let through.

  A token has force only if its mask bit is set, and the bit is set exactly where a path of
  `Admission` admits the token. Each path needs a statistic strictly above an interpolated
  quantile of its valid values, so `countP_lt_quantile` bounds how many tokens it can admit.
  The clamp of `theta_jsd` only raises a threshold.
-/
import LookAway.Base.Quantile
import LookAway.Weights.Admission

namespace LookAway.Weights

open LookAway.Base

variable {B T K : ℕ}

/-! ## Counting tokens -/

section Counting

variable {a b : Mask B T}

theorem count_eq_countP (mask : Mask B T) : count mask = (positions B T).countP mask :=
  List.countP_eq_length_filter.symm

theorem count_mono (h : ∀ p, a p = true → b p = true) : count a ≤ count b := by
  rw [count_eq_countP, count_eq_countP]
  exact List.countP_mono_left fun p _ => h p

theorem count_or_le (a b : Mask B T) : count (fun p => a p || b p) ≤ count a + count b := by
  rw [count_eq_countP, count_eq_countP, count_eq_countP]
  induction positions B T with
  | nil => simp
  | cons p ps ih =>
      rw [List.countP_cons, List.countP_cons, List.countP_cons]
      by_cases ha : a p = true <;> by_cases hb : b p = true <;> simp [ha, hb] <;> omega

theorem fractionOf_mono {valid : Mask B T} (h : ∀ p, valid p = true → a p = true → b p = true) :
    fractionOf valid a ≤ fractionOf valid b := by
  have hle : count (fun p => a p && valid p) ≤ count (fun p => b p && valid p) := by
    apply count_mono
    intro p hp
    rw [Bool.and_eq_true] at hp ⊢
    exact ⟨h p hp.2 hp.1, hp.2⟩
  unfold fractionOf
  apply div_le_div_of_nonneg_right _ (le_max_of_le_right zero_le_one)
  exact_mod_cast hle

/-- How many of `n` tokens can exceed their `q`-quantile. -/
def quantileBudget (q : ℚ) (n : ℕ) : ℕ := n - 1 - ⌊q * ((n : ℚ) - 1)⌋₊

example : quantileBudget (9 / 10) 101 = 10 := by decide +kernel

theorem floor_rank_cast (q : ℚ) (n : ℕ) :
    ⌊(q : ℝ) * ((n : ℝ) - 1)⌋₊ = ⌊q * ((n : ℚ) - 1)⌋₊ := by
  have hcast : (q : ℝ) * ((n : ℝ) - 1) = ((q * ((n : ℚ) - 1) : ℚ) : ℝ) := by push_cast; ring
  rw [hcast, ← Int.floor_toNat, ← Int.floor_toNat, Rat.floor_cast]

/-- At most `quantileBudget q n` of the `n` valid tokens exceed the valid `q`-quantile. -/
theorem count_above_quantile {valid : Mask B T} (x : Tensor B T) {q : ℚ} (h0 : 0 < q)
    (h1 : q < 1) (hvalid : 1 ≤ count valid) :
    count (fun p => valid p && decide (maskedQuantile valid x q < x p)) ≤
      quantileBudget q (count valid) := by
  let values := select (positions B T) valid x
  have hlen : values.length = count valid := length_select _ _ _
  have hne : values ≠ [] := List.length_pos_iff.mp (by omega)
  have hcount : count (fun p => valid p && decide (maskedQuantile valid x q < x p)) =
      values.countP fun v => decide (quantile values q < v) := by
    rw [count_eq_countP]
    show _ = (((positions B T).filter valid).map x).countP _
    rw [List.countP_map, List.countP_filter]
    apply List.countP_congr
    intro p _
    rw [Bool.and_comm]
    rfl
  have hbound := countP_lt_quantile (q := (q : ℝ)) (Rat.cast_nonneg.mpr h0.le)
    (by exact_mod_cast h1.le) hne
  rw [hcount]
  rw [hlen, floor_rank_cast] at hbound
  exact hbound

end Counting

/-! ## The budgets of the gates -/

section Budgets

variable {cfg : SelfDistillationConfig} {mb : MicroBatch B T K} {neg : NegView B T K}
  {priors : VdPriors}

theorem anyOn_of_count (h : 1 ≤ count mb.validPos) : anyOn mb.validPos = true := by
  obtain ⟨p, hp⟩ := List.exists_mem_of_length_pos h
  exact List.any_eq_true.mpr ⟨p, List.mem_of_mem_filter hp, (List.mem_filter.mp hp).2⟩

/-- `(s_dd > theta_dd) & valid_pos` -/
noncomputable def ddGate (cfg : SelfDistillationConfig) (mb : MicroBatch B T K)
    (neg : NegView B T K) : Mask B T :=
  fun p => mb.validPos p && decide (ddCut cfg mb neg < sDd mb neg p)

/-- `(dd_jsd > theta_jsd) & valid_pos` -/
noncomputable def ddJsdGate (cfg : SelfDistillationConfig) (mb : MicroBatch B T K)
    (neg : NegView B T K) : Mask B T :=
  fun p => mb.validPos p && decide (ddJsdCut cfg mb neg < ddJsd cfg mb neg p)

/-- `(jsd_tok > jsd_thr) & valid_pos` -/
noncomputable def ammunitionGate (cfg : SelfDistillationConfig) (mb : MicroBatch B T K) :
    Mask B T :=
  fun p => mb.validPos p && decide (jsdCut cfg mb < jsdTok cfg mb p)

theorem count_ddGate (hq : cfg.QuantileFacts) (hvalid : 1 ≤ count mb.validPos) :
    count (ddGate cfg mb neg) ≤ quantileBudget cfg.vdDdQ (count mb.validPos) := by
  unfold ddGate ddCut
  rw [if_pos (anyOn_of_count hvalid)]
  exact count_above_quantile _ hq.vdDdQ.1 hq.vdDdQ.2 hvalid

theorem count_ammunitionGate (hq : cfg.QuantileFacts) (hvalid : 1 ≤ count mb.validPos) :
    count (ammunitionGate cfg mb) ≤ quantileBudget cfg.vdJsdQ (count mb.validPos) := by
  unfold ammunitionGate jsdCut
  rw [if_pos (anyOn_of_count hvalid)]
  exact count_above_quantile _ hq.vdJsdQ.1 hq.vdJsdQ.2 hvalid

/-- The clamp raises the threshold, so no more tokens pass than the quantile allows. -/
theorem count_ddJsdGate (hq : cfg.QuantileFacts) (hvalid : 1 ≤ count mb.validPos) :
    count (ddJsdGate cfg mb neg) ≤ quantileBudget cfg.vdDdJsdQ (count mb.validPos) := by
  have hclamp : maskedQuantile mb.validPos (ddJsd cfg mb neg) cfg.vdDdJsdQ ≤
      ddJsdCut cfg mb neg := by
    unfold ddJsdCut
    rw [if_pos (anyOn_of_count hvalid)]
    exact le_max_left _ _
  refine le_trans (count_mono ?_)
    (count_above_quantile (ddJsd cfg mb neg) hq.vdDdJsdQ.1 hq.vdDdJsdQ.2 hvalid)
  intro p hp
  simp only [ddJsdGate, Bool.and_eq_true, decide_eq_true_eq] at hp ⊢
  exact ⟨hp.1, lt_of_le_of_lt hclamp hp.2⟩

theorem DdAdmits.ddGate {p : Pos B T} (h : DdAdmits cfg mb neg priors p) :
    ddGate cfg mb neg p = true := by
  simp only [Weights.ddGate, Bool.and_eq_true, decide_eq_true_eq]
  exact ⟨h.2.valid, h.1⟩

theorem JsdAdmits.ddJsdGate {p : Pos B T} (h : JsdAdmits cfg mb neg priors p) :
    ddJsdGate cfg mb neg p = true := by
  simp only [Weights.ddJsdGate, Bool.and_eq_true, decide_eq_true_eq]
  exact ⟨h.2.2.valid, h.2.1⟩

theorem CommonGates.ammunitionGate {p : Pos B T} (h : CommonGates cfg mb priors p)
    (hgate : cfg.vdJsdGate = true) : ammunitionGate cfg mb p = true := by
  simp only [Weights.ammunitionGate, Bool.and_eq_true, decide_eq_true_eq]
  exact ⟨h.valid, h.ammunition hgate⟩

end Budgets

/-! ## The leg -/

section Leg

variable {cfg : SelfDistillationConfig} {files : ActorFiles} {mb : MicroBatch B T K}
  {neg : NegView B T K}

/-- The mask of the leg is set exactly where a path admits the token. -/
theorem targetedLeg_elig {leg : TargetedLeg B T} (hdual : cfg.vdDualSignal = true)
    (h : targetedLeg cfg files mb neg (baseSignals cfg mb neg).dual = .ok leg) :
    ∃ priors, ∀ p, leg.elig p = true ↔
      DdAdmits cfg mb neg priors p ∨ JsdAdmits cfg mb neg priors p := by
  obtain ⟨priors, jsd, vote, -, hjsd, hvote, rfl⟩ := targetedLeg_paths hdual h
  refine ⟨priors, fun p => ?_⟩
  have hdd : gatedBy jsd (ddElig (ddCut cfg mb neg) mb.validPos ⟨anyOn mb.validPos, sDd mb neg⟩
      (priorGates priors cfg.vdRateCut mb.responses mb.validPos)) p = true ↔
      DdAdmits cfg mb neg priors p := gated_iff hjsd _ _
  obtain ⟨hoff, rfl⟩ | ⟨v, hon, rfl, hadmitted, -⟩ := ddJsdVote_eq_ok hvote
  · refine Iff.trans hdd ?_
    simp [JsdAdmits, hoff]
  · have hv : v.admitted p = true ↔ JsdAdmits cfg mb neg priors p := by
      rw [hadmitted, gated_iff hjsd]
      simp [JsdAdmits, hon]
    exact Iff.trans (Bool.or_eq_true _ _ ▸ Iff.rfl) (or_congr hdd hv)

/-- The tokens that receive extrapolation. -/
noncomputable def TargetedLeg.forced (leg : TargetedLeg B T) : Mask B T :=
  fun p => decide (0 < leg.ext p)

/-- No force without the mask bit. -/
theorem elig_of_forced {leg : TargetedLeg B T} (hdual : cfg.vdDualSignal = true)
    (h : targetedLeg cfg files mb neg (baseSignals cfg mb neg).dual = .ok leg) {p : Pos B T}
    (hp : leg.forced p = true) : leg.elig p = true := by
  obtain ⟨_, _, _, -, -, -, rfl⟩ := targetedLeg_paths hdual h
  by_contra hoff
  rw [Bool.not_eq_true] at hoff
  have hpos := of_decide_eq_true hp
  simp only [assembleLeg] at hpos hoff
  rw [hoff] at hpos
  simp at hpos

/-- The ration the gates put on a leg, and its funnel. -/
structure Rationed (cfg : SelfDistillationConfig) (mb : MicroBatch B T K) (neg : NegView B T K)
    (leg : TargetedLeg B T) : Prop where
  logged : leg.funnel.gateDdFraction = fractionOf mb.validPos (ddGate cfg mb neg)
  dd : count (ddGate cfg mb neg) ≤ quantileBudget cfg.vdDdQ (count mb.validPos)
  forced : count leg.forced ≤ count leg.elig
  withoutVote : cfg.vdDdJsd = false →
    count leg.elig ≤ quantileBudget cfg.vdDdQ (count mb.validPos)
  withVote : cfg.vdDdJsd = true →
    count leg.elig ≤ quantileBudget cfg.vdDdQ (count mb.validPos) +
      quantileBudget cfg.vdDdJsdQ (count mb.validPos)
  withAmmunition : cfg.vdJsdGate = true →
    count leg.elig ≤ quantileBudget cfg.vdJsdQ (count mb.validPos)
  funnelRate : leg.funnel.gateRateFraction ≤ leg.funnel.gateDdFraction
  funnelPreJsd : cfg.vdDdJsd = false → ∀ pre, leg.funnel.extFractionPreJsd = some pre →
    pre ≤ leg.funnel.gateRateFraction ∧ leg.funnel.extFraction ≤ pre
  funnelExt : cfg.vdDdJsd = false → leg.funnel.extFraction ≤ leg.funnel.gateRateFraction

theorem gatedBy_le {gate : Option (Threshold B T)} {mask : Mask B T} {p : Pos B T}
    (h : gatedBy gate mask p = true) : mask p = true := by
  by_contra hoff
  rw [gatedBy_false (by simpa using hoff)] at h
  cases h

theorem targetedLeg_rationed {leg : TargetedLeg B T} (hdual : cfg.vdDualSignal = true)
    (hq : cfg.QuantileFacts) (hvalid : 1 ≤ count mb.validPos)
    (h : targetedLeg cfg files mb neg (baseSignals cfg mb neg).dual = .ok leg) :
    Rationed cfg mb neg leg := by
  obtain ⟨priors, helig⟩ := targetedLeg_elig hdual h
  have hforced : count leg.forced ≤ count leg.elig := count_mono fun p => elig_of_forced hdual h
  have hdd : count (ddGate cfg mb neg) ≤ quantileBudget cfg.vdDdQ (count mb.validPos) :=
    count_ddGate hq hvalid
  have hwithout : cfg.vdDdJsd = false →
      count leg.elig ≤ quantileBudget cfg.vdDdQ (count mb.validPos) := by
    intro hoff
    refine le_trans (count_mono fun p hp => ?_) hdd
    rcases (helig p).mp hp with hd | hj
    · exact hd.ddGate
    · exact absurd (hoff ▸ hj.1) (by simp)
  have hwith : count leg.elig ≤ quantileBudget cfg.vdDdQ (count mb.validPos) +
      quantileBudget cfg.vdDdJsdQ (count mb.validPos) := by
    calc count leg.elig
        ≤ count (fun p => ddGate cfg mb neg p || ddJsdGate cfg mb neg p) := by
          apply count_mono
          intro p hp
          rw [Bool.or_eq_true]
          exact ((helig p).mp hp).imp DdAdmits.ddGate JsdAdmits.ddJsdGate
      _ ≤ count (ddGate cfg mb neg) + count (ddJsdGate cfg mb neg) := count_or_le _ _
      _ ≤ _ := Nat.add_le_add hdd (count_ddJsdGate hq hvalid)
  have hammo : cfg.vdJsdGate = true →
      count leg.elig ≤ quantileBudget cfg.vdJsdQ (count mb.validPos) := by
    intro hgate
    refine le_trans (count_mono fun p hp => ?_) (count_ammunitionGate hq hvalid)
    rcases (helig p).mp hp with hd | hj
    · exact hd.2.ammunitionGate hgate
    · exact hj.2.2.ammunitionGate hgate
  obtain ⟨_, jsd, vote, -, -, hvote, rfl⟩ := targetedLeg_paths hdual h
  -- without the vote the mask is the gated one, so each stage restricts the one before
  have hvoteNone : cfg.vdDdJsd = false → vote = none := by
    intro hoff
    obtain ⟨-, hnone⟩ | ⟨_, hon, -⟩ := ddJsdVote_eq_ok hvote
    · exact hnone
    · rw [hoff] at hon
      cases hon
  have hlogged : fractionOf mb.validPos (fun p => decide (ddCut cfg mb neg < sDd mb neg p)) =
      fractionOf mb.validPos (ddGate cfg mb neg) := by
    apply le_antisymm
    · exact fractionOf_mono fun p hv hp => by simp only [ddGate, hv, hp, Bool.and_self]
    · exact fractionOf_mono fun p _ hp => (Bool.and_eq_true_iff.mp hp).2
  refine ⟨hlogged, hdd, hforced, hwithout, fun _ => hwith, hammo, ?_, ?_, ?_⟩
  · exact fractionOf_mono fun p _ hp => (Bool.and_eq_true_iff.mp hp).1
  · intro hoff pre hpre
    obtain ⟨_, -, rfl⟩ := Option.map_eq_some_iff.mp hpre
    rw [hvoteNone hoff]
    refine ⟨fractionOf_mono fun p _ hp => ?_, fractionOf_mono fun p _ hp => gatedBy_le hp⟩
    exact (Bool.and_eq_true_iff.mp (Bool.and_eq_true_iff.mp hp).1).1
  · intro hoff
    rw [hvoteNone hoff]
    refine fractionOf_mono fun p _ hp => ?_
    exact (Bool.and_eq_true_iff.mp (Bool.and_eq_true_iff.mp (gatedBy_le hp)).1).1

/-- **The quantile gates ration the extrapolation.** For an accepted config with the targeted leg
    and every micro-batch with a valid token on which the block runs: the dd gate, the
    distribution-level gate and the ammunition gate let at most their quantile budgets through,
    whatever the ties, and without the vote the logged funnel is monotone. -/
theorem quantile_gates_ration (cfg : SelfDistillationConfig) (files : ActorFiles)
    (mb : MicroBatch B T K) (out : VdOutput B T) (hcfg : cfg.Accepted)
    (htargeted : cfg.vdTargeted = true) (hvalid : 1 ≤ count mb.validPos)
    (hrun : weightingBlock cfg files mb = .ok (some out)) :
    ∃ neg leg, mb.teacherNeg = some neg ∧ out.raw.leg = some leg ∧ Rationed cfg mb neg leg := by
  obtain ⟨neg, -, hneg, hraw, -⟩ := weightingBlock_cases.mp hrun
  obtain ⟨leg, hleg, hout⟩ := rawWeights_leg htargeted hraw
  exact ⟨neg, leg, hneg, hout, targetedLeg_rationed (hcfg.blockFacts.dual_of_targeted htargeted)
    hcfg.quantileFacts hvalid hleg⟩

theorem quantile_gates_ration_sample : ∃ out neg leg,
    weightingBlock (launcherConfig "priors" "freq") sampleFiles (sampleBatch 0) = .ok (some out) ∧
      (sampleBatch 0).teacherNeg = some neg ∧ out.raw.leg = some leg ∧
      Rationed (launcherConfig "priors" "freq") (sampleBatch 0) neg leg := by
  obtain ⟨out, h⟩ := sample_runs 0
  obtain ⟨neg, leg, hneg, hleg, hration⟩ := quantile_gates_ration _ _ _ out (by decide +kernel)
    (by decide +kernel) (by decide +kernel) h
  exact ⟨out, neg, leg, h, hneg, hleg, hration⟩

end Leg

end LookAway.Weights
