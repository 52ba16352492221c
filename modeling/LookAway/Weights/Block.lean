/-
  The weighting block of `DataParallelPPOActor.update_policy`
  (verl/workers/actor/dp_actor.py): from the log-probabilities of the three views to
  `vd_weights`.

  The stages follow the source: `baseSignals` (fixed knee or dual signal, dd or dual base),
  `priorGates` (rate and template gates), `jsdGate` (ammunition gate), `ddJsdVote`
  (distribution-level OR branch), `targetedLeg`, `rawWeights` (with frequency decay) and
  `weightingBlock`. A name the source reads before assigning it is `unboundLocalError`.

  `vd_priors` and `vd_freq_table` cache what they read; the files are frozen, so a cached
  value is the value the file gives and the cache is left out.
-/
import LookAway.Weights.Config
import LookAway.Weights.Tensor

namespace LookAway.Weights

/-- Errors the block can raise. -/
inductive UpdateError where
  | keyError (text : String)
  | valueError (text : String)
  | unboundLocalError (name : String)
  | indexError
  | fileNotFoundError (path : String)
  deriving DecidableEq, Repr

/-- Frozen priors as `_vd_priors` returns them. -/
structure VdPriors where
  rateById : ℤ → Option ℚ
  tmplPairs : ℤ × ℤ → Bool

/-- The frozen files the block can open, by path. -/
structure ActorFiles where
  priorFile : String → Except UpdateError VdPriors
  freqFile : String → Except UpdateError (List ℝ)

/-- What the negative-view forward contributes. -/
structure NegView (B T K : ℕ) where
  logProb : Tensor B T
  topkLogps : TopK B T K

/-- The tensors of one micro-batch that the block reads. A `none` is a key the batch does
    not hold. -/
structure MicroBatch (B T K : ℕ) where
  responses : Pos B T → ℤ
  responseMask : Mask B T
  selfDistillationMask : Option (Fin B → Bool)
  vdNegViewMask : Option (Fin B → Bool)
  logProb : Tensor B T
  teacherLogProb : Tensor B T
  studentTopkLogps : TopK B T K
  teacherTopkLogps : TopK B T K
  teacherNeg : Option (NegView B T K)

section Masks

variable {B T K : ℕ}

/-- A per-row mask, broadcast over the row; a missing mask keeps every row. -/
def rowMask (m : Option (Fin B → Bool)) (p : Pos B T) : Bool :=
  match m with
  | some rows => rows p.1
  | none => true

/-- `loss_mask_mb`. -/
def MicroBatch.lossMask (mb : MicroBatch B T K) : Mask B T :=
  fun p => mb.responseMask p && rowMask mb.selfDistillationMask p

/-- `valid_pos`. -/
def MicroBatch.validPos (mb : MicroBatch B T K) : Mask B T :=
  fun p => mb.lossMask p && rowMask mb.vdNegViewMask p

/-- `distill_topk` is set and non-zero, so the forwards return top-k log-probs. -/
def hasTopk (cfg : SelfDistillationConfig) : Bool :=
  match (if cfg.fullLogitDistillation then cfg.distillationTopk else none) with
  | some k => k != 0
  | none => false

/-- `(mask & valid_pos).float().sum() / valid_pos.float().sum().clamp(min=1.0)`. -/
noncomputable def fractionOf (valid mask : Mask B T) : ℝ :=
  (count fun p => mask p && valid p : ℝ) / max (count valid : ℝ) 1

end Masks

/-! ## Base weight -/

section Base

variable {B T K : ℕ}

/-- Names the dual-signal branch assigns and later branches read. -/
structure DualSignal (B T : ℕ) where
  hasValid : Bool
  sDd : Tensor B T

/-- `bonus`, and the dual signal when its branch ran. -/
structure BaseSignals (B T : ℕ) where
  bonus : Tensor B T
  dual : Option (DualSignal B T)

/-- `x / (x + tau)`. -/
noncomputable def saturate (x : Tensor B T) (tau : ℝ) : Tensor B T := fun p => x p / (x p + tau)

/-- The dynamic knee: the p90 over valid tokens, at least 0.25. -/
noncomputable def knee (valid : Mask B T) (x : Tensor B T) : ℝ :=
  if anyOn valid then max (maskedQuantile valid x (9 / 10)) (1 / 4) else 1 / 4

/-- `abs_dd`. -/
def absDd (mb : MicroBatch B T K) (neg : NegView B T K) : Tensor B T :=
  fun p => |mb.teacherLogProb p - neg.logProb p|

/-- `eps`. -/
def studentGap (mb : MicroBatch B T K) : Tensor B T :=
  fun p => |mb.logProb p - mb.teacherLogProb p|

noncomputable def baseSignals (cfg : SelfDistillationConfig) (mb : MicroBatch B T K)
    (neg : NegView B T K) : BaseSignals B T :=
  let valid := mb.validPos
  if cfg.vdDualSignal then
    let sDd := saturate (absDd mb neg) (knee valid (absDd mb neg))
    let sErr := saturate (studentGap mb) (knee valid (studentGap mb))
    let bonus := if cfg.vdBaseSignal = "dd" then sDd else fun p => sDd p * sErr p
    ⟨bonus, some ⟨anyOn valid, sDd⟩⟩
  else ⟨saturate (absDd mb neg) cfg.vdTau, none⟩

end Base

/-! ## Gates of the targeted leg -/

section Gates

variable {B T K : ℕ}

/-- `rate_ok` and `tmpl_ok`. -/
structure PriorGates (B T : ℕ) where
  rateOk : Mask B T
  tmplOk : Mask B T

/-- The preceding position of the same response. -/
def previous (p : Pos B T) : Option (Pos B T) :=
  if 0 < p.2.val then some (p.1, ⟨p.2.val - 1, lt_of_le_of_lt (Nat.sub_le _ _) p.2.isLt⟩) else none

/-- `rate_by_id.get(rid, 0.10) < rate_cut`. -/
def belowRateCut (priors : VdPriors) (rateCut : ℚ) (rid : ℤ) : Bool :=
  decide ((priors.rateById rid).getD (1 / 10) < rateCut)

/-- The preceding token is valid and forms a template bigram with this one. -/
def closesTemplate (priors : VdPriors) (ids : Pos B T → ℤ) (valid : Mask B T) (p : Pos B T) :
    Bool :=
  match previous p with
  | some q => valid q && priors.tmplPairs (ids q, ids p)
  | none => false

/-- One turn of the loop over the valid positions. -/
def gateStep (priors : VdPriors) (rateCut : ℚ) (ids : Pos B T → ℤ) (valid : Mask B T)
    (g : PriorGates B T) (p : Pos B T) : PriorGates B T where
  rateOk := if belowRateCut priors rateCut (ids p) then Function.update g.rateOk p false
    else g.rateOk
  tmplOk := if closesTemplate priors ids valid p then Function.update g.tmplOk p false
    else g.tmplOk

/-- The rate and template gates: all-true tensors, cleared in a loop over valid positions. -/
def priorGates (priors : VdPriors) (rateCut : ℚ) (ids : Pos B T → ℤ) (valid : Mask B T) :
    PriorGates B T :=
  ((positions B T).filter valid).foldl (gateStep priors rateCut ids valid)
    ⟨fun _ => true, fun _ => true⟩

/-- A per-token statistic with the threshold it has to exceed. -/
structure Threshold (B T : ℕ) where
  stat : Tensor B T
  cut : ℝ

/-- `stat > cut`. -/
noncomputable def Threshold.passes (t : Threshold B T) : Mask B T :=
  fun p => decide (t.cut < t.stat p)

/-- Per-token divergence of two top-k tensors, with a tail bucket or renormalized. -/
noncomputable def topkDivergence (cfg : SelfDistillationConfig) (s t : TopK B T K) : Tensor B T :=
  fun p =>
    if cfg.distillationAddTail then
      tokenDistillationDivergence (addTailBucket (s p)) (addTailBucket (t p)) cfg.alpha
    else tokenDistillationDivergence (renormTopk (s p)) (renormTopk (t p)) cfg.alpha

/-- The ammunition gate: `jsd_tok` and `jsd_thr`, when `vd_jsd_gate` is on. -/
noncomputable def jsdGate (cfg : SelfDistillationConfig) (mb : MicroBatch B T K)
    (hasValid : Bool) : Except UpdateError (Option (Threshold B T)) :=
  if cfg.vdJsdGate then
    if hasTopk cfg then
      let jsdTok := topkDivergence cfg mb.studentTopkLogps mb.teacherTopkLogps
      let jsdThr := if hasValid then maskedQuantile mb.validPos jsdTok cfg.vdJsdQ else 0
      .ok (some ⟨jsdTok, jsdThr⟩)
    else .error (.valueError "vd_jsd_gate requires top-k distillation.")
  else .ok none

/-- A mask restricted by an optional gate. -/
noncomputable def gatedBy (gate : Option (Threshold B T)) (mask : Mask B T) : Mask B T :=
  match gate with
  | some g => fun p => mask p && g.passes p
  | none => mask

/-- `s_jsd`, `jsd_admit` and `jsd_margin` of the distribution-level vote. -/
structure JsdVote (B T : ℕ) where
  admitted : Mask B T
  margin : Tensor B T

/-- The distribution-level counterfactual vote, when `vd_dd_jsd` is on. -/
noncomputable def ddJsdVote (cfg : SelfDistillationConfig) (mb : MicroBatch B T K)
    (neg : NegView B T K) (hasValid : Bool) (gates : PriorGates B T)
    (jsd : Option (Threshold B T)) : Except UpdateError (Option (JsdVote B T)) :=
  if cfg.vdDdJsd then
    if hasTopk cfg then
      let valid := mb.validPos
      let ddJsd := topkDivergence cfg mb.teacherTopkLogps neg.topkLogps
      let quantileCut := if hasValid then maskedQuantile valid ddJsd cfg.vdDdJsdQ else 0
      let thetaJsd := max quantileCut (1 / 10 ^ 6)
      let sJsd := saturate ddJsd thetaJsd
      let admitted := gatedBy jsd fun p =>
        decide (thetaJsd < ddJsd p) && gates.rateOk p && gates.tmplOk p && valid p
      .ok (some ⟨admitted, fun p => max (sJsd p - 1 / 2) 0 * (admitted p).toNat⟩)
    else .error (.valueError "vd_dd_jsd requires top-k distillation.")
  else .ok none

end Gates

/-! ## Targeted leg -/

section Targeted

variable {B T K : ℕ}

/-- The funnel metrics logged under `self_distillation/lookaway/`. -/
structure Funnel where
  gateDdFraction : ℝ
  gateRateFraction : ℝ
  extFractionPreJsd : Option ℝ
  gateDdjsdFraction : Option ℝ
  extFraction : ℝ

/-- `elig`, `ext` and the funnel of the targeted leg. -/
structure TargetedLeg (B T : ℕ) where
  elig : Mask B T
  ext : Tensor B T
  funnel : Funnel

/-- `_vd_priors`. -/
def vdPriors (cfg : SelfDistillationConfig) (files : ActorFiles) : Except UpdateError VdPriors :=
  match cfg.vdPriorFile with
  | some path =>
      if path = "" then
        .error (.valueError "vd_targeted requires self_distillation.vd_prior_file.")
      else files.priorFile path
  | none => .error (.valueError "vd_targeted requires self_distillation.vd_prior_file.")

/-- `_vd_freq_table`. -/
noncomputable def vdFreqTable (cfg : SelfDistillationConfig) (files : ActorFiles) :
    Except UpdateError (List ℝ) :=
  match cfg.vdFreqFile with
  | some path =>
      if path = "" then
        .error (.valueError "vd_freq_decay requires self_distillation.vd_freq_file.")
      else files.freqFile path
  | none => .error (.valueError "vd_freq_decay requires self_distillation.vd_freq_file.")

/-- `theta_dd`. -/
noncomputable def thetaDd (cfg : SelfDistillationConfig) (valid : Mask B T)
    (dual : DualSignal B T) : ℝ :=
  if dual.hasValid then maskedQuantile valid dual.sDd cfg.vdDdQ else 1 / 2

/-- `ext_margin` and `elig` after the optional vote: the vote can only add. -/
noncomputable def extMargin (vote : Option (JsdVote B T)) (ddMargin : Tensor B T) : Tensor B T :=
  match vote with
  | some v => fun p => max (ddMargin p) (v.margin p)
  | none => ddMargin

def eligOr (vote : Option (JsdVote B T)) (elig : Mask B T) : Mask B T :=
  match vote with
  | some v => fun p => elig p || v.admitted p
  | none => elig

/-- `(s_dd > theta_dd) & rate_ok & tmpl_ok & valid_pos`. -/
noncomputable def ddElig (theta : ℝ) (valid : Mask B T) (dual : DualSignal B T)
    (gates : PriorGates B T) : Mask B T :=
  fun p => decide (theta < dual.sDd p) && gates.rateOk p && gates.tmplOk p && valid p

/-- `elig`, `ext` and the funnel from the gates, the ammunition gate and the vote. -/
noncomputable def assembleLeg (cfg : SelfDistillationConfig) (valid : Mask B T)
    (dual : DualSignal B T) (gates : PriorGates B T) (jsd : Option (Threshold B T))
    (vote : Option (JsdVote B T)) : TargetedLeg B T :=
  let theta := thetaDd cfg valid dual
  let eligPre := ddElig theta valid dual gates
  let elig := eligOr vote (gatedBy jsd eligPre)
  let ddMargin : Tensor B T := fun p => max (dual.sDd p - theta) 0
  { elig := elig
    ext := fun p => cfg.vdLambda * extMargin vote ddMargin p * (elig p).toNat
    funnel := {
      gateDdFraction := fractionOf valid fun p => decide (theta < dual.sDd p)
      gateRateFraction := fractionOf valid fun p => decide (theta < dual.sDd p) && gates.rateOk p
      extFractionPreJsd := jsd.map fun _ => fractionOf valid eligPre
      gateDdjsdFraction := vote.map fun v => fractionOf valid v.admitted
      extFraction := fractionOf valid elig } }

noncomputable def targetedLeg (cfg : SelfDistillationConfig) (files : ActorFiles)
    (mb : MicroBatch B T K) (neg : NegView B T K) (dual? : Option (DualSignal B T)) :
    Except UpdateError (TargetedLeg B T) := do
  let priors ← vdPriors cfg files
  match dual? with
  | none => throw (.unboundLocalError "has_valid")
  | some dual =>
      let gates := priorGates priors cfg.vdRateCut mb.responses mb.validPos
      let jsd ← jsdGate cfg mb dual.hasValid
      let vote ← ddJsdVote cfg mb neg dual.hasValid gates jsd
      return assembleLeg cfg mb.validPos dual gates jsd vote

end Targeted

/-! ## The block -/

section Block

variable {B T K : ℕ}

/-- The frequency-decay metrics. -/
structure FreqDecayLog where
  active : Bool
  budgetRatio : ℝ
  lowfreqShare : ℝ

/-- `w_raw` with the tensors it was assembled from. -/
structure RawWeights (B T : ℕ) where
  wRaw : Tensor B T
  leg : Option (TargetedLeg B T)
  redistributed : Option (Redistributed B T)
  freqLog : Option FreqDecayLog

/-- The frequency-decay metrics of one micro-batch. -/
noncomputable def freqDecayLog (valid : Mask B T) (ext : Tensor B T) (r : Redistributed B T) :
    FreqDecayLog :=
  let eTotal := total valid ext
  let low : Tensor B T := fun p => r.extNew p * (if r.nFreq p < 1000 then 1 else 0)
  { active := decide (0 < eTotal)
    budgetRatio := r.budgetRatio
    lowfreqShare := if 0 < eTotal then total valid low / eTotal else 0 }

noncomputable def rawWeights (cfg : SelfDistillationConfig) (files : ActorFiles)
    (mb : MicroBatch B T K) (neg : NegView B T K) : Except UpdateError (RawWeights B T) := do
  let base := baseSignals cfg mb neg
  let wBase : Tensor B T := fun p => 1 + cfg.vdGamma * base.bonus p
  if cfg.vdTargeted then
    let leg ← targetedLeg cfg files mb neg base.dual
    let wExt : Tensor B T := fun p => wBase p + leg.ext p
    if cfg.vdFreqDecay then
      let freqCounts ← vdFreqTable cfg files
      match redistributeByFreq leg.ext freqCounts mb.responses mb.validPos with
      | none => throw .indexError
      | some r =>
          let wFd : Tensor B T := fun p => wExt p - leg.ext p + r.extNew p
          return ⟨wFd, some leg, some r, some (freqDecayLog mb.validPos leg.ext r)⟩
    else return ⟨wExt, some leg, none, none⟩
  else return ⟨wBase, none, none, none⟩

/-- `vd_weights` with the raw weights behind it. -/
structure VdOutput (B T : ℕ) where
  raw : RawWeights B T
  vdWeights : Tensor B T

/-- The block: `none` when `vd_gamma` switches it off. -/
noncomputable def weightingBlock (cfg : SelfDistillationConfig) (files : ActorFiles)
    (mb : MicroBatch B T K) : Except UpdateError (Option (VdOutput B T)) := do
  if 0 < cfg.vdGamma then
    match mb.teacherNeg with
    | none => throw (.keyError "vd_gamma > 0 requires teacher_neg_* tensors in the batch.")
    | some neg =>
        let raw ← rawWeights cfg files mb neg
        return some ⟨raw, normalizeVdWeights raw.wRaw mb.validPos⟩
  else return none

end Block

end LookAway.Weights
