/-
  The loss of a micro-batch in `update_policy` (verl/workers/actor/dp_actor.py): the distillation
  loss with its weights, `compute_policy_loss_vanilla` (alone, or for the rows without a teacher),
  the entropy and the KL term (verl/trainer/ppo/core_algos.py).

  The loss is a function of two parameters: what the source detaches is read at the held `θ`, the
  rest at the live `θ'`, where the gradient is taken. A model is its logits at the response
  positions. Left out: losses other than "vopd" and "vanilla", fused kernels, the metrics, dropout.

  `distillationGraph_self`: at `θ' = θ` the distillation is `compute_self_distillation_loss`.
  `policyLoss_rows`: with a mean over sequences and no weights, the loss is a mean over the rows.
-/
import LookAway.Teacher.Forward
import LookAway.Training.Errors
import LookAway.Weights.Loss

namespace LookAway.Training

open LookAway.Base LookAway.Weights
open LookAway.Teacher (logprob)

variable {P X : Type} {V T K B : ℕ}

/-! ## The source -/

/-- A row of the batch. An `X` is what a model reads of a view: ids, mask, positions and images. -/
structure UpdateRow (V T : ℕ) (X : Type) where
  view : X
  teacherView : X
  teacherNegView : X
  /-- How many tokens the attention mask has. -/
  seqLen : ℕ
  responses : Fin T → Fin V
  responseMask : Fin T → Bool
  selfDistillationMask : Bool
  vdNegViewMask : Bool
  oldLogProbs : Fin T → ℝ
  refLogProb : Fin T → ℝ
  advantages : Fin T → ℝ
  rolloutIsWeights : Fin T → ℝ

/-- Which of the optional keys the batch has. `teacherNeg` is all of `vd_neg_keys`. -/
structure UpdateKeys where
  teacherNeg : Bool
  advantages : Bool
  rolloutIsWeights : Bool

inductive LossMode where
  | vopd
  | vanilla
  deriving DecidableEq

/-- What the loss and the loop read of `ActorConfig`. -/
structure ActorConfig where
  lossMode : LossMode
  distillation : SelfDistillationConfig
  lossAggMode : String
  globalBatchInfo : AggScale
  clipRatio : ℝ
  clipRatioLow : Option ℝ
  clipRatioHigh : Option ℝ
  clipRatioC : ℝ
  entropyCoeff : ℝ
  useKlLoss : Bool
  klLossType : String
  klLossCoef : ℝ
  useRolloutLogProbs : Bool
  ppoEpochs : ℕ
  ppoMiniBatchSize : ℕ
  useDynamicBsz : Bool
  maxTokenLen : ℕ
  ppoMicroBatchSizePerGpu : ℕ

/-- A model under parameters, and `torch.topk`. -/
structure Network (P X : Type) (V T K : ℕ) where
  logits : P → X → Fin T → Fin V → ℝ
  topk : (Fin V → ℝ) → Fin K → Fin V

/-- `teacher_module`: none, a module of its own, or `TrustRegionTeacher`. -/
inductive TeacherModule (P : Type) where
  | current
  | separate (params : P)
  | trustRegion (refParams : P) (mixCoef : ℝ)

def TeacherModule.isCurrent : TeacherModule P → Bool
  | .current => true
  | _ => false

/-- `use_trust_region_teacher`. -/
def useTrustRegionTeacher (cfg : SelfDistillationConfig) : Bool :=
  cfg.teacherModelSource == "legacy" && cfg.teacherRegularization == "trust-region"

/-- `(self.teacher_module or self.actor_module)(...).logits`. -/
noncomputable def TeacherModule.logits (net : Network P X V T K) (student : P) (x : X) (t : Fin T) :
    TeacherModule P → Fin V → ℝ
  | .current => net.logits student x t
  | .separate params => net.logits params x t
  | .trustRegion refParams mixCoef => fun v =>
      lerp (net.logits refParams x t v) (net.logits student x t v) mixCoef

inductive ActorError where
  | training (e : TrainingError)
  | update (e : UpdateError)
  | loss (e : LossError)

/-- The log-probabilities of a row. -/
structure RowLogps (V T K : ℕ) where
  logProb : Fin T → ℝ
  topk : Fin T → Fin K → ℝ
  all : Fin T → Fin V → ℝ
  entropy : Fin T → ℝ

/-- `entropy_from_logits`. -/
noncomputable def entropyFromLogits (logits : Fin V → ℝ) : ℝ :=
  logsumexp logits - ∑ v, Real.exp (logits v - logsumexp logits) * logits v

/-- The outputs of `_forward_micro_batch` for a row, from its logits. -/
noncomputable def rowLogps (temperature : ℝ) (logits : Fin T → Fin V → ℝ)
    (responses : Fin T → Fin V)
    (topk : Fin T → Fin K → Fin V) : RowLogps V T K where
  logProb := fun t => logprob temperature (logits t) (responses t)
  topk := fun t k => logprob temperature (logits t) (topk t k)
  all := fun t v => logprob temperature (logits t) v
  entropy := fun t => entropyFromLogits fun v => logits t v / temperature

/-- An actor: its settings, the frozen files and the model. -/
structure Actor (P X : Type) (V T K : ℕ) where
  cfg : ActorConfig
  files : ActorFiles
  net : Network P X V T K

/-- What `update_policy` knows when it comes to a micro-batch. -/
structure UpdateScope where
  keys : UpdateKeys
  temperature : ℝ
  onPolicy : Bool

/-- A tensor of micro-batch rows. -/
def onRows {α : Type} (rows : List (UpdateRow V T X)) (f : UpdateRow V T X → Fin T → α) :
    Pos rows.length T → α :=
  fun p => f (rows.get p.1) p.2

/-- `compute_policy_loss_vanilla` at one token. -/
noncomputable def pgLoss (cfg : ActorConfig) (oldLogProb logProb advantage : ℝ) : ℝ :=
  let clipRatioLow := cfg.clipRatioLow.getD cfg.clipRatio
  let clipRatioHigh := cfg.clipRatioHigh.getD cfg.clipRatio
  let ratio := Real.exp (min (max (logProb - oldLogProb) (-20)) 20)
  let pgLosses1 := -advantage * ratio
  let pgLosses2 := -advantage * min (max ratio (1 - clipRatioLow)) (1 + clipRatioHigh)
  let clipPgLosses1 := max pgLosses1 pgLosses2
  let clipPgLosses2 := min (-advantage * cfg.clipRatioC) clipPgLosses1
  if advantage < 0 then clipPgLosses2 else clipPgLosses1

/-- `agg_loss`, with the errors of an update. -/
noncomputable def aggregate (lossMat : Tensor B T) (lossMask : Mask B T) (mode : String)
    (scale : AggScale) : Except ActorError ℝ :=
  (aggLoss lossMat lossMask mode scale).mapError .update

/-- `compute_policy_loss_vanilla`. -/
noncomputable def computePolicyLossVanilla (cfg : ActorConfig)
    (oldLogProb logProb advantages : Tensor B T) (responseMask : Mask B T)
    (rolloutIsWeights : Option (Tensor B T)) : Except ActorError ℝ := do
  (check (1 < cfg.clipRatioC)
    ("The lower bound of the clip_ratio_c for dual-clip PPO should be greater than 1.0," ++
      " but get the value:")).mapError .training
  let pgLosses := fun p => pgLoss cfg (oldLogProb p) (logProb p) (advantages p)
  aggregate (timesWeights rolloutIsWeights pgLosses) responseMask cfg.lossAggMode
    cfg.globalBatchInfo

/-- `kl_penalty`: a name that ends in "+" gets no further than `kl_penalty_forward`, which does not
    know it. -/
noncomputable def klPenalty (kind : String) : Except ActorError (ℝ → ℝ → ℝ) :=
  if kind = "kl" ∨ kind = "k1" then .ok fun logprob refLogprob => logprob - refLogprob
  else if kind = "abs" then .ok fun logprob refLogprob => |logprob - refLogprob|
  else if kind = "mse" ∨ kind = "k2" then
    .ok fun logprob refLogprob => 1 / 2 * (logprob - refLogprob) ^ 2
  else if kind = "low_var_kl" ∨ kind = "k3" then
    .ok fun logprob refLogprob =>
      let kl := min (max (refLogprob - logprob) (-20)) 20
      min (max (Real.exp kl - kl - 1) (-10)) 10
  else .error (.training (.notImplementedError ""))

/-- The defaults of `agg_loss`. -/
def plainScale : AggScale := ⟨1, none, none, none⟩

/-- `raw_per_token_loss`, where only the gradient of the live argument counts. -/
noncomputable def rawGraph (cfg : SelfDistillationConfig) (live held : LossInputs B T K V) :
    Except LossError (Tensor B T) :=
  if cfg.fullLogitDistillation then rawPerTokenLoss cfg live
  else if cfg.alpha = 1 then
    .ok fun p => (held.studentLogProbs p - held.teacherLogProbs p) * live.studentLogProbs p
  else .error (.assertionError "Only reverse KL is supported for non-full-logit distillation")

/-- `compute_self_distillation_loss`, the loss. -/
noncomputable def distillationGraph (cfg : SelfDistillationConfig) (live held : LossInputs B T K V)
    (vdWeights : Option (Tensor B T)) : Except LossError ℝ := do
  let lossMask : Mask B T := fun p => held.responseMask p && rowMask held.selfDistillationMask p
  let raw ← rawGraph cfg live held
  let clipped ← isClipped cfg held raw
  let weighted := timesWeights vdWeights (timesWeights held.rolloutIsWeights clipped)
  let scale : AggScale := ⟨1, some (held.batchNumTokens.getD (max (count lossMask) 1)),
    held.globalBatchSize, held.lossScaleFactor⟩
  (aggLoss weighted lossMask held.lossAggMode scale).mapError LossError.aggregation

section Loss

variable (A : Actor P X V T K) (scope : UpdateScope) (teacher : TeacherModule P) (θ θ' : P)

/-- The tokens of `topk_indices`, from the held student. -/
noncomputable def topkIndices (row : UpdateRow V T X) (t : Fin T) : Fin K → Fin V :=
  A.net.topk fun v => A.net.logits θ row.view t v / scope.temperature

/-- The forward of the student. -/
noncomputable def studentLogps (row : UpdateRow V T X) : RowLogps V T K :=
  rowLogps scope.temperature (A.net.logits θ' row.view) row.responses (topkIndices A scope θ row)

/-- The forward of the teacher on a view. -/
noncomputable def teacherLogps (x : X) (row : UpdateRow V T X) : RowLogps V T K :=
  rowLogps scope.temperature (fun t => teacher.logits A.net θ x t) row.responses
    (topkIndices A scope θ row)

/-- `old_log_prob`. -/
noncomputable def oldLogProb (row : UpdateRow V T X) : Fin T → ℝ :=
  if A.cfg.useRolloutLogProbs = false ∧ scope.onPolicy then (studentLogps A scope θ θ row).logProb
  else row.oldLogProbs

/-- The arguments of `compute_self_distillation_loss`. -/
noncomputable def lossInputs (rows : List (UpdateRow V T X)) : LossInputs rows.length T K V where
  studentLogProbs := onRows rows fun row => (studentLogps A scope θ θ' row).logProb
  teacherLogProbs := onRows rows fun row =>
    (teacherLogps A scope teacher θ row.teacherView row).logProb
  responseMask := onRows rows (·.responseMask)
  oldLogProbs := some (onRows rows (oldLogProb A scope θ))
  studentAllLogProbs :=
    if A.cfg.distillation.fullLogitDistillation ∧ hasTopk A.cfg.distillation = false then
      some (onRows rows fun row => (studentLogps A scope θ θ' row).all) else none
  teacherAllLogProbs :=
    if A.cfg.distillation.fullLogitDistillation ∧ hasTopk A.cfg.distillation = false then
      some (onRows rows fun row => (teacherLogps A scope teacher θ row.teacherView row).all)
    else none
  studentTopkLogProbs := if hasTopk A.cfg.distillation then
    some (onRows rows fun row => (studentLogps A scope θ θ' row).topk) else none
  teacherTopkLogProbs := if hasTopk A.cfg.distillation then
    some (onRows rows fun row => (teacherLogps A scope teacher θ row.teacherView row).topk)
    else none
  selfDistillationMask := some fun i => (rows.get i).selfDistillationMask
  lossAggMode := A.cfg.lossAggMode
  rolloutIsWeights :=
    if scope.keys.rolloutIsWeights then some (onRows rows (·.rolloutIsWeights)) else none
  batchNumTokens := A.cfg.globalBatchInfo.batchNumTokens
  globalBatchSize := A.cfg.globalBatchInfo.globalBatchSize
  lossScaleFactor := A.cfg.globalBatchInfo.lossScaleFactor

/-- The tensors that the weighting block reads. -/
noncomputable def weightInputs (rows : List (UpdateRow V T X)) : MicroBatch rows.length T K where
  responses := onRows rows fun row t => ((row.responses t : ℕ) : ℤ)
  responseMask := onRows rows (·.responseMask)
  selfDistillationMask := some fun i => (rows.get i).selfDistillationMask
  vdNegViewMask :=
    if scope.keys.teacherNeg then some fun i => (rows.get i).vdNegViewMask else none
  logProb := onRows rows fun row => (studentLogps A scope θ θ row).logProb
  teacherLogProb := onRows rows fun row =>
    (teacherLogps A scope teacher θ row.teacherView row).logProb
  studentTopkLogps := onRows rows fun row => (studentLogps A scope θ θ row).topk
  teacherTopkLogps := onRows rows fun row =>
    (teacherLogps A scope teacher θ row.teacherView row).topk
  teacherNeg := if scope.keys.teacherNeg then
    some ⟨onRows rows fun row => (teacherLogps A scope teacher θ row.teacherNegView row).logProb,
      onRows rows fun row => (teacherLogps A scope teacher θ row.teacherNegView row).topk⟩ else none

/-- The part of the loss for the rows without a teacher, if there are any. -/
noncomputable def fallbackLoss (rows : List (UpdateRow V T X)) : Except ActorError ℝ :=
  if ∃ row ∈ rows, row.selfDistillationMask = false then
    if scope.keys.advantages then
      computePolicyLossVanilla A.cfg (onRows rows (oldLogProb A scope θ))
        (onRows rows fun row => (studentLogps A scope θ θ' row).logProb)
        (onRows rows (·.advantages))
        (onRows rows fun row t => row.responseMask t && !row.selfDistillationMask)
        (if scope.keys.rolloutIsWeights then some (onRows rows (·.rolloutIsWeights)) else none)
    else .error (.training (.valueError
      "Mixed SDPO/GRPO fallback requires advantages for samples without teacher images."))
  else .ok 0

/-- `pg_loss`. -/
noncomputable def pgLossOf (rows : List (UpdateRow V T X)) : Except ActorError ℝ :=
  match A.cfg.lossMode with
  | .vanilla =>
      if scope.keys.advantages then
        computePolicyLossVanilla A.cfg (onRows rows (oldLogProb A scope θ))
          (onRows rows fun row => (studentLogps A scope θ θ' row).logProb)
          (onRows rows (·.advantages)) (onRows rows (·.responseMask))
          (if scope.keys.rolloutIsWeights then some (onRows rows (·.rolloutIsWeights)) else none)
      else .error (.training .keyError)
  | .vopd => do
      (raiseIf (useTrustRegionTeacher A.cfg.distillation ∧ teacher.isCurrent) (.valueError
        "trust-region teacher requires a separate teacher_module in the actor worker.")).mapError
          .training
      let weights ← (weightingBlock A.cfg.distillation A.files
        (weightInputs A scope teacher θ rows)).mapError .update
      let vopdLoss ← (distillationGraph A.cfg.distillation (lossInputs A scope teacher θ θ' rows)
        (lossInputs A scope teacher θ θ rows) (weights.map (·.vdWeights))).mapError .loss
      let grpoLoss ← fallbackLoss A scope θ θ' rows
      return vopdLoss + grpoLoss

/-- The entropy bonus. -/
noncomputable def entropyTerm (rows : List (UpdateRow V T X)) : Except ActorError ℝ :=
  if A.cfg.entropyCoeff ≠ 0 then
    (aggregate (onRows rows fun row => (studentLogps A scope θ θ' row).entropy)
      (onRows rows (·.responseMask)) A.cfg.lossAggMode plainScale).map (A.cfg.entropyCoeff * ·)
  else .ok 0

/-- The KL term. -/
noncomputable def klTerm (rows : List (UpdateRow V T X)) : Except ActorError ℝ :=
  if A.cfg.useKlLoss then do
    let kld ← klPenalty A.cfg.klLossType
    let klLoss ← aggregate
      (onRows rows fun row t => kld ((studentLogps A scope θ θ' row).logProb t) (row.refLogProb t))
      (onRows rows (·.responseMask)) A.cfg.lossAggMode plainScale
    return A.cfg.klLossCoef * klLoss
  else .ok 0

/-- `policy_loss`. -/
noncomputable def policyLoss (rows : List (UpdateRow V T X)) : Except ActorError ℝ := do
  let pg ← pgLossOf A scope teacher θ θ' rows
  let entropy ← entropyTerm A scope θ θ' rows
  let kl ← klTerm A scope θ θ' rows
  return pg - entropy + kl

end Loss

/-! ## At the held parameters -/

theorem rawGraph_self (cfg : SelfDistillationConfig) (x : LossInputs B T K V) :
    rawGraph cfg x x = rawPerTokenLoss cfg x := by
  unfold rawGraph
  split
  · rfl
  · rename_i hfull
    unfold rawPerTokenLoss
    rw [if_neg hfull]

/-- The value of the distillation is the source's loss. -/
theorem distillationGraph_self (cfg : SelfDistillationConfig) (x : LossInputs B T K V)
    (vdWeights : Option (Tensor B T)) :
    distillationGraph cfg x x vdWeights =
      (computeSelfDistillationLoss cfg x vdWeights).map (·.1) := by
  unfold distillationGraph computeSelfDistillationLoss
  rw [rawGraph_self]
  cases rawPerTokenLoss cfg x with
  | error e => rfl
  | ok raw =>
      dsimp only [bind, Except.bind]
      cases isClipped cfg x raw with
      | error e => rfl
      | ok clipped =>
          dsimp only
          cases Except.mapError LossError.aggregation (aggLoss
              (timesWeights vdWeights (timesWeights x.rolloutIsWeights clipped))
              (fun p => x.responseMask p && rowMask x.selfDistillationMask p) x.lossAggMode
              ⟨1, some (x.batchNumTokens.getD (max (count fun p =>
                x.responseMask p && rowMask x.selfDistillationMask p) 1)), x.globalBatchSize,
                x.lossScaleFactor⟩) <;> rfl

/-! ## Row by row -/

/-- A mean over the sequences. -/
def SeqMean (mode : String) : Prop := mode = "seq-mean-token-sum" ∨ mode = "seq-mean-token-mean"

/-- What `agg_loss` makes of one sequence. -/
noncomputable def seqAgg (mode : String) (loss : Fin T → ℝ) (mask : Fin T → Bool) : ℝ :=
  if mode = "seq-mean-token-sum" then ∑ t, loss t * maskValue (mask t)
  else (∑ t, loss t * maskValue (mask t)) / ((∑ t, maskValue (mask t)) + 1 / 10 ^ 8)

theorem seqMask_pos {mask : Mask B T} {i : Fin B} (h : ∃ t, mask (i, t) = true) :
    seqMask mask i = true := by
  obtain ⟨t, ht⟩ := h
  refine decide_eq_true (Finset.sum_pos' (fun s _ => ?_) ⟨t, Finset.mem_univ t, ?_⟩)
  · unfold maskValue
    split <;> norm_num
  · rw [ht]
    exact zero_lt_one

/-- No sequence is masked altogether: the mean is over all of them. -/
theorem aggLoss_seqMean {mode : String} (hmode : SeqMean mode) {scale : AggScale}
    (hdp : scale.dpSize = 1) (hglobal : scale.globalBatchSize = none) (loss : Tensor B T)
    {mask : Mask B T} (hmask : ∀ i, ∃ t, mask (i, t) = true) :
    aggLoss loss mask mode scale =
      .ok ((∑ i, seqAgg mode (fun t => loss (i, t)) fun t => mask (i, t)) / B) := by
  have hseq : seqMask mask = fun _ => true := funext fun i => seqMask_pos (hmask i)
  have hcount : ∑ i, maskValue (seqMask mask i) = B := by
    simp [hseq, maskValue]
  have hsum : ∀ values : Fin B → ℝ, maskedSeqSum values (seqMask mask) = ∑ i, values i := by
    intro values
    unfold maskedSeqSum
    refine Finset.sum_congr rfl fun i _ => ?_
    simp [hseq, maskValue]
  unfold aggLoss
  dsimp only
  rcases hmode with rfl | rfl
  · rw [if_neg (by decide), if_pos rfl, hsum, hglobal, hdp, mul_one, Option.getD_none, hcount]
    rfl
  · rw [if_neg (by decide), if_neg (by decide), if_pos rfl, hsum, hglobal, hdp, mul_one,
      Option.getD_none, hcount]
    rfl

theorem sum_onRows {rows : List (UpdateRow V T X)} (f : UpdateRow V T X → ℝ) :
    ∑ i : Fin rows.length, f (rows.get i) = (rows.map f).sum :=
  Fin.sum_univ_fun_getElem rows f

/-- `agg_loss` of what is computed row by row. -/
theorem aggLoss_onRows {mode : String} (hmode : SeqMean mode) {scale : AggScale}
    (hdp : scale.dpSize = 1) (hglobal : scale.globalBatchSize = none)
    {rows : List (UpdateRow V T X)} (loss : UpdateRow V T X → Fin T → ℝ)
    {mask : UpdateRow V T X → Fin T → Bool} (hmask : ∀ row ∈ rows, ∃ t, mask row t = true) :
    aggLoss (onRows rows loss) (onRows rows mask) mode scale =
      .ok ((rows.map fun row => seqAgg mode (loss row) (mask row)).sum / rows.length) := by
  rw [aggLoss_seqMean hmode hdp hglobal _ fun i => hmask _ (List.get_mem rows i)]
  exact congrArg (fun s => Except.ok (s / _))
    (sum_onRows fun row => seqAgg mode (loss row) (mask row))

/-- The settings under which the forwards give the distillation what it needs. -/
structure Distills (cfg : SelfDistillationConfig) : Prop where
  alpha : cfg.fullLogitDistillation = false → cfg.alpha = 1
  topk : cfg.fullLogitDistillation = true → cfg.distillationTopk = none ∨ hasTopk cfg = true

/-- The divergence at a token. -/
noncomputable def tokenRaw (cfg : SelfDistillationConfig) (live held teacher : RowLogps V T K)
    (t : Fin T) : ℝ :=
  if cfg.fullLogitDistillation then
    if hasTopk cfg then
      if cfg.distillationAddTail then
        ∑ k, klLoss (addTailBucket (live.topk t)) (addTailBucket (teacher.topk t)) cfg.alpha k
      else ∑ k, klLoss (renormTopk (live.topk t)) (renormTopk (teacher.topk t)) cfg.alpha k
    else ∑ v, klLoss (live.all t) (teacher.all t) cfg.alpha v
  else (held.logProb t - teacher.logProb t) * live.logProb t

/-- The ratio of `is_clip` at a token. -/
noncomputable def tokenRatio (cfg : SelfDistillationConfig) (held : RowLogps V T K)
    (old : Fin T → ℝ) (t : Fin T) : ℝ :=
  match cfg.isClip with
  | none => 1
  | some clip => min (Real.exp (min (max (held.logProb t - old t) (-20)) 20)) clip

section Rows

variable (A : Actor P X V T K) (scope : UpdateScope) (teacher : TeacherModule P) (θ θ' : P)

/-- `rollout_is_weights` at a token. -/
def isWeight (row : UpdateRow V T X) (t : Fin T) : ℝ :=
  if scope.keys.rolloutIsWeights then row.rolloutIsWeights t else 1

/-- The distillation loss at a token, before the weights of LookAway. -/
noncomputable def tokenLoss (row : UpdateRow V T X) (t : Fin T) : ℝ :=
  tokenRaw A.cfg.distillation (studentLogps A scope θ θ' row) (studentLogps A scope θ θ row)
      (teacherLogps A scope teacher θ row.teacherView row) t *
    tokenRatio A.cfg.distillation (studentLogps A scope θ θ row) (oldLogProb A scope θ row) t *
    isWeight scope row t

/-- The policy loss at a token. -/
noncomputable def tokenPgLoss (row : UpdateRow V T X) (t : Fin T) : ℝ :=
  pgLoss A.cfg (oldLogProb A scope θ row t) ((studentLogps A scope θ θ' row).logProb t)
    (row.advantages t) * isWeight scope row t

/-- The terms of a row, each on its own. -/
noncomputable def rowPg (row : UpdateRow V T X) : ℝ :=
  match A.cfg.lossMode with
  | .vopd => seqAgg A.cfg.lossAggMode (tokenLoss A scope teacher θ θ' row) row.responseMask
  | .vanilla => seqAgg A.cfg.lossAggMode (tokenPgLoss A scope θ θ' row) row.responseMask

noncomputable def rowEntropy (row : UpdateRow V T X) : ℝ :=
  if A.cfg.entropyCoeff ≠ 0 then A.cfg.entropyCoeff *
    seqAgg A.cfg.lossAggMode (studentLogps A scope θ θ' row).entropy row.responseMask
  else 0

noncomputable def rowKl (row : UpdateRow V T X) : ℝ :=
  if A.cfg.useKlLoss then
    match klPenalty A.cfg.klLossType with
    | .ok kld => A.cfg.klLossCoef * seqAgg A.cfg.lossAggMode
        (fun t => kld ((studentLogps A scope θ θ' row).logProb t) (row.refLogProb t))
        row.responseMask
    | .error _ => 0
  else 0

/-- The loss of a row. -/
noncomputable def rowLoss (row : UpdateRow V T X) : ℝ :=
  rowPg A scope teacher θ θ' row - rowEntropy A scope θ θ' row + rowKl A scope θ θ' row

variable {A scope teacher θ θ'} {rows : List (UpdateRow V T X)}

theorem rawGraph_rows (h : Distills A.cfg.distillation) :
    rawGraph A.cfg.distillation (lossInputs A scope teacher θ θ' rows)
        (lossInputs A scope teacher θ θ rows) =
      .ok (onRows rows fun row => tokenRaw A.cfg.distillation (studentLogps A scope θ θ' row)
        (studentLogps A scope θ θ row) (teacherLogps A scope teacher θ row.teacherView row)) := by
  unfold rawGraph
  by_cases hfull : A.cfg.distillation.fullLogitDistillation = true
  · rw [if_pos hfull]
    unfold rawPerTokenLoss
    rw [if_pos hfull]
    rcases h.topk hfull with hnone | htopk
    · have hoff : hasTopk A.cfg.distillation = false := by
        unfold hasTopk
        rw [if_pos hfull, hnone]
      rw [if_neg (by rw [hnone]; exact Bool.false_ne_true)]
      simp only [lossInputs, hfull, hoff, and_self, if_true]
      refine congrArg Except.ok (funext fun p => ?_)
      simp only [klLossSum, onRows, tokenRaw, hfull, hoff, if_true, Bool.false_eq_true, if_false]
    · have hsome : A.cfg.distillation.distillationTopk.isSome = true := by
        unfold hasTopk at htopk
        rw [if_pos hfull] at htopk
        cases hk : A.cfg.distillation.distillationTopk with
        | none => rw [hk] at htopk; cases htopk
        | some k => rfl
      rw [if_pos hsome]
      simp only [lossInputs, htopk, if_true]
      split
      · rename_i htail
        refine congrArg Except.ok (funext fun p => ?_)
        simp only [klLossSum, onRows, tokenRaw, hfull, htopk, htail, if_true]
      · rename_i htail
        refine congrArg Except.ok (funext fun p => ?_)
        simp only [klLossSum, onRows, tokenRaw, hfull, htopk, if_true]
        rw [if_neg htail]
  · rw [if_neg hfull, if_pos (h.alpha (Bool.not_eq_true _ ▸ hfull))]
    refine congrArg Except.ok (funext fun p => ?_)
    simp only [onRows, tokenRaw, lossInputs]
    rw [if_neg hfull]

theorem isClipped_rows (raw : UpdateRow V T X → Fin T → ℝ) :
    isClipped A.cfg.distillation (lossInputs A scope teacher θ θ rows) (onRows rows raw) =
      .ok (onRows rows fun row t => raw row t * tokenRatio A.cfg.distillation
        (studentLogps A scope θ θ row) (oldLogProb A scope θ row) t) := by
  unfold isClipped
  cases hclip : A.cfg.distillation.isClip with
  | none =>
      refine congrArg Except.ok (funext fun p => ?_)
      simp only [onRows, tokenRatio, hclip, mul_one]
  | some clip =>
      refine congrArg Except.ok (funext fun p => ?_)
      simp only [onRows, tokenRatio, hclip, lossInputs]

theorem timesWeights_rows (loss : UpdateRow V T X → Fin T → ℝ) :
    timesWeights (if scope.keys.rolloutIsWeights then some (onRows rows (·.rolloutIsWeights))
      else none) (onRows rows loss) =
        onRows rows fun row t => loss row t * isWeight scope row t := by
  funext p
  unfold isWeight
  split <;> simp [timesWeights, onRows]

/-- The per-token loss under the weights of LookAway. -/
theorem distillationGraph_rows (h : Distills A.cfg.distillation)
    (vdWeights : Option (Tensor rows.length T)) :
    distillationGraph A.cfg.distillation (lossInputs A scope teacher θ θ' rows)
        (lossInputs A scope teacher θ θ rows) vdWeights =
      (aggLoss (timesWeights vdWeights (onRows rows (tokenLoss A scope teacher θ θ')))
        (onRows rows fun row t => row.responseMask t && row.selfDistillationMask) A.cfg.lossAggMode
        ⟨1, some (A.cfg.globalBatchInfo.batchNumTokens.getD (max (count
          (onRows rows fun row t => row.responseMask t && row.selfDistillationMask)) 1)),
          A.cfg.globalBatchInfo.globalBatchSize, A.cfg.globalBatchInfo.lossScaleFactor⟩).mapError
            LossError.aggregation := by
  unfold distillationGraph
  rw [rawGraph_rows h]
  dsimp only [bind, Except.bind]
  rw [isClipped_rows]
  dsimp only
  have hweights : (lossInputs A scope teacher θ θ rows).rolloutIsWeights =
      if scope.keys.rolloutIsWeights then some (onRows rows (·.rolloutIsWeights)) else none := rfl
  rw [hweights, timesWeights_rows]
  rfl

/-- The settings under which a micro-batch is no more than its rows. -/
structure RowWise (A : Actor P X V T K) (scope : UpdateScope) (teacher : TeacherModule P) :
    Prop where
  mode : SeqMean A.cfg.lossAggMode
  scale : A.cfg.globalBatchInfo = plainScale
  distills : A.cfg.lossMode = .vopd → Distills A.cfg.distillation
  gamma : A.cfg.lossMode = .vopd → A.cfg.distillation.vdGamma ≤ 0
  trustRegion : A.cfg.lossMode = .vopd →
    ¬ (useTrustRegionTeacher A.cfg.distillation ∧ teacher.isCurrent)
  advantages : A.cfg.lossMode = .vanilla → scope.keys.advantages = true
  clipRatioC : A.cfg.lossMode = .vanilla → 1 < A.cfg.clipRatioC
  kl : A.cfg.useKlLoss = true → ∃ kld, klPenalty A.cfg.klLossType = .ok kld

/-- A row with a response, and with a teacher. -/
structure Trains (A : Actor P X V T K) (row : UpdateRow V T X) : Prop where
  response : ∃ t, row.responseMask t = true
  teacher : A.cfg.lossMode = .vopd → row.selfDistillationMask = true

theorem aggregate_onRows (h : RowWise A scope teacher) (hrows : ∀ row ∈ rows, Trains A row)
    (loss : UpdateRow V T X → Fin T → ℝ) :
    aggregate (onRows rows loss) (onRows rows (·.responseMask)) A.cfg.lossAggMode plainScale =
      .ok ((rows.map fun row => seqAgg A.cfg.lossAggMode (loss row) row.responseMask).sum /
        rows.length) := by
  unfold aggregate
  rw [aggLoss_onRows h.mode rfl rfl loss fun row hrow => (hrows row hrow).response]
  rfl

theorem weightingBlock_off {cfg : SelfDistillationConfig} {files : ActorFiles}
    {mb : MicroBatch B T K} (h : cfg.vdGamma ≤ 0) : weightingBlock cfg files mb = .ok none := by
  unfold weightingBlock
  rw [if_neg (not_lt.mpr h)]
  rfl

theorem fallbackLoss_none (h : ∀ row ∈ rows, row.selfDistillationMask = true) :
    fallbackLoss A scope θ θ' rows = .ok 0 := by
  unfold fallbackLoss
  rw [if_neg]
  rintro ⟨row, hrow, hoff⟩
  rw [h row hrow] at hoff
  cases hoff

theorem pgLossOf_rows (h : RowWise A scope teacher) (hrows : ∀ row ∈ rows, Trains A row) :
    pgLossOf A scope teacher θ θ' rows =
      .ok ((rows.map (rowPg A scope teacher θ θ')).sum / rows.length) := by
  unfold pgLossOf rowPg
  cases hmode : A.cfg.lossMode with
  | vanilla =>
      have hvanilla := aggregate_onRows h hrows (tokenPgLoss A scope θ θ')
      dsimp only
      unfold computePolicyLossVanilla
      rw [if_pos (h.advantages hmode), check_pos (h.clipRatioC hmode), h.scale, ← hvanilla]
      exact congrArg (aggregate · _ _ _) (timesWeights_rows fun row t =>
        pgLoss A.cfg (oldLogProb A scope θ row t) ((studentLogps A scope θ θ' row).logProb t)
          (row.advantages t))
  | vopd =>
      have hteacher : ∀ row ∈ rows, row.selfDistillationMask = true :=
        fun row hrow => (hrows row hrow).teacher hmode
      have hmask : (onRows rows fun row t => row.responseMask t && row.selfDistillationMask) =
          onRows rows (·.responseMask) := by
        funext p
        simp only [onRows]
        rw [hteacher _ (List.get_mem rows p.1), Bool.and_true]
      have hloss : distillationGraph A.cfg.distillation (lossInputs A scope teacher θ θ' rows)
          (lossInputs A scope teacher θ θ rows) none = .ok ((rows.map fun row =>
            seqAgg A.cfg.lossAggMode (tokenLoss A scope teacher θ θ' row) row.responseMask).sum /
              rows.length) := by
        rw [distillationGraph_rows (h.distills hmode), hmask, h.scale]
        exact congrArg (Except.mapError _) (aggLoss_onRows h.mode rfl rfl _
          fun row hrow => (hrows row hrow).response)
      dsimp only
      rw [raiseIf_neg (h.trustRegion hmode), weightingBlock_off (h.gamma hmode),
        fallbackLoss_none hteacher]
      refine except_bind_ok.mpr ⟨(), rfl, except_bind_ok.mpr ⟨none, rfl, except_bind_ok.mpr
        ⟨_, congrArg (Except.mapError ActorError.loss) hloss, except_bind_ok.mpr ⟨0, rfl, ?_⟩⟩⟩⟩
      exact congrArg Except.ok (add_zero _)

theorem entropyTerm_rows (h : RowWise A scope teacher) (hrows : ∀ row ∈ rows, Trains A row) :
    entropyTerm A scope θ θ' rows =
      .ok ((rows.map (rowEntropy A scope θ θ')).sum / rows.length) := by
  unfold entropyTerm rowEntropy
  split
  · rw [aggregate_onRows h hrows, List.sum_map_mul_left, mul_div_assoc]
    rfl
  · simp

theorem klTerm_rows (h : RowWise A scope teacher) (hrows : ∀ row ∈ rows, Trains A row) :
    klTerm A scope θ θ' rows = .ok ((rows.map (rowKl A scope θ θ')).sum / rows.length) := by
  unfold klTerm rowKl
  split
  · rename_i hon
    obtain ⟨kld, hkld⟩ := h.kl hon
    rw [hkld]
    dsimp only [bind, Except.bind]
    rw [aggregate_onRows h hrows, List.sum_map_mul_left, mul_div_assoc]
    rfl
  · simp

/-- The loss of a micro-batch is the mean of the losses of its rows. -/
theorem policyLoss_rows (h : RowWise A scope teacher) (hrows : ∀ row ∈ rows, Trains A row) :
    policyLoss A scope teacher θ θ' rows =
      .ok ((rows.map (rowLoss A scope teacher θ θ')).sum / rows.length) := by
  unfold policyLoss
  rw [pgLossOf_rows h hrows, entropyTerm_rows h hrows, klTerm_rows h hrows]
  refine congrArg Except.ok ?_
  rw [← sub_div, ← add_div]
  congr 1
  induction rows with
  | nil => simp
  | cons row rows ih =>
      simp only [List.map_cons, List.sum_cons]
      rw [← ih fun row hrow => hrows row (List.mem_cons_of_mem _ hrow), rowLoss]
      ring

end Rows

end LookAway.Training
