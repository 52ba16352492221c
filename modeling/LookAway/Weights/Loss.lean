/-
  The distillation loss: `masked_sum` (verl/utils/torch_functional.py), `agg_loss` and
  `compute_self_distillation_loss` (verl/trainer/ppo/core_algos.py).

  The loss has its own copy of the divergence: the terms of the sum are weighted before they are
  added up, where `token_distillation_divergence` adds first.
-/
import LookAway.Weights.Block

namespace LookAway.Weights

open LookAway.Base

variable {B T : ℕ}

/-- `mask` as a number. -/
def maskValue (b : Bool) : ℝ := if b then 1 else 0

/-- `masked_sum(values, mask)` over a tensor. -/
noncomputable def maskedSum (values : Tensor B T) (mask : Mask B T) : ℝ :=
  ((positions B T).map fun p => (if mask p then values p else 0) * maskValue (mask p)).sum

/-- `masked_sum` over one value a sequence. -/
noncomputable def maskedSeqSum (values : Fin B → ℝ) (mask : Fin B → Bool) : ℝ :=
  ∑ i, (if mask i then values i else 0) * maskValue (mask i)

/-- `torch.sum(loss_mat * loss_mask, dim=-1)`. -/
noncomputable def seqLoss (lossMat : Tensor B T) (lossMask : Mask B T) (i : Fin B) : ℝ :=
  ∑ t, lossMat (i, t) * maskValue (lossMask (i, t))

/-- `torch.sum(loss_mask, dim=-1)`. -/
noncomputable def seqCount (lossMask : Mask B T) (i : Fin B) : ℝ :=
  ∑ t, maskValue (lossMask (i, t))

/-- `(torch.sum(loss_mask, dim=-1) > 0)`: the sequence is not fully masked. -/
noncomputable def seqMask (lossMask : Mask B T) (i : Fin B) : Bool :=
  decide (0 < seqCount lossMask i)

/-- The optional normalizers of `agg_loss`. -/
structure AggScale where
  dpSize : ℝ
  batchNumTokens : Option ℝ
  globalBatchSize : Option ℝ
  lossScaleFactor : Option ℝ

/-- `agg_loss`. -/
noncomputable def aggLoss (lossMat : Tensor B T) (lossMask : Mask B T) (mode : String)
    (scale : AggScale) : Except UpdateError ℝ :=
  let globalBatchSize := scale.globalBatchSize.getD (∑ i, maskValue (seqMask lossMask i))
  if mode = "token-mean" then
    let batchNumTokens := scale.batchNumTokens.getD (count lossMask)
    .ok (maskedSum lossMat lossMask / batchNumTokens * scale.dpSize)
  else if mode = "seq-mean-token-sum" then
    .ok (maskedSeqSum (seqLoss lossMat lossMask) (seqMask lossMask) /
      globalBatchSize * scale.dpSize)
  else if mode = "seq-mean-token-mean" then
    let seqLosses := fun i => seqLoss lossMat lossMask i / (seqCount lossMask i + 1 / 10 ^ 8)
    .ok (maskedSeqSum seqLosses (seqMask lossMask) / globalBatchSize * scale.dpSize)
  else if mode = "seq-mean-token-sum-norm" then
    .ok ((∑ i, seqLoss lossMat lossMask i) / scale.lossScaleFactor.getD T)
  else .error (.valueError "Invalid loss_agg_mode")

/-- A masked sum adds the values under the mask. -/
theorem maskedSum_eq_total (values : Tensor B T) (mask : Mask B T) :
    maskedSum values mask = total mask values := by
  unfold maskedSum total sumOn select
  induction positions B T with
  | nil => rfl
  | cons p ps ih =>
      rw [List.map_cons, List.sum_cons, List.filter_cons, ih]
      cases hm : mask p
      · simp [maskValue]
      · simp [maskValue]

/-! ## The distillation loss -/

/-- Errors of the loss. -/
inductive LossError where
  | valueError (text : String)
  | assertionError (text : String)
  | aggregation (e : UpdateError)
  deriving DecidableEq, Repr

/-- The arguments of `compute_self_distillation_loss`, `vd_weights` apart. `none` is an argument
    left at `None`; `V` is the vocabulary. -/
structure LossInputs (B T K V : ℕ) where
  studentLogProbs : Tensor B T
  teacherLogProbs : Tensor B T
  responseMask : Mask B T
  oldLogProbs : Option (Tensor B T)
  studentAllLogProbs : Option (TopK B T V)
  teacherAllLogProbs : Option (TopK B T V)
  studentTopkLogProbs : Option (TopK B T K)
  teacherTopkLogProbs : Option (TopK B T K)
  selfDistillationMask : Option (Fin B → Bool)
  lossAggMode : String
  rolloutIsWeights : Option (Tensor B T)
  batchNumTokens : Option ℝ
  globalBatchSize : Option ℝ
  lossScaleFactor : Option ℝ

/-- The metrics the loss returns. -/
structure LossMetrics where
  rawJsdTokenMean : ℝ
  weightedJsdTokenMean : ℝ
  selfDistillationMaskMean : ℝ
  numDistillTokens : ℝ

section Loss

variable {K V : ℕ}

/-- `F.kl_div(input, target, reduction="none", log_target=True)`. -/
noncomputable def klDivNone {K : ℕ} (input target : Fin K → ℝ) : Fin K → ℝ :=
  fun k => Real.exp (target k) * (target k - input k)

/-- `mixture_log_probs`. -/
noncomputable def mixtureLogProbs {K : ℕ} (student teacher : Fin K → ℝ) (alpha : ℝ) : Fin K → ℝ :=
  fun k =>
    Real.log (Real.exp (student k + Real.log (1 - alpha)) + Real.exp (teacher k + Real.log alpha))

/-- `kl_loss` at one token. -/
noncomputable def klLoss {K : ℕ} (student teacher : Fin K → ℝ) (alpha : ℝ) : Fin K → ℝ :=
  if alpha = 0 then klDivNone student teacher
  else if alpha = 1 then klDivNone teacher student
  else
    let mixture := mixtureLogProbs student teacher alpha
    fun k => lerp (klDivNone mixture student k) (klDivNone mixture teacher k) alpha

/-- `kl_loss.sum(-1)` over two tensors of log-probabilities. -/
noncomputable def klLossSum {K : ℕ} (student teacher : TopK B T K) (alpha : ℝ) : Tensor B T :=
  fun p => ∑ k, klLoss (student p) (teacher p) alpha k

/-- `raw_per_token_loss`. -/
noncomputable def rawPerTokenLoss (cfg : SelfDistillationConfig) (x : LossInputs B T K V) :
    Except LossError (Tensor B T) :=
  if cfg.fullLogitDistillation then
    if cfg.distillationTopk.isSome then
      match x.studentTopkLogProbs, x.teacherTopkLogProbs with
      | some student, some teacher =>
          if cfg.distillationAddTail then
            .ok (klLossSum (fun p => addTailBucket (student p)) (fun p => addTailBucket (teacher p))
              cfg.alpha)
          else
            .ok (klLossSum (fun p => renormTopk (student p)) (fun p => renormTopk (teacher p))
              cfg.alpha)
      | _, _ => .error (.valueError
          "top-k distillation requires student_topk_log_probs and teacher_topk_log_probs.")
    else
      match x.studentAllLogProbs, x.teacherAllLogProbs with
      | some student, some teacher => .ok (klLossSum student teacher cfg.alpha)
      | _, _ => .error (.valueError
          "full_logit_distillation requires student_all_log_probs and teacher_all_log_probs.")
  else if cfg.alpha = 1 then
    .ok fun p => (x.studentLogProbs p - x.teacherLogProbs p) * x.studentLogProbs p
  else .error (.assertionError "Only reverse KL is supported for non-full-logit distillation")

/-- The importance ratio of `is_clip` on the per-token loss. -/
noncomputable def isClipped (cfg : SelfDistillationConfig) (x : LossInputs B T K V)
    (loss : Tensor B T) : Except LossError (Tensor B T) :=
  match cfg.isClip with
  | none => .ok loss
  | some clip =>
      match x.oldLogProbs with
      | none => .error (.valueError "old_log_probs is required for distillation IS ratio.")
      | some old =>
          let ratio : Tensor B T := fun p =>
            min (Real.exp (min (max (x.studentLogProbs p - old p) (-20)) 20)) clip
          .ok fun p => loss p * ratio p

/-- `loss * weights`, when the weights are given. -/
def timesWeights (weights : Option (Tensor B T)) (loss : Tensor B T) : Tensor B T :=
  match weights with
  | none => loss
  | some w => fun p => loss p * w p

/-- `self_distillation_mask.float().mean()`, and 1.0 without a mask. -/
noncomputable def maskMean (mask : Option (Fin B → Bool)) : ℝ :=
  match mask with
  | none => 1
  | some rows => (∑ i, maskValue (rows i)) / B

/-- `compute_self_distillation_loss`. -/
noncomputable def computeSelfDistillationLoss (cfg : SelfDistillationConfig)
    (x : LossInputs B T K V) (vdWeights : Option (Tensor B T)) :
    Except LossError (ℝ × LossMetrics) := do
  let lossMask : Mask B T := fun p => x.responseMask p && rowMask x.selfDistillationMask p
  let raw ← rawPerTokenLoss cfg x
  let clipped ← isClipped cfg x raw
  let weighted := timesWeights vdWeights (timesWeights x.rolloutIsWeights clipped)
  let validTokenCount : ℝ := max (count lossMask) 1
  let scale : AggScale :=
    ⟨1, some (x.batchNumTokens.getD validTokenCount), x.globalBatchSize, x.lossScaleFactor⟩
  let loss ← (aggLoss weighted lossMask x.lossAggMode scale).mapError LossError.aggregation
  return (loss, {
    rawJsdTokenMean := maskedSum raw lossMask / validTokenCount
    weightedJsdTokenMean := maskedSum weighted lossMask / validTokenCount
    selfDistillationMaskMean := maskMean x.selfDistillationMask
    numDistillTokens := count lossMask })

end Loss

end LookAway.Weights
