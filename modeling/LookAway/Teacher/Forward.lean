/-
  The teacher forwards of verl/workers/actor/dp_actor.py: `_forward_micro_batch` with
  `use_remove_padding` and without sequence parallelism, and the two calls `update_policy` makes.

  Logits are real. The model is a parameter: a function of the packed tokens, their positions and
  the concatenated visual inputs of the micro batch. Of the outputs only `log_probs` is modelled.
-/
import LookAway.Teacher.Inputs
import LookAway.Weights.Tensor

namespace LookAway.Teacher

open LookAway.Base LookAway.Base.Packing
open LookAway.Weights (logsumexp)

variable {V : ℕ} {F : Type}

/-- `model(input_ids, position_ids, **multi_modal_inputs).logits`, token by token. -/
abbrev Model (V : ℕ) (F : Type) := List (Fin V) → List (List ℤ) → List F → List (Fin V → ℝ)

/-! ## Response positions -/

/-- `response_start_idx - 1 + offsets`, row by row. -/
def responsePositions (responseStartIdx : List ℕ) (responseLength : ℕ) : List (List ℕ) :=
  responseStartIdx.map fun start => (List.range responseLength).map fun k => start - 1 + k

/-- `_build_response_positions`. -/
def buildResponsePositions (responseStartIdx : List ℕ) (responseLength seqlen : ℕ) :
    Except TeacherError (List (List ℕ)) :=
  if responseStartIdx.any (· < 1) then
    .error (.valueError ("response_start_idx must be >= 1 so response logits have a preceding " ++
      "context token."))
  else
    let positions := responsePositions responseStartIdx responseLength
    if positions.flatten.any (seqlen ≤ ·) then
      .error (.valueError (s!"Response positions out of bounds for seqlen={seqlen}: " ++
        s!"min={(positions.flatten.min?).getD 0}, max={(positions.flatten.max?).getD 0}"))
    else .ok positions

/-- `_select_response_positions` of a tensor of shape `(batch, seqlen)`. -/
def selectResponsePositions {α : Type} (hiddenStates : List (List α))
    (responseStartIdx : List ℕ) (responseLength seqlen : ℕ) :
    Except TeacherError (List (List α)) := do
  let positions ← buildResponsePositions responseStartIdx responseLength seqlen
  return List.zipWith gather hiddenStates positions

/-- The entry `t` of row `r`. -/
def entry? {α : Type} (m : List (List α)) (r t : ℕ) : Option α := m[r]?.bind (·[t]?)

/-- The positions are in bounds when every response fits. -/
theorem buildResponsePositions_ok {starts : List ℕ} {responseLength seqlen : ℕ}
    (hpos : ∀ start ∈ starts, 1 ≤ start)
    (hfit : ∀ start ∈ starts, start + responseLength ≤ seqlen) :
    buildResponsePositions starts responseLength seqlen =
      .ok (responsePositions starts responseLength) := by
  unfold buildResponsePositions
  rw [if_neg, if_neg]
  · intro hany
    obtain ⟨j, hj, hle⟩ := List.any_eq_true.mp hany
    obtain ⟨row, hrow, hj⟩ := List.mem_flatten.mp hj
    obtain ⟨start, hstart, rfl⟩ := List.mem_map.mp hrow
    obtain ⟨k, hk, rfl⟩ := List.mem_map.mp hj
    have hlt := List.mem_range.mp hk
    have hpos' := hpos start hstart
    have hfit' := hfit start hstart
    have hle' : seqlen ≤ start - 1 + k := by simpa using hle
    omega
  · intro hany
    obtain ⟨start, hstart, hlt⟩ := List.any_eq_true.mp hany
    have hpos' := hpos start hstart
    have hlt' : start < 1 := by simpa using hlt
    omega

/-- Response token `t` of a row gets the state in front of it. -/
theorem selectResponsePositions_ok {α : Type} (hiddenStates : List (List α)) {starts : List ℕ}
    {responseLength seqlen : ℕ} (hwidth : ∀ row ∈ hiddenStates, row.length = seqlen)
    (hlength : starts.length = hiddenStates.length) (hpos : ∀ start ∈ starts, 1 ≤ start)
    (hfit : ∀ start ∈ starts, start + responseLength ≤ seqlen) :
    ∃ out, selectResponsePositions hiddenStates starts responseLength seqlen = .ok out ∧
      ∀ r (hr : r < starts.length) t, t < responseLength →
        entry? out r t = entry? hiddenStates r (starts[r] - 1 + t) := by
  refine ⟨_, except_bind_ok.mpr ⟨_, buildResponsePositions_ok hpos hfit, rfl⟩, ?_⟩
  intro r hr t ht
  have hr' : r < hiddenStates.length := hlength ▸ hr
  have hstart : starts[r] ∈ starts := List.getElem_mem hr
  have hrange : ∀ j ∈ (List.range responseLength).map fun k => starts[r] - 1 + k,
      j < hiddenStates[r].length := by
    intro j hj
    obtain ⟨k, hk, rfl⟩ := List.mem_map.mp hj
    have hlt := List.mem_range.mp hk
    have hpos' := hpos _ hstart
    have hfit' := hfit _ hstart
    rw [hwidth _ (List.getElem_mem hr')]
    omega
  unfold entry? responsePositions
  rw [List.getElem?_zipWith, List.getElem?_map, List.getElem?_eq_getElem hr,
    List.getElem?_eq_getElem hr']
  simp only [Option.map_some, Option.bind_some]
  rw [getElem?_gather hrange]
  simp [ht]

/-! ## The forward -/

/-- `logprobs_from_logits` at one token, with the logits divided by the temperature. -/
noncomputable def logprob (temperature : ℝ) (logits : Fin V → ℝ) (label : Fin V) : ℝ :=
  logits label / temperature - logsumexp fun v => logits v / temperature

/-- Rows `rows` of the tensors: a micro batch. -/
def TeacherTensors.select (T : TeacherTensors V F) (rows : List ℕ) : TeacherTensors V F where
  seqlen := T.seqlen
  channels := T.channels
  inputIds := gather T.inputIds rows
  attentionMask := gather T.attentionMask rows
  positionIds := gather T.positionIds rows
  responseStartIdx := gather T.responseStartIdx rows
  multiModalInputs := gather T.multiModalInputs rows

/-- The log-probs of the packed tokens, each of the token after it: the model is run on the
unmasked tokens, or on one zero when there are none. -/
noncomputable def packedLogProbs [NeZero V] (model : Model V F) (temperature : ℝ)
    (microBatch : TeacherTensors V F) : List ℝ :=
  let is := indices microBatch.attentionMask.flatten
  let inputIdsRmpad := gather microBatch.inputIds.flatten is
  let positionIdsRmpad := gather microBatch.positionIds.flatten is
  let features := microBatch.multiModalInputs.flatten
  let run := fun ids positions =>
    List.zipWith (logprob temperature) (model ids positions features) (roll ids)
  if count microBatch.attentionMask.flatten = 0 then
    (run [0] [List.replicate microBatch.channels 0]).take 0
  else
    run inputIdsRmpad positionIdsRmpad

/-- `_forward_micro_batch`: the log-probs of the response tokens. -/
noncomputable def forwardMicroBatch [NeZero V] (model : Model V F) (temperature : ℝ)
    (responseLength : ℕ) (microBatch : TeacherTensors V F) :
    Except TeacherError (List (List ℝ)) :=
  let batchSize := microBatch.inputIds.length
  if microBatch.responseStartIdx.length ≠ batchSize then
    .error (.valueError (s!"response_start_idx shape must be ({batchSize},), " ++
      s!"got ({microBatch.responseStartIdx.length},)"))
  else
    let logProbs := packedLogProbs model temperature microBatch
    -- `pad_input`: zeros, with the log-probs at the places of the unmasked tokens
    let fullLogProbs := unflatten batchSize microBatch.seqlen
      (scatter (batchSize * microBatch.seqlen) (indices microBatch.attentionMask.flatten) logProbs)
    selectResponsePositions fullLogProbs microBatch.responseStartIdx responseLength
      microBatch.seqlen

/-! ## Both views -/

/-- What the negative view adds: its log-probs and `delta_diff`. -/
structure NegativeLogProbs where
  teacherNegLogProb : List (List ℝ)
  deltaDiff : List (List ℝ)

structure ViewLogProbs where
  teacherLogProb : List (List ℝ)
  negative : Option NegativeLogProbs

/-- The two teacher forwards of `update_policy` on rows `rows` of the batch. -/
noncomputable def teacherForwards [NeZero V] (model : Model V F) (temperature : ℝ) (vdGamma : ℚ)
    (responseLength : ℕ) (batch : DistillBatch V F) (rows : List ℕ) :
    Except TeacherError ViewLogProbs := do
  let teacherLogProb ←
    forwardMicroBatch model temperature responseLength (batch.teacher.tensors.select rows)
  if 0 < vdGamma then
    match batch.teacherNeg with
    | none => .error (.keyError "vd_gamma > 0 requires teacher_neg_* tensors in the batch.")
    | some neg => do
        let teacherNegLogProb ←
          forwardMicroBatch model temperature responseLength (neg.tensors.select rows)
        return ⟨teacherLogProb, some ⟨teacherNegLogProb,
          List.zipWith (List.zipWith (· - ·)) teacherLogProb teacherNegLogProb⟩⟩
  else
    return ⟨teacherLogProb, none⟩

section Forwards

variable [NeZero V] {model : Model V F} {temperature : ℝ} {vdGamma : ℚ} {responseLength : ℕ}
  {batch : DistillBatch V F} {rows : List ℕ} {lp lpNeg : List (List ℝ)}

theorem teacherForwards_off (hgamma : ¬ 0 < vdGamma)
    (h : forwardMicroBatch model temperature responseLength (batch.teacher.tensors.select rows) =
      .ok lp) :
    teacherForwards model temperature vdGamma responseLength batch rows = .ok ⟨lp, none⟩ := by
  unfold teacherForwards
  refine except_bind_ok.mpr ⟨lp, h, ?_⟩
  simp only [hgamma, if_false]
  rfl

theorem teacherForwards_on (hgamma : 0 < vdGamma) {neg : View V F}
    (h : forwardMicroBatch model temperature responseLength (batch.teacher.tensors.select rows) =
      .ok lp) (hneg : batch.teacherNeg = some neg)
    (hforward : forwardMicroBatch model temperature responseLength (neg.tensors.select rows) =
      .ok lpNeg) :
    teacherForwards model temperature vdGamma responseLength batch rows =
      .ok ⟨lp, some ⟨lpNeg, List.zipWith (List.zipWith (· - ·)) lp lpNeg⟩⟩ := by
  unfold teacherForwards
  refine except_bind_ok.mpr ⟨lp, h, ?_⟩
  simp only [hgamma, if_true, hneg]
  exact except_bind_ok.mpr ⟨lpNeg, hforward, rfl⟩

end Forwards

end LookAway.Teacher
