/-
  The rollouts of verl/experimental/agent_loop/agent_loop.py: the agent loops of a batch, each with
  its padding, the tensors that a worker makes of its samples, and the batch that the manager makes
  of the workers' outputs. Parameters: the agent loops themselves (`run`), the processor and the
  reward worker. Left out: routed experts, the metrics and the traces.

  A prompt is padded twice more after its own padding, to the longest of its worker and then to the
  longest of all. `generateSequences_rows`: row by row that is one padding, to the longest prompt of
  the whole batch, and with any number of workers the rows are those of the prompts, in order.
-/
import LookAway.Training.Dispatch
import LookAway.Teacher.Inputs
import Mathlib.Data.List.Dedup

namespace LookAway.Training

open LookAway.Base LookAway.Base.Packing LookAway.Teacher

deriving instance DecidableEq for PositionIds

variable {V : ℕ} {S E : Type}

/-! ## One sample -/

/-- An entry of a column. -/
inductive Cell (V : ℕ) (S E : Type) where
  | ids (tokens : List (Fin V))
  | mask (bits : List Bool)
  | counts (numbers : List ℕ)
  | positions (p : PositionIds)
  | floats (values : List S)
  | number (n : ℕ)
  | object (e : Option E)
  deriving DecidableEq

/-- An entry of `meta_info`. -/
inductive MetaValue (S : Type) where
  | float (value : S)
  | number (n : ℕ)
  | names (keys : List String)
  deriving DecidableEq

/-- What an agent loop returns. -/
structure AgentLoopOutput (V : ℕ) (S E : Type) where
  promptIds : List (Fin V)
  responseIds : List (Fin V)
  responseMask : List ℕ
  responseLogprobs : Option (List S)
  rewardScore : Option S
  numTurns : ℕ
  multiModalData : E
  extraFields : List (String × E)

/-- `_InternalAgentLoopOutput`: an output with its padding. -/
structure InternalOutput (V : ℕ) (S E : Type) where
  promptIds : List (Fin V)
  responseIds : List (Fin V)
  inputIds : List (Fin V)
  positionIds : PositionIds
  responseMask : List ℕ
  attentionMask : List Bool
  responseLogprobs : Option (List S)
  multiModalInputs : E
  rewardScore : Option S
  numTurns : ℕ
  /-- The entries of the extra field `reward_extra_info`. -/
  rewardExtraInfo : List (String × E)
  extraFields : List (String × E)

/-- The lengths to pad to, the processor and the reward worker. `prompt_length` is `None` for a
    validation without one; without a processor there is no `getRopeIndex`, and without scores
    during the rollouts no `rewardLoop`. The worker reads the row of the prompt and the padded
    output, and returns `reward_score` and `reward_extra_info`; `entries` reads such a
    dictionary. -/
structure RolloutConfig (V : ℕ) (S E : Type) where
  promptLength : Option ℕ
  responseLength : ℕ
  padTokenId : Fin V
  computeMultiModalInputs : AgentLoopOutput V S E → List (Fin V) → E
  getRopeIndex : Option (List (Fin V) → List Bool → E → PositionIds)
  rewardLoop : Option ((String → Option (Cell V S E)) → InternalOutput V S E → S × E)
  entries : E → List (String × E)

/-- `_compute_position_ids`. -/
def computePositionIds (cfg : RolloutConfig V S E) (inputIds : List (Fin V))
    (attentionMask : List Bool) (multiModalInputs : E) : Except TrainingError PositionIds :=
  match cfg.getRopeIndex with
  | none => .ok (.ofText (computePositionIdWithMask attentionMask))
  | some getRopeIndex => do
      let visionPositionIds := getRopeIndex inputIds attentionMask multiModalInputs
      raiseIf (visionPositionIds.ids.length ≠ inputIds.length) .runtimeError
      return visionPositionIds.prepend ((List.range attentionMask.length).map fun k =>
        if attentionMask[k]? = some true then (count (attentionMask.take k) : ℤ) else 1)

/-- `kwargs["raw_prompt"]`. -/
def rawPrompt (kwargs : String → Option (Cell V S E)) : Except TrainingError E :=
  match kwargs "raw_prompt" with
  | some (.object (some e)) => .ok e
  | _ => .error .keyError

/-- `_compute_score`: nothing to do where the agent loop has scored itself. -/
def computeScore (cfg : RolloutConfig V S E) (kwargs : String → Option (Cell V S E))
    (x : InternalOutput V S E) : InternalOutput V S E :=
  match cfg.rewardLoop, x.rewardScore with
  | some rewardLoop, none =>
      let (rewardScore, rewardExtraInfo) := rewardLoop kwargs x
      { x with
        rewardScore := some rewardScore
        rewardExtraInfo := cfg.entries rewardExtraInfo
        extraFields := insertEntry x.extraFields "reward_extra_info" rewardExtraInfo }
  | _, _ => x

/-- `_agent_loop_postprocess`. -/
def agentLoopPostprocess [Zero S] (cfg : RolloutConfig V S E)
    (kwargs : String → Option (Cell V S E)) (output : AgentLoopOutput V S E) :
    Except TrainingError (InternalOutput V S E) := do
  let rawPrompt ← rawPrompt kwargs
  let extraFields := insertEntry output.extraFields "raw_prompt" rawPrompt
  let promptLength := cfg.promptLength.getD output.promptIds.length
  let promptIds := output.promptIds.leftpad promptLength cfg.padTokenId
  let promptMask := (List.replicate output.promptIds.length true).leftpad promptLength false
  let responseIds := output.responseIds.rightpad cfg.responseLength cfg.padTokenId
  let responseAttention :=
    (List.replicate output.responseIds.length true).rightpad cfg.responseLength false
  -- padded as token ids; the product clears the padding
  let responseMask := output.responseMask.rightpad cfg.responseLength cfg.padTokenId.val
  raiseIf (responseMask.length ≠ responseAttention.length) .runtimeError
  let attentionMask := promptMask ++ responseAttention
  let inputIds := promptIds ++ responseIds
  let multiModalInputs := cfg.computeMultiModalInputs output inputIds
  let positionIds ← computePositionIds cfg inputIds attentionMask multiModalInputs
  return computeScore cfg kwargs {
    promptIds := promptIds
    responseIds := responseIds
    inputIds := inputIds
    positionIds := positionIds
    responseMask := List.zipWith (fun m b => m * Bool.toNat b) responseMask responseAttention
    attentionMask := attentionMask
    responseLogprobs := output.responseLogprobs.map (·.rightpad cfg.responseLength 0)
    multiModalInputs := multiModalInputs
    rewardScore := output.rewardScore
    numTurns := output.numTurns
    rewardExtraInfo := (extraFields.lookup "reward_extra_info").elim [] cfg.entries
    extraFields := extraFields }

/-! ## A worker -/

/-- `_left_pad_tensor` on position ids. -/
def leftPadPositionIds (padSize : ℕ) (p : PositionIds) : PositionIds where
  channels := p.channels
  ids := List.replicate padSize (List.replicate p.channels 0) ++ p.ids
  shape := by
    intro q hq
    rcases List.mem_append.mp hq with hq | hq
    · rw [List.eq_of_mem_replicate hq, List.length_replicate]
    · exact p.shape q hq

/-- The padding of `_align_prompt_length`. -/
def InternalOutput.leftPad [NeZero V] (padSize : ℕ) (x : InternalOutput V S E) :
    InternalOutput V S E :=
  { x with
    promptIds := List.replicate padSize 0 ++ x.promptIds
    attentionMask := List.replicate padSize false ++ x.attentionMask
    inputIds := List.replicate padSize 0 ++ x.inputIds
    positionIds := leftPadPositionIds padSize x.positionIds }

/-- The longest prompt. -/
def maxPromptLength (inputs : List (InternalOutput V S E)) : ℕ :=
  (inputs.map (·.promptIds.length)).foldr max 0

/-- `_align_prompt_length`. -/
def alignPromptLength [NeZero V] (inputs : List (InternalOutput V S E)) :
    List (InternalOutput V S E) :=
  inputs.map fun x => x.leftPad (maxPromptLength inputs - x.promptIds.length)

/-- The row of `rm_scores`: the score at the last token of the response. Without a response the
    index is -1, the last column. -/
def rmScores [Zero S] (x : InternalOutput V S E) : List S :=
  let responseLength := count (x.attentionMask.drop x.promptIds.length)
  let index := if responseLength = 0 then x.responseMask.length - 1 else responseLength - 1
  (List.replicate x.responseMask.length 0).set index (x.rewardScore.getD 0)

/-- The tensors of a worker's batch, by key. -/
def tensorColumns [Zero S] (hasLogprobs hasScores : Bool) :
    List (String × (InternalOutput V S E → Cell V S E)) :=
  [("prompts", fun x => .ids x.promptIds), ("responses", fun x => .ids x.responseIds),
    ("response_mask", fun x => .counts x.responseMask), ("input_ids", fun x => .ids x.inputIds),
    ("attention_mask", fun x => .mask x.attentionMask),
    ("position_ids", fun x => .positions x.positionIds)] ++
  (if hasLogprobs then [("rollout_log_probs", fun x => .floats (x.responseLogprobs.getD []))]
    else []) ++
  (if hasScores then [("rm_scores", fun x => .floats (rmScores x))] else [])

/-- The objects of a worker's batch, by key; a later entry replaces an earlier one. -/
def objectColumns (infoKeys allKeys : List String) :
    List (String × (InternalOutput V S E → Cell V S E)) :=
  let infos := infoKeys.map fun key =>
    (key, fun x : InternalOutput V S E => Cell.object (x.rewardExtraInfo.lookup key))
  let inputs := [("multi_modal_inputs", fun x : InternalOutput V S E =>
    Cell.object (some x.multiModalInputs))]
  let extras := allKeys.map fun key =>
    (key, fun x : InternalOutput V S E => Cell.object (x.extraFields.lookup key))
  let entries : List (String × (InternalOutput V S E → Cell V S E)) := infos ++ inputs ++ extras
  entries.foldl (fun d c => insertEntry d c.1 c.2) [("__num_turns__", fun x => .number x.numTurns)]

/-- `torch.cat` takes rows of one width. -/
def SameWidth (inputs : List (InternalOutput V S E)) (width : InternalOutput V S E → ℕ) : Prop :=
  ∀ x ∈ inputs, ∀ x' ∈ inputs, width x = width x'

instance (inputs : List (InternalOutput V S E)) (width : InternalOutput V S E → ℕ) :
    Decidable (SameWidth inputs width) :=
  inferInstanceAs (Decidable (∀ x ∈ inputs, ∀ x' ∈ inputs, width x = width x'))

/-- `_postprocess`. -/
def postprocess [Zero S] [NeZero V] (inputs : List (InternalOutput V S E)) :
    Except TrainingError (DataProto (Cell V S E) (MetaValue S)) := do
  let inputs := alignPromptLength inputs
  match inputs with
  | [] => .error .runtimeError
  | first :: _ =>
      let hasLogprobs := first.responseLogprobs.isSome
      let hasScores := decide (∀ x ∈ inputs, x.rewardScore.isSome)
      let infoKeys := first.rewardExtraInfo.map (·.1)
      let allKeys := (inputs.flatMap fun x => x.extraFields.map (·.1)).dedup
      raiseIf (hasLogprobs ∧ ∃ x ∈ inputs, x.responseLogprobs.isNone) .typeError
      raiseIf (¬ (SameWidth inputs (·.promptIds.length) ∧ SameWidth inputs (·.responseIds.length) ∧
        SameWidth inputs (·.responseMask.length) ∧ SameWidth inputs (·.attentionMask.length) ∧
        SameWidth inputs (·.inputIds.length) ∧ SameWidth inputs (·.positionIds.ids.length) ∧
        SameWidth inputs (·.positionIds.channels) ∧
        SameWidth inputs fun x => (x.responseLogprobs.getD []).length)) .runtimeError
      raiseIf (hasScores ∧ first.responseMask = []) .indexError
      raiseIf (∃ key ∈ infoKeys, ∃ x ∈ inputs, (x.rewardExtraInfo.lookup key).isNone) .keyError
      return .ofSamples (tensorColumns hasLogprobs hasScores) (objectColumns infoKeys allKeys)
        inputs [("reward_extra_keys", .names infoKeys)]

/-- `AgentLoopWorker.generate_sequences`: one agent loop for each row, in one gather. -/
def workerGenerateSequences [Zero S] [NeZero V] (cfg : RolloutConfig V S E)
    (run : ℕ → (String → Option (Cell V S E)) → Except TrainingError (AgentLoopOutput V S E))
    (batch : DataProto (Cell V S E) (MetaValue S)) :
    Except TrainingError (DataProto (Cell V S E) (MetaValue S)) := do
  let outputs ← batch.items.zipIdx.mapM fun e => do
    let kwargs := fun key => e.1 (.nonTensor key)
    let output ← run e.2 kwargs
    agentLoopPostprocess cfg kwargs output
  postprocess outputs

/-! ## The manager -/

/-- `_left_pad_tensor` on an entry. -/
def Cell.leftPad [NeZero V] (padSize : ℕ) : Cell V S E → Cell V S E
  | .ids tokens => .ids (List.replicate padSize 0 ++ tokens)
  | .mask bits => .mask (List.replicate padSize false ++ bits)
  | .positions p => .positions (leftPadPositionIds padSize p)
  | cell => cell

/-- `output.batch["prompts"].shape[1]`. -/
def promptWidth (output : DataProto (Cell V S E) (MetaValue S)) : ℕ :=
  match (output.table (.tensor "prompts")).bind List.head? with
  | some (.ids tokens) => tokens.length
  | _ => 0

/-- The padding of `_align_output_prompt_length`. -/
def alignOutput [NeZero V] (padSize : ℕ) (output : DataProto (Cell V S E) (MetaValue S)) :
    DataProto (Cell V S E) (MetaValue S) :=
  output.mapTensors fun key =>
    if key ∈ ["prompts", "attention_mask", "input_ids", "position_ids"] then Cell.leftPad padSize
    else id

/-- `_align_output_prompt_length`. -/
def alignOutputPromptLength [NeZero V] (outputs : List (DataProto (Cell V S E) (MetaValue S))) :
    List (DataProto (Cell V S E) (MetaValue S)) :=
  outputs.map fun output => alignOutput ((outputs.map promptWidth).foldr max 0 - promptWidth output)
    output

/-- `AgentLoopManager.generate_sequences`. -/
def generateSequences [Zero S] [NeZero V] [DecidableEq S] (cfg : RolloutConfig V S E)
    (numWorkers : ℕ)
    (run : ℕ → ℕ → (String → Option (Cell V S E)) → Except TrainingError (AgentLoopOutput V S E))
    (prompts : DataProto (Cell V S E) (MetaValue S)) :
    Except TrainingError (DataProto (Cell V S E) (MetaValue S)) := do
  let chunkes ← prompts.chunk numWorkers
  let outputs ← chunkes.zipIdx.mapM fun e => workerGenerateSequences cfg (run e.2) e.1
  let aligned := alignOutputPromptLength outputs
  let output ← DataProto.concat aligned
  -- `{"timing": timing, **outputs[0].meta_info}`
  return output.withMetaInfo (aligned.head?.elim [] (·.metaInfo))

/-! ## What the padding of one sample gives -/

theorem rawPrompt_ok {kwargs : String → Option (Cell V S E)} {e : E}
    (h : kwargs "raw_prompt" = some (.object (some e))) : rawPrompt kwargs = .ok e := by
  unfold rawPrompt
  rw [h]

theorem of_rawPrompt_ok {kwargs : String → Option (Cell V S E)} {e : E}
    (h : rawPrompt kwargs = .ok e) : kwargs "raw_prompt" = some (.object (some e)) := by
  unfold rawPrompt at h
  split at h
  · rename_i e' hraw
    cases h
    exact hraw
  · cases h

/-- The score changes nothing else. -/
theorem computeScore_eq (cfg : RolloutConfig V S E) (kwargs : String → Option (Cell V S E))
    (x : InternalOutput V S E) : ∃ score info fields, computeScore cfg kwargs x =
      { x with rewardScore := score, rewardExtraInfo := info, extraFields := fields } := by
  unfold computeScore
  split
  · exact ⟨_, _, _, rfl⟩
  · exact ⟨x.rewardScore, x.rewardExtraInfo, x.extraFields, rfl⟩

/-- A sample with its padding. -/
structure PaddedOutput [Zero S] (cfg : RolloutConfig V S E) (output : AgentLoopOutput V S E)
    (x : InternalOutput V S E) : Prop where
  promptIds : x.promptIds = output.promptIds.leftpad
    (cfg.promptLength.getD output.promptIds.length) cfg.padTokenId
  responseIds : x.responseIds = output.responseIds.rightpad cfg.responseLength cfg.padTokenId
  inputIds : x.inputIds = x.promptIds ++ x.responseIds
  attentionMask : x.attentionMask =
    (List.replicate output.promptIds.length true).leftpad
      (cfg.promptLength.getD output.promptIds.length) false ++
    (List.replicate output.responseIds.length true).rightpad cfg.responseLength false
  multiModalInputs : x.multiModalInputs = cfg.computeMultiModalInputs output x.inputIds
  positionIds : computePositionIds cfg x.inputIds x.attentionMask x.multiModalInputs =
    .ok x.positionIds

theorem paddedOutput_of_ok [Zero S] {cfg : RolloutConfig V S E}
    {kwargs : String → Option (Cell V S E)} {output : AgentLoopOutput V S E}
    {x : InternalOutput V S E} (h : agentLoopPostprocess cfg kwargs output = .ok x) :
    PaddedOutput cfg output x := by
  unfold agentLoopPostprocess at h
  obtain ⟨e, -, h⟩ := except_bind_ok.mp h
  obtain ⟨_, -, h⟩ := except_bind_ok.mp h
  obtain ⟨positionIds, hpositions, h⟩ := except_bind_ok.mp h
  cases h
  obtain ⟨score, info, fields, heq⟩ := computeScore_eq cfg kwargs _
  rw [heq]
  exact ⟨rfl, rfl, rfl, rfl, rfl, hpositions⟩

theorem lookup_computeScore (cfg : RolloutConfig V S E) (kwargs : String → Option (Cell V S E))
    (x : InternalOutput V S E) {key : String} (hkey : key ≠ "reward_extra_info") :
    (computeScore cfg kwargs x).extraFields.lookup key = x.extraFields.lookup key := by
  unfold computeScore
  split
  · exact (lookup_insertEntry ..).trans (if_neg hkey)
  · rfl

/-! ## Padding twice -/

section Padding

variable {x : InternalOutput V S E} {xs : List (InternalOutput V S E)}

theorem le_maxPromptLength (hx : x ∈ xs) : x.promptIds.length ≤ maxPromptLength xs :=
  List.le_max_of_le (List.mem_map_of_mem hx) (Nat.le_refl _)

theorem foldr_max_append (ms ns : List ℕ) :
    (ms ++ ns).foldr max 0 = max (ms.foldr max 0) (ns.foldr max 0) := by
  induction ms with
  | nil => exact (Nat.zero_max _).symm
  | cons m ms ih => rw [List.cons_append, List.foldr_cons, List.foldr_cons, ih, Nat.max_assoc]

/-- The longest of all is the longest of the longest. -/
theorem maxPromptLength_flatten (parts : List (List (InternalOutput V S E))) :
    maxPromptLength parts.flatten = (parts.map maxPromptLength).foldr max 0 := by
  induction parts with
  | nil => rfl
  | cons part parts ih =>
      rw [List.flatten_cons, List.map_cons, List.foldr_cons, ← ih]
      unfold maxPromptLength
      rw [List.map_append, foldr_max_append]

variable [NeZero V]

theorem leftPadPositionIds_add (m n : ℕ) (p : PositionIds) :
    leftPadPositionIds m (leftPadPositionIds n p) = leftPadPositionIds (m + n) p := by
  obtain ⟨channels, ids, hshape⟩ := p
  simp only [leftPadPositionIds, PositionIds.mk.injEq, true_and]
  rw [← List.append_assoc, List.replicate_append_replicate]

theorem leftPad_add (m n : ℕ) (x : InternalOutput V S E) :
    (x.leftPad n).leftPad m = x.leftPad (m + n) := by
  simp only [InternalOutput.leftPad, leftPadPositionIds_add, ← List.append_assoc,
    List.replicate_append_replicate]

@[simp] theorem length_promptIds_leftPad (n : ℕ) (x : InternalOutput V S E) :
    (x.leftPad n).promptIds.length = n + x.promptIds.length := by
  simp [InternalOutput.leftPad]

theorem length_promptIds_align (hx : x ∈ alignPromptLength xs) :
    x.promptIds.length = maxPromptLength xs := by
  obtain ⟨y, hy, rfl⟩ := List.mem_map.mp hx
  rw [length_promptIds_leftPad, Nat.sub_add_cancel (le_maxPromptLength hy)]

/-- Aligned by a worker and once more by the manager. -/
theorem leftPad_alignPromptLength {m : ℕ} (hm : maxPromptLength xs ≤ m) :
    (alignPromptLength xs).map (·.leftPad (m - maxPromptLength xs)) =
      xs.map fun x => x.leftPad (m - x.promptIds.length) := by
  unfold alignPromptLength
  rw [List.map_map]
  refine List.map_congr_left fun x hx => ?_
  have hle := le_maxPromptLength hx
  rw [Function.comp_apply, leftPad_add]
  congr 1
  omega

/-- The reward stays where it is. -/
theorem rmScores_leftPad [Zero S] (n : ℕ) (x : InternalOutput V S E) :
    rmScores (x.leftPad n) = rmScores x := by
  have hdrop : (List.replicate n false ++ x.attentionMask).drop (n + x.promptIds.length) =
      x.attentionMask.drop x.promptIds.length := by
    rw [List.drop_append, List.drop_eq_nil_of_le (by simp), List.nil_append, List.length_replicate,
      Nat.add_sub_cancel_left]
  unfold rmScores
  rw [length_promptIds_leftPad]
  simp only [InternalOutput.leftPad, hdrop]

theorem tensorColumns_leftPad [Zero S] {hasLogprobs hasScores : Bool}
    {c : String × (InternalOutput V S E → Cell V S E)}
    (hc : c ∈ tensorColumns hasLogprobs hasScores) (n : ℕ) (x : InternalOutput V S E) :
    c.2 (x.leftPad n) =
      (if c.1 ∈ ["prompts", "attention_mask", "input_ids", "position_ids"] then Cell.leftPad n
        else id) (c.2 x) := by
  unfold tensorColumns at hc
  rcases List.mem_append.mp hc with hc | hc
  · rcases List.mem_append.mp hc with hc | hc
    · simp only [List.mem_cons, List.not_mem_nil, or_false] at hc
      rcases hc with rfl | rfl | rfl | rfl | rfl | rfl <;> rfl
    · split at hc
      · obtain rfl := List.mem_singleton.mp hc
        rfl
      · cases hc
  · split at hc
    · obtain rfl := List.mem_singleton.mp hc
      exact congrArg Cell.floats (rmScores_leftPad n x)
    · cases hc

theorem objectColumns_leftPad {infoKeys allKeys : List String}
    {c : String × (InternalOutput V S E → Cell V S E)} (hc : c ∈ objectColumns infoKeys allKeys)
    (n : ℕ) (x : InternalOutput V S E) : c.2 (x.leftPad n) = c.2 x := by
  rcases mem_foldl_insertEntry hc with hc | hc
  · obtain rfl := List.mem_singleton.mp hc
    rfl
  · rcases List.mem_append.mp hc with hc | hc
    · rcases List.mem_append.mp hc with hc | hc
      · obtain ⟨key, -, rfl⟩ := List.mem_map.mp hc
        rfl
      · obtain rfl := List.mem_singleton.mp hc
        rfl
    · obtain ⟨key, -, rfl⟩ := List.mem_map.mp hc
      rfl

end Padding

/-! ## Outputs of one kind -/

/-- What the outputs of a batch have in common. -/
structure Kind where
  hasLogprobs : Bool
  hasScores : Bool
  infoKeys : List String
  extraKeys : List String
  channels : ℕ

/-- An output of a kind. -/
structure Kind.Has (kind : Kind) (responseLength : ℕ) (x : InternalOutput V S E) : Prop where
  logprobs : x.responseLogprobs.isSome = kind.hasLogprobs
  score : x.rewardScore.isSome = kind.hasScores
  infoKeys : x.rewardExtraInfo.map (·.1) = kind.infoKeys
  extraKeys : x.extraFields.map (·.1) = kind.extraKeys
  channels : x.positionIds.channels = kind.channels
  length_responseIds : x.responseIds.length = responseLength
  length_responseMask : x.responseMask.length = responseLength
  length_logprobs : ∀ values, x.responseLogprobs = some values → values.length = responseLength
  length_attentionMask : x.attentionMask.length = x.promptIds.length + responseLength
  length_inputIds : x.inputIds.length = x.promptIds.length + responseLength
  length_positionIds : x.positionIds.ids.length = x.promptIds.length + responseLength

/-- The row of an output of a kind. -/
def Kind.row [Zero S] (kind : Kind) : InternalOutput V S E → Key → Option (Cell V S E) :=
  DataProto.sampleRow (tensorColumns kind.hasLogprobs kind.hasScores)
    (objectColumns kind.infoKeys kind.extraKeys.dedup)

/-- The batch of outputs of a kind. -/
def Kind.batch [Zero S] (kind : Kind) (xs : List (InternalOutput V S E)) :
    DataProto (Cell V S E) (MetaValue S) :=
  .ofSamples (tensorColumns kind.hasLogprobs kind.hasScores)
    (objectColumns kind.infoKeys kind.extraKeys.dedup) xs
    [("reward_extra_keys", .names kind.infoKeys)]

section Kinds

variable [NeZero V] {kind : Kind} {responseLength : ℕ} {x : InternalOutput V S E}
  {xs : List (InternalOutput V S E)}

theorem Kind.Has.leftPad (h : kind.Has responseLength x) (n : ℕ) :
    kind.Has responseLength (x.leftPad n) where
  logprobs := h.logprobs
  score := h.score
  infoKeys := h.infoKeys
  extraKeys := h.extraKeys
  channels := h.channels
  length_responseIds := h.length_responseIds
  length_responseMask := h.length_responseMask
  length_logprobs := h.length_logprobs
  length_attentionMask := by
    simp [InternalOutput.leftPad, h.length_attentionMask, Nat.add_assoc]
  length_inputIds := by
    simp [InternalOutput.leftPad, h.length_inputIds, Nat.add_assoc]
  length_positionIds := by
    simp [InternalOutput.leftPad, leftPadPositionIds, h.length_positionIds, Nat.add_assoc]

theorem dedup_flatMap_const {κ ρ : Type} [DecidableEq κ] {keys : List κ} {samples : List ρ}
    (hne : samples ≠ []) : (samples.flatMap fun _ => keys).dedup = keys.dedup := by
  induction samples with
  | nil => exact absurd rfl hne
  | cons x samples ih =>
      cases samples with
      | nil => rw [List.flatMap_cons, List.flatMap_nil, List.append_nil]
      | cons y samples =>
          rw [List.flatMap_cons, List.Subset.dedup_append_right, ih (List.cons_ne_nil _ _)]
          rw [List.flatMap_cons]
          exact List.subset_append_left _ _

/-- The batch that a worker makes of outputs of one kind. -/
theorem postprocess_ok [Zero S] (hne : xs ≠ []) (hpos : 0 < responseLength)
    (h : ∀ x ∈ xs, kind.Has responseLength x) :
    postprocess xs = .ok (kind.batch (alignPromptLength xs)) := by
  have hhas : ∀ x ∈ alignPromptLength xs, kind.Has responseLength x ∧
      x.promptIds.length = maxPromptLength xs := by
    intro x hx
    refine ⟨?_, length_promptIds_align hx⟩
    obtain ⟨y, hy, rfl⟩ := List.mem_map.mp hx
    exact (h y hy).leftPad _
  have hne' : alignPromptLength xs ≠ [] := by simpa [alignPromptLength] using hne
  unfold postprocess
  generalize alignPromptLength xs = aligned at hhas hne'
  cases aligned with
  | nil => exact absurd rfl hne'
  | cons first rest =>
      have hfirst := (hhas first (by simp)).1
      have hscores : decide (∀ x ∈ first :: rest, x.rewardScore.isSome = true) =
          kind.hasScores := by
        cases hkind : kind.hasScores with
        | true => exact decide_eq_true fun x hx => ((hhas x hx).1.score).trans hkind
        | false =>
            refine decide_eq_false fun hall => ?_
            have := hall first (by simp)
            rw [hfirst.score, hkind] at this
            cases this
      have hkeys : ((first :: rest).flatMap fun x => x.extraFields.map (·.1)).dedup =
          kind.extraKeys.dedup := by
        rw [List.flatMap_congr fun x hx => (hhas x hx).1.extraKeys]
        exact dedup_flatMap_const (List.cons_ne_nil _ _)
      dsimp only
      rw [hfirst.logprobs, hscores, hfirst.infoKeys, hkeys]
      refine except_bind_ok.mpr ⟨(), raiseIf_neg ?_, except_bind_ok.mpr ⟨(), raiseIf_neg ?_,
        except_bind_ok.mpr ⟨(), raiseIf_neg ?_, except_bind_ok.mpr ⟨(), raiseIf_neg ?_, rfl⟩⟩⟩⟩
      · rintro ⟨hlogprobs, x, hx, hnone⟩
        have hsome := ((hhas x hx).1.logprobs).trans hlogprobs
        rw [Option.isNone_iff_eq_none.mp hnone] at hsome
        cases hsome
      · rw [not_not]
        have hsame : ∀ {width : InternalOutput V S E → ℕ} (n : ℕ),
            (∀ x ∈ first :: rest, width x = n) → SameWidth (first :: rest) width :=
          fun n hwidth x hx x' hx' => (hwidth x hx).trans (hwidth x' hx').symm
        refine ⟨hsame _ fun x hx => (hhas x hx).2,
          hsame _ fun x hx => (hhas x hx).1.length_responseIds,
          hsame _ fun x hx => (hhas x hx).1.length_responseMask,
          hsame (maxPromptLength xs + responseLength) fun x hx => ?_,
          hsame (maxPromptLength xs + responseLength) fun x hx => ?_,
          hsame (maxPromptLength xs + responseLength) fun x hx => ?_,
          hsame _ fun x hx => (hhas x hx).1.channels, ?_⟩
        · rw [(hhas x hx).1.length_attentionMask, (hhas x hx).2]
        · rw [(hhas x hx).1.length_inputIds, (hhas x hx).2]
        · rw [(hhas x hx).1.length_positionIds, (hhas x hx).2]
        · cases hkind : kind.hasLogprobs with
          | true =>
              refine hsame responseLength fun x hx => ?_
              obtain ⟨values, hvalues⟩ := Option.isSome_iff_exists.mp
                (((hhas x hx).1.logprobs).trans hkind)
              rw [hvalues]
              exact (hhas x hx).1.length_logprobs values hvalues
          | false =>
              refine hsame 0 fun x hx => ?_
              have hnone := ((hhas x hx).1.logprobs).trans hkind
              rw [Option.isSome_eq_false_iff, Option.isNone_iff_eq_none] at hnone
              rw [hnone]
              rfl
      · rintro ⟨-, hnil⟩
        have hlength := hfirst.length_responseMask
        rw [hnil, List.length_nil] at hlength
        omega
      · rintro ⟨key, hkey, x, hx, hnone⟩
        rw [← (hhas x hx).1.infoKeys, ← lookup_eq_none.not_left] at hkey
        exact hkey (Option.isNone_iff_eq_none.mp hnone)

/-- The manager's padding is a padding of the outputs. -/
theorem alignOutput_batch [Zero S] (kind : Kind) (n : ℕ) (xs : List (InternalOutput V S E)) :
    alignOutput n (kind.batch xs) = kind.batch (xs.map (·.leftPad n)) := by
  unfold alignOutput Kind.batch DataProto.mapTensors DataProto.ofSamples
  simp only [Option.map_some, List.length_map, List.map_map, DataProto.mk.injEq, Option.some.injEq,
    TensorDict.mk.injEq, true_and, and_true]
  refine ⟨List.map_congr_left fun c hc => ?_, List.map_congr_left fun c hc => ?_⟩
  · refine congrArg (Prod.mk c.1) ((List.map_map ..).trans (List.map_congr_left fun x _ => ?_))
    exact (tensorColumns_leftPad hc n x).symm
  · refine congrArg (Prod.mk c.1) (List.map_congr_left fun x _ => ?_)
    exact (objectColumns_leftPad hc n x).symm

omit [NeZero V] in
theorem promptWidth_batch [Zero S] {width : ℕ} (hne : xs ≠ [])
    (h : ∀ x ∈ xs, x.promptIds.length = width) : promptWidth (kind.batch xs) = width := by
  cases xs with
  | nil => exact absurd rfl hne
  | cons x xs => exact h x (by simp)

omit [NeZero V] in
/-- Batches of one kind can be concatenated. -/
theorem aligned_batches [Zero S] (kind : Kind) (parts : List (List (InternalOutput V S E))) :
    DataProto.Aligned (parts.map kind.batch) ∧ ∀ d ∈ parts.map kind.batch,
      d.metaInfo = [("reward_extra_keys", MetaValue.names kind.infoKeys)] := by
  have hbatch : ∀ d ∈ parts.map kind.batch, ∃ xs, d = kind.batch xs := by
    intro d hd
    obtain ⟨xs, -, rfl⟩ := List.mem_map.mp hd
    exact ⟨xs, rfl⟩
  refine ⟨⟨?_, ?_, ?_, ?_⟩, ?_⟩
  · intro d hd
    obtain ⟨xs, rfl⟩ := hbatch d hd
    exact DataProto.uniform_of_batch rfl
  · intro d hd
    obtain ⟨xs, rfl⟩ := hbatch d hd
    exact .inl rfl
  · intro d hd d' hd'
    obtain ⟨xs, rfl⟩ := hbatch d hd
    obtain ⟨xs', rfl⟩ := hbatch d' hd'
    rfl
  · intro d hd d' hd' k
    obtain ⟨xs, rfl⟩ := hbatch d hd
    obtain ⟨xs', rfl⟩ := hbatch d' hd'
    exact DataProto.isSome_table_ofSamples _ _ _ _ _ _ k
  · intro d hd
    obtain ⟨xs, rfl⟩ := hbatch d hd
    rfl

omit [NeZero V] in
theorem keyed_batch [Zero S] (kind : Kind) (xs : List (InternalOutput V S E)) :
    (kind.batch xs).Keyed := by
  refine ⟨?_, ?_⟩
  · intro td htd
    obtain rfl := Option.some.inj htd
    have hnames : ((tensorColumns kind.hasLogprobs kind.hasScores : List (String ×
        (InternalOutput V S E → Cell V S E))).map (·.1)).Nodup := by
      cases kind.hasLogprobs <;> cases kind.hasScores <;> simp [tensorColumns]
    simpa [Function.comp_def] using hnames
  · have hnames := nodup_foldl_insertEntry (β := InternalOutput V S E → Cell V S E)
      (kind.infoKeys.map (fun key => (key, fun x => Cell.object (x.rewardExtraInfo.lookup key))) ++
        [("multi_modal_inputs", fun x => Cell.object (some x.multiModalInputs))] ++
        kind.extraKeys.dedup.map fun key => (key, fun x => Cell.object (x.extraFields.lookup key)))
      [("__num_turns__", fun x => Cell.number x.numTurns)] (List.nodup_singleton _)
    simpa [Kind.batch, DataProto.ofSamples, objectColumns, Function.comp_def] using hnames

end Kinds

/-- What an agent loop has to return, for outputs of one kind. Its extra fields are those that it
    has set and `raw_prompt`; the reward worker, if it is asked, adds `reward_extra_info`. -/
structure RegularOutput (cfg : RolloutConfig V S E) (kind : Kind)
    (output : AgentLoopOutput V S E) (rawPrompt : E) : Prop where
  response : output.responseIds.length ≤ cfg.responseLength
  responseMask : output.responseMask.length = output.responseIds.length
  logprobs : output.responseLogprobs.isSome = kind.hasLogprobs
  length_logprobs : ∀ values, output.responseLogprobs = some values →
    values.length ≤ cfg.responseLength
  positions : ∀ getRopeIndex, cfg.getRopeIndex = some getRopeIndex → ∀ ids mask inputs,
    (getRopeIndex ids mask inputs).ids.length = ids.length ∧
      (getRopeIndex ids mask inputs).channels + 1 = kind.channels
  text : cfg.getRopeIndex = none → kind.channels = 1
  score : (cfg.rewardLoop.isSome || output.rewardScore.isSome) = kind.hasScores
  own : (cfg.rewardLoop = none ∨ output.rewardScore.isSome) →
    (((insertEntry output.extraFields "raw_prompt" rawPrompt).lookup "reward_extra_info").elim []
      cfg.entries).map (·.1) = kind.infoKeys ∧
    (insertEntry output.extraFields "raw_prompt" rawPrompt).map (·.1) = kind.extraKeys
  loop : ∀ rewardLoop, cfg.rewardLoop = some rewardLoop → output.rewardScore = none → ∀ kwargs x,
    (cfg.entries (rewardLoop kwargs x).2).map (·.1) = kind.infoKeys ∧
    (insertEntry (insertEntry output.extraFields "raw_prompt" rawPrompt) "reward_extra_info"
      (rewardLoop kwargs x).2).map (·.1) = kind.extraKeys

theorem computePositionIds_ok {cfg : RolloutConfig V S E} {kind : Kind} {inputIds : List (Fin V)}
    {attentionMask : List Bool} (multiModalInputs : E)
    (hpositions : ∀ getRopeIndex, cfg.getRopeIndex = some getRopeIndex → ∀ ids mask inputs,
      (getRopeIndex ids mask inputs).ids.length = ids.length ∧
        (getRopeIndex ids mask inputs).channels + 1 = kind.channels)
    (htext : cfg.getRopeIndex = none → kind.channels = 1)
    (hmask : attentionMask.length = inputIds.length) :
    ∃ p, computePositionIds cfg inputIds attentionMask multiModalInputs = .ok p ∧
      p.ids.length = inputIds.length ∧ p.channels = kind.channels := by
  unfold computePositionIds
  cases hrope : cfg.getRopeIndex with
  | none =>
      refine ⟨_, rfl, ?_, (htext hrope).symm⟩
      simpa [PositionIds.ofText, computePositionIdWithMask] using hmask
  | some getRopeIndex =>
      obtain ⟨hids, hchannels⟩ := hpositions getRopeIndex hrope inputIds attentionMask
        multiModalInputs
      refine ⟨_, except_bind_ok.mpr ⟨(), raiseIf_neg (not_not.mpr hids), rfl⟩, ?_, hchannels⟩
      simp [PositionIds.prepend, hids, hmask]

theorem has_computeScore {cfg : RolloutConfig V S E} {kind : Kind} {responseLength : ℕ}
    {kwargs : String → Option (Cell V S E)} {x : InternalOutput V S E}
    (hscore : (cfg.rewardLoop.isSome || x.rewardScore.isSome) = kind.hasScores)
    (hown : (cfg.rewardLoop = none ∨ x.rewardScore.isSome) →
      x.rewardExtraInfo.map (·.1) = kind.infoKeys ∧ x.extraFields.map (·.1) = kind.extraKeys)
    (hloop : ∀ rewardLoop, cfg.rewardLoop = some rewardLoop → x.rewardScore = none →
      (cfg.entries (rewardLoop kwargs x).2).map (·.1) = kind.infoKeys ∧
      (insertEntry x.extraFields "reward_extra_info" (rewardLoop kwargs x).2).map (·.1) =
        kind.extraKeys)
    (h : ∀ score info fields, score.isSome = kind.hasScores → info.map (·.1) = kind.infoKeys →
      fields.map (·.1) = kind.extraKeys → kind.Has responseLength
        { x with rewardScore := score, rewardExtraInfo := info, extraFields := fields }) :
    kind.Has responseLength (computeScore cfg kwargs x) := by
  unfold computeScore
  split
  · rename_i rewardLoop hrewardLoop hnone
    obtain ⟨hinfo, hfields⟩ := hloop rewardLoop hrewardLoop hnone
    refine h _ _ _ ?_ hinfo hfields
    rw [← hscore, hrewardLoop]
    rfl
  · rename_i hother
    have hscored : cfg.rewardLoop = none ∨ x.rewardScore.isSome = true := by
      cases hrewardLoop : cfg.rewardLoop with
      | none => exact .inl rfl
      | some rewardLoop =>
          refine .inr (Option.isSome_iff_ne_none.mpr fun hnone => ?_)
          exact hother rewardLoop hrewardLoop hnone
    obtain ⟨hinfo, hfields⟩ := hown hscored
    refine h x.rewardScore x.rewardExtraInfo x.extraFields ?_ hinfo hfields
    rw [← hscore]
    rcases hscored with hnone | hsome
    · rw [hnone]
      rfl
    · rw [hsome, Bool.or_true]

/-- A regular output is padded to one of the kind. -/
theorem agentLoopPostprocess_ok [Zero S] {cfg : RolloutConfig V S E} {kind : Kind}
    {kwargs : String → Option (Cell V S E)} {output : AgentLoopOutput V S E} {e : E}
    (hraw : kwargs "raw_prompt" = some (.object (some e)))
    (h : RegularOutput cfg kind output e) :
    ∃ x, agentLoopPostprocess cfg kwargs output = .ok x ∧ kind.Has cfg.responseLength x := by
  have hpad : ∀ {α : Type} (a : α) (xs : List α), xs.length ≤ cfg.responseLength →
      (xs.rightpad cfg.responseLength a).length = cfg.responseLength := by
    intro α a xs hxs
    rw [List.length_rightpad, Nat.max_eq_left hxs]
  have hmask := hpad cfg.padTokenId.val _ (h.responseMask.le.trans h.response)
  have hattention := hpad false (List.replicate output.responseIds.length true)
    (by rw [List.length_replicate]; exact h.response)
  have hids := hpad cfg.padTokenId _ h.response
  have hrow : ∀ n : ℕ, ((List.replicate output.promptIds.length true).leftpad n false ++
      (List.replicate output.responseIds.length true).rightpad cfg.responseLength false).length =
        (output.promptIds.leftpad n cfg.padTokenId).length + cfg.responseLength := by
    intro n
    rw [List.length_append, hattention, List.length_leftpad, List.length_leftpad,
      List.length_replicate]
  have hinput : ∀ n : ℕ, (output.promptIds.leftpad n cfg.padTokenId ++
      output.responseIds.rightpad cfg.responseLength cfg.padTokenId).length =
        (output.promptIds.leftpad n cfg.padTokenId).length + cfg.responseLength := by
    intro n
    rw [List.length_append, hids]
  obtain ⟨positionIds, hpositions, hlength, hchannels⟩ := computePositionIds_ok
    (cfg.computeMultiModalInputs output _) h.positions h.text ((hrow _).trans (hinput _).symm)
  have hraw := rawPrompt_ok hraw
  refine ⟨_, except_bind_ok.mpr ⟨e, hraw, except_bind_ok.mpr ⟨(), raiseIf_neg (not_not.mpr
    (hmask.trans hattention.symm)), except_bind_ok.mpr ⟨positionIds, hpositions, rfl⟩⟩⟩, ?_⟩
  refine has_computeScore h.score h.own (fun rewardLoop hloop hnone => h.loop _ hloop hnone _ _)
    fun score info fields hscore hinfo hfields => ?_
  exact {
    logprobs := (Option.isSome_map ..).trans h.logprobs
    score := hscore
    infoKeys := hinfo
    extraKeys := hfields
    channels := hchannels
    length_responseIds := hids
    length_responseMask := by rw [List.length_zipWith, hmask, hattention, Nat.min_self]
    length_logprobs := by
      intro values hvalues
      obtain ⟨values', hvalues', rfl⟩ := Option.map_eq_some_iff.mp hvalues
      exact hpad 0 _ (h.length_logprobs values' hvalues')
    length_attentionMask := hrow _
    length_inputIds := hinput _
    length_positionIds := hlength.trans (hinput _) }

/-! ## The manager's batch -/

section Manager

variable [NeZero V] [Zero S] {cfg : RolloutConfig V S E} {kind : Kind}

/-- An output comes from the row: some worker has run an agent loop on it. -/
def Sampled (cfg : RolloutConfig V S E)
    (run : ℕ → ℕ → (String → Option (Cell V S E)) → Except TrainingError (AgentLoopOutput V S E))
    (row : Key → Option (Cell V S E)) (x : InternalOutput V S E) : Prop :=
  ∃ worker i output, run worker i (fun key => row (.nonTensor key)) = .ok output ∧
    agentLoopPostprocess cfg (fun key => row (.nonTensor key)) output = .ok x

variable {run : ℕ → ℕ → (String → Option (Cell V S E)) →
    Except TrainingError (AgentLoopOutput V S E)}
  {prompts : DataProto (Cell V S E) (MetaValue S)}

/-- The agent loops of these rows end, with outputs of one kind. -/
def RunsEnd (cfg : RolloutConfig V S E) (kind : Kind)
    (run : ℕ → ℕ → (String → Option (Cell V S E)) → Except TrainingError (AgentLoopOutput V S E))
    (rows : List (Key → Option (Cell V S E))) : Prop :=
  ∀ row ∈ rows, ∀ worker i, ∃ output x,
    run worker i (fun key => row (.nonTensor key)) = .ok output ∧
    agentLoopPostprocess cfg (fun key => row (.nonTensor key)) output = .ok x ∧
    kind.Has cfg.responseLength x

omit [NeZero V] in
theorem RunsEnd.of_regular {rows : List (Key → Option (Cell V S E))}
    (h : ∀ row ∈ rows, ∀ worker i, ∃ output e,
      row (.nonTensor "raw_prompt") = some (.object (some e)) ∧
      run worker i (fun key => row (.nonTensor key)) = .ok output ∧
      RegularOutput cfg kind output e) : RunsEnd cfg kind run rows := by
  intro row hrow worker i
  obtain ⟨output, e, hraw, hrun, hregular⟩ := h row hrow worker i
  obtain ⟨x, hx, hkind⟩ : ∃ x, agentLoopPostprocess cfg (fun key => row (.nonTensor key)) output =
      .ok x ∧ kind.Has cfg.responseLength x := agentLoopPostprocess_ok hraw hregular
  exact ⟨output, x, hrun, hx, hkind⟩

/-- A worker's batch. -/
theorem workerGenerateSequences_ok (hpos : 0 < cfg.responseLength) (worker : ℕ)
    (hruns : RunsEnd cfg kind run prompts.items) (hne : prompts.items ≠ []) :
    ∃ xs, workerGenerateSequences cfg (run worker) prompts =
        .ok (kind.batch (alignPromptLength xs)) ∧
      List.Forall₂ (fun row x => Sampled cfg run row x ∧ kind.Has cfg.responseLength x)
        prompts.items xs := by
  obtain ⟨xs, hxs, hsampled⟩ := mapM_forall₂ (f := fun e : (Key → Option (Cell V S E)) × ℕ => do
      let kwargs := fun key => e.1 (.nonTensor key)
      let output ← run worker e.2 kwargs
      agentLoopPostprocess cfg kwargs output) (g := id)
    (R := fun e x => Sampled cfg run e.1 x ∧ kind.Has cfg.responseLength x)
    prompts.items.zipIdx (by
      intro e he
      obtain ⟨output, x, hrun, hx, hkind⟩ := hruns e.1 (List.fst_mem_of_mem_zipIdx he) worker e.2
      exact ⟨x, except_bind_ok.mpr ⟨output, hrun, hx⟩, ⟨worker, e.2, output, hrun, hx⟩, hkind⟩)
  have hrows : List.Forall₂ (fun row x => Sampled cfg run row x ∧ kind.Has cfg.responseLength x)
      prompts.items xs := forall₂_zipIdx hsampled
  refine ⟨xs, ?_, hrows⟩
  rw [List.map_id] at hxs
  refine except_bind_ok.mpr ⟨xs, hxs, postprocess_ok ?_ hpos ?_⟩
  · rintro rfl
    exact hne (List.forall₂_nil_right_iff.mp hrows)
  · intro x hx
    obtain ⟨i, hi, rfl⟩ := List.mem_iff_getElem.mp hx
    exact (hrows.get (hrows.length_eq ▸ hi) hi).2

/-- With any number of workers, the rows of the manager's batch are those of the prompts, in order:
    each has the output of an agent loop on it, padded on the left to the longest prompt of all. -/
theorem generateSequences_rows [DecidableEq S] {numWorkers : ℕ} (hprompts : prompts.Uniform)
    (hlen : 0 < prompts.len) (hworkers : 0 < numWorkers) (hdvd : numWorkers ∣ prompts.len)
    (hpos : 0 < cfg.responseLength) (hruns : RunsEnd cfg kind run prompts.items) :
    ∃ xs out, generateSequences cfg numWorkers run prompts = .ok out ∧
      List.Forall₂ (fun row x => Sampled cfg run row x ∧ kind.Has cfg.responseLength x)
        prompts.items xs ∧
      out.items = xs.map (fun x => kind.row (x.leftPad (maxPromptLength xs - x.promptIds.length))) ∧
      out.batch.isSome ∧ out.metaInfo = [("reward_extra_keys", .names kind.infoKeys)] ∧
      out.Keyed := by
  obtain ⟨pieces, hchunk, hlength, hflat, hpieces⟩ :=
    DataProto.chunk_exists hprompts hlen hworkers hdvd
  obtain ⟨parts, hparts, hsampled⟩ := mapM_forall₂
    (f := fun e => workerGenerateSequences cfg (run e.2) e.1)
    (g := fun xs => kind.batch (alignPromptLength xs))
    (R := fun e xs => List.Forall₂ (fun row x => Sampled cfg run row x ∧
      kind.Has cfg.responseLength x) (DataProto.items e.1) xs ∧ xs ≠ [])
    pieces.zipIdx (by
      intro e he
      obtain ⟨-, -, hne, -, hmem⟩ := hpieces e.1 (List.fst_mem_of_mem_zipIdx he)
      obtain ⟨xs, hxs, hrows⟩ := workerGenerateSequences_ok hpos e.2
        (fun row hrow => hruns row (hmem row hrow)) hne
      refine ⟨xs, hxs, hrows, ?_⟩
      rintro rfl
      exact hne (List.forall₂_nil_right_iff.mp hrows))
  have hrows : List.Forall₂ (fun piece xs => List.Forall₂ (fun row x => Sampled cfg run row x ∧
      kind.Has cfg.responseLength x) piece.items xs ∧ xs ≠ []) pieces parts :=
    forall₂_zipIdx hsampled
  have hparts_ne : ∀ xs ∈ parts, xs ≠ [] := by
    intro xs hxs
    obtain ⟨i, hi, rfl⟩ := List.mem_iff_getElem.mp hxs
    exact (hrows.get (hrows.length_eq ▸ hi) hi).2
  -- the manager's padding
  have hwidths : (parts.map fun xs => kind.batch (alignPromptLength xs)).map promptWidth =
      parts.map maxPromptLength := by
    rw [List.map_map]
    refine List.map_congr_left fun xs hxs => promptWidth_batch ?_ fun x hx => ?_
    · simpa [alignPromptLength] using hparts_ne xs hxs
    · exact length_promptIds_align hx
  have haligned : alignOutputPromptLength (parts.map fun xs => kind.batch (alignPromptLength xs)) =
      parts.map fun xs => kind.batch (xs.map fun x =>
        x.leftPad (maxPromptLength parts.flatten - x.promptIds.length)) := by
    unfold alignOutputPromptLength
    rw [hwidths, ← maxPromptLength_flatten, List.map_map]
    refine List.map_congr_left fun xs hxs => ?_
    have hwidth : promptWidth (kind.batch (alignPromptLength xs)) = maxPromptLength xs :=
      promptWidth_batch (by simpa [alignPromptLength] using hparts_ne xs hxs)
        fun x hx => length_promptIds_align hx
    have hle : maxPromptLength xs ≤ maxPromptLength parts.flatten := by
      rw [maxPromptLength_flatten]
      exact List.le_max_of_le (List.mem_map_of_mem hxs) (Nat.le_refl _)
    rw [Function.comp_apply, hwidth, alignOutput_batch, leftPad_alignPromptLength hle]
  obtain ⟨hbatches, hmeta⟩ := aligned_batches kind (parts.map fun xs => xs.map fun x =>
    x.leftPad (maxPromptLength parts.flatten - x.promptIds.length))
  rw [List.map_map] at hbatches hmeta
  have hne : parts ≠ [] := by
    rintro rfl
    rw [← hlength, hrows.length_eq] at hworkers
    exact absurd hworkers (Nat.lt_irrefl 0)
  obtain ⟨out, hconcat, -⟩ := DataProto.concat_exists (by simpa using hne) hbatches (by simp) hmeta
  have hitems := (DataProto.items_concat hbatches hconcat).1
  have hbatch := (DataProto.concat_ok hbatches hconcat).2
  refine ⟨parts.flatten, out.withMetaInfo [("reward_extra_keys", .names kind.infoKeys)],
    except_bind_ok.mpr ⟨pieces, hchunk, except_bind_ok.mpr ⟨_, hparts, ?_⟩⟩, ?_, ?_, ?_, rfl, ?_⟩
  · rw [haligned]
    refine except_bind_ok.mpr ⟨out, hconcat, ?_⟩
    cases parts with
    | nil => exact absurd rfl hne
    | cons xs parts => rfl
  · rw [← hflat]
    exact List.rel_flatten (List.forall₂_map_left_iff.mpr (hrows.imp fun _ _ h => h.1))
  · have hbatch_items : ∀ xs : List (InternalOutput V S E),
        (kind.batch xs).items = xs.map kind.row := fun xs => DataProto.items_ofSamples _ _ _ _
    change out.items = _
    rw [hitems, List.map_map, List.map_flatten]
    congr 1
    refine List.map_congr_left fun xs _ => ?_
    simp only [Function.comp_apply, hbatch_items, List.map_map]
    rfl
  · obtain ⟨first, hfirst, hsome, -⟩ := hbatch
    obtain ⟨xs, -, rfl⟩ := List.mem_map.mp hfirst
    exact hsome
  · have hkeyed := DataProto.keyed_concat (fun d hd => ?_) hconcat
    · exact ⟨hkeyed.tensors, hkeyed.nonTensors⟩
    · obtain ⟨xs, -, rfl⟩ := List.mem_map.mp hd
      exact keyed_batch kind _

/-- A prompt as long as its name, with one token for a response. -/
def exampleRun (_ _ : ℕ) (kwargs : String → Option (Cell 5 S String)) :
    Except TrainingError (AgentLoopOutput 5 S String) := do
  let name ← rawPrompt kwargs
  return ⟨List.replicate name.length 1, [2], [1], none, none, 2, "", []⟩

/-- No prompt length, as in a validation. -/
def exampleRollout : RolloutConfig 5 S String where
  promptLength := none
  responseLength := 2
  padTokenId := 3
  computeMultiModalInputs := fun _ _ => ""
  getRopeIndex := none
  rewardLoop := some fun _ _ => (0, "")
  entries := fun _ => []

def exampleKind : Kind := ⟨false, true, [], ["raw_prompt", "reward_extra_info"], 1⟩

theorem exampleRun_ends {rows : List (Key → Option (Cell 5 S String))}
    (h : ∀ row ∈ rows, ∃ name, row (.nonTensor "raw_prompt") = some (.object (some name))) :
    RunsEnd exampleRollout exampleKind exampleRun rows := by
  refine RunsEnd.of_regular fun row hrow worker i => ?_
  obtain ⟨name, hname⟩ := h row hrow
  have hregular : RegularOutput (exampleRollout : RolloutConfig 5 S String) exampleKind
      ⟨List.replicate name.length 1, [2], [1], none, none, 2, "", []⟩ name :=
    ⟨Nat.le_succ 1, rfl, rfl, nofun, nofun, fun _ => rfl, rfl, fun h => h.elim nofun nofun,
      fun _ _ _ _ _ => ⟨rfl, rfl⟩⟩
  exact ⟨_, name, hname, except_bind_ok.mpr ⟨name, rawPrompt_ok hname, rfl⟩, hregular⟩

/-- Two prompts of different lengths. -/
def examplePrompts : DataProto (Cell 5 ℕ String) (MetaValue ℕ) where
  batch := none
  nonTensorBatch := [("raw_prompt", [.object (some "a"), .object (some "bc")])]
  metaInfo := []
  consistent := nofun

theorem examplePrompts_uniform : examplePrompts.Uniform := by
  intro k col hk
  cases k with
  | tensor key => cases hk
  | nonTensor key =>
      have hmem : (key, col) ∈ examplePrompts.nonTensorBatch := lookup_mem hk
      cases List.mem_singleton.mp hmem
      rfl

theorem examplePrompts_named : ∀ row ∈ examplePrompts.items,
    ∃ name, row (.nonTensor "raw_prompt") = some (.object (some name)) := by
  intro row hrow
  obtain ⟨i, hi, rfl⟩ := List.mem_map.mp hrow
  have hlt : i < 2 := List.mem_range.mp hi
  obtain rfl | rfl : i = 0 ∨ i = 1 := by omega
  · exact ⟨"a", rfl⟩
  · exact ⟨"bc", rfl⟩

example : ∃ xs out,
    generateSequences exampleRollout 2 exampleRun examplePrompts = .ok out ∧
      List.Forall₂ (fun row x => Sampled exampleRollout exampleRun row x ∧ exampleKind.Has 2 x)
        examplePrompts.items xs ∧
      out.items = xs.map (fun x => exampleKind.row
        (x.leftPad (maxPromptLength xs - x.promptIds.length))) ∧
      out.batch.isSome ∧ out.metaInfo = [("reward_extra_keys", .names [])] ∧ out.Keyed :=
  generateSequences_rows examplePrompts_uniform (by decide) (by decide) (by decide) (by decide)
    (exampleRun_ends examplePrompts_named)

end Manager

end LookAway.Training
