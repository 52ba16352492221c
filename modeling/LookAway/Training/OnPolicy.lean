/-
  Where `fit` of verl/trainer/ppo/ray_trainer.py takes the old log-probabilities from: the rollouts,
  if the step has one mini-batch and one epoch, or a forward of the actor. Left out: bypass mode and
  the metrics. The loop of the default agent (single_turn_agent_loop.py) is here as well.

  `oldLogProbs_onPolicy`: as long as the server has the weights of the actor, the choice does not
  show at a token that the server has generated.
-/
import LookAway.Training.ToolAgentLoop

namespace LookAway.Training

open LookAway.Base LookAway.Base.Packing LookAway.Teacher

/-! ## The source -/

section Source

variable {V : ℕ} {S E F I W : Type}

/-- The settings of the actor and of the rollouts that decide. -/
structure ReuseConfig where
  ppoEpochs : ℕ
  ppoMiniBatchSize : ℕ
  rolloutN : ℕ

/-- `should_reuse_rollout_log_probs_as_old_log_probs`. -/
def shouldReuseRolloutLogProbsAsOldLogProbs (cfg : ReuseConfig)
    (data : DataProto (Cell V S E) (MetaValue S)) : Bool :=
  if (data.table (.tensor "rollout_log_probs")).isNone then false
  else if cfg.ppoEpochs ≠ 1 then false
  else data.len = cfg.ppoMiniBatchSize * cfg.rolloutN

/-- The column `old_log_probs` that `fit` adds to the batch. -/
noncomputable def oldLogProbs [NeZero V] (cfg : ReuseConfig) (mesh : Mesh) (dp : ℕ)
    (model : Model V F) (temperature : ℝ) (features : E → List F) (info : LogProbMeta)
    (data : DataProto (Cell V ℝ E) (MetaValue ℝ)) :
    Except TrainingError (Option (List (Cell V ℝ E))) :=
  if shouldReuseRolloutLogProbsAsOldLogProbs cfg data then
    .ok (data.table (.tensor "rollout_log_probs"))
  else do
    let oldLogProb ← computeOldLogProb mesh dp model temperature features info data
    -- `union` takes the column as it is: the batch has none of that name before
    return oldLogProb.table (.tensor "old_log_probs")

/-- What is not under the control of the loop of a single turn. -/
structure SingleTurnEnvironment (V : ℕ) (S E I W : Type) where
  processVisionInfo : E → Option (List I) × Option W
  encodePrompt : E → Option (List I) → Option W → List (Fin V)
  generate : List (Fin V) → Option (List I) → Option W → Except TrainingError (TokenOutput V S)
  multiModalData : Option (List I) → Option W → E

/-- `SingleTurnAgentLoop.run`. -/
def singleTurnAgentLoop (cfg : MultiTurnConfig) (env : SingleTurnEnvironment V S E I W)
    (rawPrompt : E) : Except TrainingError (AgentLoopOutput V S E) := do
  let (images, videos) := env.processVisionInfo rawPrompt
  let promptIds ← truncatePromptIds cfg (env.encodePrompt rawPrompt images videos)
  let output ← env.generate promptIds images videos
  let responseMask := List.replicate output.tokenIds.length 1
  return {
    promptIds := promptIds
    responseIds := output.tokenIds.take cfg.responseLength
    responseMask := responseMask.take cfg.responseLength
    responseLogprobs := if output.logProbs.isEmpty then none
      else some (output.logProbs.take cfg.responseLength)
    rewardScore := none
    numTurns := 2
    multiModalData := env.multiModalData images videos
    extraFields := [] }

/-- The agent loop of sample `i` of a worker. -/
def singleTurnRun (cfg : MultiTurnConfig) (env : ℕ → ℕ → SingleTurnEnvironment V S E I W)
    (worker i : ℕ) (kwargs : String → Option (Cell V S E)) :
    Except TrainingError (AgentLoopOutput V S E) := do
  let e ← rawPrompt kwargs
  singleTurnAgentLoop cfg (env worker i) e

end Source

/-! ## The columns -/

/-- A column that every row has. -/
theorem table_of_items {α β : Type} {data : DataProto α β} (key : String) (hne : data.items ≠ [])
    (h : ∀ item ∈ data.items, (item (.tensor key)).isSome) :
    ∃ col, data.table (.tensor key) = some col ∧
      List.Forall₂ (fun item a => item (.tensor key) = some a) data.items col := by
  obtain ⟨item, rest, hitems⟩ := List.exists_cons_of_ne_nil hne
  have hitem : item ∈ data.items := by
    rw [hitems]
    exact List.mem_cons_self
  obtain ⟨col, hcol⟩ := Option.isSome_iff_exists.mp (isSome_table hitem (h item hitem))
  obtain ⟨td, htd, -⟩ := Option.bind_eq_some_iff.mp hcol
  have huniform := DataProto.uniform_of_batch htd
  have hlength : data.items.length = col.length := by
    rw [DataProto.length_items]
    exact (huniform _ _ hcol).symm
  refine ⟨col, hcol, List.forall₂_iff_get.mpr ⟨hlength, fun i hi hi' => ?_⟩⟩
  have hat := DataProto.getElem?_column huniform hcol i
  rw [List.getElem?_eq_getElem hi', List.getElem?_eq_getElem hi, Option.bind_some] at hat
  exact hat.symm

section Columns

variable {V : ℕ} {S E : Type} [Zero S]

theorem responseLogprobs_of_ok {cfg : RolloutConfig V S E} {kwargs : String → Option (Cell V S E)}
    {output : AgentLoopOutput V S E} {x : InternalOutput V S E}
    (h : agentLoopPostprocess cfg kwargs output = .ok x) :
    x.responseLogprobs = output.responseLogprobs.map (·.rightpad cfg.responseLength 0) := by
  unfold agentLoopPostprocess at h
  obtain ⟨e, -, h⟩ := except_bind_ok.mp h
  obtain ⟨_, -, h⟩ := except_bind_ok.mp h
  obtain ⟨positionIds, -, h⟩ := except_bind_ok.mp h
  cases h
  obtain ⟨score, info, fields, heq⟩ := computeScore_eq cfg kwargs _
  rw [heq]

theorem row_rolloutLogProbs {kind : Kind} (h : kind.hasLogprobs = true) (x : InternalOutput V S E) :
    kind.row x (.tensor "rollout_log_probs") = some (.floats (x.responseLogprobs.getD [])) := by
  unfold Kind.row
  rw [h]
  rfl

end Columns

/-! ## The loop of a single turn -/

section SingleTurn

variable {V : ℕ} {S E I W : Type} {turn : MultiTurnConfig} {hasLogprobs : Bool}

/-- What the loop takes for granted of the server: an answer has at least one token, and a
    log-probability for each token or, in every answer, none at all. -/
structure SingleTurnAnswers (env : SingleTurnEnvironment V S E I W) (hasLogprobs : Bool) :
    Prop where
  nonempty : ∀ {promptIds images videos output},
    env.generate promptIds images videos = .ok output → output.tokenIds ≠ []
  length : ∀ {promptIds images videos output}, env.generate promptIds images videos = .ok output →
    output.logProbs.length = if hasLogprobs then output.tokenIds.length else 0

theorem singleTurnAgentLoop_ok {env : SingleTurnEnvironment V S E I W}
    (h : SingleTurnAnswers env hasLogprobs) {e : E} {output : AgentLoopOutput V S E}
    (hrun : singleTurnAgentLoop turn env e = .ok output) :
    output.responseIds.length ≤ turn.responseLength ∧
      output.responseMask = List.replicate output.responseIds.length 1 ∧
      output.responseLogprobs.isSome = hasLogprobs ∧
      (∀ values, output.responseLogprobs = some values →
        values.length = output.responseIds.length) ∧
      output.rewardScore = none ∧ output.extraFields = [] := by
  obtain ⟨promptIds, -, hrun⟩ := except_bind_ok.mp hrun
  obtain ⟨answer, hanswer, hrun⟩ := except_bind_ok.mp hrun
  have hne := h.nonempty hanswer
  have hlogs := h.length hanswer
  cases hrun
  refine ⟨List.length_take_le _ _, ?_, ?_, ?_, rfl, rfl⟩
  · simp [List.take_replicate]
  · cases hasLogprobs with
    | false =>
        have hnil : answer.logProbs = [] := List.eq_nil_of_length_eq_zero hlogs
        simp [hnil]
    | true =>
        have hpos : answer.logProbs ≠ [] := by
          rw [← List.length_pos_iff, hlogs]
          exact List.length_pos_iff.mpr hne
        simp [hpos]
  · intro values hvalues
    dsimp only at hvalues
    split at hvalues
    · cases hvalues
    rename_i hpos
    obtain rfl := Option.some.inj hvalues
    cases hasLogprobs with
    | false => exact absurd (by simpa using List.eq_nil_of_length_eq_zero hlogs) hpos
    | true => rw [List.length_take, List.length_take, hlogs, if_pos rfl]

/-- Loops that end with an output end with outputs of one kind. -/
theorem singleTurn_runsEnd [NeZero V] [Zero S] {rollout : RolloutConfig V S E} {kind : Kind}
    {env : ℕ → ℕ → SingleTurnEnvironment V S E I W} {rows : List (Key → Option (Cell V S E))}
    (hfit : LoopRollout rollout turn.responseLength hasLogprobs [] kind)
    (hends : ∀ row ∈ rows, ∀ worker i, ∃ output,
      singleTurnRun turn env worker i (fun key => row (.nonTensor key)) = .ok output)
    (hanswers : ∀ worker i, SingleTurnAnswers (env worker i) hasLogprobs) :
    RunsEnd rollout kind (singleTurnRun turn env) rows := by
  refine RunsEnd.of_regular fun row hrow worker i => ?_
  obtain ⟨output, hrun⟩ := hends row hrow worker i
  obtain ⟨e, he, hloop⟩ := except_bind_ok.mp hrun
  obtain ⟨hlength, hmask, hlogprobs, hvalues, hscore, hfields⟩ :=
    singleTurnAgentLoop_ok (hanswers worker i) hloop
  exact ⟨output, e, of_rawPrompt_ok he, hrun, hfit.regular hlength
    (by rw [hmask, List.length_replicate]) hlogprobs hvalues hscore (by rw [hfields]; rfl) e⟩

end SingleTurn

/-! ## The server has the weights of the actor -/

section OnPolicy

variable {V : ℕ} {E F : Type} {features : E → List F} {visual : Fin V → Bool}
  {run : ℕ → ℕ → (String → Option (Cell V ℝ E)) → Except TrainingError (AgentLoopOutput V ℝ E)}
  {rowLogits : Row V F → Fin V → ℝ} {temperature : ℝ}

variable {kind : Kind} {cfg : StepConfig V ℝ E} {uid : ℕ → Cell V ℝ E}
  {batch : DataProto (Cell V ℝ E) (MetaValue ℝ)} {maxPrompt : ℕ}

/-- For the tokens that are not of a reply, the server has given the log-probabilities that the
    model gives in the row that the trainer makes of the output. -/
def ServerOnPolicy (cfg : RolloutConfig V ℝ E) (features : E → List F) (visual : Fin V → Bool)
    (run : ℕ → ℕ → (String → Option (Cell V ℝ E)) → Except TrainingError (AgentLoopOutput V ℝ E))
    (rowLogits : Row V F → Fin V → ℝ) (temperature : ℝ)
    (rows : List (Key → Option (Cell V ℝ E))) : Prop :=
  ∀ r : Rollout cfg run, r.row ∈ rows → ∀ values, r.output.responseLogprobs = some values →
    ∀ t y, r.output.responseIds[t]? = some y → r.output.responseMask[t]? = some 1 →
      values[t]? = some (r.modelLogProb features visual rowLogits temperature t y)

/-- The entry of `old_log_probs` for a rollout: each token that is not of a reply has the
    log-probability of the model after the tokens before it. -/
def OnPolicyLogProbs {cfg : RolloutConfig V ℝ E} (features : E → List F) (visual : Fin V → Bool)
    (rowLogits : Row V F → Fin V → ℝ) (temperature : ℝ) (r : Rollout cfg run)
    (cell : Cell V ℝ E) : Prop :=
  ∃ lp, cell = .floats lp ∧
    ∀ t y, r.output.responseIds[t]? = some y → r.output.responseMask[t]? = some 1 →
      lp[t]? = some (r.modelLogProb features visual rowLogits temperature t y)

theorem ResponseLogProbs.onPolicy {cfg : RolloutConfig V ℝ E} {r : Rollout cfg run}
    {log : Key → Option (Cell V ℝ E)} {cell : Cell V ℝ E}
    (h : ResponseLogProbs features visual rowLogits temperature r log)
    (hcell : log (.tensor "old_log_probs") = some cell) :
    OnPolicyLogProbs features visual rowLogits temperature r cell := by
  obtain ⟨-, lp, hlog, hentry⟩ := h
  exact ⟨lp, Option.some.inj (hcell.symm.trans hlog), fun t y hy _ => hentry t y hy⟩

/-- The log-probabilities of the rollout in its row. -/
theorem Rollout.Fits.onPolicy [NeZero V] {r : Rollout cfg.rollout run} {n : ℕ} {cell : Cell V ℝ E}
    (hr : r.Fits features visual kind maxPrompt) (hkind : kind.hasLogprobs = true)
    (hrow : r.row ∈ cfg.promptRows uid batch)
    (hserver : ServerOnPolicy cfg.rollout features visual run rowLogits temperature
      (cfg.promptRows uid batch))
    (hcell : (kind.row (r.padded.leftPad n) (.tensor "rollout_log_probs")).or
      (keptRow cfg.keys r.row (.tensor "rollout_log_probs")) = some cell) :
    OnPolicyLogProbs features visual rowLogits temperature r cell := by
  have hlogprobs := responseLogprobs_of_ok r.postprocessed
  obtain ⟨values, hvalues⟩ : ∃ values, r.output.responseLogprobs = some values := by
    have hsome := hr.has.logprobs
    rw [hlogprobs, Option.isSome_map, hkind] at hsome
    exact Option.isSome_iff_exists.mp hsome
  refine ⟨values.rightpad cfg.rollout.responseLength 0, ?_, fun t y hy hmask => ?_⟩
  · rw [row_rolloutLogProbs hkind, Option.some_or] at hcell
    have hpadded : some (Cell.floats (r.padded.responseLogprobs.getD [])) = some cell := hcell
    rw [hlogprobs, hvalues] at hpadded
    exact (Option.some.inj hpadded).symm
  · have hat := hserver r hrow values hvalues t y hy hmask
    rw [List.rightpad, List.getElem?_append_left (List.getElem?_eq_some_iff.mp hat).1]
    exact hat

/-- **The choice does not show.** Whether `fit` takes the log-probabilities of the rollouts
    (`given`) or computes them again (`computed`), the old log-probability of a token that the
    server has generated is the model's. -/
theorem oldLogProbs_onPolicy [NeZero V] [DecidableEq E] {mesh : Mesh} {dp sp : ℕ}
    {model : Model V F} {info : LogProbMeta} {balance : BalanceConfig}
    (h : StepRuns cfg kind features visual uid run batch maxPrompt)
    (hkind : kind.hasLogprobs = true)
    (hserver : ServerOnPolicy cfg.rollout features visual run rowLogits temperature
      (cfg.promptRows uid batch))
    (hgrid : mesh.Grid dp sp) (hdp : dp ∣ batch.len * cfg.n)
    (hcausal : RowCausal visual model rowLogits)
    (hinfo : if info.useDynamicBsz then maxPrompt + cfg.rollout.responseLength ≤ info.maxTokenLen
      else 0 < info.microBatchSize)
    (hplain : balance.usePrefixGrouper = false) (hwhole : balance.keepMinibatch = false) :
    ∃ out balanced, ∃ rollouts : List (Rollout cfg.rollout run), ∃ order : List ℕ,
      rolloutStep cfg run uid batch = .ok out ∧ balanceBatch balance mesh out = .ok balanced ∧
      rollouts.map (·.row) = cfg.promptRows uid batch ∧
      out.items = rolloutItems cfg.keys kind rollouts ∧
      order.Perm (List.range rollouts.length) ∧ balanced.items = gather out.items order ∧
      ∃ given computed : List (Cell V ℝ E),
        (∀ config, oldLogProbs config mesh dp model temperature features info balanced =
          .ok (some (if shouldReuseRolloutLogProbsAsOldLogProbs config balanced then given
            else computed))) ∧
        List.Forall₂ (OnPolicyLogProbs features visual rowLogits temperature)
          (gather rollouts order) given ∧
        List.Forall₂ (OnPolicyLogProbs features visual rowLogits temperature)
          (gather rollouts order) computed := by
  obtain ⟨out, balanced, logs, rollouts, order, hstep, hbalanced, hlogs, hrows, hfits, hitems,
    hperm, hgathered, hright⟩ := rollout_balance_oldLogProbs h hgrid hdp hcausal hinfo hplain hwhole
  have hmem : ∀ r ∈ gather rollouts order, r ∈ rollouts := fun r hr => mem_of_mem_gather hr
  have hne : gather rollouts order ≠ [] := by
    refine List.ne_nil_of_length_pos ?_
    rw [length_gather fun i hi => lt_of_perm_range hperm i hi, hperm.length_eq, List.length_range,
      ← List.length_map (f := fun r => r.row), hrows, length_promptRows]
    exact Nat.mul_pos h.len h.n
  -- the column of the rollouts, in the order of the balanced batch
  have hbalanced_items := hgathered
  rw [hitems, rolloutItems, gather_map] at hbalanced_items
  obtain ⟨given, hgiven, hgiven_cells⟩ := table_of_items "rollout_log_probs"
    (by rw [hbalanced_items]; exact fun hnil => hne (List.map_eq_nil_iff.mp hnil))
    fun item hitem => by
      rw [hbalanced_items] at hitem
      obtain ⟨r, hr, rfl⟩ := List.mem_map.mp hitem
      dsimp only
      rw [row_rolloutLogProbs hkind, Option.some_or]
      rfl
  rw [hbalanced_items, List.forall₂_map_left_iff] at hgiven_cells
  -- the column of the actor
  obtain ⟨computed, hcomputed, hcomputed_cells⟩ := table_of_items "old_log_probs"
    (List.ne_nil_of_length_pos (hright.length_eq ▸ List.length_pos_iff.mpr hne))
    fun item hitem => by
      obtain ⟨i, hi, rfl⟩ := List.mem_iff_getElem.mp hitem
      obtain ⟨-, lp, hlog, -⟩ := hright.get (hright.length_eq ▸ hi) hi
      exact Option.isSome_iff_exists.mpr ⟨_, hlog⟩
  refine ⟨out, balanced, rollouts, order, hstep, hbalanced, hrows, hitems, hperm, hgathered, given,
    computed, fun config => ?_, ?_, ?_⟩
  · unfold oldLogProbs
    split
    · rw [hgiven]
    · rw [hlogs]
      exact congrArg Except.ok hcomputed
  · refine ((List.forall₂_and_left _ _).mpr ⟨hmem, hgiven_cells⟩).imp fun r cell hr => ?_
    exact (hfits r hr.1).onPolicy hkind (hrows ▸ List.mem_map_of_mem hr.1) hserver hr.2
  · exact forall₂_trans hright hcomputed_cells fun _ _ _ hlog hat => hlog.onPolicy hat

end OnPolicy

/-! ## Two prompts, a single turn -/

/-- A server of `sumModel`, which answers with one token. -/
noncomputable def exampleServer (prompt answer : Fin 5) :
    SingleTurnEnvironment 5 ℝ String Unit Unit where
  processVisionInfo := fun _ => (none, none)
  encodePrompt := fun name _ _ => List.replicate name.length prompt
  generate := fun promptIds _ _ => .ok ⟨[answer],
    [logprob 1 (fun w : Fin 5 => (((promptIds.map Fin.val).sum + (w : ℕ) : ℕ) : ℝ)) answer]⟩
  multiModalData := fun _ _ => ""

theorem exampleServer_answers (prompt answer : Fin 5) :
    SingleTurnAnswers (exampleServer prompt answer) true where
  nonempty := by
    rintro _ _ _ _ ⟨⟩
    exact List.cons_ne_nil _ _
  length := by
    rintro _ _ _ _ ⟨⟩
    rfl

def singleTurnKind : Kind := ⟨true, true, [], ["raw_prompt", "reward_extra_info"], 1⟩

/-- The loop on two prompts, each with one token for a response. -/
noncomputable def exampleSingleTurn (prompt answer : Fin 5) :
    ℕ → ℕ → (String → Option (Cell 5 ℝ String)) →
      Except TrainingError (AgentLoopOutput 5 ℝ String) :=
  singleTurnRun exampleMultiTurn fun _ _ => exampleServer prompt answer

noncomputable def singleTurnOutput (prompt answer : Fin 5) (name : String) :
    AgentLoopOutput 5 ℝ String :=
  ⟨List.replicate name.length prompt, [answer], [1], some [logprob 1 (fun w : Fin 5 =>
    ((((List.replicate name.length prompt).map Fin.val).sum + (w : ℕ) : ℕ) : ℝ)) answer],
    none, 2, "", []⟩

theorem exampleSingleTurn_eq {prompt answer : Fin 5}
    {kwargs : String → Option (Cell 5 ℝ String)} {name : String}
    (hname : kwargs "raw_prompt" = some (.object (some name))) (worker i : ℕ) :
    exampleSingleTurn prompt answer worker i kwargs = .ok (singleTurnOutput prompt answer name) :=
  except_bind_ok.mpr ⟨name, rawPrompt_ok hname, rfl⟩

theorem singleTurnStep_runs :
    StepRuns (zoomStep : StepConfig 5 ℝ String) singleTurnKind (fun _ => ([] : List ℕ)) (· == 3)
      (fun i => .number i) (exampleSingleTurn 1 2) exampleBatch 2 where
  tensors := rfl
  keyed := exampleBatch_keyed
  metaInfo := rfl
  len := by decide
  n := by decide
  workers := by decide
  workers_dvd := by decide
  responseLength := by decide
  separate := ⟨exampleBatch_separate.tensors, by
    change ∀ key ∈ rewardModelKeys none none,
      key ∈ ["__num_turns__", "multi_modal_inputs", "raw_prompt", "reward_extra_info"] →
        key = "raw_prompt"
    decide⟩
  runs := singleTurn_runsEnd
    ⟨rfl, rfl, rfl, nofun, fun _ h _ _ => by cases h; rfl, rfl, by decide, nofun, fun _ => rfl⟩
    (fun row hrow worker i => by
      obtain ⟨name, -, -, hname⟩ := exampleBatch_named row hrow
      exact ⟨_, exampleSingleTurn_eq hname worker i⟩)
    fun _ _ => exampleServer_answers 1 2
  inputs := by decide
  outputs := by
    intro row hrow worker i output hrun
    obtain ⟨name, hpos, hle, hname⟩ := exampleBatch_named row hrow
    obtain rfl := Except.ok.inj ((exampleSingleTurn_eq hname worker i).symm.trans hrun)
    refine ⟨⟨?_, Nat.le_add_left 1 3, fun _ => ?_⟩, ?_⟩
    · simpa [singleTurnOutput] using hpos
    · simp [singleTurnOutput, List.countP_replicate]
    · simpa [singleTurnOutput] using hle
  promptLength := nofun

theorem exampleServer_onPolicy {uid : ℕ → Cell 5 ℝ String} :
    ServerOnPolicy (zoomStep : StepConfig 5 ℝ String).rollout (fun _ => ([] : List ℕ)) (· == 3)
      (exampleSingleTurn 1 2) (fun row w => ((row.total + w : ℕ) : ℝ)) 1
      (zoomStep.promptRows uid exampleBatch) := by
  intro r hrow values hvalues t y hy _
  obtain ⟨name, -, -, hname⟩ := exampleBatch_named r.row hrow
  have houtput : singleTurnOutput 1 2 name = r.output := Except.ok.inj
    ((exampleSingleTurn_eq hname r.worker r.sample).symm.trans r.returned)
  rw [← houtput] at hvalues hy
  obtain rfl := Option.some.inj hvalues
  obtain ⟨rfl, rfl⟩ : t = 0 ∧ y = 2 := by
    cases t with
    | zero => exact ⟨rfl, (Option.some.inj hy).symm⟩
    | succ t => cases hy
  have htotal : ((r.unpadded (fun _ => ([] : List ℕ))).take (· == 3)
      (r.output.promptIds.length + 0)).total =
        ((List.replicate name.length (1 : Fin 5)).map Fin.val).sum := by
    simp [Row.total, Row.take, Rollout.unpadded, ← houtput, singleTurnOutput]
  exact congrArg (fun total : ℕ =>
    some (logprob 1 (fun w : Fin 5 => ((total + (w : ℕ) : ℕ) : ℝ)) 2)) htotal.symm

theorem oldLogProbs_onPolicy_two : ∃ out balanced,
    ∃ rollouts : List (Rollout (zoomStep : StepConfig 5 ℝ String).rollout (exampleSingleTurn 1 2)),
    ∃ order : List ℕ,
    rolloutStep (zoomStep : StepConfig 5 ℝ String) (exampleSingleTurn 1 2) (fun i => .number i)
        exampleBatch = .ok out ∧
      balanceBatch ⟨false, false, 0⟩ ⟨2, 1⟩ out = .ok balanced ∧
      rollouts.map (·.row) = zoomStep.promptRows (fun i => .number i) exampleBatch ∧
      out.items = rolloutItems (zoomStep : StepConfig 5 ℝ String).keys singleTurnKind rollouts ∧
      order.Perm (List.range rollouts.length) ∧ balanced.items = gather out.items order ∧
      ∃ given computed : List (Cell 5 ℝ String),
        (∀ config, oldLogProbs config ⟨2, 1⟩ 2 (sumModel (· == 3)) 1 (fun _ => []) ⟨0, true, 6⟩
          balanced = .ok (some (if shouldReuseRolloutLogProbsAsOldLogProbs config balanced
            then given else computed))) ∧
        List.Forall₂ (OnPolicyLogProbs (fun _ => []) (· == 3)
          (fun (row : Row 5 ℕ) w => ((row.total + w : ℕ) : ℝ)) 1) (gather rollouts order) given ∧
        List.Forall₂ (OnPolicyLogProbs (fun _ => []) (· == 3)
          (fun (row : Row 5 ℕ) w => ((row.total + w : ℕ) : ℝ)) 1) (gather rollouts order)
          computed :=
  oldLogProbs_onPolicy singleTurnStep_runs rfl exampleServer_onPolicy
    ⟨rfl, rfl, by decide, by decide⟩ (by decide) sumModel_causal (by decide) rfl rfl

end LookAway.Training
