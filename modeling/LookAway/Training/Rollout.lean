/-
  The rollouts of a training step: `RayPPOTrainer.fit` and `_get_gen_batch` of
  verl/trainer/ppo/ray_trainer.py, from the batch of the dataloader to the batch with responses.
  Left out: REMAX, and `rollout_skip`.

  `rolloutStep_rows`: every row of the result is a row of the dataloader's batch laid under an
  output of an agent loop on that same row, `n` rows for each prompt; they stand together and have
  its uid.
-/
import LookAway.Training.AgentLoop

namespace LookAway.Training

open LookAway.Base LookAway.Base.Packing

/-! ## The source -/

section Source

variable {α μ : Type}

/-- The columns that stay with the batch. -/
def rewardModelKeys (teacherImageKey teacherNegImageKey : Option String) : List String :=
  ["data_source", "reward_model", "extra_info", "uid", "raw_prompt", "teacher_prompt"] ++
    ([teacherImageKey, teacherNegImageKey].filterMap id).filter (· ≠ "")

/-- What is left of the batch. -/
def keptBatch (keys : List String) (d : DataProto α μ) : DataProto α μ where
  batch := d.batch
  nonTensorBatch := d.nonTensorBatch.filter fun c => decide (c.1 ∈ keys)
  metaInfo := d.metaInfo
  consistent := fun td htd c hc => d.consistent td htd c (List.mem_of_mem_filter hc)

/-- `_get_gen_batch`: the other columns are popped, and get the kept ones back for the rewards. -/
def getGenBatch (keys : List String) (d : DataProto α μ) : DataProto α μ where
  batch := none
  nonTensorBatch := (d.nonTensorBatch.filter fun c => decide (c.1 ∈ keys)).foldl
    (fun popped c => insertEntry popped c.1 c.2)
    (d.nonTensorBatch.filter fun c => !decide (c.1 ∈ keys))
  metaInfo := []
  consistent := nofun

/-- `batch.non_tensor_batch["uid"] = ...`. -/
def assignUids (uid : ℕ → α) (d : DataProto α μ) : Except TrainingError (DataProto α μ) :=
  match h : d.batch with
  | none => .error .typeError
  | some td => .ok {
      batch := d.batch
      nonTensorBatch := insertEntry d.nonTensorBatch "uid" ((List.range td.batchSize).map uid)
      metaInfo := d.metaInfo
      consistent := by
        intro td' htd' c hc
        obtain rfl := Option.some.inj (h.symm.trans htd')
        rcases mem_insertEntry hc with rfl | hc
        · rw [List.length_map, List.length_range]
        · exact d.consistent td h c hc }

end Source

variable {V : ℕ} {S E : Type}

/-- What the trainer's configuration says about the rollouts. -/
structure StepConfig (V : ℕ) (S E : Type) where
  rollout : RolloutConfig V S E
  numWorkers : ℕ
  n : ℕ
  temperature : S
  globalSteps : ℕ
  teacherImageKey : Option String
  teacherNegImageKey : Option String

def StepConfig.keys (cfg : StepConfig V S E) : List String :=
  rewardModelKeys cfg.teacherImageKey cfg.teacherNegImageKey

/-- The first part of a step of `fit`. -/
def rolloutStep [NeZero V] [Zero S] [DecidableEq S] [DecidableEq E] (cfg : StepConfig V S E)
    (run : ℕ → ℕ → (String → Option (Cell V S E)) → Except TrainingError (AgentLoopOutput V S E))
    (uid : ℕ → Cell V S E) (batch : DataProto (Cell V S E) (MetaValue S)) :
    Except TrainingError (DataProto (Cell V S E) (MetaValue S)) := do
  let batch ← assignUids uid (batch.withMetaInfo
    (insertEntry batch.metaInfo "temperature" (.float cfg.temperature)))
  let genBatch := getGenBatch cfg.keys batch
  let genBatch := genBatch.withMetaInfo
    (insertEntry genBatch.metaInfo "global_steps" (.number cfg.globalSteps))
  let genBatchOutput ← generateSequences cfg.rollout cfg.numWorkers run
    (genBatch.repeatTimes cfg.n true)
  ((keptBatch cfg.keys batch).repeatTimes cfg.n true).union genBatchOutput

/-! ## Rows that stay and rows that are sent -/

section Rows

variable {α μ : Type} {d : DataProto α μ} {keys : List String}

/-- A row without the columns that are popped. -/
def keptRow (keys : List String) (row : Key → Option α) : Key → Option α
  | .tensor key => row (.tensor key)
  | .nonTensor key => if key ∈ keys then row (.nonTensor key) else none

theorem keptRow_of_mem {row : Key → Option α} {key : String} (h : key ∈ keys) :
    keptRow keys row (.nonTensor key) = row (.nonTensor key) := by
  unfold keptRow
  dsimp only
  rw [if_pos h]

/-- The row of a prompt with its uid. -/
def uidRow (uid : ℕ → α) (e : (Key → Option α) × ℕ) (k : Key) : Option α :=
  if k = .nonTensor "uid" then some (uid e.2) else e.1 k

theorem lookup_filter_none {κ β : Type} [DecidableEq κ] (p : κ → Bool) (entries : List (κ × β))
    {k : κ} (hk : p k = false) : (entries.filter fun c => p c.1).lookup k = none := by
  rw [lookup_eq_none]
  intro hmem
  obtain ⟨c, hc, rfl⟩ := List.mem_map.mp hmem
  rw [(List.mem_filter.mp hc).2] at hk
  cases hk

theorem items_keptBatch (keys : List String) (hbatch : d.batch.isSome) :
    (keptBatch keys d).items = d.items.map (keptRow keys) ∧ (keptBatch keys d).Uniform := by
  obtain ⟨td, htd⟩ := Option.isSome_iff_exists.mp hbatch
  have hkept : (keptBatch keys d).batch = some td := htd
  refine ⟨?_, DataProto.uniform_of_batch hkept⟩
  unfold DataProto.items rows
  rw [List.map_map, DataProto.len_of_batch hkept, DataProto.len_of_batch htd]
  refine List.map_congr_left fun i _ => ?_
  funext k
  cases k with
  | tensor key => rfl
  | nonTensor key =>
      simp only [DataProto.table, keptBatch, Function.comp_apply, keptRow]
      by_cases hkey : key ∈ keys
      · rw [if_pos hkey, lookup_filter_fresh (fun k => decide (k ∈ keys)) _ (decide_eq_true hkey)]
      · rw [if_neg hkey, lookup_filter_none (fun k => decide (k ∈ keys)) _ (decide_eq_false hkey)]
        rfl

/-- A row without its tensors. -/
def objectsRow (row : Key → Option α) : Key → Option α
  | .tensor _ => none
  | .nonTensor key => row (.nonTensor key)

theorem table_getGenBatch (hnodup : (d.nonTensorBatch.map (·.1)).Nodup) (k : Key) :
    (getGenBatch keys d).table k = objectsRow d.table k := by
  cases k with
  | tensor key => rfl
  | nonTensor key =>
      have hkept : ((d.nonTensorBatch.filter fun c => decide (c.1 ∈ keys)).map (·.1)).Nodup :=
        hnodup.sublist (List.filter_sublist.map _)
      simp only [DataProto.table, getGenBatch, objectsRow]
      rw [lookup_foldl_insertEntry hkept]
      by_cases hkey : key ∈ keys
      · rw [lookup_filter_fresh (fun k => decide (k ∈ keys)) _ (decide_eq_true hkey),
          lookup_filter_none (fun k => !decide (k ∈ keys)) _ (by simpa using hkey), Option.or_none]
      · rw [lookup_filter_none (fun k => decide (k ∈ keys)) _ (decide_eq_false hkey),
          lookup_filter_fresh (fun k => !decide (k ∈ keys)) _ (by simpa using hkey), Option.none_or]

/-- The rows that are sent have all objects. -/
theorem items_getGenBatch (keys : List String) {td : TensorDict α} (htd : d.batch = some td)
    (hne : d.nonTensorBatch ≠ []) (hnodup : (d.nonTensorBatch.map (·.1)).Nodup) :
    (getGenBatch keys d).items = d.items.map objectsRow ∧ (getGenBatch keys d).Uniform := by
  have hmem : ∀ c ∈ (getGenBatch keys d).nonTensorBatch, c.2.length = td.batchSize := by
    intro c hc
    rcases mem_foldl_insertEntry hc with hc | hc
    · exact d.consistent td htd c (List.mem_of_mem_filter hc)
    · exact d.consistent td htd c (List.mem_of_mem_filter hc)
  have hlen : (getGenBatch keys d).len = d.len := by
    obtain ⟨c, hc⟩ := List.exists_mem_of_ne_nil _ hne
    have hsome : ((getGenBatch keys d).nonTensorBatch.lookup c.1).isSome := by
      change ((getGenBatch keys d).table (.nonTensor c.1)).isSome
      rw [table_getGenBatch hnodup]
      exact DataProto.isSome_lookup_of_mem hc
    rw [DataProto.len_of_batch htd]
    change (getGenBatch keys d).nonTensorBatch.head?.elim 0 (·.2.length) = _
    cases hcolumns : (getGenBatch keys d).nonTensorBatch with
    | nil =>
        rw [hcolumns] at hsome
        cases hsome
    | cons c' cs => exact hmem c' (by rw [hcolumns]; exact List.mem_cons_self)
  refine ⟨?_, ?_⟩
  · unfold DataProto.items rows
    rw [List.map_map, hlen]
    refine List.map_congr_left fun i _ => ?_
    funext k
    rw [table_getGenBatch hnodup]
    cases k <;> rfl
  · intro k col hk
    rw [table_getGenBatch hnodup] at hk
    cases k with
    | tensor key => cases hk
    | nonTensor key =>
        rw [hlen]
        exact DataProto.uniform_of_batch htd (.nonTensor key) col hk

/-- The rows with their uids. -/
theorem items_assignUids (uid : ℕ → α) {td : TensorDict α} (htd : d.batch = some td) :
    ∃ out, assignUids uid d = .ok out ∧ out.batch = some td ∧ out.metaInfo = d.metaInfo ∧
      out.nonTensorBatch = insertEntry d.nonTensorBatch "uid" ((List.range td.batchSize).map uid) ∧
      out.items = d.items.zipIdx.map (uidRow uid) := by
  obtain ⟨batch, nonTensorBatch, metaInfo, hconsistent⟩ := d
  obtain rfl : batch = some td := htd
  refine ⟨_, rfl, rfl, rfl, rfl, ?_⟩
  apply List.ext_getElem?
  intro i
  unfold DataProto.items
  rw [List.getElem?_map, List.getElem?_zipIdx, Nat.zero_add]
  rcases Nat.lt_or_ge i td.batchSize with hi | hi
  · rw [getElem?_rows (by exact hi), getElem?_rows (by exact hi), Option.map_some, Option.map_some]
    congr 1
    funext k
    unfold uidRow
    by_cases hk : k = .nonTensor "uid"
    · subst hk
      simp only [DataProto.table, lookup_insertEntry, if_pos, Option.bind_some]
      rw [List.getElem?_map, List.getElem?_range hi]
      rfl
    · rw [if_neg hk]
      cases k with
      | tensor key => rfl
      | nonTensor key =>
          have hkey : key ≠ "uid" := fun h => hk (congrArg Key.nonTensor h)
          simp only [DataProto.table, lookup_insertEntry, if_neg hkey]
  · rw [List.getElem?_eq_none (by simpa [DataProto.len] using hi),
      List.getElem?_eq_none (by simpa [DataProto.len] using hi)]
    rfl

end Rows

/-! ## The step -/

section Step

variable [Zero S] {cfg : StepConfig V S E} {kind : Kind} {uid : ℕ → Cell V S E}
  {run : ℕ → ℕ → (String → Option (Cell V S E)) → Except TrainingError (AgentLoopOutput V S E)}
  {batch : DataProto (Cell V S E) (MetaValue S)}

/-- The rows of the prompts, `n` times each. -/
def StepConfig.promptRows (cfg : StepConfig V S E) (uid : ℕ → Cell V S E)
    (batch : DataProto (Cell V S E) (MetaValue S)) : List (Key → Option (Cell V S E)) :=
  (batch.items.zipIdx.map (uidRow uid)).flatMap (List.replicate cfg.n)

/-- An agent loop on the row of a prompt, its output, and that output with its padding. -/
structure Rollout (cfg : RolloutConfig V S E)
    (run : ℕ → ℕ → (String → Option (Cell V S E)) → Except TrainingError (AgentLoopOutput V S E))
    where
  row : Key → Option (Cell V S E)
  worker : ℕ
  sample : ℕ
  output : AgentLoopOutput V S E
  padded : InternalOutput V S E
  returned : run worker sample (fun key => row (.nonTensor key)) = .ok output
  postprocessed : agentLoopPostprocess cfg (fun key => row (.nonTensor key)) output = .ok padded

/-- The rows of the rollouts: each padded output over the row of its prompt, in one width. -/
def rolloutItems [NeZero V] {rollout : RolloutConfig V S E} (keys : List String) (kind : Kind)
    (rollouts : List (Rollout rollout run)) : List (Key → Option (Cell V S E)) :=
  rollouts.map fun r k => (kind.row (r.padded.leftPad
    (maxPromptLength (rollouts.map (·.padded)) - r.padded.promptIds.length)) k).or
      (keptRow keys r.row k)

/-- The tensors and the objects of the rollouts do not have the names of what stays with the batch;
    `raw_prompt` is in both. -/
structure Separate (kind : Kind) (keys : List String)
    (batch : DataProto (Cell V S E) (MetaValue S)) : Prop where
  tensors : ∀ key ∈ ["prompts", "responses", "response_mask", "input_ids", "attention_mask",
    "position_ids", "rollout_log_probs", "rm_scores"], batch.table (.tensor key) = none
  objects : ∀ key ∈ keys, key ∈ "__num_turns__" :: "multi_modal_inputs" ::
    (kind.infoKeys ++ kind.extraKeys) → key = "raw_prompt"

/-- An output has the raw prompt of the row that it comes from. -/
theorem Sampled.raw_prompt {rollout : RolloutConfig V S E} {row : Key → Option (Cell V S E)}
    {x : InternalOutput V S E} (h : Sampled rollout run row x) :
    ∃ e, row (.nonTensor "raw_prompt") = some (.object (some e)) ∧
      x.extraFields.lookup "raw_prompt" = some e := by
  obtain ⟨_, _, output, -, hx⟩ := h
  unfold agentLoopPostprocess at hx
  obtain ⟨e, he, hx⟩ := except_bind_ok.mp hx
  obtain ⟨_, -, hx⟩ := except_bind_ok.mp hx
  obtain ⟨_, -, hx⟩ := except_bind_ok.mp hx
  refine ⟨e, of_rawPrompt_ok he, ?_⟩
  cases hx
  rw [lookup_computeScore _ _ _ (by decide)]
  exact (lookup_insertEntry ..).trans (if_pos rfl)

theorem isSome_row_objects {x : InternalOutput V S E} {key : String}
    (h : (kind.row x (.nonTensor key)).isSome) : key ∈ "__num_turns__" :: "multi_modal_inputs" ::
      (kind.infoKeys ++ kind.extraKeys) := by
  unfold Kind.row DataProto.sampleRow at h
  rw [Option.isSome_map] at h
  obtain ⟨f, hf⟩ := Option.isSome_iff_exists.mp h
  rcases mem_foldl_insertEntry (lookup_mem hf) with hc | hc
  · cases List.mem_singleton.mp hc
    exact List.mem_cons_self
  · rcases List.mem_append.mp hc with hc | hc
    · rcases List.mem_append.mp hc with hc | hc
      · obtain ⟨key', hkey', heq⟩ := List.mem_map.mp hc
        cases heq
        simp [hkey']
      · cases List.mem_singleton.mp hc
        simp
    · obtain ⟨key', hkey', heq⟩ := List.mem_map.mp hc
      cases heq
      simp [List.mem_dedup.mp hkey']

theorem isSome_row_tensors {x : InternalOutput V S E} {key : String}
    (h : (kind.row x (.tensor key)).isSome) : key ∈ ["prompts", "responses", "response_mask",
      "input_ids", "attention_mask", "position_ids", "rollout_log_probs", "rm_scores"] := by
  unfold Kind.row DataProto.sampleRow at h
  rw [Option.isSome_map] at h
  obtain ⟨f, hf⟩ := Option.isSome_iff_exists.mp h
  have hmem := List.mem_map_of_mem (f := fun c => c.1) (lookup_mem hf)
  unfold tensorColumns at hmem
  cases kind.hasLogprobs <;> cases kind.hasScores <;> simp at hmem <;> simp <;> tauto

theorem row_rawPrompt {x : InternalOutput V S E} {e : E} (h : "raw_prompt" ∈ kind.extraKeys)
    (hx : x.extraFields.lookup "raw_prompt" = some e) :
    kind.row x (.nonTensor "raw_prompt") = some (.object (some e)) := by
  have hnodup : ((kind.extraKeys.dedup.map fun key => (key, fun x : InternalOutput V S E =>
      (Cell.object (x.extraFields.lookup key) : Cell V S E))).map (·.1)).Nodup := by
    simpa [Function.comp_def] using List.nodup_dedup kind.extraKeys
  unfold Kind.row DataProto.sampleRow objectColumns
  dsimp only
  rw [List.foldl_append, lookup_foldl_insertEntry hnodup, lookup_graph _ (List.mem_dedup.mpr h),
    Option.some_or, Option.map_some]
  dsimp only
  rw [hx]

omit [Zero S] in
theorem length_promptRows (cfg : StepConfig V S E) (uid : ℕ → Cell V S E)
    (batch : DataProto (Cell V S E) (MetaValue S)) :
    (cfg.promptRows uid batch).length = batch.len * cfg.n := by
  unfold StepConfig.promptRows
  rw [List.length_flatMap]
  simp [Function.comp_def, Nat.mul_comm]

/-- What stays with a row and what is generated for it agree. -/
theorem rows_agree {row : Key → Option (Cell V S E)} {x : InternalOutput V S E}
    (hseparate : Separate kind cfg.keys batch) (hrow : row ∈ cfg.promptRows uid batch)
    (hx : ∃ e, row (.nonTensor "raw_prompt") = some (.object (some e)) ∧
      x.extraFields.lookup "raw_prompt" = some e)
    (hkeys : x.extraFields.map (·.1) = kind.extraKeys) {k : Key}
    (hkept : (keptRow cfg.keys row k).isSome) (hgenerated : (kind.row x k).isSome) :
    keptRow cfg.keys row k = kind.row x k := by
  cases k with
  | tensor key =>
      obtain ⟨row', hrow', hrow⟩ := List.mem_flatMap.mp hrow
      obtain rfl := List.eq_of_mem_replicate hrow
      obtain ⟨e, he, rfl⟩ := List.mem_map.mp hrow'
      obtain ⟨i, -, hitem⟩ := List.mem_map.mp (List.fst_mem_of_mem_zipIdx he)
      have hnone := hseparate.tensors key (isSome_row_tensors hgenerated)
      change (uidRow uid e (.tensor key)).isSome at hkept
      have hrow_none : uidRow uid e (.tensor key) = none := by
        unfold uidRow
        rw [if_neg (by simp), ← hitem]
        dsimp only
        rw [hnone]
        rfl
      rw [hrow_none] at hkept
      cases hkept
  | nonTensor key =>
      have hkey : key ∈ cfg.keys := by
        by_contra hkey
        change (if key ∈ cfg.keys then row (.nonTensor key) else none).isSome at hkept
        rw [if_neg hkey] at hkept
        cases hkept
      obtain rfl := hseparate.objects key hkey (isSome_row_objects hgenerated)
      obtain ⟨e, he, hlookup⟩ := hx
      have hmem : "raw_prompt" ∈ kind.extraKeys := by
        rw [← hkeys]
        exact List.mem_map_of_mem (f := fun c => c.1) (lookup_mem hlookup)
      rw [row_rawPrompt hmem hlookup, ← he, keptRow_of_mem hkey]

variable [NeZero V]

/-- The rows with responses: each is the row of its prompt under an output for that row. -/
theorem rolloutStep_ok [DecidableEq S] [DecidableEq E] (hbatch : batch.batch.isSome)
    (hkeyed : batch.Keyed) (hmeta : batch.metaInfo = []) (hlen : 0 < batch.len) (hn : 0 < cfg.n)
    (hworkers : 0 < cfg.numWorkers) (hdvd : cfg.numWorkers ∣ batch.len * cfg.n)
    (hpos : 0 < cfg.rollout.responseLength) (hseparate : Separate kind cfg.keys batch)
    (hruns : RunsEnd cfg.rollout kind run (cfg.promptRows uid batch)) :
    ∃ xs out, rolloutStep cfg run uid batch = .ok out ∧
      List.Forall₂ (Sampled cfg.rollout run) (cfg.promptRows uid batch) xs ∧
      out.items = List.zipWith (fun row x k =>
        (kind.row (x.leftPad (maxPromptLength xs - x.promptIds.length)) k).or
          (keptRow cfg.keys row k)) (cfg.promptRows uid batch) xs ∧ out.batch.isSome := by
  obtain ⟨td, htd⟩ := Option.isSome_iff_exists.mp hbatch
  obtain ⟨start, hstart, hstart_batch, hstart_meta, hstart_objects, hstart_items⟩ :=
    items_assignUids uid (d := batch.withMetaInfo
      (insertEntry batch.metaInfo "temperature" (.float cfg.temperature))) htd
  have hstart_ne : start.nonTensorBatch ≠ [] := by
    rw [hstart_objects]
    exact insertEntry_ne_nil _ _ _
  have hstart_nodup : (start.nonTensorBatch.map (·.1)).Nodup := by
    rw [hstart_objects]
    exact nodup_insertEntry hkeyed.nonTensors _ _
  have hrows_eq : ∀ f : (Key → Option (Cell V S E)) → Key → Option (Cell V S E),
      (start.items.map f).flatMap (List.replicate cfg.n) = (cfg.promptRows uid batch).map f := by
    intro f
    unfold StepConfig.promptRows
    rw [hstart_items, List.flatMap_map, List.map_flatMap]
    simp only [List.map_replicate]
    rfl
  -- what is sent
  obtain ⟨hsent, hsent_uniform⟩ := items_getGenBatch cfg.keys hstart_batch hstart_ne
    hstart_nodup
  obtain ⟨hprompts, hprompts_uniform⟩ := DataProto.items_repeat
    (d := (getGenBatch cfg.keys start).withMetaInfo
      (insertEntry (getGenBatch cfg.keys start).metaInfo "global_steps" (.number cfg.globalSteps)))
    hsent_uniform cfg.n
  have hprompts : _ = (cfg.promptRows uid batch).map objectsRow :=
    hprompts.trans (by rw [← hrows_eq, ← hsent]; rfl)
  have hprompts_len : _ = batch.len * cfg.n :=
    (DataProto.length_items _).symm.trans (by rw [hprompts, List.length_map, length_promptRows])
  have hsent_runs : RunsEnd cfg.rollout kind run ((cfg.promptRows uid batch).map objectsRow) := by
    intro row hrow
    obtain ⟨row', hrow', rfl⟩ := List.mem_map.mp hrow
    exact hruns row' hrow'
  rw [← hprompts] at hsent_runs
  obtain ⟨xs, outputs, hgenerate, houtputs, hout_items, hout_batch, hout_meta, hout_keyed⟩ :=
    generateSequences_rows hprompts_uniform (by rw [hprompts_len]; exact Nat.mul_pos hlen hn)
      hworkers (by rw [hprompts_len]; exact hdvd) hpos hsent_runs
  rw [hprompts, List.forall₂_map_left_iff] at houtputs
  have hsampled : List.Forall₂ (Sampled cfg.rollout run) (cfg.promptRows uid batch) xs :=
    houtputs.imp fun _ _ h => h.1
  -- what has stayed
  obtain ⟨hkept, hkept_uniform⟩ := items_keptBatch (d := start) cfg.keys (by rw [hstart_batch]; rfl)
  obtain ⟨hrepeated, hrepeated_uniform⟩ := DataProto.items_repeat hkept_uniform cfg.n
  rw [hkept, hrows_eq] at hrepeated
  have hkept_len : ((keptBatch cfg.keys start).repeatTimes cfg.n true).len = batch.len * cfg.n := by
    rw [← DataProto.length_items, hrepeated, List.length_map, length_promptRows]
  have hout_len : outputs.len = batch.len * cfg.n := by
    rw [← DataProto.length_items, hout_items, List.length_map, ← hsampled.length_eq,
      length_promptRows]
  obtain ⟨tdKept, htdKept⟩ : ∃ td, ((keptBatch cfg.keys start).repeatTimes cfg.n true).batch =
      some td := Option.isSome_iff_exists.mp
    ((DataProto.isSome_batch_mapColumns _).trans (by rw [keptBatch, hstart_batch]; rfl))
  obtain ⟨tdOut, htdOut⟩ := Option.isSome_iff_exists.mp hout_batch
  obtain ⟨out, hunion⟩ := DataProto.union_exists htdKept htdOut hout_keyed
    (hkept_len.trans hout_len.symm) (by
      intro k hk hk' i hi
      rw [hkept_len, ← length_promptRows cfg uid] at hi
      have hi' : i < xs.length := hsampled.length_eq ▸ hi
      have hxi := houtputs.get hi hi'
      have hrow : ((keptBatch cfg.keys start).repeatTimes cfg.n true).items[i]? =
          some (keptRow cfg.keys (cfg.promptRows uid batch)[i]) := by
        rw [hrepeated, List.getElem?_map, List.getElem?_eq_getElem hi, Option.map_some]
      have hrow' : outputs.items[i]? = some (kind.row
          (xs[i].leftPad (maxPromptLength xs - xs[i].promptIds.length))) := by
        rw [hout_items, List.getElem?_map, List.getElem?_eq_getElem hi', Option.map_some]
      rw [hrow, hrow', Option.bind_some, Option.bind_some]
      exact rows_agree (x := xs[i].leftPad (maxPromptLength xs - xs[i].promptIds.length)) hseparate
        (List.getElem_mem hi) hxi.1.raw_prompt hxi.2.extraKeys
        (DataProto.isSome_item hrepeated_uniform hk hrow)
        (DataProto.isSome_item (DataProto.uniform_of_batch htdOut) hk' hrow')) (by
      intro c hc v hv
      rw [hout_meta] at hc
      obtain rfl := List.mem_singleton.mp hc
      change start.metaInfo.lookup _ = _ at hv
      rw [hstart_meta, hmeta] at hv
      cases hv)
  obtain ⟨-, hunion_batch, hunion_items⟩ := DataProto.items_union hout_keyed.nonTensors hunion
  refine ⟨xs, out, ?_, hsampled, ?_, hunion_batch⟩
  · exact except_bind_ok.mpr ⟨start, hstart, except_bind_ok.mpr ⟨outputs, hgenerate, hunion⟩⟩
  · rw [hunion_items, hrepeated, hout_items, List.zipWith_map]

/-- The rows of a prompt stand together and have its uid. -/
theorem uid_rows {xs : List (InternalOutput V S E)} {out : DataProto (Cell V S E) (MetaValue S)}
    (hseparate : Separate kind cfg.keys batch)
    (hlength : (cfg.promptRows uid batch).length = xs.length)
    (hout : out.items = List.zipWith (fun row x k =>
      (kind.row (x.leftPad (maxPromptLength xs - x.promptIds.length)) k).or
        (keptRow cfg.keys row k)) (cfg.promptRows uid batch) xs) :
    out.items.map (· (.nonTensor "uid")) =
      (List.range batch.len).flatMap fun i => List.replicate cfg.n (some (uid i)) := by
  have hkey : "uid" ∈ cfg.keys := by
    unfold StepConfig.keys rewardModelKeys
    simp
  have hgenerated : ∀ x : InternalOutput V S E, kind.row x (.nonTensor "uid") = none := by
    intro x
    by_contra hsome
    have hmem := isSome_row_objects (Option.isSome_iff_ne_none.mpr hsome)
    exact absurd (hseparate.objects "uid" hkey hmem) (by decide)
  have hrow : ∀ (row : Key → Option (Cell V S E)) (x : InternalOutput V S E),
      (kind.row (x.leftPad (maxPromptLength xs - x.promptIds.length)) (.nonTensor "uid")).or
        (keptRow cfg.keys row (.nonTensor "uid")) = row (.nonTensor "uid") := by
    intro row x
    rw [hgenerated, Option.none_or, keptRow_of_mem hkey]
  have hrows : out.items.map (· (.nonTensor "uid")) =
      (cfg.promptRows uid batch).map (· (.nonTensor "uid")) := by
    rw [hout, List.map_zipWith]
    apply List.ext_getElem
    · simp [hlength]
    · intro i hi hi'
      rw [List.getElem_zipWith, List.getElem_map]
      exact hrow _ _
  rw [hrows]
  unfold StepConfig.promptRows
  rw [List.map_flatMap, List.flatMap_map]
  have hindices : batch.items.zipIdx.map (·.2) = List.range batch.len := by
    rw [List.zipIdx_map_snd, DataProto.length_items, List.range_eq_range']
  rw [← hindices, List.flatMap_map]
  refine List.flatMap_congr fun e _ => ?_
  rw [List.map_replicate]
  congr 1

/-- Every row with a response is the row of its prompt under an output for that row, and the rows of
    a prompt stand together, with its uid. -/
theorem rolloutStep_rows [DecidableEq S] [DecidableEq E] (hbatch : batch.batch.isSome)
    (hkeyed : batch.Keyed) (hmeta : batch.metaInfo = []) (hlen : 0 < batch.len) (hn : 0 < cfg.n)
    (hworkers : 0 < cfg.numWorkers) (hdvd : cfg.numWorkers ∣ batch.len * cfg.n)
    (hpos : 0 < cfg.rollout.responseLength) (hseparate : Separate kind cfg.keys batch)
    (hruns : RunsEnd cfg.rollout kind run (cfg.promptRows uid batch)) :
    ∃ xs out, rolloutStep cfg run uid batch = .ok out ∧
      List.Forall₂ (Sampled cfg.rollout run) (cfg.promptRows uid batch) xs ∧
      out.items = List.zipWith (fun row x k =>
        (kind.row (x.leftPad (maxPromptLength xs - x.promptIds.length)) k).or
          (keptRow cfg.keys row k)) (cfg.promptRows uid batch) xs ∧ out.batch.isSome ∧
      out.items.map (· (.nonTensor "uid")) =
        (List.range batch.len).flatMap fun i => List.replicate cfg.n (some (uid i)) := by
  obtain ⟨xs, out, hstep, hsampled, hitems, hbatch_out⟩ :=
    rolloutStep_ok hbatch hkeyed hmeta hlen hn hworkers hdvd hpos hseparate hruns
  exact ⟨xs, out, hstep, hsampled, hitems, hbatch_out, uid_rows hseparate hsampled.length_eq hitems⟩

/-! ## The rollouts behind the rows -/

omit [NeZero V] in
theorem exists_rollouts {rollout : RolloutConfig V S E} {rows : List (Key → Option (Cell V S E))}
    {xs : List (InternalOutput V S E)} (h : List.Forall₂ (Sampled rollout run) rows xs) :
    ∃ rollouts : List (Rollout rollout run), rollouts.map (·.row) = rows ∧
      rollouts.map (·.padded) = xs := by
  induction h with
  | nil => exact ⟨[], rfl, rfl⟩
  | @cons row x rows xs hx _ ih =>
      obtain ⟨worker, sample, output, hrun, hpadded⟩ := hx
      obtain ⟨rollouts, hrows, hxs⟩ := ih
      refine ⟨⟨row, worker, sample, output, x, hrun, hpadded⟩ :: rollouts, ?_, ?_⟩
      · rw [List.map_cons, hrows]
      · rw [List.map_cons, hxs]

/-- Every row of a step has a rollout behind it. -/
theorem rolloutStep_rollouts [DecidableEq S] [DecidableEq E] (hbatch : batch.batch.isSome)
    (hkeyed : batch.Keyed) (hmeta : batch.metaInfo = []) (hlen : 0 < batch.len) (hn : 0 < cfg.n)
    (hworkers : 0 < cfg.numWorkers) (hdvd : cfg.numWorkers ∣ batch.len * cfg.n)
    (hpos : 0 < cfg.rollout.responseLength) (hseparate : Separate kind cfg.keys batch)
    (hruns : RunsEnd cfg.rollout kind run (cfg.promptRows uid batch)) :
    ∃ out, ∃ rollouts : List (Rollout cfg.rollout run), rolloutStep cfg run uid batch = .ok out ∧
      rollouts.map (·.row) = cfg.promptRows uid batch ∧
      out.items = rolloutItems cfg.keys kind rollouts ∧ out.batch.isSome := by
  obtain ⟨xs, out, hstep, hsampled, hitems, hbatch_out⟩ :=
    rolloutStep_ok hbatch hkeyed hmeta hlen hn hworkers hdvd hpos hseparate hruns
  obtain ⟨rollouts, hrows, rfl⟩ := exists_rollouts hsampled
  refine ⟨out, rollouts, hstep, hrows, ?_, hbatch_out⟩
  rw [hitems, ← hrows, List.zipWith_map, List.zipWith_self]
  rfl

/-! ## Two prompts -/

/-- Two prompts with two rollouts each, for two workers. -/
def exampleStep : StepConfig 5 S String := ⟨exampleRollout, 2, 2, 0, 1, none, none⟩

def exampleBatch : DataProto (Cell 5 S String) (MetaValue S) where
  batch := some ⟨2, [("dummy_tensor", [.counts [0], .counts [0]])], by simp⟩
  nonTensorBatch := [("raw_prompt", [.object (some "a"), .object (some "bc")])]
  metaInfo := []
  consistent := by
    rintro _ ⟨⟩ c hc
    obtain rfl := List.mem_singleton.mp hc
    rfl

omit [Zero S] in
theorem exampleBatch_keyed : (exampleBatch : DataProto (Cell 5 S String) (MetaValue S)).Keyed where
  tensors := by
    rintro _ ⟨⟩
    exact List.nodup_singleton _
  nonTensors := List.nodup_singleton _

theorem exampleBatch_separate :
    Separate exampleKind (exampleStep : StepConfig 5 S String).keys
      (exampleBatch : DataProto (Cell 5 S String) (MetaValue S)) where
  tensors := by
    intro key hkey
    have hne : key ≠ "dummy_tensor" := by
      rintro rfl
      exact absurd hkey (by decide)
    change List.lookup key [("dummy_tensor", _)] = none
    rw [lookup_cons_of_ne _ hne]
    rfl
  objects := by
    change ∀ key ∈ rewardModelKeys none none,
      key ∈ ["__num_turns__", "multi_modal_inputs", "raw_prompt", "reward_extra_info"] →
        key = "raw_prompt"
    decide

theorem exampleBatch_named {uid : ℕ → Cell 5 S String} :
    ∀ row ∈ exampleStep.promptRows uid exampleBatch,
      ∃ name : String, 0 < name.length ∧ name.length ≤ 2 ∧
        row (.nonTensor "raw_prompt") = some (.object (some name)) := by
  intro row hrow
  obtain ⟨row', hrow', hrow⟩ := List.mem_flatMap.mp hrow
  obtain rfl := List.eq_of_mem_replicate hrow
  obtain ⟨e, he, rfl⟩ := List.mem_map.mp hrow'
  obtain ⟨i, hi, hitem⟩ := List.mem_map.mp (List.fst_mem_of_mem_zipIdx he)
  have hlt : i < 2 := List.mem_range.mp hi
  unfold uidRow
  rw [if_neg (by decide), ← hitem]
  obtain rfl | rfl : i = 0 ∨ i = 1 := by omega
  · exact ⟨"a", by decide, by decide, rfl⟩
  · exact ⟨"bc", by decide, by decide, rfl⟩

theorem exampleBatch_ends {uid : ℕ → Cell 5 S String} :
    RunsEnd exampleRollout exampleKind exampleRun (exampleStep.promptRows uid exampleBatch) :=
  exampleRun_ends fun row hrow => (exampleBatch_named row hrow).imp fun _ h => h.2.2

theorem rolloutStep_two : ∃ xs out,
    rolloutStep (exampleStep : StepConfig 5 ℕ String) exampleRun (fun i => .number i) exampleBatch =
        .ok out ∧
      List.Forall₂ (Sampled exampleRollout exampleRun)
        (exampleStep.promptRows (fun i => .number i) exampleBatch) xs ∧
      out.items = List.zipWith (fun row x k =>
        (exampleKind.row (x.leftPad (maxPromptLength xs - x.promptIds.length)) k).or
          (keptRow (exampleStep : StepConfig 5 ℕ String).keys row k))
        (exampleStep.promptRows (fun i => .number i) exampleBatch) xs ∧ out.batch.isSome ∧
      out.items.map (· (.nonTensor "uid")) = (List.range 2).flatMap fun i =>
        List.replicate 2 (some (.number i)) :=
  rolloutStep_rows rfl exampleBatch_keyed rfl (by decide) (by decide) (by decide) (by decide)
    (by decide) exampleBatch_separate exampleBatch_ends

end Step

end LookAway.Training
