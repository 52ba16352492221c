/-
  What `update_policy` (verl/workers/actor/dp_actor.py) requires of the config and of the batch the
  trainer has built for it.

  The keys of the batch decide whether the negative view reaches the micro batches (`selectKeys`);
  the block then raises for a missing view, and for a gate without top-k tensors. `__post_init__`
  rules out neither (`Requirements`): an always-on teacher that is given the answer has no negative
  view, and no check ties the two gates to top-k distillation.
-/
import LookAway.Teacher.Alignment
import LookAway.Teacher.Modes
import LookAway.Weights.BlockSpec

namespace LookAway.Teacher

open LookAway.Base
open LookAway.Weights (SelfDistillationConfig MicroBatch ActorFiles UpdateError Tensor TopK NegView
  weightingBlock weightingBlock_ok weightingBlock_no_neg weightingBlock_no_topk hasTopk
  ConfigFilesReady)

variable {V B T K : ℕ} {F Px : Type}

/-! ## Keys -/

/-- `self_distillation_required_keys` -/
def requiredKeys : List String :=
  ["teacher_input_ids", "teacher_attention_mask", "teacher_position_ids",
    "teacher_response_start_idx", "self_distillation_mask"]

/-- `sorted(vd_neg_keys)` -/
def vdNegKeys : List String :=
  ["teacher_neg_attention_mask", "teacher_neg_input_ids", "teacher_neg_position_ids",
    "teacher_neg_response_start_idx", "vd_neg_view_mask"]

/-- The tensors of a batch the trainer has built. -/
def DistillBatch.keys (built : DistillBatch V F) : List String :=
  requiredKeys ++ if built.teacherNeg.isSome then vdNegKeys else []

/-- What the rollout and the settings of the actor leave open. -/
structure ActorOptions where
  advantages : Bool := true
  rolloutIsWeights : Bool := false
  rolloutLogProbs : Bool := false
  usePrefixGrouper : Bool := false
  useKlLoss : Bool := false

/-- The tensors of the rollout in the batch of the actor. -/
def rolloutKeys (o : ActorOptions) : List String :=
  ["prompts", "responses", "response_mask", "input_ids", "attention_mask", "position_ids",
      "old_log_probs"] ++
    (if o.advantages then ["advantages"] else []) ++
    (if o.useKlLoss then ["ref_log_prob"] else []) ++
    (if o.rolloutIsWeights then ["rollout_is_weights"] else []) ++
    (if o.rolloutLogProbs then ["rollout_log_probs"] else [])

/-- `select_keys` of `update_policy` under `vopd`. -/
def selectKeys (o : ActorOptions) (keys : List String) : List String :=
  ["responses", "response_mask", "input_ids", "attention_mask", "position_ids", "old_log_probs"] ++
    (if keys.contains "advantages" then ["advantages"] else []) ++
    (if o.usePrefixGrouper && keys.contains "prompts" then ["prompts"] else []) ++
    (if o.useKlLoss then ["ref_log_prob"] else []) ++
    requiredKeys ++
    (if keys.contains "rollout_is_weights" then ["rollout_is_weights"] else []) ++
    (if vdNegKeys.all keys.contains then vdNegKeys else []) ++
    (if keys.contains "rollout_log_probs" then ["rollout_log_probs"] else [])

/-- The keys of `model_inputs`. -/
def modelInputKeys (o : ActorOptions) (built : DistillBatch V F) : List String :=
  selectKeys o (rolloutKeys o ++ built.keys)

theorem mem_ite_list {c : Prop} [Decidable c] {key : String} {xs : List String}
    (h : key ∈ if c then xs else []) : key ∈ xs := by
  split at h
  · exact h
  · cases h

theorem neg_not_mem_rolloutKeys (o : ActorOptions) : "teacher_neg_input_ids" ∉ rolloutKeys o := by
  intro hmem
  unfold rolloutKeys at hmem
  simp only [List.mem_append] at hmem
  rcases hmem with (((h | h) | h) | h) | h
  · exact absurd h (by decide)
  · exact absurd (mem_ite_list h) (by decide)
  · exact absurd (mem_ite_list h) (by decide)
  · exact absurd (mem_ite_list h) (by decide)
  · exact absurd (mem_ite_list h) (by decide)

/-- All keys of the negative view are there when the trainer has built it. -/
theorem vdNegKeys_all (o : ActorOptions) (built : DistillBatch V F) :
    vdNegKeys.all (rolloutKeys o ++ built.keys).contains = true ↔
      built.teacherNeg.isSome = true := by
  rw [List.all_eq_true]
  constructor
  · intro hall
    have hmem : "teacher_neg_input_ids" ∈ rolloutKeys o ++ built.keys := by
      simpa using hall "teacher_neg_input_ids" (by decide)
    rcases List.mem_append.mp hmem with h | h
    · exact absurd h (neg_not_mem_rolloutKeys o)
    · unfold DistillBatch.keys at h
      rcases List.mem_append.mp h with h | h
      · exact absurd h (by decide)
      · split at h
        · assumption
        · cases h
  · intro hneg key hkey
    have hmem : key ∈ built.keys := by
      unfold DistillBatch.keys
      rw [hneg, if_pos rfl]
      exact List.mem_append_right _ hkey
    simpa using Or.inr hmem

/-- The negative view reaches a micro batch when the trainer has built it. -/
theorem neg_mem_modelInputKeys (o : ActorOptions) (built : DistillBatch V F) :
    "teacher_neg_input_ids" ∈ modelInputKeys o built ↔ built.teacherNeg.isSome = true := by
  rw [← vdNegKeys_all o built]
  unfold modelInputKeys selectKeys
  constructor
  · intro hmem
    simp only [List.mem_append] at hmem
    rcases hmem with ((((((h | h) | h) | h) | h) | h) | h) | h
    · exact absurd h (by decide)
    · exact absurd (mem_ite_list h) (by decide)
    · exact absurd (mem_ite_list h) (by decide)
    · exact absurd (mem_ite_list h) (by decide)
    · exact absurd h (by decide)
    · exact absurd (mem_ite_list h) (by decide)
    · split at h
      · assumption
      · cases h
    · exact absurd (mem_ite_list h) (by decide)
  · intro hall
    rw [if_pos hall]
    simp only [List.mem_append]
    exact Or.inl (Or.inr (by decide))

/-! ## Micro batches -/

/-- What the three forwards of a micro batch return. -/
structure Forwards (B T K : ℕ) where
  logProb : Tensor B T
  teacherLogProb : Tensor B T
  studentTopkLogps : TopK B T K
  teacherTopkLogps : TopK B T K
  neg : NegView B T K

/-- A micro batch: some rows of the batch, with the outputs of the forwards at this step. -/
structure Micro (T K : ℕ) where
  size : ℕ
  rows : Fin size → ℕ
  forwards : Forwards size T K

/-- The micro batch as the weighting block reads it. -/
def Micro.microBatch (m : Micro T K) (o : ActorOptions) (batch : RolloutBatch V Px)
    (built : DistillBatch V F) : MicroBatch m.size T K where
  responses := fun p =>
    ((batch.samples[m.rows p.1]?.bind fun s => s.response[p.2.val]?).map
      fun v => (v.val : ℤ)).getD 0
  responseMask := fun p =>
    (batch.samples[m.rows p.1]?.bind fun s => s.responseMask[p.2.val]?).getD false
  selfDistillationMask := some fun i => (built.teacher.present[m.rows i]?).getD false
  vdNegViewMask :=
    if "vd_neg_view_mask" ∈ modelInputKeys o built then
      built.teacherNeg.map fun neg i => (neg.present[m.rows i]?).getD false
    else none
  logProb := m.forwards.logProb
  teacherLogProb := m.forwards.teacherLogProb
  studentTopkLogps := m.forwards.studentTopkLogps
  teacherTopkLogps := m.forwards.teacherTopkLogps
  teacherNeg :=
    if "teacher_neg_input_ids" ∈ modelInputKeys o built then some m.forwards.neg else none

/-- The LookAway block of the micro batches of an update, in their order. Their forwards return: the
    error of the fused kernels for a distillation over all logits is left out. -/
noncomputable def updatePolicy (cfg : SelfDistillationConfig) (files : ActorFiles)
    (o : ActorOptions) (batch : RolloutBatch V Px) (built : DistillBatch V F)
    (micros : List (Micro T K)) : Except UpdateError Unit :=
  micros.forM fun m => (weightingBlock cfg files (m.microBatch o batch built)).map fun _ => ()

/-! ## Requirements -/

/-- The error branches of LookAway. -/
def IsLookAwayError (e : UpdateError) : Prop :=
  e ∈ [.keyError "vd_gamma > 0 requires teacher_neg_* tensors in the batch.",
      .valueError "vd_targeted requires self_distillation.vd_prior_file.",
      .valueError "vd_freq_decay requires self_distillation.vd_freq_file.",
      .valueError "vd_jsd_gate requires top-k distillation.",
      .valueError "vd_dd_jsd requires top-k distillation.",
      .unboundLocalError "s_dd", .unboundLocalError "has_valid"] ∨
    ∃ path, e = .fileNotFoundError path

/-- The config asks for nothing that its batches and forwards leave out. -/
def Requirements (cfg : SelfDistillationConfig) : Prop :=
  cfg.vdGamma = 0 ∨
    (cfg.teacherPromptMode ≠ some "answer_hint" ∧
      (cfg.vdJsdGate = true ∨ cfg.vdDdJsd = true →
        cfg.fullLogitDistillation = true ∧ cfg.distillationTopk.isSome = true))

/-- The frozen files the config names are there, and the table has an entry for every token. -/
structure FilesWellFormed (V : ℕ) (cfg : SelfDistillationConfig) (files : ActorFiles) : Prop where
  priors : ∀ path, cfg.vdPriorFile = some path → ∃ pr, files.priorFile path = .ok pr
  freq : ∀ path, cfg.vdFreqFile = some path → ∃ counts, files.freqFile path = .ok counts ∧
    V ≤ counts.length

section Blocks

variable {cfg : SelfDistillationConfig} {files : ActorFiles} {o : ActorOptions}
  {batch : RolloutBatch V Px} {built : DistillBatch V F}

/-- The response ids of a micro batch are token ids, and padding is 0. -/
theorem responses_in_range [NeZero V] (hfiles : FilesWellFormed V cfg files) (m : Micro T K) :
    ConfigFilesReady cfg files (m.microBatch o batch built) := by
  refine ⟨hfiles.priors, ?_⟩
  intro path hpath
  obtain ⟨counts, hcounts, hlength⟩ := hfiles.freq path hpath
  have hV : 0 < V := NeZero.pos V
  refine ⟨counts, hcounts, ?_⟩
  intro p
  simp only [Micro.microBatch]
  cases batch.samples[m.rows p.1]?.bind fun s => s.response[p.2.val]? with
  | none =>
      refine ⟨le_refl _, ?_⟩
      show (0 : ℤ) < counts.length
      omega
  | some v =>
      refine ⟨by simp, ?_⟩
      have hv := v.isLt
      show (v.val : ℤ) < counts.length
      omega

theorem microBatch_teacherNeg (m : Micro T K) :
    (m.microBatch o batch built).teacherNeg =
      if built.teacherNeg.isSome then some m.forwards.neg else none := by
  simp only [Micro.microBatch, neg_mem_modelInputKeys]

theorem hasTopk_iff (hcfg : cfg.Accepted) :
    hasTopk cfg = true ↔
      cfg.fullLogitDistillation = true ∧ cfg.distillationTopk.isSome = true := by
  unfold hasTopk
  cases hfull : cfg.fullLogitDistillation with
  | false => simp
  | true =>
      cases hk : cfg.distillationTopk with
      | none => simp
      | some k =>
          have hpos := hcfg.teacherFacts.topk_pos k hk
          have hne : k ≠ 0 := by omega
          simp [hne]

end Blocks

section Updates

variable [NeZero V] {tr : Trainer V F Px} {rp : Reprompter V Px} {cfg : BuilderConfig}
  {batch : RolloutBatch V Px} {built : DistillBatch V F} {files : ActorFiles} {o : ActorOptions}

/-- A config that meets the requirements runs on every micro batch of a batch built under it. -/
theorem block_ok_of_requirements (hcfg : cfg.distillation.Accepted)
    (hbuilt : tr.maybeBuildSelfDistillationBatch rp cfg batch = .ok (some built))
    (hfiles : FilesWellFormed V cfg.distillation files) (hreq : Requirements cfg.distillation)
    (m : Micro T K) :
    ∃ out, weightingBlock cfg.distillation files (m.microBatch o batch built) = .ok out := by
  rcases hcfg.teacherFacts.vdGamma_nonneg.eq_or_lt with hzero | hgamma
  · refine ⟨none, ?_⟩
    unfold weightingBlock
    rw [if_neg (by rw [← hzero]; exact lt_irrefl 0)]
    rfl
  · obtain ⟨hmode, htopk⟩ := hreq.resolve_left hgamma.ne'
    have hneg : (m.microBatch o batch built).teacherNeg = some m.forwards.neg := by
      rw [microBatch_teacherNeg, if_pos ((maybeBuild_neg hcfg hbuilt).mpr ⟨hgamma, hmode⟩)]
    obtain ⟨out, hout⟩ := weightingBlock_ok hcfg hgamma
      (fun hon => (hasTopk_iff hcfg).mpr (htopk hon)) hneg (responses_in_range hfiles m)
    exact ⟨some out, hout⟩

/-- A config that does not meet them raises one of the LookAway errors on every micro batch. -/
theorem block_error_of_not_requirements (hcfg : cfg.distillation.Accepted)
    (hbuilt : tr.maybeBuildSelfDistillationBatch rp cfg batch = .ok (some built))
    (hfiles : FilesWellFormed V cfg.distillation files) (hreq : ¬Requirements cfg.distillation)
    (m : Micro T K) :
    ∃ e, weightingBlock cfg.distillation files (m.microBatch o batch built) = .error e ∧
      IsLookAwayError e := by
  unfold Requirements at hreq
  rw [not_or] at hreq
  obtain ⟨hne, hreq⟩ := hreq
  have hgamma : 0 < cfg.distillation.vdGamma :=
    lt_of_le_of_ne hcfg.teacherFacts.vdGamma_nonneg (Ne.symm hne)
  by_cases hmode : cfg.distillation.teacherPromptMode = some "answer_hint"
  · have hnone : ¬ built.teacherNeg.isSome = true := by
      rw [maybeBuild_neg hcfg hbuilt]
      exact fun hboth => hboth.2 hmode
    refine ⟨_, weightingBlock_no_neg hgamma ?_, Or.inl (by simp)⟩
    rw [microBatch_teacherNeg, if_neg hnone]
  · have htopk : ¬ (cfg.distillation.vdJsdGate = true ∨ cfg.distillation.vdDdJsd = true →
        hasTopk cfg.distillation = true) := by
      rw [hasTopk_iff hcfg]
      exact fun h => hreq ⟨hmode, h⟩
    rw [Classical.not_imp, Bool.not_eq_true] at htopk
    have hneg : (m.microBatch o batch built).teacherNeg = some m.forwards.neg := by
      rw [microBatch_teacherNeg, if_pos ((maybeBuild_neg hcfg hbuilt).mpr ⟨hgamma, hmode⟩)]
    rcases weightingBlock_no_topk hcfg htopk.1 htopk.2 hneg (responses_in_range hfiles m) with
      h | h
    · exact ⟨_, h, Or.inl (by simp)⟩
    · exact ⟨_, h, Or.inl (by simp)⟩

omit [NeZero V] in
/-- One micro batch: an error of the block ends the update. -/
theorem updatePolicy_cons (c : SelfDistillationConfig) (m : Micro T K) (micros : List (Micro T K)) :
    updatePolicy c files o batch built (m :: micros) =
      weightingBlock c files (m.microBatch o batch built) >>= fun _ =>
        updatePolicy c files o batch built micros := by
  show (Except.map (fun _ => ()) (weightingBlock c files (m.microBatch o batch built)) >>= fun _ =>
    updatePolicy c files o batch built micros) = _
  cases weightingBlock c files (m.microBatch o batch built) <;> rfl

omit [NeZero V] in
theorem updatePolicy_ok (c : SelfDistillationConfig) (micros : List (Micro T K))
    (h : ∀ m ∈ micros, ∃ out, weightingBlock c files (m.microBatch o batch built) = .ok out) :
    updatePolicy c files o batch built micros = .ok () := by
  induction micros with
  | nil => rfl
  | cons m micros ih =>
      obtain ⟨out, hout⟩ := h m (by simp)
      rw [updatePolicy_cons, hout]
      exact ih fun m' hm' => h m' (by simp [hm'])

/-- **What an accepted config must add.** For every config that `__post_init__` accepts, every
batch built under it with `vopd`, well-formed files and every non-empty sequence of micro batches:
the update raises none of the LookAway errors exactly when the config meets `Requirements`, and
then the block returns for every micro batch. -/
theorem updatePolicy_requirements (tr : Trainer V F Px) (rp : Reprompter V Px)
    (cfg : BuilderConfig) (batch : RolloutBatch V Px) (built : DistillBatch V F)
    (files : ActorFiles) (o : ActorOptions) (micros : List (Micro T K))
    (hcfg : cfg.distillation.Accepted)
    (hbuilt : tr.maybeBuildSelfDistillationBatch rp cfg batch = .ok (some built))
    (hfiles : FilesWellFormed V cfg.distillation files) (hmicros : micros ≠ []) :
    ((∀ e, updatePolicy cfg.distillation files o batch built micros = .error e →
        ¬IsLookAwayError e) ↔ Requirements cfg.distillation) ∧
      (Requirements cfg.distillation →
        updatePolicy cfg.distillation files o batch built micros = .ok ()) := by
  have hok : Requirements cfg.distillation →
      updatePolicy cfg.distillation files o batch built micros = .ok () := by
    intro hreq
    exact updatePolicy_ok _ micros fun m _ => block_ok_of_requirements hcfg hbuilt hfiles hreq m
  refine ⟨⟨?_, ?_⟩, hok⟩
  · intro hnever
    by_contra hreq
    cases micros with
    | nil => exact hmicros rfl
    | cons m micros =>
        obtain ⟨e, he, hlook⟩ := block_error_of_not_requirements (o := o) hcfg hbuilt hfiles hreq m
        refine hnever e ?_ hlook
        rw [updatePolicy_cons, he]
        rfl
  · intro hreq e he
    rw [hok hreq] at he
    cases he

end Updates

/-! ## Two samples -/

section Sample

/-- The samples of `sampleBatch` with answers. -/
def sampleRollout : RolloutBatch 4 ℕ where
  samples := sampleBatch.samples.map fun s =>
    { s with groundTruth := some "left", extraAnswer := none, promptText := "where", uid := "u",
             rewards := [0, 0, 1] }
  imageColumns := sampleBatch.imageColumns
  feedback := []

def sampleReprompter : Reprompter 4 ℕ where
  decode := fun ids => String.join (ids.map fun v => toString v.val)
  applyChatTemplate := fun conversations _ =>
    .ok (conversations.map fun _ => ([Fin.last 3, Fin.last 3], [true, true]))

/-- The launcher's config on these columns. -/
def launcherBuilder : BuilderConfig where
  distillation := { Weights.launcherConfig "priors" "freq" with
    teacherImageKey := some "crop", teacherNegImageKey := some "crop_neg" }
  maxRepromptLen := 64
  fallbackToPolicyLossOnMissingTeacher := true

/-- A teacher that is given the answer, with the negative view switched on. -/
def hintBuilder : BuilderConfig where
  distillation := {
    teacherAlwaysOn := true, teacherImageKey := some "crop", teacherNegImageKey := some "crop_neg",
    teacherPromptMode := some "answer_hint", vdGamma := 1 }

/-- The ammunition gate on a config without `distillation_topk`. -/
def gateBuilder : BuilderConfig where
  distillation := {
    teacherAlwaysOn := true, teacherImageKey := some "crop", teacherNegImageKey := some "crop_neg",
    vdGamma := 1, vdDualSignal := true, vdTargeted := true, vdPriorFile := some "priors",
    vdJsdGate := true }

def sampleActorFiles : ActorFiles where
  priorFile := fun _ => .ok ⟨fun _ => some (1 / 2), fun _ => false⟩
  freqFile := fun _ => .ok [1, 1, 0, 1]

theorem sampleActorFiles_wellFormed (cfg : SelfDistillationConfig) :
    FilesWellFormed 4 cfg sampleActorFiles :=
  ⟨fun _ _ => ⟨_, rfl⟩, fun _ _ => ⟨_, rfl, le_refl 4⟩⟩

noncomputable def sampleMicro : Micro 3 1 where
  size := 2
  rows := fun i => i.val
  forwards := ⟨fun _ => -1, fun _ => -2, fun _ _ => -1, fun _ _ => -2, ⟨fun _ => -3, fun _ _ => -3⟩⟩

theorem updatePolicy_requirements_sample : ∃ built,
    sampleTrainer.maybeBuildSelfDistillationBatch sampleReprompter launcherBuilder sampleRollout =
        .ok (some built) ∧
      updatePolicy launcherBuilder.distillation sampleActorFiles ⟨true, false, false, false, false⟩
        sampleRollout built [sampleMicro, sampleMicro] = .ok () := by
  obtain ⟨built, hbuilt⟩ : ∃ built, sampleTrainer.maybeBuildSelfDistillationBatch
      sampleReprompter launcherBuilder sampleRollout = .ok (some built) := ⟨_, rfl⟩
  refine ⟨built, hbuilt, ?_⟩
  obtain ⟨-, hok⟩ := updatePolicy_requirements sampleTrainer sampleReprompter launcherBuilder
    sampleRollout built sampleActorFiles ⟨true, false, false, false, false⟩
    [sampleMicro, sampleMicro] (by decide +kernel) hbuilt (sampleActorFiles_wellFormed _) (by simp)
  exact hok (Or.inr ⟨by decide, fun _ => ⟨rfl, rfl⟩⟩)

/-- Two accepted configs whose batches are built and whose first micro batch raises. -/
theorem accepted_configs_raise :
    (hintBuilder.distillation.Accepted ∧ ∃ built e,
      sampleTrainer.maybeBuildSelfDistillationBatch sampleReprompter hintBuilder sampleRollout =
          .ok (some built) ∧
        updatePolicy hintBuilder.distillation sampleActorFiles ⟨true, false, false, false, false⟩
          sampleRollout built [sampleMicro] = .error e ∧
        e = .keyError "vd_gamma > 0 requires teacher_neg_* tensors in the batch.") ∧
    gateBuilder.distillation.Accepted ∧ ∃ built e,
      sampleTrainer.maybeBuildSelfDistillationBatch sampleReprompter gateBuilder
          { sampleRollout with samples := sampleRollout.samples.take 1 } = .ok (some built) ∧
        updatePolicy gateBuilder.distillation sampleActorFiles ⟨true, false, false, false, false⟩
          { sampleRollout with samples := sampleRollout.samples.take 1 } built [sampleMicro] =
            .error e ∧
        IsLookAwayError e := by
  refine ⟨⟨by decide +kernel, ?_⟩, by decide +kernel, ?_⟩
  · obtain ⟨built, hbuilt⟩ : ∃ built, sampleTrainer.maybeBuildSelfDistillationBatch
        sampleReprompter hintBuilder sampleRollout = .ok (some built) := ⟨_, rfl⟩
    refine ⟨built, _, hbuilt, ?_, rfl⟩
    have hnone : ¬ built.teacherNeg.isSome = true := by
      rw [maybeBuild_neg (by decide +kernel) hbuilt]
      exact fun hboth => hboth.2 rfl
    rw [updatePolicy_cons, weightingBlock_no_neg (by decide +kernel)
      (by rw [microBatch_teacherNeg, if_neg hnone])]
    rfl
  · obtain ⟨built, hbuilt⟩ : ∃ built, sampleTrainer.maybeBuildSelfDistillationBatch
        sampleReprompter gateBuilder
          { sampleRollout with samples := sampleRollout.samples.take 1 } = .ok (some built) :=
      ⟨_, rfl⟩
    obtain ⟨e, he, hlook⟩ := block_error_of_not_requirements
      (o := ⟨true, false, false, false, false⟩) (by decide +kernel) hbuilt
      (sampleActorFiles_wellFormed _)
      (by
        rintro (hzero | ⟨-, htopk⟩)
        · exact absurd hzero (by decide +kernel)
        · exact absurd (htopk (Or.inl rfl)).2 (by decide)) sampleMicro
    refine ⟨built, e, hbuilt, ?_, hlook⟩
    rw [updatePolicy_cons, he]
    rfl

end Sample

end LookAway.Teacher
