/-
  `_maybe_build_self_distillation_batch` of verl/trainer/ppo/ray_trainer.py: the teacher inputs of
  a rollout batch in one of three modes.

  An answer hint after the prompt (`buildAnswerHint`), the images of a column
  (`buildTeacherAlwaysOn`), or a prompt rewritten with a successful attempt or with feedback
  (`buildReprompt`). Only the second mode looks at `vd_gamma` and builds the negative view.

  A template is the list of its pieces, as `str.format` cuts it. What the tokenizer does is a
  parameter (`Reprompter`).
-/
import LookAway.Data.Rows
import LookAway.Teacher.Inputs
import LookAway.Weights.Config

namespace LookAway.Teacher

open LookAway.Base
open LookAway.Data (strip isSpace)
open LookAway.Weights (SelfDistillationConfig)

variable {V : ℕ} {F Px : Type}

/-! ## Templates -/

/-- A piece of a format string: its own text, or a replacement field. -/
inductive Piece where
  | text (text : String)
  | field (name : String)
  deriving DecidableEq, Repr

/-- `template.format(**values)`. -/
def format (template : List Piece) (values : List (String × String)) :
    Except TeacherError String := do
  let parts ← template.mapM fun piece : Piece =>
    match piece with
    | .text text => (.ok text : Except TeacherError String)
    | .field name =>
        match values.lookup name with
        | some value => .ok value
        | none => .error (.keyError name)
  return String.join parts

/-- The settings of `self_distillation` that only the construction reads, with the defaults of the
source. -/
structure BuilderConfig where
  distillation : SelfDistillationConfig
  lossMode : String := "vopd"
  maxRepromptLen : ℕ := 10240
  fallbackToPolicyLossOnMissingTeacher : Bool := false
  successRewardThreshold : ℚ := 1
  dontRepromptOnSelfSuccess : Bool := false
  removeThinkingFromDemonstration : Bool := false
  includeEnvironmentFeedback : Bool := false
  environmentFeedbackOnlyWithoutSolution : Bool := false
  answerHintTemplate : List Piece := [
    .text "\n\nHere is a reference solution to this problem:\n", .field "answer",
    .text ("\n\nAfter understanding the reference solution, please try to solve this problem " ++
      "using your own approach below:\n")]
  repromptTemplate : List Piece := [.field "prompt", .field "solution", .field "feedback",
    .text "\n\nCorrectly solve the original question.\n"]
  solutionTemplate : List Piece := [.text "\nCorrect solution:\n\n",
    .field "successful_previous_attempt", .text "\n\n"]
  feedbackTemplate : List Piece := [
    .text "\nThe following is feedback from your unsuccessful earlier attempt:\n\n",
    .field "feedback_raw", .text "\n\n"]

/-- The settings of the builders of a view. -/
def BuilderConfig.viewConfig (cfg : BuilderConfig) (teacherImageKey : String) : ViewConfig where
  teacherImageKey := teacherImageKey
  teacherNegImageKey := cfg.distillation.teacherNegImageKey
  maxRepromptLen := cfg.maxRepromptLen
  fallbackToPolicyLossOnMissingTeacher := cfg.fallbackToPolicyLossOnMissingTeacher
  vdGamma := cfg.distillation.vdGamma

/-- A sample with the other columns the modes read. `groundTruth` and `extraAnswer` are the texts
of the answers under "reward_model" and "extra_info", `none` where there is none; `promptText` is
the text of its last message. -/
structure RolloutSample (V : ℕ) (Px : Type) extends Sample V Px where
  groundTruth : Option String
  extraAnswer : Option String
  promptText : String
  uid : String
  rewards : List ℚ

/-- `feedback` has the entries of the environment, `none` for one that is not a text. -/
structure RolloutBatch (V : ℕ) (Px : Type) where
  samples : List (RolloutSample V Px)
  imageColumns : List (String × ImageColumn Px)
  feedback : List (Option String)

def RolloutBatch.toBatch (batch : RolloutBatch V Px) : Batch V Px where
  samples := batch.samples.map (·.toSample)
  imageColumns := batch.imageColumns

/-! ## An answer hint -/

/-- The answer of a sample: its ground truth, or else the answer of its extra info. -/
def RolloutSample.answer (s : RolloutSample V Px) : Option String := s.groundTruth.or s.extraAnswer

/-- `has_answer`. -/
def RolloutSample.hasAnswer (s : RolloutSample V Px) : Bool := s.answer.any fun a => strip a != ""

/-- The content of the last message with the hint after it. -/
def hinted (content : Content Px) (hintSuffix : String) : Except TeacherError (Content Px) :=
  match content with
  | .items items => .ok (.items (items ++ [.text hintSuffix]))
  | .text text => .ok (.text (text ++ hintSuffix))
  | .other => .error (.typeError "Unsupported message content type")

/-- `_prepare_opsd_teacher_messages`. -/
def prepareOpsdTeacherMessages (rawPrompt : List (Message Px)) (answer : String)
    (hintTemplate : List Piece) : Except TeacherError (List (Message Px)) :=
  match rawPrompt.getLast? with
  | none => .error .indexError
  | some last => do
      let hintSuffix ← format hintTemplate [("answer", answer)]
      let content ← hinted last.content hintSuffix
      return rawPrompt.dropLast ++ [{ last with content := content }]

/-- The loop body of the mode: the row of a sample, and whether it has an answer. -/
def Trainer.hintRow (tr : Trainer V F Px) (cfg : BuilderConfig) (s : RolloutSample V Px) (i : ℕ) :
    Except TeacherError (PromptInputs V F × Bool) := do
  tr.raiseIfVisual s.toSample i
  let answer := if s.hasAnswer then s.answer.getD "" else ""
  let messages ← prepareOpsdTeacherMessages s.rawPrompt answer cfg.answerHintTemplate
  let inputs ← tr.buildTeacherPromptInputs messages s.response s.responseMask cfg.maxRepromptLen
  return (inputs, s.hasAnswer)

/-- The mode `use_opsd_answer_hint`. -/
def Trainer.buildAnswerHint [NeZero V] (tr : Trainer V F Px) (cfg : BuilderConfig)
    (batch : RolloutBatch V Px) : Except TeacherError (DistillBatch V F) := do
  let rows ← batch.samples.zipIdx.mapM fun e => tr.hintRow cfg e.1 e.2
  let tensors ← assemble tr.padTokenId (rows.map (·.1))
  let view : View V F := ⟨tensors, rows.map (·.2)⟩
  return ⟨view, none, [
    ("self_distillation/teacher_always_on_fraction", view.presentFraction),
    ("self_distillation/opsd_answer_hint_fraction", view.presentFraction),
    ("self_distillation/policy_fallback_fraction", 1 - view.presentFraction),
    ("self_distillation/grpo_fallback_count",
      (batch.samples.length : ℚ) - (Packing.count view.present : ℚ))]⟩

/-! ## A rewritten prompt -/

/-- The tokenizer on whole batches: `decode` of a response, and `apply_chat_template` with padding,
which gives the ids and the mask of each conversation. -/
structure Reprompter (V : ℕ) (Px : Type) where
  decode : List (Fin V) → String
  applyChatTemplate : List (List (Message Px)) → ℕ →
    Except TeacherError (List (List (Fin V) × List Bool))

/-- `_collect_feedback`. -/
def collectFeedback (includeEnvironmentFeedback : Bool) (rawFeedback : List (Option String))
    (i : ℕ) : Option String :=
  if includeEnvironmentFeedback then (rawFeedback[i]?.join).filter fun text => strip text != ""
  else none

/-- `_collect_solutions_by_uid`: the samples of a group that reach the threshold. -/
def collectSolutions (threshold : ℚ) (samples : List (RolloutSample V Px)) (uid : String) :
    List ℕ :=
  (samples.zipIdx.filter fun e => e.1.uid == uid && decide (threshold ≤ e.1.rewards.sum)).map (·.2)

/-- What comes after the first occurrence of the pattern. -/
def afterFirst (pattern : List Char) : List Char → Option (List Char)
  | [] => if pattern = [] then some [] else none
  | c :: cs =>
      if pattern.isPrefixOf (c :: cs) then some ((c :: cs).drop pattern.length)
      else afterFirst pattern cs

/-- `re.sub(r'<think>.*?</think>\s*', '', text, flags=re.DOTALL)`, at most `fuel` characters in. -/
def dropThinking : ℕ → List Char → List Char
  | 0, cs => cs
  | _ + 1, [] => []
  | fuel + 1, c :: cs =>
      if "<think>".toList.isPrefixOf (c :: cs) then
        match afterFirst "</think>".toList ((c :: cs).drop 7) with
        | some rest => dropThinking fuel (rest.dropWhile isSpace)
        | none => c :: cs
      else c :: dropThinking fuel cs

/-- `_remove_thinking_trace`. -/
def removeThinkingTrace (text : String) : String :=
  String.ofList (dropThinking text.toList.length text.toList)

/-- `_get_solution`. -/
def getSolution (rp : Reprompter V Px) (cfg : BuilderConfig) (samples : List (RolloutSample V Px))
    (s : RolloutSample V Px) (i : ℕ) : Option String :=
  let idxs := collectSolutions cfg.successRewardThreshold samples s.uid
  let idxs := if cfg.dontRepromptOnSelfSuccess then idxs.filter (· != i) else idxs
  (idxs.head?.bind (samples[·]?)).map fun found =>
    let text := rp.decode found.response
    if cfg.removeThinkingFromDemonstration then removeThinkingTrace text else text

/-- The feedback a sample uses. -/
def usedFeedback (cfg : BuilderConfig) (solution feedback : Option String) : Option String :=
  if cfg.environmentFeedbackOnlyWithoutSolution && solution.isSome then none else feedback

/-- `_build_teacher_message`. -/
def buildTeacherMessage (cfg : BuilderConfig) (s : RolloutSample V Px)
    (solution feedback : Option String) : Except TeacherError (List (Message Px)) := do
  let feedback := usedFeedback cfg solution feedback
  let solutionSection ← match solution with
    | some text => format cfg.solutionTemplate [("successful_previous_attempt", text)]
    | none => .ok ""
  let feedbackSection ← match feedback with
    | some text => format cfg.feedbackTemplate [("feedback_raw", text)]
    | none => .ok ""
  let repromptText ←
    if feedback.isSome || solution.isSome then
      format cfg.repromptTemplate
        [("prompt", s.promptText), ("solution", solutionSection), ("feedback", feedbackSection)]
    else .ok s.promptText
  return s.rawPrompt.dropLast ++ [⟨"user", .text repromptText⟩]

/-- A sample of the mode: its message, its solution, and its feedback as collected. -/
structure Reprompted (Px : Type) where
  messages : List (Message Px)
  solution : Option String
  feedback : Option String

def reprompt (rp : Reprompter V Px) (cfg : BuilderConfig) (batch : RolloutBatch V Px)
    (s : RolloutSample V Px) (i : ℕ) : Except TeacherError (Reprompted Px) := do
  let solution := getSolution rp cfg batch.samples s i
  let feedback := collectFeedback cfg.includeEnvironmentFeedback batch.feedback i
  let messages ← buildTeacherMessage cfg s solution feedback
  return ⟨messages, solution, feedback⟩

/-- The mask of a sample: it has a solution or uses feedback. -/
def Reprompted.present (cfg : BuilderConfig) (r : Reprompted Px) : Bool :=
  r.solution.isSome || (usedFeedback cfg r.solution r.feedback).isSome

/-- The mode without an always-on teacher. -/
def Trainer.buildReprompt (_tr : Trainer V F Px) (rp : Reprompter V Px) (cfg : BuilderConfig)
    (batch : RolloutBatch V Px) : Except TeacherError (DistillBatch V F) := do
  let n := batch.samples.length
  if batch.samples.any (·.rawPrompt.isEmpty) then throw .indexError
  let rows ← batch.samples.zipIdx.mapM fun e => reprompt rp cfg batch e.1 e.2
  let prompts ← rp.applyChatTemplate (rows.map (·.messages)) cfg.maxRepromptLen
  let attentionMask := List.zipWith (fun p s => p.2 ++ s.responseMask) prompts batch.samples
  let promptLength := maxLength (prompts.map (·.1))
  let inputIds := List.zipWith (fun p s => p.1 ++ s.response) prompts batch.samples
  let view : View V F := {
    tensors := {
      seqlen := maxLength inputIds
      channels := 1
      inputIds := inputIds
      attentionMask := attentionMask
      positionIds := attentionMask.map fun mask => (computePositionIdWithMask mask).map fun k => [k]
      responseStartIdx := List.replicate n promptLength
      multiModalInputs := List.replicate n [] }
    present := rows.map (·.present cfg) }
  let uids := (batch.samples.map (·.uid)).dedup
  let succeeded := uids.filter fun uid =>
    !(collectSolutions cfg.successRewardThreshold batch.samples uid).isEmpty
  return ⟨view, none, [
    ("self_distillation/success_group_fraction", (succeeded.length : ℚ) / uids.length),
    ("self_distillation/success_sample_fraction",
      ((rows.filter (·.solution.isSome)).length : ℚ) / n),
    ("self_distillation/feedback_available_fraction",
      ((rows.filter (·.feedback.isSome)).length : ℚ) / n),
    ("self_distillation/feedback_used_fraction",
      ((rows.filter fun r => (usedFeedback cfg r.solution r.feedback).isSome).length : ℚ) / n),
    ("self_distillation/reprompt_sample_fraction", view.presentFraction)]⟩

/-! ## The choice of the mode -/

/-- The three modes; an always-on teacher has the key of its image column. -/
inductive BuildMode where
  | answerHint
  | alwaysOn (teacherImageKey : String)
  | reprompt
  deriving DecidableEq, Repr

/-- `use_opsd_answer_hint` and `use_teacher_always_on_inputs`. -/
def buildMode (cfg : SelfDistillationConfig) : BuildMode :=
  if cfg.teacherAlwaysOn && cfg.teacherPromptMode == some "answer_hint" then .answerHint
  else if cfg.teacherAlwaysOn then
    match cfg.teacherImageKey with
    | some key => .alwaysOn key
    | none => .reprompt
  else .reprompt

/-- `_maybe_build_self_distillation_batch`. -/
def Trainer.maybeBuildSelfDistillationBatch [NeZero V] (tr : Trainer V F Px)
    (rp : Reprompter V Px) (cfg : BuilderConfig) (batch : RolloutBatch V Px) :
    Except TeacherError (Option (DistillBatch V F)) :=
  if cfg.lossMode ≠ "vopd" then .ok none
  else match buildMode cfg.distillation with
    | .answerHint => some <$> tr.buildAnswerHint cfg batch
    | .alwaysOn key => some <$> tr.buildTeacherAlwaysOn (cfg.viewConfig key) batch.toBatch
    | .reprompt => some <$> tr.buildReprompt rp cfg batch

section Modes

variable [NeZero V] {tr : Trainer V F Px} {rp : Reprompter V Px} {cfg : BuilderConfig}
  {batch : RolloutBatch V Px} {built : DistillBatch V F}

theorem map_some_eq_ok {ε α : Type} {x : Except ε α} {a : α}
    (h : some <$> x = .ok (some a)) : x = .ok a := by
  cases x with
  | error e => cases h
  | ok b =>
      cases h
      rfl

theorem buildAnswerHint_neg (h : tr.buildAnswerHint cfg batch = .ok built) :
    built.teacherNeg = none := by
  obtain ⟨_, -, h⟩ := except_bind_ok.mp h
  obtain ⟨_, -, h⟩ := except_bind_ok.mp h
  cases h
  rfl

omit [NeZero V] in
theorem buildReprompt_neg (h : tr.buildReprompt rp cfg batch = .ok built) :
    built.teacherNeg = none := by
  unfold Trainer.buildReprompt at h
  by_cases hempty : (batch.samples.any fun s => s.rawPrompt.isEmpty) = true
  · simp only [hempty, if_true] at h
    cases h
  · simp only [hempty] at h
    obtain ⟨_, -, h⟩ := except_bind_ok.mp h
    obtain ⟨_, -, h⟩ := except_bind_ok.mp h
    cases h
    rfl

theorem buildTeacherAlwaysOn_neg {view : ViewConfig} {b : Batch V Px}
    (h : tr.buildTeacherAlwaysOn view b = .ok built) :
    built.teacherNeg.isSome = true ↔ 0 < view.vdGamma := by
  obtain ⟨pos, -, h⟩ := except_bind_ok.mp h
  by_cases hgamma : 0 < view.vdGamma
  · simp only [hgamma, if_true] at h
    obtain ⟨neg, -, h⟩ := except_bind_ok.mp h
    cases h
    exact ⟨fun _ => hgamma, fun _ => rfl⟩
  · simp only [hgamma, if_false] at h
    cases h
    exact ⟨fun hneg => absurd hneg (by simp), fun hpositive => absurd hpositive hgamma⟩

/-- An always-on teacher builds from images unless it is given the answer. -/
theorem buildMode_alwaysOn {c : SelfDistillationConfig} (hcfg : c.Accepted)
    (hon : c.teacherAlwaysOn = true) (hmode : c.teacherPromptMode ≠ some "answer_hint") :
    ∃ key, buildMode c = .alwaysOn key := by
  have hkey := hcfg.teacherFacts.imageKey_of_alwaysOn hon hmode
  unfold buildMode
  rw [hon, if_neg (by simpa using hmode), if_pos rfl]
  cases e : c.teacherImageKey with
  | none => simp [e, Weights.truthy] at hkey
  | some key => exact ⟨key, rfl⟩

/-- Only the hint mode is built with the answer. -/
theorem promptMode_of_answerHint {c : SelfDistillationConfig} (h : buildMode c = .answerHint) :
    c.teacherPromptMode = some "answer_hint" := by
  unfold buildMode at h
  split at h
  · rename_i hboth
    simpa using (Bool.and_eq_true_iff.mp hboth).2
  · split at h
    · split at h <;> cases h
    · cases h

theorem promptMode_of_alwaysOn {c : SelfDistillationConfig} {key : String}
    (h : buildMode c = .alwaysOn key) : c.teacherPromptMode ≠ some "answer_hint" := by
  intro heq
  unfold buildMode at h
  rw [heq] at h
  split at h
  · cases h
  · rename_i hboth
    split at h
    · rename_i hon
      exact hboth (by simp [hon])
    · cases h

/-- Under an accepted config the batch has a negative view when `vd_gamma` is positive and the
teacher is not given the answer. -/
theorem maybeBuild_neg (hcfg : cfg.distillation.Accepted)
    (h : tr.maybeBuildSelfDistillationBatch rp cfg batch = .ok (some built)) :
    built.teacherNeg.isSome = true ↔
      0 < cfg.distillation.vdGamma ∧ cfg.distillation.teacherPromptMode ≠ some "answer_hint" := by
  unfold Trainer.maybeBuildSelfDistillationBatch at h
  split at h
  · cases h
  · cases hmode : buildMode cfg.distillation with
    | answerHint =>
        rw [hmode] at h
        rw [buildAnswerHint_neg (map_some_eq_ok h)]
        simp [promptMode_of_answerHint hmode]
    | alwaysOn key =>
        rw [hmode] at h
        rw [buildTeacherAlwaysOn_neg (map_some_eq_ok h)]
        exact ⟨fun hgamma => ⟨hgamma, promptMode_of_alwaysOn hmode⟩, fun hboth => hboth.1⟩
    | reprompt =>
        rw [hmode] at h
        rw [buildReprompt_neg (map_some_eq_ok h)]
        refine ⟨fun hnone => absurd hnone (by simp), ?_⟩
        rintro ⟨hgamma, hhint⟩
        obtain ⟨key, hkey⟩ :=
          buildMode_alwaysOn hcfg (hcfg.teacherFacts.alwaysOn_of_vdGamma hgamma) hhint
        rw [hkey] at hmode
        cases hmode

end Modes

end LookAway.Teacher
