/-
  Teacher inputs of verl/trainer/ppo/ray_trainer.py: the tokens, masks and positions of the
  positive and the negative view of each sample (`buildTeacherAlwaysOn`, `buildNegTeacherInputs`).

  A row is the prompt of its view followed by the response; rows are padded on the right to the
  longest of their view. The processor, the tokenizer and PIL are parameters (`Trainer`).
-/
import LookAway.Teacher.Messages
import LookAway.Base.Packing
import Mathlib.Algebra.GroupWithZero.Nat
import Mathlib.Data.Rat.Defs

namespace LookAway.Teacher

open LookAway.Base LookAway.Base.Packing

variable {V : ℕ} {F Px : Type}

/-! ## Position ids -/

/-- The position ids of a row, token by token; `channels` is 1 for text positions, and 3 or 4 for
the channels of a multimodal rope. -/
structure PositionIds where
  channels : ℕ
  ids : List (List ℤ)
  shape : ∀ p ∈ ids, p.length = channels

namespace PositionIds

/-- One channel. -/
def ofText (ids : List ℤ) : PositionIds where
  channels := 1
  ids := ids.map fun k => [k]
  shape := by simp

/-- `torch.cat((text_position_ids, position_ids), dim=0)`. -/
def prepend (text : List ℤ) (p : PositionIds) : PositionIds where
  channels := p.channels + 1
  ids := List.zipWith List.cons text p.ids
  shape := by
    intro q hq
    obtain ⟨i, hi, rfl⟩ := List.getElem_of_mem hq
    rw [List.getElem_zipWith, List.length_cons, p.shape _ (List.getElem_mem _)]

/-- The positions of `n` response tokens: they count on from the last one of the prompt. -/
def following (last : List ℤ) (n : ℕ) : List (List ℤ) :=
  (List.range n).map fun k : ℕ => last.map fun c => k + c + 1

theorem length_of_mem_following {last p : List ℤ} {n : ℕ} (h : p ∈ following last n) :
    p.length = last.length := by
  obtain ⟨k, -, rfl⟩ := List.mem_map.mp h
  simp

theorem length_following (last : List ℤ) (n : ℕ) : (following last n).length = n := by
  simp [following]

theorem take_following (last : List ℤ) {t n : ℕ} (h : t ≤ n) :
    (following last n).take t = following last t := by
  unfold following
  rw [← List.map_take, List.take_range, Nat.min_eq_left h]

/-- The positions of the prompt and of `n` response tokens. -/
def extend (p : PositionIds) (last : List ℤ) (hlast : last ∈ p.ids) (n : ℕ) : PositionIds where
  channels := p.channels
  ids := p.ids ++ following last n
  shape := by
    intro q hq
    rcases List.mem_append.mp hq with hq | hq
    · exact p.shape q hq
    · rw [length_of_mem_following hq, p.shape last hlast]

end PositionIds

/-- `compute_position_id_with_mask` on one row. -/
def computePositionIdWithMask (mask : List Bool) : List ℤ :=
  (List.range mask.length).map fun k => max (count (mask.take (k + 1)) - 1 : ℤ) 0

/-! ## The trainer -/

/-- What the processor or the tokenizer returns for one prompt; `features` are the visual inputs,
one for each visual token. -/
structure Processed (V : ℕ) (F : Type) where
  inputIds : List (Fin V)
  attentionMask : List Bool
  features : List F

/-- A processor; `getRopeIndex` is `none` where it has no such method, and its result has no batch
dimension. -/
structure Processor (V : ℕ) (F Px : Type) where
  applyChatTemplate : List (Message Px) → String
  call : String → List Px → ℕ → Except TeacherError (Processed V F)
  getRopeIndex : Option (Processed V F → Except TeacherError PositionIds)
  /-- `processor_model_type in {"qwen3_5", "qwen3_5_moe", "qwen3_vl", "qwen3_vl_moe"}`. -/
  isQwen3 : Bool
  /-- `_needs_qwen2_5_vl_teacher_position_ids_compat`. -/
  needsQwen25Compat : Bool

structure Trainer (V : ℕ) (F Px : Type) where
  pil : Pil Px
  processor : Option (Processor V F Px)
  tokenize : List (Message Px) → ℕ → Except TeacherError (List (Fin V) × List Bool)
  padTokenId : Option (Fin V)
  /-- `_get_visual_special_token_mappings`. -/
  visualSpecialTokens : List (Fin V × String)

/-- `_maybe_expand_qwen2_5_vl_prompt_position_ids`: the valid tokens count, the others get 1. -/
def maybeExpandQwen25 (proc : Processor V F Px) (p : PositionIds) (mask : List Bool) :
    PositionIds :=
  if proc.needsQwen25Compat && p.channels == 3 then
    p.prepend ((List.range mask.length).map fun k =>
      if mask[k]? = some true then (count (mask.take k) : ℤ) else 1)
  else p

/-- The position ids of a prompt that the processor has read. -/
def Processor.promptPositionIds (proc : Processor V F Px) (out : Processed V F) :
    Except TeacherError PositionIds :=
  match proc.getRopeIndex with
  | none => .ok (.ofText (computePositionIdWithMask out.attentionMask))
  | some getRopeIndex => do
      let p ← getRopeIndex out
      let p := if proc.isQwen3 && p.channels == 3 then
          p.prepend ((List.range out.inputIds.length).map fun k : ℕ => (k : ℤ))
        else p
      return maybeExpandQwen25 proc p out.attentionMask

/-- A prompt with its positions. -/
structure Prompt (V : ℕ) (F : Type) where
  inputIds : List (Fin V)
  attentionMask : List Bool
  positionIds : PositionIds
  features : List F

/-- The first part of `_build_teacher_prompt_inputs`: the messages as tokens. -/
def Trainer.prompt (tr : Trainer V F Px) (messages : List (Message Px)) (maxPromptLen : ℕ) :
    Except TeacherError (Prompt V F) :=
  match tr.processor with
  | some proc => do
      let images ← extractImagesFromMessages tr.pil messages
      let out ← proc.call (proc.applyChatTemplate messages) images maxPromptLen
      let positionIds ← proc.promptPositionIds out
      return ⟨out.inputIds, out.attentionMask, positionIds, out.features⟩
  | none => do
      let (inputIds, attentionMask) ← tr.tokenize messages maxPromptLen
      return ⟨inputIds, attentionMask, .ofText (computePositionIdWithMask attentionMask), []⟩

/-- What `_build_teacher_prompt_inputs` returns. -/
structure PromptInputs (V : ℕ) (F : Type) where
  inputIds : List (Fin V)
  attentionMask : List Bool
  positionIds : PositionIds
  responseStartIdx : ℕ
  multiModalInputs : List F

/-- The second part: the prompt, then the response. -/
def Prompt.withResponse (p : Prompt V F) (response : List (Fin V)) (responseMask : List Bool) :
    Except TeacherError (PromptInputs V F) :=
  match h : p.positionIds.ids.getLast? with
  | none => .error .indexError -- `prompt_position_ids[-1]` of an empty prompt
  | some last => .ok {
      inputIds := p.inputIds ++ response
      attentionMask := p.attentionMask ++ responseMask
      positionIds := p.positionIds.extend last (List.mem_of_getLast? h) response.length
      responseStartIdx := p.inputIds.length
      multiModalInputs := p.features }

/-- `_build_teacher_prompt_inputs`. -/
def Trainer.buildTeacherPromptInputs (tr : Trainer V F Px) (messages : List (Message Px))
    (response : List (Fin V)) (responseMask : List Bool) (maxPromptLen : ℕ) :
    Except TeacherError (PromptInputs V F) := do
  let p ← tr.prompt messages maxPromptLen
  p.withResponse response responseMask

/-! ## Samples -/

/-- A sample of the batch, with what its rollout has produced. -/
structure Sample (V : ℕ) (Px : Type) where
  response : List (Fin V)
  responseMask : List Bool
  rawPrompt : List (Message Px)
  /-- `none` where the batch has no column "teacher_prompt". -/
  teacherPrompt : Option (List (Message Px))

/-- An image column of `non_tensor_batch`; `none` is `None`. -/
abbrev ImageColumn (Px : Type) := List (Option (List (TeacherImage Px)))

structure Batch (V : ℕ) (Px : Type) where
  samples : List (Sample V Px)
  imageColumns : List (String × ImageColumn Px)

/-- `_raise_if_response_contains_visual_special_tokens`. -/
def Trainer.raiseIfVisual (tr : Trainer V F Px) (s : Sample V Px) (sampleIdx : ℕ) :
    Except TeacherError Unit :=
  let bad := (kept s.responseMask s.response).zipIdx.filterMap fun e =>
    (tr.visualSpecialTokens.lookup e.1).map fun name => (e.2, e.1.val, name)
  if bad.isEmpty then .ok () else .error (.visualTokens sampleIdx bad)

/-- The images of a view of a sample, and whether the column has them. Without them `missing` may
raise, and the images of the prompt are taken. -/
def Trainer.viewImages (tr : Trainer V F Px) (column : ImageColumn Px)
    (missing : ℕ → Except TeacherError Unit) (s : Sample V Px) (i : ℕ) :
    Except TeacherError (List (TeacherImage Px) × Bool) := do
  let images := (column[i]?.join).getD []
  if teacherImagesAvailable images then
    return (images, true)
  else
    missing i
    let own ← extractImagesFromMessages tr.pil s.rawPrompt
    return (own.map .decoded, false)

/-- The loop body of both builders: the row of a view of a sample, and whether the column has its
images. -/
def Trainer.viewRow (tr : Trainer V F Px) (maxRepromptLen : ℕ) (column : ImageColumn Px)
    (missing : ℕ → Except TeacherError Unit) (s : Sample V Px) (i : ℕ) :
    Except TeacherError (PromptInputs V F × Bool) := do
  tr.raiseIfVisual s i
  let (images, present) ← tr.viewImages column missing s i
  let messages ← prepareTeacherMessages tr.pil s.rawPrompt images s.teacherPrompt
  let inputs ← tr.buildTeacherPromptInputs messages s.response s.responseMask maxRepromptLen
  return (inputs, present)

/-- The prompt of that row. -/
def Trainer.viewPrompt (tr : Trainer V F Px) (maxRepromptLen : ℕ) (column : ImageColumn Px)
    (missing : ℕ → Except TeacherError Unit) (s : Sample V Px) (i : ℕ) :
    Except TeacherError (Prompt V F) := do
  let (images, _) ← tr.viewImages column missing s i
  let messages ← prepareTeacherMessages tr.pil s.rawPrompt images s.teacherPrompt
  tr.prompt messages maxRepromptLen

/-- A row is its prompt, then the response. -/
theorem viewRow_ok {tr : Trainer V F Px} {maxRepromptLen : ℕ} {column : ImageColumn Px}
    {missing : ℕ → Except TeacherError Unit} {s : Sample V Px} {i : ℕ} {x : PromptInputs V F}
    {present : Bool} (h : tr.viewRow maxRepromptLen column missing s i = .ok (x, present)) :
    tr.raiseIfVisual s i = .ok () ∧
      ∃ p, tr.viewPrompt maxRepromptLen column missing s i = .ok p ∧
        p.withResponse s.response s.responseMask = .ok x := by
  obtain ⟨_, hcheck, h⟩ := except_bind_ok.mp h
  obtain ⟨⟨images, _⟩, himages, h⟩ := except_bind_ok.mp h
  obtain ⟨messages, hmessages, h⟩ := except_bind_ok.mp h
  obtain ⟨inputs, hinputs, h⟩ := except_bind_ok.mp h
  obtain ⟨p, hp, hx⟩ := except_bind_ok.mp hinputs
  cases h
  exact ⟨hcheck, p,
    except_bind_ok.mpr ⟨_, himages, except_bind_ok.mpr ⟨messages, hmessages, hp⟩⟩, hx⟩

theorem viewPrompt_ok {tr : Trainer V F Px} {maxRepromptLen : ℕ} {column : ImageColumn Px}
    {missing : ℕ → Except TeacherError Unit} {s : Sample V Px} {i : ℕ} {p : Prompt V F}
    (h : tr.viewPrompt maxRepromptLen column missing s i = .ok p) :
    ∃ images messages,
      prepareTeacherMessages tr.pil s.rawPrompt images s.teacherPrompt = .ok messages ∧
        tr.prompt messages maxRepromptLen = .ok p := by
  obtain ⟨⟨images, _⟩, -, h⟩ := except_bind_ok.mp h
  obtain ⟨messages, hmessages, h⟩ := except_bind_ok.mp h
  exact ⟨images, messages, hmessages, h⟩

/-! ## Batches -/

/-- The teacher tensors of a view. -/
structure TeacherTensors (V : ℕ) (F : Type) where
  seqlen : ℕ
  channels : ℕ
  inputIds : List (List (Fin V))
  attentionMask : List (List Bool)
  positionIds : List (List (List ℤ))
  responseStartIdx : List ℕ
  multiModalInputs : List (List F)

/-- `xs` with `value` on its right, up to the length `n`. -/
def padTo {α : Type} (value : α) (n : ℕ) (xs : List α) : List α :=
  xs ++ List.replicate (n - xs.length) value

/-- The length of the longest row. -/
def maxLength {α : Type} (rows : List (List α)) : ℕ := (rows.map List.length).foldr max 0

/-- `torch.nn.utils.rnn.pad_sequence(rows, batch_first=True, padding_value=value)`. -/
def padSequence {α : Type} (value : α) (rows : List (List α)) : List (List α) :=
  rows.map (padTo value (maxLength rows))

/-- A row of `teacher_position_ids`: zeros, overwritten by the position ids, whose channels are
broadcast where there is one. -/
def placePositions (channels maxTeacherLen : ℕ) (p : PositionIds) :
    Except TeacherError (List (List ℤ)) :=
  if maxTeacherLen < p.ids.length then .error .runtimeError
  else if p.channels = channels then
    .ok (padTo (List.replicate channels 0) maxTeacherLen p.ids)
  else if p.channels = 1 then
    .ok (padTo (List.replicate channels 0) maxTeacherLen
      (p.ids.map fun q => List.replicate channels (q.headD 0)))
  else .error .runtimeError

/-- The rows of a view as tensors. -/
def assemble [NeZero V] (padTokenId : Option (Fin V)) (rows : List (PromptInputs V F)) :
    Except TeacherError (TeacherTensors V F) :=
  match rows with
  | [] => .error .runtimeError
  | first :: _ => do
      let seqlen := maxLength (rows.map (·.inputIds))
      let channels := first.positionIds.channels
      let positionIds ← rows.mapM fun row => placePositions channels seqlen row.positionIds
      return {
        seqlen := seqlen
        channels := channels
        inputIds := padSequence (padTokenId.getD 0) (rows.map (·.inputIds))
        attentionMask := padSequence false (rows.map (·.attentionMask))
        positionIds := positionIds
        responseStartIdx := rows.map (·.responseStartIdx)
        multiModalInputs := rows.map (·.multiModalInputs) }

/-- A view: its tensors, and which samples have images of their own in its column. -/
structure View (V : ℕ) (F : Type) where
  tensors : TeacherTensors V F
  present : List Bool

/-- The construction that both builders share. -/
def Trainer.buildView [NeZero V] (tr : Trainer V F Px) (maxRepromptLen : ℕ)
    (column : ImageColumn Px) (missing : ℕ → Except TeacherError Unit)
    (samples : List (Sample V Px)) : Except TeacherError (View V F) := do
  let rows ← samples.zipIdx.mapM fun e => tr.viewRow maxRepromptLen column missing e.1 e.2
  let tensors ← assemble tr.padTokenId (rows.map (·.1))
  return ⟨tensors, rows.map (·.2)⟩

/-- The settings of `self_distillation` that the builders read. -/
structure ViewConfig where
  teacherImageKey : String
  teacherNegImageKey : Option String := none
  maxRepromptLen : ℕ
  fallbackToPolicyLossOnMissingTeacher : Bool := false
  vdGamma : ℚ := 0

/-- A column of the batch under a configured key. -/
def Batch.column (batch : Batch V Px) (name key : String) :
    Except TeacherError (ImageColumn Px) :=
  match batch.imageColumns.lookup key with
  | some column => .ok column
  | none => .error (.keyError s!"{name} `{key}` not found in batch.non_tensor_batch")

/-- A sample without images of the positive view. -/
def missingTeacherImages (cfg : ViewConfig) (i : ℕ) : Except TeacherError Unit :=
  if cfg.fallbackToPolicyLossOnMissingTeacher then .ok ()
  else .error (.valueError (
    s!"Teacher image key `{cfg.teacherImageKey}` is empty for sample {i}, " ++
    "but fallback_to_policy_loss_on_missing_teacher=False."))

/-- A sample without images of the negative view: `vd_neg_view_mask` leaves it at weight 1. -/
def missingNegImages (_i : ℕ) : Except TeacherError Unit := .ok ()

/-- The fraction of the samples with images of their own. -/
def View.presentFraction (view : View V F) : ℚ := (count view.present : ℚ) / view.present.length

/-- The positive view: the branch `use_teacher_always_on_inputs`. -/
def Trainer.buildPosTeacherInputs [NeZero V] (tr : Trainer V F Px) (cfg : ViewConfig)
    (batch : Batch V Px) : Except TeacherError (View V F) := do
  let column ← batch.column "Teacher image key" cfg.teacherImageKey
  tr.buildView cfg.maxRepromptLen column (missingTeacherImages cfg) batch.samples

/-- `_build_neg_teacher_inputs`. -/
def Trainer.buildNegTeacherInputs [NeZero V] (tr : Trainer V F Px) (cfg : ViewConfig)
    (batch : Batch V Px) : Except TeacherError (View V F) :=
  match cfg.teacherNegImageKey with
  | none => .error (.valueError "vd_gamma > 0 requires self_distillation.teacher_neg_image_key.")
  | some key => do
      let column ← batch.column "Teacher neg image key" key
      tr.buildView cfg.maxRepromptLen column missingNegImages batch.samples

/-- The distillation batch: the tensors of both views with their masks, and the metrics. -/
structure DistillBatch (V : ℕ) (F : Type) where
  teacher : View V F
  teacherNeg : Option (View V F)
  metrics : List (String × ℚ)

/-- `_maybe_build_self_distillation_batch` with `teacher_always_on` and a `teacher_image_key`. -/
def Trainer.buildTeacherAlwaysOn [NeZero V] (tr : Trainer V F Px) (cfg : ViewConfig)
    (batch : Batch V Px) : Except TeacherError (DistillBatch V F) := do
  let pos ← tr.buildPosTeacherInputs cfg batch
  let metrics := [
    ("self_distillation/teacher_always_on_fraction", pos.presentFraction),
    ("self_distillation/teacher_image_swap_fraction", pos.presentFraction),
    ("self_distillation/policy_fallback_fraction", 1 - pos.presentFraction),
    ("self_distillation/grpo_fallback_count",
      (batch.samples.length : ℚ) - (count pos.present : ℚ))]
  if 0 < cfg.vdGamma then
    let neg ← tr.buildNegTeacherInputs cfg batch
    return ⟨pos, some neg,
      metrics ++ [("self_distillation/lookaway/neg_image_fraction", neg.presentFraction)]⟩
  else
    return ⟨pos, none, metrics⟩

/-- A batch that is built has its positive view, and its negative view when `vd_gamma` is
    positive. -/
theorem buildTeacherAlwaysOn_ok [NeZero V] {tr : Trainer V F Px} {cfg : ViewConfig}
    {batch : Batch V Px} {built : DistillBatch V F}
    (h : tr.buildTeacherAlwaysOn cfg batch = .ok built) :
    tr.buildPosTeacherInputs cfg batch = .ok built.teacher ∧
      (0 < cfg.vdGamma → ∃ neg, built.teacherNeg = some neg ∧
        tr.buildNegTeacherInputs cfg batch = .ok neg) := by
  obtain ⟨pos, hpos, h⟩ := except_bind_ok.mp h
  by_cases hgamma : 0 < cfg.vdGamma
  · simp only [hgamma, if_true] at h
    obtain ⟨neg, hneg, h⟩ := except_bind_ok.mp h
    cases h
    exact ⟨hpos, fun _ => ⟨neg, rfl, hneg⟩⟩
  · simp only [hgamma, if_false] at h
    cases h
    exact ⟨hpos, fun hpositive => absurd hpositive hgamma⟩

end LookAway.Teacher
