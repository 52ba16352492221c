/-
  The state machine of verl/experimental/agent_loop/tool_agent_loop.py: an answer of the server, the
  replies of its tools or of its user, the next answer. Parameters: the server, the tools, the
  interaction, the processor and the tokenizer (`Environment`). Left out: routed experts, the
  metrics, and the look-up of an interaction by its name.

  `toolAgentLoop_tokens`: the loop ends, and the only errors are those of its surroundings
  (`Raised`); a token with mask 1 is what the server gave after exactly the tokens before it, with
  the log-probability that the server gave, and one with mask 0 is a reply. `toolAgent_oldLogProbs`:
  the log-probabilities of the training are over these same contexts.
-/
import LookAway.Base.Loop
import LookAway.Training.Balance

namespace LookAway.Training

open LookAway.Base LookAway.Base.Packing LookAway.Teacher

/-! ## The source -/

/-- `AgentState`. -/
inductive AgentState where
  | pending
  | generating
  | processingTools
  | interacting
  | terminated
  deriving DecidableEq, Repr

/-- `TokenOutput`; a server that gives no log-probabilities gives the empty list here. -/
structure TokenOutput (V : ℕ) (S : Type) where
  tokenIds : List (Fin V)
  logProbs : List S

structure FunctionCall where
  name : String
  arguments : String
  deriving DecidableEq, Repr

/-- `ToolResponse`: a single image is a list of one. -/
structure ToolResponse (I : Type) where
  text : Option String
  image : List (Option I)
  video : Bool

/-- An entry of a content list. -/
inductive ContentItem where
  | image
  | text (text : String)
  deriving DecidableEq, Repr

/-- A message after those of the prompt. -/
inductive Message where
  | assistant (content : String)
  | user (content : String)
  | toolText (content : String)
  | tool (content : List ContentItem)
  deriving DecidableEq, Repr

/-- `AgentData`; `added` are the messages after those of the prompt. -/
structure AgentData (V : ℕ) (S I : Type) where
  added : List Message
  imageData : Option (List I)
  promptIds : List (Fin V)
  responseIds : List (Fin V)
  responseMask : List ℕ
  responseLogprobs : List S
  turnScores : List S
  toolRewards : List S
  userTurns : ℕ
  assistantTurns : ℕ
  toolCalls : List FunctionCall

/-- The `multi_turn` configuration, the lengths and the truncation. -/
structure MultiTurnConfig where
  maxUserTurns : Option ℕ
  maxAssistantTurns : Option ℕ
  maxParallelCalls : ℕ
  maxToolResponseLength : ℕ
  toolResponseTruncateSide : String
  isGptOss : Bool
  hasInteraction : Bool
  hasImageProcessor : Bool
  promptLength : Option ℕ
  responseLength : ℕ
  truncation : String

/-- What is not under the control of the loop. The messages of the prompt are an `E`. -/
structure Environment (V : ℕ) (S E I W : Type) where
  processVisionInfo : E → Option (List I) × Option W
  encodePrompt : E → Option (List I) → Option W → List (Fin V)
  encodeMessages : List Message → Option (List I) → List (Fin V)
  systemPromptLength : ℕ
  encodeToolText : List Message → List String → List (Fin V)
  decode : List (Fin V) → String
  generate : E → Option W → AgentData V S I → Except TrainingError (TokenOutput V S)
  extractToolCalls : List (Fin V) → List FunctionCall
  callTool : AgentData V S I → FunctionCall → Except String (ToolResponse I × Option S)
  interact : E → AgentData V S I → Except TrainingError (Bool × String × Option S)
  multiModalData : Option (List I) → Option W → E
  scores : List S → E

/-- `xs[-n:]`: all of `xs` for `n = 0`. -/
def lastItems {α : Type} (n : ℕ) (xs : List α) : List α :=
  if n = 0 then xs else xs.drop (xs.length - n)

/-- `_truncate_prompt_ids`. -/
def truncatePromptIds {α : Type} (cfg : MultiTurnConfig) (promptIds : List α) :
    Except TrainingError (List α) :=
  match cfg.promptLength with
  | none => .ok promptIds
  | some maxPromptLength =>
      if promptIds.length ≤ maxPromptLength then .ok promptIds
      else if cfg.truncation = "left" then .ok (lastItems maxPromptLength promptIds)
      else if cfg.truncation = "right" then .ok (promptIds.take maxPromptLength)
      else if cfg.truncation = "middle" then
        let leftHalf := maxPromptLength / 2
        .ok (promptIds.take leftHalf ++ lastItems (maxPromptLength - leftHalf) promptIds)
      else if cfg.truncation = "error" then .error .runtimeError
      else .error (.notImplementedError s!"Unknown truncation method {cfg.truncation}")

/-- The text of a tool, cut. -/
def truncateToolText (cfg : MultiTurnConfig) (text : String) : String :=
  let chars := text.toList
  let n := cfg.maxToolResponseLength
  if chars.length ≤ n then text
  else if cfg.toolResponseTruncateSide = "left" then
    String.ofList (chars.take n) ++ "...(truncated)"
  else if cfg.toolResponseTruncateSide = "right" then
    "(truncated)..." ++ String.ofList (lastItems n chars)
  else
    String.ofList (chars.take (n / 2)) ++ "...(truncated)..." ++
      String.ofList (lastItems (n / 2) chars)

/-- `if limit and limit <= turns`. -/
def reached (limit : Option ℕ) (turns : ℕ) : Bool :=
  match limit with
  | none => false
  | some n => n ≠ 0 ∧ n ≤ turns

/-- The message of a tool's response. -/
def toolMessage {I : Type} (cfg : MultiTurnConfig) (response : ToolResponse I) :
    Except TrainingError Message := do
  if response.image ≠ [] ∨ response.video then
    raiseIf (cfg.hasImageProcessor = false) (.valueError
      ("Multimedia data can only be processed by `processor`, but the processor is None. " ++
        "This error is often caused if you are using a LLM model but your tool returns " ++
        "multimodal " ++
        "data. Plase use a vlm as the base model."))
    -- raised below, when the message is already built
    raiseIf response.video (.notImplementedError
      "Multimedia type 'video' is not currently supported. Only 'image' is supported.")
    let text := response.text.getD ""
    return .tool ([.image] ++ if text = "" then [] else [.text text])
  else return .toolText (response.text.getD "")

section Source

variable {V : ℕ} {S E I W : Type}

/-- `_call_tool`. -/
def callTool [Zero S] (cfg : MultiTurnConfig) (env : Environment V S E I W) (d : AgentData V S I)
    (call : FunctionCall) : ToolResponse I × Option S :=
  match env.callTool d call with
  | .error e => (⟨some s!"Error when executing tool: {e}", [], false⟩, some 0)
  | .ok (response, reward) =>
      ({ response with text := response.text.map (truncateToolText cfg) }, reward)

/-- `apply_chat_template(..., remove_system_prompt=True)`. -/
def applyChatTemplate (cfg : MultiTurnConfig) (env : Environment V S E I W)
    (messages : List Message)
    (images : Option (List I)) : Except TrainingError (List (Fin V)) :=
  truncatePromptIds cfg ((env.encodeMessages messages images).drop env.systemPromptLength)

/-- `_handle_pending_state`. -/
def handlePendingState (cfg : MultiTurnConfig) (env : Environment V S E I W) (rawPrompt : E)
    (d : AgentData V S I) : Except TrainingError (AgentState × AgentData V S I) := do
  let videoData := (env.processVisionInfo rawPrompt).2
  let promptIds ← truncatePromptIds cfg (env.encodePrompt rawPrompt d.imageData videoData)
  return (.generating, { d with promptIds := promptIds })

/-- The answer of the server, at the end of the response. -/
def AgentData.answer (d : AgentData V S I) (output : TokenOutput V S) : AgentData V S I :=
  { d with
    assistantTurns := d.assistantTurns + 1
    responseIds := output.tokenIds
    promptIds := d.promptIds ++ output.tokenIds
    responseMask := d.responseMask ++ List.replicate output.tokenIds.length 1
    responseLogprobs := d.responseLogprobs ++ output.logProbs }

/-- The tokens of a reply, at the end of the response. -/
def AgentData.reply [Zero S] (d : AgentData V S I) (responseIds : List (Fin V)) : AgentData V S I :=
  { d with
    promptIds := d.promptIds ++ responseIds
    responseMask := d.responseMask ++ List.replicate responseIds.length 0
    responseLogprobs := if d.responseLogprobs.isEmpty then d.responseLogprobs
      else d.responseLogprobs ++ List.replicate responseIds.length 0 }

/-- `_handle_generating_state`. -/
def handleGeneratingState (cfg : MultiTurnConfig) (env : Environment V S E I W) (rawPrompt : E)
    (d : AgentData V S I) : Except TrainingError (AgentState × AgentData V S I) := do
  let output ← env.generate rawPrompt (env.processVisionInfo rawPrompt).2 d
  let d := d.answer output
  if cfg.responseLength ≤ d.responseMask.length ∨ reached cfg.maxAssistantTurns d.assistantTurns ∨
      reached cfg.maxUserTurns d.userTurns then return (.terminated, d)
  let toolCalls := env.extractToolCalls output.tokenIds
  let d := { d with
    toolCalls := toolCalls
    added := if cfg.hasInteraction then d.added ++ [.assistant (env.decode output.tokenIds)]
      else d.added }
  return (if toolCalls ≠ [] then .processingTools
    else if cfg.hasInteraction then .interacting else .terminated, d)

/-- The tokens of the tools' messages. -/
def toolResponseIds (cfg : MultiTurnConfig) (env : Environment V S E I W)
    (addMessages : List Message)
    (toolCallNames : List String) (newImages : List I) : Except TrainingError (List (Fin V)) :=
  if cfg.isGptOss then .ok (env.encodeToolText addMessages toolCallNames)
  else applyChatTemplate cfg env addMessages (some newImages)

/-- `_handle_processing_tools_state`. -/
def handleProcessingToolsState [Zero S] (cfg : MultiTurnConfig) (env : Environment V S E I W)
    (d : AgentData V S I) : Except TrainingError (AgentState × AgentData V S I) := do
  let calls := d.toolCalls.take cfg.maxParallelCalls
  let responses := calls.map (callTool cfg env d)
  let addMessages ← responses.mapM fun r => toolMessage cfg r.1
  let newImages := responses.flatMap fun r => r.1.image.reduceOption
  let d := { d with
    toolRewards := d.toolRewards ++ responses.filterMap (·.2)
    added := d.added ++ addMessages }
  let responseIds ← toolResponseIds cfg env addMessages (calls.map (·.name)) newImages
  if cfg.responseLength ≤ d.responseMask.length + responseIds.length then return (.terminated, d)
  let d := { d with
    imageData := if newImages.isEmpty then d.imageData else some (d.imageData.getD [] ++ newImages)
    userTurns := d.userTurns + 1 }
  return (.generating, d.reply responseIds)

/-- `_handle_interacting_state`. -/
def handleInteractingState [Zero S] (cfg : MultiTurnConfig) (env : Environment V S E I W)
    (rawPrompt : E) (d : AgentData V S I) :
    Except TrainingError (AgentState × AgentData V S I) := do
  let (shouldTerminateSequence, text, reward) ← env.interact rawPrompt d
  let d := { d with
    userTurns := d.userTurns + 1
    added := d.added ++ [Message.user text]
    turnScores := d.turnScores ++ reward.toList }
  let responseIds ← applyChatTemplate cfg env [Message.user text] none
  return (if shouldTerminateSequence then .terminated else .generating, d.reply responseIds)

/-- A round of the loop. -/
def agentStep [Zero S] (cfg : MultiTurnConfig) (env : Environment V S E I W) (rawPrompt : E) :
    AgentState → AgentData V S I → Except TrainingError (AgentState × AgentData V S I)
  | .pending, d => handlePendingState cfg env rawPrompt d
  | .generating, d => handleGeneratingState cfg env rawPrompt d
  | .processingTools, d => handleProcessingToolsState cfg env d
  | .interacting, d => handleInteractingState cfg env rawPrompt d
  | .terminated, d => .ok (.terminated, d)

/-- The body of the loop: it ends in `terminated`, or with an error. -/
def agentBody [Zero S] (cfg : MultiTurnConfig) (env : Environment V S E I W) (rawPrompt : E) :
    Except TrainingError (AgentState × AgentData V S I) →
      Option (Except TrainingError (AgentState × AgentData V S I))
  | .error _ => none
  | .ok (.terminated, _) => none
  | .ok (state, d) => some (agentStep cfg env rawPrompt state d)

/-- The data before the first round. -/
def initialData (env : Environment V S E I W) (rawPrompt : E) : AgentData V S I where
  added := []
  imageData := (env.processVisionInfo rawPrompt).1
  promptIds := []
  responseIds := []
  responseMask := []
  responseLogprobs := []
  turnScores := []
  toolRewards := []
  userTurns := 0
  assistantTurns := 0
  toolCalls := []

/-- "Finalize output". -/
def finalizeOutput (cfg : MultiTurnConfig) (env : Environment V S E I W) (rawPrompt : E)
    (d : AgentData V S I) : AgentLoopOutput V S E where
  promptIds := d.promptIds.take (d.promptIds.length - d.responseMask.length)
  responseIds := (lastItems d.responseMask.length d.promptIds).take cfg.responseLength
  responseMask := d.responseMask.take cfg.responseLength
  responseLogprobs := if d.responseLogprobs.isEmpty then none
    else some (d.responseLogprobs.take cfg.responseLength)
  rewardScore := none
  numTurns := d.userTurns + d.assistantTurns + 1
  multiModalData := env.multiModalData d.imageData (env.processVisionInfo rawPrompt).2
  extraFields := [("turn_scores", env.scores d.turnScores),
    ("tool_rewards", env.scores d.toolRewards)]

/-- `ToolAgentLoop.run`, if its loop ends within `rounds` rounds. -/
def toolAgentLoop [Zero S] (cfg : MultiTurnConfig) (env : Environment V S E I W) (rounds : ℕ)
    (rawPrompt : E) : Option (Except TrainingError (AgentLoopOutput V S E)) :=
  (Loop.rounds (agentBody cfg env rawPrompt) rounds
    (.ok (.pending, initialData env rawPrompt))).map
      (·.map fun s => finalizeOutput cfg env rawPrompt s.2)

end Source

/-! ## What a step does -/

section Steps

variable {V : ℕ} {S E I W : Type} {cfg : MultiTurnConfig} {env : Environment V S E I W}
  {rawPrompt : E} {d d' : AgentData V S I} {state : AgentState}

/-- What ends the loop with an error: the server, a text that the truncation does not accept, the
    response of a tool, the interaction. -/
inductive Raised (cfg : MultiTurnConfig) (env : Environment V S E I W) (rawPrompt : E) :
    TrainingError → Prop
  | server {d : AgentData V S I} {e : TrainingError}
      (h : env.generate rawPrompt (env.processVisionInfo rawPrompt).2 d = .error e) :
      Raised cfg env rawPrompt e
  | truncation {ids : List (Fin V)} {e : TrainingError} (h : truncatePromptIds cfg ids = .error e) :
      Raised cfg env rawPrompt e
  | tool [Zero S] {d : AgentData V S I} {call : FunctionCall} {e : TrainingError}
      (h : toolMessage cfg (callTool cfg env d call).1 = .error e) : Raised cfg env rawPrompt e
  | interaction {d : AgentData V S I} {e : TrainingError}
      (h : env.interact rawPrompt d = .error e) :
      Raised cfg env rawPrompt e

/-- A round has no errors of its own. -/
theorem raised_of_agentStep [Zero S] {e : TrainingError}
    (h : agentStep cfg env rawPrompt state d = .error e) : Raised cfg env rawPrompt e := by
  cases state with
  | pending =>
      rcases except_bind_error.mp h with hprompt | ⟨promptIds, -, h⟩
      · exact .truncation hprompt
      · cases h
  | generating =>
      rcases except_bind_error.mp h with hgenerate | ⟨output, -, h⟩
      · exact .server hgenerate
      dsimp only at h
      split at h <;> cases h
  | processingTools =>
      rcases except_bind_error.mp h with hmessages | ⟨messages, -, h⟩
      · obtain ⟨r, hr, hmessage⟩ := error_of_mapM hmessages
        obtain ⟨call, -, rfl⟩ := List.mem_map.mp hr
        exact .tool hmessage
      rcases except_bind_error.mp h with htokens | ⟨tokens, -, h⟩
      · unfold toolResponseIds at htokens
        split at htokens
        · cases htokens
        · exact .truncation htokens
      dsimp only at h
      split at h <;> cases h
  | interacting =>
      rcases except_bind_error.mp h with hinteract | ⟨⟨stop, text, reward⟩, -, h⟩
      · exact .interaction hinteract
      rcases except_bind_error.mp h with htokens | ⟨tokens, -, h⟩
      · exact .truncation htokens
      · cases h
  | terminated => cases h

/-- A generating round: an answer, and where it leads. -/
theorem handleGeneratingState_ok
    (h : handleGeneratingState cfg env rawPrompt d = .ok (state, d')) :
    ∃ output, env.generate rawPrompt (env.processVisionInfo rawPrompt).2 d = .ok output ∧
      d'.promptIds = d.promptIds ++ output.tokenIds ∧
      d'.responseMask = d.responseMask ++ List.replicate output.tokenIds.length 1 ∧
      d'.responseLogprobs = d.responseLogprobs ++ output.logProbs ∧
      (state = .terminated ∨ (state = .processingTools ∨ state = .interacting) ∧
        d'.responseMask.length < cfg.responseLength) := by
  obtain ⟨output, hgenerate, h⟩ := except_bind_ok.mp h
  refine ⟨output, hgenerate, ?_⟩
  dsimp only at h
  split at h
  · cases h
    exact ⟨rfl, rfl, rfl, .inl rfl⟩
  · rename_i hgo
    have hlt := Nat.lt_of_not_le fun hle => hgo (.inl hle)
    cases h
    refine ⟨rfl, rfl, rfl, ?_⟩
    by_cases hcalls : env.extractToolCalls output.tokenIds = []
    · by_cases hinteraction : cfg.hasInteraction
      · exact .inr ⟨.inr (by simp [hcalls, hinteraction]), hlt⟩
      · exact .inl (by simp [hcalls, hinteraction])
    · exact .inr ⟨.inl (by simp [hcalls]), hlt⟩

/-- A round of tools: a reply, or the end. -/
theorem handleProcessingToolsState_ok [Zero S]
    (h : handleProcessingToolsState cfg env d = .ok (state, d')) :
    (state = .terminated ∧ d'.promptIds = d.promptIds ∧ d'.responseMask = d.responseMask ∧
        d'.responseLogprobs = d.responseLogprobs) ∨
      state = .generating ∧ ∃ tokens, d'.promptIds = d.promptIds ++ tokens ∧
        d'.responseMask = d.responseMask ++ List.replicate tokens.length 0 ∧
        d'.responseLogprobs = if d.responseLogprobs.isEmpty then d.responseLogprobs
          else d.responseLogprobs ++ List.replicate tokens.length 0 := by
  obtain ⟨messages, -, h⟩ := except_bind_ok.mp h
  obtain ⟨tokens, -, h⟩ := except_bind_ok.mp h
  dsimp only at h
  split at h
  · cases h
    exact .inl ⟨rfl, rfl, rfl, rfl⟩
  · cases h
    exact .inr ⟨rfl, tokens, rfl, rfl, rfl⟩

/-- A round of the interaction: a reply. -/
theorem handleInteractingState_ok [Zero S]
    (h : handleInteractingState cfg env rawPrompt d = .ok (state, d')) :
    (state = .terminated ∨ state = .generating) ∧ ∃ tokens,
      d'.promptIds = d.promptIds ++ tokens ∧
      d'.responseMask = d.responseMask ++ List.replicate tokens.length 0 ∧
      d'.responseLogprobs = if d.responseLogprobs.isEmpty then d.responseLogprobs
        else d.responseLogprobs ++ List.replicate tokens.length 0 := by
  obtain ⟨⟨stop, text, reward⟩, -, h⟩ := except_bind_ok.mp h
  obtain ⟨tokens, -, h⟩ := except_bind_ok.mp h
  cases h
  refine ⟨?_, tokens, rfl, rfl, rfl⟩
  cases stop
  · exact .inr rfl
  · exact .inl rfl

end Steps

/-! ## What the loop has recorded -/

section Trace

variable {V : ℕ} {S E I W : Type} {cfg : MultiTurnConfig} {env : Environment V S E I W}
  {rawPrompt : E} {d d' : AgentData V S I} {hasLogprobs : Bool} {prompt : List (Fin V)}

/-- A part of the response: an answer to some data, or a reply. -/
inductive Segment (V : ℕ) (S I : Type) where
  | answer (data : AgentData V S I) (output : TokenOutput V S)
  | reply (tokens : List (Fin V))

def Segment.tokens : Segment V S I → List (Fin V)
  | .answer _ output => output.tokenIds
  | .reply tokens => tokens

def Segment.mask : Segment V S I → List ℕ
  | .answer _ output => List.replicate output.tokenIds.length 1
  | .reply tokens => List.replicate tokens.length 0

def Segment.logProbs [Zero S] : Segment V S I → List S
  | .answer _ output => output.logProbs
  | .reply tokens => List.replicate tokens.length 0

theorem Segment.length_mask (segment : Segment V S I) :
    segment.mask.length = segment.tokens.length := by
  cases segment <;> simp [mask, tokens]

variable {segments : List (Segment V S I)}

/-- The data are those of these segments, the first of them an answer; each answer was given to the
    prompt and the segments before it. -/
structure Recorded [Zero S] (env : Environment V S E I W) (rawPrompt : E) (hasLogprobs : Bool)
    (prompt : List (Fin V)) (segments : List (Segment V S I)) (d : AgentData V S I) : Prop where
  promptIds : d.promptIds = prompt ++ segments.flatMap Segment.tokens
  responseMask : d.responseMask = segments.flatMap Segment.mask
  responseLogprobs : d.responseLogprobs =
    if hasLogprobs then segments.flatMap Segment.logProbs else []
  answers : ∀ i data output, segments[i]? = some (.answer data output) →
    env.generate rawPrompt (env.processVisionInfo rawPrompt).2 data = .ok output ∧
    data.promptIds = prompt ++ (segments.take i).flatMap Segment.tokens ∧ output.tokenIds ≠ [] ∧
    output.logProbs.length = if hasLogprobs then output.tokenIds.length else 0
  head : ∀ tokens, segments.head? ≠ some (.reply tokens)

variable [Zero S]

theorem Recorded.start : Recorded env rawPrompt hasLogprobs d.promptIds []
    { d with responseMask := [], responseLogprobs := [] } where
  promptIds := by simp
  responseMask := rfl
  responseLogprobs := by simp
  answers := nofun
  head := nofun

/-- An answer at the end. -/
theorem Recorded.answer (h : Recorded env rawPrompt hasLogprobs prompt segments d)
    {output : TokenOutput V S}
    (hgenerate : env.generate rawPrompt (env.processVisionInfo rawPrompt).2 d = .ok output)
    (hne : output.tokenIds ≠ [])
    (hlength : output.logProbs.length = if hasLogprobs then output.tokenIds.length else 0)
    (hprompt : d'.promptIds = d.promptIds ++ output.tokenIds)
    (hmask : d'.responseMask = d.responseMask ++ List.replicate output.tokenIds.length 1)
    (hlogprobs : d'.responseLogprobs = d.responseLogprobs ++ output.logProbs) :
    Recorded env rawPrompt hasLogprobs prompt (segments ++ [.answer d output]) d' where
  promptIds := by simp [hprompt, h.promptIds, Segment.tokens]
  responseMask := by simp [hmask, h.responseMask, Segment.mask]
  responseLogprobs := by
    cases hasLogprobs
    · have hnil : output.logProbs = [] := List.length_eq_zero_iff.mp hlength
      simp [hlogprobs, h.responseLogprobs, hnil]
    · simp [hlogprobs, h.responseLogprobs, Segment.logProbs]
  answers := by
    intro i data output' hi
    rcases Nat.lt_or_ge i segments.length with hlt | hge
    · rw [List.getElem?_append_left hlt] at hi
      rw [List.take_append_of_le_length hlt.le]
      exact h.answers i data output' hi
    · obtain ⟨hlt, -⟩ := List.getElem?_eq_some_iff.mp hi
      have hlast : i = segments.length := by
        rw [List.length_append, List.length_singleton] at hlt
        omega
      rw [List.getElem?_append_right hge] at hi
      cases List.mem_singleton.mp (List.mem_of_getElem? hi)
      rw [hlast, List.take_left]
      exact ⟨hgenerate, h.promptIds, hne, hlength⟩
  head := by
    intro tokens hhead
    cases segments with
    | nil => cases hhead
    | cons segment segments => exact h.head tokens hhead

theorem Recorded.logprobs_ne_nil (h : Recorded env rawPrompt true prompt segments d)
    (hne : segments ≠ []) : d.responseLogprobs ≠ [] := by
  obtain ⟨segment, rest, rfl⟩ := List.exists_cons_of_ne_nil hne
  cases segment with
  | reply tokens => exact absurd rfl (h.head tokens)
  | answer data output =>
      obtain ⟨-, -, htokens, hlength⟩ := h.answers 0 data output rfl
      intro hnil
      rw [h.responseLogprobs, if_pos rfl, List.flatMap_cons, List.append_eq_nil_iff] at hnil
      rw [if_pos rfl] at hlength
      exact htokens (List.length_eq_zero_iff.mp (hlength.symm.trans
        (List.length_eq_zero_iff.mpr hnil.1)))

/-- A reply at the end. -/
theorem Recorded.reply (h : Recorded env rawPrompt hasLogprobs prompt segments d)
    (hne : segments ≠ []) {tokens : List (Fin V)} (hprompt : d'.promptIds = d.promptIds ++ tokens)
    (hmask : d'.responseMask = d.responseMask ++ List.replicate tokens.length 0)
    (hlogprobs : d'.responseLogprobs = if d.responseLogprobs.isEmpty then d.responseLogprobs
      else d.responseLogprobs ++ List.replicate tokens.length 0) :
    Recorded env rawPrompt hasLogprobs prompt (segments ++ [.reply tokens]) d' where
  promptIds := by simp [hprompt, h.promptIds, Segment.tokens]
  responseMask := by simp [hmask, h.responseMask, Segment.mask]
  responseLogprobs := by
    cases hasLogprobs
    · simp [hlogprobs, h.responseLogprobs]
    · have hempty : d.responseLogprobs.isEmpty = false :=
        List.isEmpty_eq_false_iff.mpr (h.logprobs_ne_nil hne)
      rw [hlogprobs, hempty, if_neg Bool.false_ne_true, h.responseLogprobs]
      simp [Segment.logProbs]
  answers := by
    intro i data output hi
    rcases Nat.lt_or_ge i segments.length with hlt | hge
    · rw [List.getElem?_append_left hlt] at hi
      rw [List.take_append_of_le_length hlt.le]
      exact h.answers i data output hi
    · rw [List.getElem?_append_right hge] at hi
      have hmem := List.mem_of_getElem? hi
      cases List.mem_singleton.mp hmem
  head := by
    intro tokens' hhead
    cases segments with
    | nil => exact hne rfl
    | cons segment segments => exact h.head tokens' hhead

/-- What the loop takes for granted of the server: an answer has at least one token, and a
    log-probability for each token or, in every answer, none at all. -/
structure Answers (env : Environment V S E I W) (rawPrompt : E) (hasLogprobs : Bool) : Prop where
  nonempty : ∀ {d output},
    env.generate rawPrompt (env.processVisionInfo rawPrompt).2 d = .ok output →
    output.tokenIds ≠ []
  length : ∀ {d output}, env.generate rawPrompt (env.processVisionInfo rawPrompt).2 d = .ok output →
    output.logProbs.length = if hasLogprobs then output.tokenIds.length else 0

/-- The record after the prompt of the template. -/
def Started (cfg : MultiTurnConfig) (env : Environment V S E I W) (rawPrompt : E)
    (hasLogprobs : Bool) (segments : List (Segment V S I)) (d : AgentData V S I) : Prop :=
  ∃ prompt, truncatePromptIds cfg (env.encodePrompt rawPrompt (env.processVisionInfo rawPrompt).1
      (env.processVisionInfo rawPrompt).2) = .ok prompt ∧
    Recorded env rawPrompt hasLogprobs prompt segments d

/-- What holds between two rounds. -/
def LoopInv (cfg : MultiTurnConfig) (env : Environment V S E I W) (rawPrompt : E)
    (hasLogprobs : Bool) : Except TrainingError (AgentState × AgentData V S I) → Prop
  | .error e => Raised cfg env rawPrompt e
  | .ok (.pending, d) => d = initialData env rawPrompt
  | .ok (.generating, d) => ∃ segments, Started cfg env rawPrompt hasLogprobs segments d
  | .ok (.processingTools, d) | .ok (.interacting, d) =>
      d.responseMask.length < cfg.responseLength ∧
        ∃ segments, segments ≠ [] ∧ Started cfg env rawPrompt hasLogprobs segments d
  | .ok (.terminated, d) => ∃ segments, segments ≠ [] ∧
      Started cfg env rawPrompt hasLogprobs segments d

/-- An answer fills the response, and a reply leads back to an answer. -/
def loopMeasure (cfg : MultiTurnConfig) :
    Except TrainingError (AgentState × AgentData V S I) → ℕ
  | .error _ => 0
  | .ok (.pending, _) => 2 * cfg.responseLength + 3
  | .ok (.generating, d) => 2 * (cfg.responseLength - d.responseMask.length) + 2
  | .ok (.processingTools, d) => 2 * (cfg.responseLength - d.responseMask.length) + 3
  | .ok (.interacting, d) => 2 * (cfg.responseLength - d.responseMask.length) + 3
  | .ok (.terminated, _) => 0

/-- One round keeps the record, and is one of finitely many. -/
theorem agentBody_round (h : Answers env rawPrompt hasLogprobs)
    (s t : Except TrainingError (AgentState × AgentData V S I))
    (hs : LoopInv cfg env rawPrompt hasLogprobs s)
    (hround : agentBody cfg env rawPrompt s = some t) :
    LoopInv cfg env rawPrompt hasLogprobs t ∧ loopMeasure cfg t < loopMeasure cfg s := by
  obtain _ | ⟨state, d⟩ := s
  · cases hround
  obtain ⟨hpos, ht⟩ : 0 < loopMeasure cfg (.ok (state, d)) ∧
      agentStep cfg env rawPrompt state d = t := by
    cases state with
    | terminated => cases hround
    | _ => exact ⟨Nat.succ_pos _, Option.some.inj hround⟩
  obtain e | ⟨state', d'⟩ := t
  · exact ⟨raised_of_agentStep ht, hpos⟩
  cases state with
  | terminated => cases hround
  | pending =>
      obtain rfl : d = initialData env rawPrompt := hs
      obtain ⟨prompt, hprompt, hstep⟩ := except_bind_ok.mp ht
      cases hstep
      exact ⟨⟨[], prompt, hprompt,
        Recorded.start (d := { initialData env rawPrompt with promptIds := prompt })⟩,
        by simp [loopMeasure, initialData]⟩
  | generating =>
      obtain ⟨segments, prompt, hprompt, hrecorded⟩ := hs
      obtain ⟨output, hgenerate, hids, hmask, hlogprobs, hstate⟩ := handleGeneratingState_ok ht
      have hne := h.nonempty hgenerate
      have hstarted : Started cfg env rawPrompt hasLogprobs (segments ++ [.answer d output]) d' :=
        ⟨prompt, hprompt,
          hrecorded.answer hgenerate hne (h.length hgenerate) hids hmask hlogprobs⟩
      have hsegments : segments ++ [Segment.answer d output] ≠ [] := by simp
      have hgrow : d.responseMask.length < d'.responseMask.length := by
        rw [hmask, List.length_append, List.length_replicate]
        exact Nat.lt_add_of_pos_right (List.length_pos_iff.mpr hne)
      rcases hstate with rfl | ⟨rfl | rfl, hlt⟩
      · exact ⟨⟨_, hsegments, hstarted⟩, Nat.succ_pos _⟩
      · refine ⟨⟨hlt, _, hsegments, hstarted⟩, ?_⟩
        simp only [loopMeasure]
        omega
      · refine ⟨⟨hlt, _, hsegments, hstarted⟩, ?_⟩
        simp only [loopMeasure]
        omega
  | processingTools =>
      obtain ⟨hlt, segments, hne, prompt, hprompt, hrecorded⟩ := hs
      rcases handleProcessingToolsState_ok ht with
        ⟨rfl, hids, hmask, hlogprobs⟩ | ⟨rfl, tokens, hids, hmask, hlogprobs⟩
      · exact ⟨⟨segments, hne, prompt, hprompt, ⟨hids.trans hrecorded.promptIds,
          hmask.trans hrecorded.responseMask, hlogprobs.trans hrecorded.responseLogprobs,
          hrecorded.answers, hrecorded.head⟩⟩, Nat.succ_pos _⟩
      · refine ⟨⟨_, prompt, hprompt, hrecorded.reply hne hids hmask hlogprobs⟩, ?_⟩
        simp only [loopMeasure, hmask, List.length_append, List.length_replicate]
        omega
  | interacting =>
      obtain ⟨hlt, segments, hne, prompt, hprompt, hrecorded⟩ := hs
      obtain ⟨hstate, tokens, hids, hmask, hlogprobs⟩ := handleInteractingState_ok ht
      have hrecorded' := hrecorded.reply hne hids hmask hlogprobs
      rcases hstate with rfl | rfl
      · exact ⟨⟨_, by simp, prompt, hprompt, hrecorded'⟩, Nat.succ_pos _⟩
      · refine ⟨⟨_, prompt, hprompt, hrecorded'⟩, ?_⟩
        simp only [loopMeasure, hmask, List.length_append, List.length_replicate]
        omega

/-- The loop ends, with an error or with what it has recorded. -/
theorem toolAgentLoop_ends (h : Answers env rawPrompt hasLogprobs) {rounds : ℕ}
    (hrounds : 2 * cfg.responseLength + 3 < rounds) :
    (∃ e, toolAgentLoop cfg env rounds rawPrompt = some (.error e) ∧ Raised cfg env rawPrompt e) ∨
      ∃ segments d, toolAgentLoop cfg env rounds rawPrompt =
          some (.ok (finalizeOutput cfg env rawPrompt d)) ∧
        segments ≠ [] ∧ Started cfg env rawPrompt hasLogprobs segments d := by
  have hstart : LoopInv cfg env rawPrompt hasLogprobs (.ok (.pending, initialData env rawPrompt)) :=
    rfl
  obtain ⟨t, ht, hinv, -, hend⟩ :=
    Loop.rounds_of_measure (loopMeasure cfg) (agentBody_round h) hstart hrounds
  have hloop : toolAgentLoop cfg env rounds rawPrompt =
      some (t.map fun s => finalizeOutput cfg env rawPrompt s.2) := by
    unfold toolAgentLoop
    rw [ht]
    rfl
  obtain e | ⟨state, d⟩ := t
  · exact .inl ⟨e, hloop, hinv⟩
  cases state with
  | terminated =>
      obtain ⟨segments, hne, hstarted⟩ := hinv
      exact .inr ⟨segments, d, hloop, hne, hstarted⟩
  | _ => cases hend

/-! ## Token by token -/

/-- Token `t` of the response is what the server gave after the prompt and the response up to it,
    and its log-probability is the server's. -/
def FromServer (env : Environment V S E I W) (rawPrompt : E) (output : AgentLoopOutput V S E)
    (t : ℕ) (y : Fin V) : Prop :=
  ∃ (data : AgentData V S I) (answer : TokenOutput V S) (k : ℕ),
    env.generate rawPrompt (env.processVisionInfo rawPrompt).2 data = .ok answer ∧
    answer.tokenIds[k]? = some y ∧
    data.promptIds ++ answer.tokenIds.take k = output.promptIds ++ output.responseIds.take t ∧
    ∀ values, output.responseLogprobs = some values → values[t]? = answer.logProbs[k]?

/-- An output whose mask and log-probabilities are those of its tokens. -/
structure TokenByToken (cfg : MultiTurnConfig) (env : Environment V S E I W) (rawPrompt : E)
    (hasLogprobs : Bool) (prompt : List (Fin V)) (output : AgentLoopOutput V S E) : Prop where
  promptIds : output.promptIds = prompt
  ne_nil : 0 < cfg.responseLength → output.responseIds ≠ []
  length_le : output.responseIds.length ≤ cfg.responseLength
  length_mask : output.responseMask.length = output.responseIds.length
  logprobs : output.responseLogprobs.isSome = hasLogprobs
  length_logprobs : ∀ values, output.responseLogprobs = some values →
    values.length = output.responseIds.length
  token : ∀ t y, output.responseIds[t]? = some y →
    output.responseMask[t]? = some 1 ∧ FromServer env rawPrompt output t y ∨
    output.responseMask[t]? = some 0 ∧
      ∀ values, output.responseLogprobs = some values → values[t]? = some 0

theorem Recorded.length_logProbs (h : Recorded env rawPrompt true prompt segments d) :
    ∀ segment ∈ segments, segment.logProbs.length = segment.tokens.length := by
  intro segment hmem
  cases segment with
  | reply tokens => exact List.length_replicate
  | answer data output =>
      obtain ⟨i, hi⟩ := List.mem_iff_getElem?.mp hmem
      exact (h.answers i data output hi).2.2.2

theorem Recorded.tokens_ne_nil (h : Recorded env rawPrompt hasLogprobs prompt segments d)
    (hne : segments ≠ []) : segments.flatMap Segment.tokens ≠ [] := by
  obtain ⟨segment, rest, rfl⟩ := List.exists_cons_of_ne_nil hne
  cases segment with
  | reply tokens => exact absurd rfl (h.head tokens)
  | answer data output =>
      obtain ⟨-, -, htokens, -⟩ := h.answers 0 data output rfl
      intro hnil
      exact htokens (List.append_eq_nil_iff.mp hnil).1

/-! What `run` makes of the recorded data. -/

theorem Recorded.length_mask (h : Recorded env rawPrompt hasLogprobs prompt segments d) :
    d.responseMask.length = (segments.flatMap Segment.tokens).length := by
  rw [h.responseMask]
  exact length_flatMap_congr fun segment _ => segment.length_mask

theorem Recorded.promptIds_finalize (h : Recorded env rawPrompt hasLogprobs prompt segments d) :
    (finalizeOutput cfg env rawPrompt d).promptIds = prompt := by
  simp only [finalizeOutput, h.length_mask, h.promptIds, List.length_append, Nat.add_sub_cancel,
    List.take_left]

theorem Recorded.responseIds_finalize (h : Recorded env rawPrompt hasLogprobs prompt segments d)
    (hne : segments ≠ []) : (finalizeOutput cfg env rawPrompt d).responseIds =
      (segments.flatMap Segment.tokens).take cfg.responseLength := by
  have hpos : (segments.flatMap Segment.tokens).length ≠ 0 := fun h0 =>
    h.tokens_ne_nil hne (List.length_eq_zero_iff.mp h0)
  simp only [finalizeOutput, h.length_mask, h.promptIds, lastItems]
  rw [if_neg hpos, List.length_append, Nat.add_sub_cancel, List.drop_left]

theorem Recorded.responseLogprobs_finalize
    (h : Recorded env rawPrompt hasLogprobs prompt segments d) (hne : segments ≠ []) :
    (finalizeOutput cfg env rawPrompt d).responseLogprobs = if hasLogprobs then
      some ((segments.flatMap Segment.logProbs).take cfg.responseLength) else none := by
  simp only [finalizeOutput]
  cases hasLogprobs
  · rw [h.responseLogprobs]
    rfl
  · rw [List.isEmpty_eq_false_iff.mpr (h.logprobs_ne_nil hne), h.responseLogprobs]
    rfl

/-- The mask and the log-probability at a token are those in its segment. -/
theorem Recorded.token_finalize (h : Recorded env rawPrompt hasLogprobs prompt segments d)
    (hne : segments ≠ []) {t : ℕ} {y : Fin V}
    (hy : (finalizeOutput cfg env rawPrompt d).responseIds[t]? = some y) :
    ∃ i segment k, segments[i]? = some segment ∧ k < segment.tokens.length ∧
      segment.tokens[k]? = some y ∧
      (finalizeOutput cfg env rawPrompt d).responseIds.take t =
        (segments.take i).flatMap Segment.tokens ++ segment.tokens.take k ∧
      (finalizeOutput cfg env rawPrompt d).responseMask[t]? = segment.mask[k]? ∧
      ∀ values, (finalizeOutput cfg env rawPrompt d).responseLogprobs = some values →
        values[t]? = segment.logProbs[k]? := by
  rw [h.responseIds_finalize hne] at hy ⊢
  have htR : t < cfg.responseLength := by
    by_contra hge
    rw [List.getElem?_take_eq_none (Nat.le_of_not_lt hge)] at hy
    cases hy
  rw [List.getElem?_take_of_lt htR] at hy
  obtain ⟨i, segment, k, hi, hk, rfl⟩ :=
    exists_place Segment.tokens (List.getElem?_eq_some_iff.mp hy).1
  rw [getElem?_flatMap _ hi hk] at hy
  refine ⟨i, segment, k, hi, hk, hy, ?_, ?_, fun values hvalues => ?_⟩
  · rw [List.take_take, Nat.min_eq_left htR.le, take_flatMap _ hi hk.le]
  · simp only [finalizeOutput]
    rw [List.getElem?_take_of_lt htR, h.responseMask,
      ← length_flatMap_congr fun x (_ : x ∈ segments.take i) => x.length_mask,
      getElem?_flatMap _ hi (segment.length_mask ▸ hk)]
  · rw [h.responseLogprobs_finalize hne] at hvalues
    cases hasLogprobs
    · cases hvalues
    · cases hvalues
      rw [List.getElem?_take_of_lt htR, ← length_flatMap_congr fun x hx =>
        h.length_logProbs x (List.mem_of_mem_take hx), getElem?_flatMap _ hi
          (h.length_logProbs segment (List.mem_of_getElem? hi) ▸ hk)]

theorem Recorded.tokenByToken (h : Recorded env rawPrompt hasLogprobs prompt segments d)
    (hne : segments ≠ []) :
    TokenByToken cfg env rawPrompt hasLogprobs prompt (finalizeOutput cfg env rawPrompt d) := by
  have hresponse : (finalizeOutput cfg env rawPrompt d).responseIds = _ :=
    h.responseIds_finalize hne
  have hlogprobs : (finalizeOutput cfg env rawPrompt d).responseLogprobs = _ :=
    h.responseLogprobs_finalize hne
  refine ⟨h.promptIds_finalize, fun hR hnil => ?_, ?_, ?_, ?_, ?_, ?_⟩
  · rw [hresponse, List.take_eq_nil_iff] at hnil
    exact hnil.elim (fun h0 => absurd h0 hR.ne') (h.tokens_ne_nil hne)
  · rw [hresponse]
    exact List.length_take_le _ _
  · rw [hresponse]
    simp only [finalizeOutput, List.length_take, h.length_mask]
  · rw [hlogprobs]
    cases hasLogprobs <;> rfl
  · intro values hvalues
    rw [hlogprobs] at hvalues
    cases hasLogprobs
    · cases hvalues
    · cases hvalues
      rw [hresponse, List.length_take, List.length_take, length_flatMap_congr h.length_logProbs]
  · intro t y hy
    obtain ⟨i, segment, k, hi, hk, hat, hbefore, hmask, hvalue⟩ := h.token_finalize hne hy
    rw [hmask]
    cases segment with
    | reply tokens =>
        exact .inr ⟨List.getElem?_replicate_of_lt hk, fun values hvalues =>
          (hvalue values hvalues).trans (List.getElem?_replicate_of_lt hk)⟩
    | answer data output =>
        obtain ⟨hgenerate, hdata, -, -⟩ := h.answers i data output hi
        refine .inl ⟨List.getElem?_replicate_of_lt hk, data, output, k, hgenerate, hat, ?_, hvalue⟩
        rw [hdata, h.promptIds_finalize, hbefore, List.append_assoc]
        rfl

/-- A server of one-token answers that all call a tool. -/
def exampleEnvironment {V : ℕ} {S : Type} [Zero S] (prompt answer reply : Fin V) :
    Environment V S String Unit Unit where
  processVisionInfo := fun _ => (none, none)
  encodePrompt := fun name _ _ => List.replicate name.length prompt
  encodeMessages := fun messages _ => List.replicate messages.length reply
  systemPromptLength := 0
  encodeToolText := fun _ _ => []
  decode := fun _ => ""
  generate := fun _ _ _ => .ok ⟨[answer], [0]⟩
  extractToolCalls := fun _ => [⟨"zoom", "{}"⟩]
  callTool := fun _ _ => .ok (⟨some "done", [], false⟩, some 0)
  interact := fun _ _ => .ok (true, "", none)
  multiModalData := fun _ _ => ""
  scores := fun _ => ""

/-- A response of four tokens. -/
def exampleMultiTurn : MultiTurnConfig where
  maxUserTurns := none
  maxAssistantTurns := none
  maxParallelCalls := 1
  maxToolResponseLength := 256
  toolResponseTruncateSide := "middle"
  isGptOss := false
  hasInteraction := false
  hasImageProcessor := true
  promptLength := none
  responseLength := 4
  truncation := "error"

theorem exampleEnvironment_answers (prompt answer reply : Fin V) (name : String) :
    Answers (exampleEnvironment (S := S) prompt answer reply) name true where
  nonempty := by
    rintro d _ ⟨⟩
    exact List.cons_ne_nil _ _
  length := by
    rintro d _ ⟨⟩
    rfl

/-- An answer, a reply and an answer; the next reply is too long. -/
theorem exampleEnvironment_run (prompt answer reply : Fin V) (name : String) :
    toolAgentLoop exampleMultiTurn (exampleEnvironment (S := S) prompt answer reply) 12 name =
      some (.ok ⟨List.replicate name.length prompt, [answer, reply, answer], [1, 0, 1],
        some [0, 0, 0], none, 4, "", [("turn_scores", ""), ("tool_rewards", "")]⟩) := by
  have hloop : toolAgentLoop exampleMultiTurn (exampleEnvironment (S := S) prompt answer reply) 12
      name = some (.ok (finalizeOutput exampleMultiTurn
        (exampleEnvironment prompt answer reply) name
        ⟨[.toolText "done", .toolText "done"], none,
          List.replicate name.length prompt ++ [answer] ++ [reply] ++ [answer], [answer], [1, 0, 1],
          [0, 0, 0], [], [0, 0], 1, 2, [⟨"zoom", "{}"⟩]⟩)) := rfl
  rw [hloop]
  simp [finalizeOutput, lastItems, exampleMultiTurn, exampleEnvironment]

end Trace

/-! ## In a training step -/

section Step

variable {V : ℕ} {S E F I W : Type}

/-- The agent loop of sample `i` of a worker. -/
def toolAgentRun [Zero S] (cfg : MultiTurnConfig) (env : ℕ → ℕ → Environment V S E I W)
    (rounds worker i : ℕ) (kwargs : String → Option (Cell V S E)) :
    Except TrainingError (AgentLoopOutput V S E) := do
  let e ← rawPrompt kwargs
  -- an error of its own where the rounds are not enough
  (toolAgentLoop cfg (env worker i) rounds e).getD (.error .runtimeError)

variable {cfg : MultiTurnConfig} {env : ℕ → ℕ → Environment V S E I W} {rounds : ℕ}
  {hasLogprobs : Bool}

/-- The configuration of the rollouts fits a loop that leaves the score to the reward worker and
    sets these extra fields. -/
structure LoopRollout (rollout : RolloutConfig V S E) (responseLength : ℕ) (hasLogprobs : Bool)
    (fields : List String) (kind : Kind) : Prop where
  responseLength : rollout.responseLength = responseLength
  logprobs : kind.hasLogprobs = hasLogprobs
  scores : rollout.rewardLoop.isSome = kind.hasScores
  infoKeys : rollout.rewardLoop = none → kind.infoKeys = []
  loopKeys : ∀ rewardLoop, rollout.rewardLoop = some rewardLoop → ∀ kwargs x,
    (rollout.entries (rewardLoop kwargs x).2).map (·.1) = kind.infoKeys
  extraKeys : kind.extraKeys = fields ++ "raw_prompt" ::
    if rollout.rewardLoop.isSome then ["reward_extra_info"] else []
  fresh : "raw_prompt" ∉ fields ∧ "reward_extra_info" ∉ fields
  positions : ∀ getRopeIndex, rollout.getRopeIndex = some getRopeIndex → ∀ ids mask inputs,
    (getRopeIndex ids mask inputs).ids.length = ids.length ∧
      (getRopeIndex ids mask inputs).channels + 1 = kind.channels
  text : rollout.getRopeIndex = none → kind.channels = 1

/-- The outputs of such a loop are regular. -/
theorem LoopRollout.regular {rollout : RolloutConfig V S E} {responseLength : ℕ}
    {fields : List String} {kind : Kind} {output : AgentLoopOutput V S E}
    (hfit : LoopRollout rollout responseLength hasLogprobs fields kind)
    (hlength : output.responseIds.length ≤ responseLength)
    (hmask : output.responseMask.length = output.responseIds.length)
    (hlogprobs : output.responseLogprobs.isSome = hasLogprobs)
    (hvalues : ∀ values, output.responseLogprobs = some values →
      values.length = output.responseIds.length)
    (hscore : output.rewardScore = none) (hfields : output.extraFields.map (·.1) = fields) (e : E) :
    RegularOutput rollout kind output e := by
  have hkeys : (insertEntry output.extraFields "raw_prompt" e).map (·.1) =
      fields ++ ["raw_prompt"] := by
    rw [map_fst_insertEntry, hfields, if_neg hfit.fresh.1]
  have hinfo : "reward_extra_info" ∉
      (insertEntry output.extraFields "raw_prompt" e).map (·.1) := by
    rw [hkeys, List.mem_append]
    exact not_or.mpr ⟨hfit.fresh.2, by decide⟩
  exact {
    response := hfit.responseLength ▸ hlength
    responseMask := hmask
    logprobs := hlogprobs.trans hfit.logprobs.symm
    length_logprobs := fun values h => by
      rw [hvalues values h, hfit.responseLength]
      exact hlength
    positions := hfit.positions
    text := hfit.text
    score := by
      rw [← hfit.scores, hscore]
      exact Bool.or_false _
    own := fun h => by
      rw [hscore] at h
      have hnone := h.resolve_right nofun
      rw [lookup_eq_none.mpr hinfo, hkeys, hfit.infoKeys hnone, hfit.extraKeys, hnone]
      exact ⟨rfl, rfl⟩
    loop := fun rewardLoop hsome _ kwargs x => by
      rw [map_fst_insertEntry, if_neg hinfo, hkeys, hfit.extraKeys, hsome, List.append_assoc]
      exact ⟨hfit.loopKeys rewardLoop hsome kwargs x, rfl⟩ }

/-- What an agent loop of a worker has returned. -/
theorem toolAgentRun_ok [Zero S] {kwargs : String → Option (Cell V S E)} {worker i : ℕ}
    {output : AgentLoopOutput V S E}
    (hrun : toolAgentRun cfg env rounds worker i kwargs = .ok output)
    (h : ∀ e, kwargs "raw_prompt" = some (.object (some e)) →
      Answers (env worker i) e hasLogprobs) (hrounds : 2 * cfg.responseLength + 3 < rounds) :
    ∃ e prompt d, kwargs "raw_prompt" = some (.object (some e)) ∧
      output = finalizeOutput cfg (env worker i) e d ∧
      TokenByToken cfg (env worker i) e hasLogprobs prompt output := by
  obtain ⟨e, he, hloop⟩ := except_bind_ok.mp hrun
  have hraw := of_rawPrompt_ok he
  rcases toolAgentLoop_ends (h e hraw) hrounds with
    ⟨error, hends, -⟩ | ⟨segments, d, hends, hne, prompt, -, hrecorded⟩
  · rw [hends] at hloop
    cases hloop
  · rw [hends] at hloop
    cases hloop
    exact ⟨e, prompt, d, hraw, rfl, hrecorded.tokenByToken hne⟩

/-- Agent loops that end with an output end with outputs of one kind. -/
theorem toolAgent_runsEnd [Zero S] {rollout : RolloutConfig V S E} {kind : Kind}
    {rows : List (Key → Option (Cell V S E))}
    (hfit : LoopRollout rollout cfg.responseLength hasLogprobs ["turn_scores", "tool_rewards"] kind)
    (hends : ∀ row ∈ rows, ∀ worker i, ∃ output,
      toolAgentRun cfg env rounds worker i (fun key => row (.nonTensor key)) = .ok output)
    (hanswers : ∀ row ∈ rows, ∀ e, row (.nonTensor "raw_prompt") = some (.object (some e)) →
      ∀ worker i, Answers (env worker i) e hasLogprobs)
    (hrounds : 2 * cfg.responseLength + 3 < rounds) :
    RunsEnd rollout kind (toolAgentRun cfg env rounds) rows := by
  refine RunsEnd.of_regular fun row hrow worker i => ?_
  obtain ⟨output, hrun⟩ := hends row hrow worker i
  obtain ⟨e, prompt, d, hraw, rfl, htokens⟩ :=
    toolAgentRun_ok hrun (fun e he => hanswers row hrow e he worker i) hrounds
  exact ⟨_, e, hraw, hrun, hfit.regular htokens.length_le htokens.length_mask htokens.logprobs
    htokens.length_logprobs rfl rfl e⟩

/-- The result for a rollout: each token that is not a reply has the log-probability that the model
    gives after what the server had been given, and that is what the row has before the token. -/
def ServerLogProbs {rollout : RolloutConfig V ℝ E} (cfg : MultiTurnConfig)
    (env : ℕ → ℕ → Environment V ℝ E I W) (rounds : ℕ) (hasLogprobs : Bool) (features : E → List F)
    (visual : Fin V → Bool) (rowLogits : Row V F → Fin V → ℝ) (temperature : ℝ)
    (r : Rollout rollout (toolAgentRun cfg env rounds)) (log : Key → Option (Cell V ℝ E)) : Prop :=
  ∃ (e : E) (prompt : List (Fin V)) (lp : List ℝ),
    r.row (.nonTensor "raw_prompt") = some (.object (some e)) ∧
    TokenByToken cfg (env r.worker r.sample) e hasLogprobs prompt r.output ∧
    log (.tensor "old_log_probs") = some (.floats lp) ∧
    ∀ t y, r.output.responseIds[t]? = some y → r.output.responseMask[t]? = some 1 →
      ∃ data answer k,
        (env r.worker r.sample).generate e ((env r.worker r.sample).processVisionInfo e).2 data =
          .ok answer ∧
        answer.tokenIds[k]? = some y ∧
        ((r.unpadded features).take visual (r.output.promptIds.length + t)).ids =
          data.promptIds ++ answer.tokenIds.take k ∧
        lp[t]? = some (r.modelLogProb features visual rowLogits temperature t y)

theorem serverLogProbs_of_response {rollout : RolloutConfig V ℝ E}
    {env : ℕ → ℕ → Environment V ℝ E I W} {features : E → List F} {visual : Fin V → Bool}
    {rowLogits : Row V F → Fin V → ℝ} {temperature : ℝ}
    {r : Rollout rollout (toolAgentRun cfg env rounds)} {log : Key → Option (Cell V ℝ E)}
    (hanswers : ∀ e, r.row (.nonTensor "raw_prompt") = some (.object (some e)) →
      ∀ worker i, Answers (env worker i) e hasLogprobs)
    (hrounds : 2 * cfg.responseLength + 3 < rounds)
    (h : ResponseLogProbs features visual rowLogits temperature r log) :
    ServerLogProbs cfg env rounds hasLogprobs features visual rowLogits temperature r log := by
  obtain ⟨-, lp, hlog, hentry⟩ := h
  obtain ⟨e, prompt, d, hraw, -, htokens⟩ := toolAgentRun_ok r.returned
    (fun e he => hanswers e he r.worker r.sample) hrounds
  refine ⟨e, prompt, lp, hraw, htokens, hlog, fun t y hy hmask => ?_⟩
  rcases htokens.token t y hy with ⟨-, data, answer, k, hgenerate, hk, hcontext, -⟩ | ⟨hreply, -⟩
  · refine ⟨data, answer, k, hgenerate, hk, ?_, hentry t y hy⟩
    change (r.output.promptIds ++ r.output.responseIds).take _ = _
    rw [List.take_length_add_append, hcontext]
  · rw [hreply] at hmask
    cases hmask

/-- **Token in, token out.** Tool loops, rollouts, balance, log-probs: what the training takes for
    the log-probability of a token is over the same tokens that the server had seen. -/
theorem toolAgent_oldLogProbs [NeZero V] [DecidableEq E] {env : ℕ → ℕ → Environment V ℝ E I W}
    {kind : Kind} {features : E → List F} {visual : Fin V → Bool} {step : StepConfig V ℝ E}
    {uid : ℕ → Cell V ℝ E} {batch : DataProto (Cell V ℝ E) (MetaValue ℝ)} {maxPrompt : ℕ}
    {mesh : Mesh} {dp sp : ℕ} {model : Model V F} {rowLogits : Row V F → Fin V → ℝ}
    {temperature : ℝ} {info : LogProbMeta} {balance : BalanceConfig}
    (h : StepRuns step kind features visual uid (toolAgentRun cfg env rounds) batch maxPrompt)
    (hanswers : ∀ row ∈ step.promptRows uid batch, ∀ e,
      row (.nonTensor "raw_prompt") = some (.object (some e)) →
        ∀ worker i, Answers (env worker i) e hasLogprobs)
    (hrounds : 2 * cfg.responseLength + 3 < rounds) (hgrid : mesh.Grid dp sp)
    (hdp : dp ∣ batch.len * step.n) (hcausal : RowCausal visual model rowLogits)
    (hinfo : if info.useDynamicBsz then maxPrompt + step.rollout.responseLength ≤ info.maxTokenLen
      else 0 < info.microBatchSize)
    (hplain : balance.usePrefixGrouper = false) (hwhole : balance.keepMinibatch = false) :
    ∃ out balanced logs, ∃ rollouts : List (Rollout step.rollout (toolAgentRun cfg env rounds)),
      ∃ order : List ℕ,
      rolloutStep step (toolAgentRun cfg env rounds) uid batch = .ok out ∧
      balanceBatch balance mesh out = .ok balanced ∧
      computeOldLogProb mesh dp model temperature features info balanced = .ok logs ∧
      rollouts.map (·.row) = step.promptRows uid batch ∧
      out.items = rolloutItems step.keys kind rollouts ∧
      order.Perm (List.range rollouts.length) ∧ balanced.items = gather out.items order ∧
      List.Forall₂ (ServerLogProbs cfg env rounds hasLogprobs features visual rowLogits temperature)
        (gather rollouts order) logs.items := by
  obtain ⟨out, balanced, logs, rollouts, order, hstep, hbalanced, hlogs, hrows, -, hitems, hperm,
    hgathered, hright⟩ := rollout_balance_oldLogProbs h hgrid hdp hcausal hinfo hplain hwhole
  refine ⟨out, balanced, logs, rollouts, order, hstep, hbalanced, hlogs, hrows, hitems, hperm,
    hgathered, List.forall₂_iff_get.mpr ⟨hright.length_eq, fun i hi hi' => ?_⟩⟩
  have hrow := List.mem_map_of_mem (f := fun r => r.row) (mem_of_mem_gather (List.getElem_mem hi))
  exact serverLogProbs_of_response (hanswers _ (hrows ▸ hrow)) hrounds (hright.get hi hi')

/-- `exampleStep` with responses of four tokens. -/
def zoomStep [Zero S] : StepConfig 5 S String :=
  { exampleStep with rollout := { exampleRollout with responseLength := 4 } }

def zoomKind : Kind :=
  ⟨true, true, [], ["turn_scores", "tool_rewards", "raw_prompt", "reward_extra_info"], 1⟩

theorem toolAgentRun_zoom [Zero S] {kwargs : String → Option (Cell 5 S String)} {name : String}
    (hname : kwargs "raw_prompt" = some (.object (some name))) (worker i : ℕ) :
    toolAgentRun exampleMultiTurn (fun _ _ => exampleEnvironment 1 2 4) 12 worker i kwargs =
      .ok ⟨List.replicate name.length 1, [2, 4, 2], [1, 0, 1], some [0, 0, 0], none, 4, "",
        [("turn_scores", ""), ("tool_rewards", "")]⟩ := by
  refine except_bind_ok.mpr ⟨name, rawPrompt_ok hname, ?_⟩
  rw [exampleEnvironment_run]
  rfl

theorem zoomStep_outputs {uid : ℕ → Cell 5 ℝ String} :
    ∀ row ∈ zoomStep.promptRows uid exampleBatch, ∀ worker i output,
      toolAgentRun exampleMultiTurn (fun _ _ => exampleEnvironment (S := ℝ) 1 2 4) 12 worker i
          (fun key => row (.nonTensor key)) = .ok output →
        Trainable zoomStep.rollout (fun _ => ([] : List ℕ)) (· == 3) output ∧
          output.promptIds.length ≤ 2 := by
  intro row hrow worker i output hrun
  obtain ⟨name, hpos, hle, hname⟩ := exampleBatch_named row hrow
  obtain rfl := Except.ok.inj ((toolAgentRun_zoom hname worker i).symm.trans hrun)
  refine ⟨⟨?_, Nat.le_succ 3, fun _ => ?_⟩, ?_⟩
  · simpa using hpos
  · simp [List.countP_replicate]
  · simpa using hle

theorem zoomStep_runs :
    StepRuns (zoomStep : StepConfig 5 ℝ String) zoomKind (fun _ => ([] : List ℕ)) (· == 3)
      (fun i => .number i) (toolAgentRun exampleMultiTurn (fun _ _ => exampleEnvironment 1 2 4) 12)
      exampleBatch 2 where
  tensors := rfl
  keyed := exampleBatch_keyed
  metaInfo := rfl
  len := by decide
  n := by decide
  workers := by decide
  workers_dvd := by decide
  responseLength := by decide
  separate := ⟨exampleBatch_separate.tensors, by
    change ∀ key ∈ rewardModelKeys none none, key ∈ ["__num_turns__", "multi_modal_inputs",
      "turn_scores", "tool_rewards", "raw_prompt", "reward_extra_info"] → key = "raw_prompt"
    decide⟩
  runs := toolAgent_runsEnd
    ⟨rfl, rfl, rfl, nofun, fun _ h _ _ => by cases h; rfl, rfl, by decide, nofun, fun _ => rfl⟩
    (fun row hrow worker i => by
      obtain ⟨name, -, -, hname⟩ := exampleBatch_named row hrow
      exact ⟨_, toolAgentRun_zoom hname worker i⟩)
    (fun _ _ e _ _ _ => exampleEnvironment_answers 1 2 4 e) (by decide)
  inputs := by decide
  outputs := zoomStep_outputs
  promptLength := nofun

theorem toolAgent_oldLogProbs_zoom : ∃ out balanced logs,
    ∃ rollouts : List (Rollout (zoomStep : StepConfig 5 ℝ String).rollout
      (toolAgentRun exampleMultiTurn (fun _ _ => exampleEnvironment 1 2 4) 12)),
    ∃ order : List ℕ,
    rolloutStep (zoomStep : StepConfig 5 ℝ String)
        (toolAgentRun exampleMultiTurn (fun _ _ => exampleEnvironment 1 2 4) 12)
        (fun i => .number i)
        exampleBatch = .ok out ∧
      balanceBatch ⟨false, false, 0⟩ ⟨2, 1⟩ out = .ok balanced ∧
      computeOldLogProb ⟨2, 1⟩ 2 (sumModel (· == 3)) 1 (fun _ => []) ⟨0, true, 6⟩ balanced =
        .ok logs ∧
      rollouts.map (·.row) = zoomStep.promptRows (fun i => .number i) exampleBatch ∧
      out.items = rolloutItems (zoomStep : StepConfig 5 ℝ String).keys zoomKind rollouts ∧
      order.Perm (List.range rollouts.length) ∧ balanced.items = gather out.items order ∧
      List.Forall₂ (ServerLogProbs exampleMultiTurn (fun _ _ => exampleEnvironment 1 2 4) 12 true
        (fun _ => []) (· == 3) (fun (row : Row 5 ℕ) w => ((row.total + w : ℕ) : ℝ)) 1)
        (gather rollouts order) logs.items :=
  toolAgent_oldLogProbs zoomStep_runs (fun _ _ e _ _ _ => exampleEnvironment_answers 1 2 4 e)
    (by decide) ⟨rfl, rfl, by decide, by decide⟩ (by decide) sumModel_causal (by decide) rfl rfl

end Step

end LookAway.Training
