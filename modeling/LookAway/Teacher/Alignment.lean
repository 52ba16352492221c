/-
  Both teacher views score a token in its own context.

  `Trainer.Documented` is what the processor and the tokenizer promise. Under it the rows of a view
  are padded rows (`select_padded`), so the forward scores every response token inside the mask
  after its view's prompt and the response tokens before it (`view_aligned`);
  `teacher_views_aligned` says so of both views, and of `delta_diff`.
-/
import LookAway.Teacher.Causal

namespace LookAway.Teacher

open LookAway.Base LookAway.Base.Packing

variable {V : ℕ} {F Px : Type}

/-! ## What the processor promises -/

/-- One prompt, unpadded, with one input for each visual token. -/
structure Processed.Documented (visual : Fin V → Bool) (out : Processed V F) : Prop where
  nonempty : out.inputIds ≠ []
  unpadded : out.attentionMask = List.replicate out.inputIds.length true
  length_features : out.features.length = out.inputIds.countP visual

/-- The first channel counts from 0. -/
def PositionIds.Counted (p : PositionIds) : Prop :=
  ∀ (k : ℕ) q, p.ids[k]? = some q → q.head? = some (k : ℤ)

/-- The trainer prepends text positions to three channels of a rope. -/
def Processor.Prepends (proc : Processor V F Px) : Prop :=
  proc.isQwen3 = true ∨ proc.needsQwen25Compat = true

/-- What the processor, the tokenizer and the token mappings promise. The first channel tells the
rows of a packed batch apart: where the trainer does not prepend it, the rope counts by itself. -/
structure Trainer.Documented (tr : Trainer V F Px) (visual : Fin V → Bool) (ropeChannels : ℕ) :
    Prop where
  processed : ∀ proc, tr.processor = some proc → ∀ text images maxLen out,
    proc.call text images maxLen = .ok out → out.Documented visual
  tokenized : ∀ messages maxLen ids mask, tr.tokenize messages maxLen = .ok (ids, mask) →
    (⟨ids, mask, []⟩ : Processed V F).Documented visual
  rope : ∀ proc getRopeIndex, tr.processor = some proc → proc.getRopeIndex = some getRopeIndex →
    ∀ out p, out.Documented visual → getRopeIndex out = .ok p →
      p.ids.length = out.inputIds.length ∧ p.channels = ropeChannels ∧
        (¬ (proc.Prepends ∧ ropeChannels = 3) → p.Counted)
  visual_special : ∀ v, visual v = true → (tr.visualSpecialTokens.lookup v).isSome

/-! ## Prompts -/

/-- A prompt that the forward can read. -/
structure Prompt.WellFormed (visual : Fin V → Bool) (channels : ℕ) (p : Prompt V F) : Prop where
  nonempty : p.inputIds ≠ []
  unpadded : p.attentionMask = List.replicate p.inputIds.length true
  length_positions : p.positionIds.ids.length = p.inputIds.length
  channels_eq : p.positionIds.channels = channels
  counted : p.positionIds.Counted
  length_features : p.features.length = p.inputIds.countP visual

theorem computePositionIdWithMask_ones (n : ℕ) :
    computePositionIdWithMask (List.replicate n true) =
      (List.range n).map fun k : ℕ => (k : ℤ) := by
  unfold computePositionIdWithMask
  rw [List.length_replicate]
  refine List.map_congr_left fun k hk => ?_
  have hlt := List.mem_range.mp hk
  rw [List.take_replicate, Nat.min_eq_left (by omega), count_true]
  simp

theorem arange_get (n k : ℕ) (c : ℤ)
    (h : ((List.range n).map fun k : ℕ => (k : ℤ))[k]? = some c) : c = (k : ℤ) := by
  rw [List.getElem?_map, Option.map_eq_some_iff] at h
  obtain ⟨j, hj, rfl⟩ := h
  obtain ⟨_, hjk⟩ := List.getElem?_eq_some_iff.mp hj
  rw [List.getElem_range] at hjk
  rw [hjk]

theorem counted_ofText (n : ℕ) :
    (PositionIds.ofText ((List.range n).map fun k : ℕ => (k : ℤ))).Counted := by
  intro k q hq
  rw [PositionIds.ofText, List.getElem?_map, Option.map_eq_some_iff] at hq
  obtain ⟨c, hc, rfl⟩ := hq
  simp [arange_get n k c hc]

theorem counted_prepend {text : List ℤ} {p : PositionIds}
    (htext : ∀ (k : ℕ) c, text[k]? = some c → c = (k : ℤ)) : (p.prepend text).Counted := by
  intro k q hq
  simp only [PositionIds.prepend, List.getElem?_zipWith] at hq
  split at hq
  · rename_i c rest hc hrest
    cases hq
    simp [htext k c hc]
  · cases hq

/-- The channels of every prompt of the processor. -/
def Processor.channels (proc : Processor V F Px) (ropeChannels : ℕ) : ℕ :=
  match proc.getRopeIndex with
  | none => 1
  | some _ =>
      if (proc.isQwen3 || proc.needsQwen25Compat) && ropeChannels == 3 then 4 else ropeChannels

section Prompts

variable {tr : Trainer V F Px} {visual : Fin V → Bool} {ropeChannels : ℕ}

theorem maybeExpandQwen25_ones (proc : Processor V F Px) (p : PositionIds) (n : ℕ) :
    maybeExpandQwen25 proc p (List.replicate n true) =
      if proc.needsQwen25Compat && p.channels == 3 then
        p.prepend ((List.range n).map fun k : ℕ => (k : ℤ))
      else p := by
  unfold maybeExpandQwen25
  rw [List.length_replicate]
  have htext : ((List.range n).map fun k =>
      if (List.replicate n true)[k]? = some true then
        (count ((List.replicate n true).take k) : ℤ) else 1) =
      (List.range n).map fun k : ℕ => (k : ℤ) := by
    refine List.map_congr_left fun k hk => ?_
    have hlt := List.mem_range.mp hk
    simp [hlt, List.take_replicate, Nat.min_eq_left (Nat.le_of_lt hlt)]
  rw [htext]

/-- Text positions are prepended once, by the one step or by the other. -/
theorem expanded_eq (proc : Processor V F Px) (p : PositionIds) (n : ℕ) :
    maybeExpandQwen25 proc
        (if proc.isQwen3 && p.channels == 3 then p.prepend ((List.range n).map fun k : ℕ => (k : ℤ))
        else p) (List.replicate n true) =
      if (proc.isQwen3 || proc.needsQwen25Compat) && p.channels == 3 then
        p.prepend ((List.range n).map fun k : ℕ => (k : ℤ))
      else p := by
  rw [maybeExpandQwen25_ones]
  by_cases hthree : p.channels = 3
  · cases hqwen3 : proc.isQwen3
    · simp [hthree]
    · simp [PositionIds.prepend, hthree]
  · simp [hthree]

/-- The positions of a prompt: one for each token, counted by the first channel. -/
theorem promptPositionIds_ok (hdoc : tr.Documented visual ropeChannels) {proc : Processor V F Px}
    (hproc : tr.processor = some proc) {out : Processed V F} (hout : out.Documented visual)
    {q : PositionIds} (h : proc.promptPositionIds out = .ok q) :
    q.ids.length = out.inputIds.length ∧ q.channels = proc.channels ropeChannels ∧ q.Counted := by
  unfold Processor.promptPositionIds at h
  unfold Processor.channels
  cases hrope : proc.getRopeIndex with
  | none =>
      rw [hrope] at h
      cases h
      rw [hout.unpadded, computePositionIdWithMask_ones]
      exact ⟨by simp [PositionIds.ofText], rfl, counted_ofText _⟩
  | some getRopeIndex =>
      rw [hrope] at h
      obtain ⟨p, hp, h⟩ := except_bind_ok.mp h
      obtain ⟨hlength, hchannels, hcounted⟩ := hdoc.rope proc getRopeIndex hproc hrope out p
        hout hp
      cases h
      rw [hout.unpadded, expanded_eq, hchannels]
      simp only
      split
      · rename_i hprepends
        obtain ⟨-, hthree⟩ := Bool.and_eq_true_iff.mp hprepends
        refine ⟨?_, ?_, counted_prepend (arange_get _)⟩
        · simp [PositionIds.prepend, hlength]
        · simpa [PositionIds.prepend, hchannels] using hthree
      · rename_i hprepends
        refine ⟨hlength, hchannels, hcounted ?_⟩
        simpa [Processor.Prepends] using hprepends

/-- The channels of every prompt. -/
def Trainer.channels (tr : Trainer V F Px) (ropeChannels : ℕ) : ℕ :=
  match tr.processor with
  | none => 1
  | some proc => proc.channels ropeChannels

theorem prompt_wellFormed (hdoc : tr.Documented visual ropeChannels)
    {messages : List (Message Px)} {maxPromptLen : ℕ} {p : Prompt V F}
    (h : tr.prompt messages maxPromptLen = .ok p) :
    p.WellFormed visual (tr.channels ropeChannels) := by
  unfold Trainer.prompt at h
  unfold Trainer.channels
  cases hproc : tr.processor with
  | none =>
      rw [hproc] at h
      obtain ⟨⟨ids, mask⟩, htokenize, h⟩ := except_bind_ok.mp h
      obtain ⟨hnonempty, hunpadded, hfeatures⟩ := hdoc.tokenized messages maxPromptLen ids mask
        htokenize
      cases h
      simp only at hunpadded
      subst hunpadded
      rw [computePositionIdWithMask_ones]
      exact {
        nonempty := hnonempty
        unpadded := rfl
        length_positions := by simp [PositionIds.ofText]
        channels_eq := rfl
        counted := counted_ofText _
        length_features := hfeatures }
  | some proc =>
      rw [hproc] at h
      obtain ⟨images, -, h⟩ := except_bind_ok.mp h
      obtain ⟨out, hcall, h⟩ := except_bind_ok.mp h
      obtain ⟨positionIds, hpositions, h⟩ := except_bind_ok.mp h
      cases h
      have hout := hdoc.processed proc hproc _ _ _ out hcall
      obtain ⟨hlength, hchannels, hcounted⟩ := promptPositionIds_ok hdoc hproc hout hpositions
      exact {
        nonempty := hout.nonempty
        unpadded := hout.unpadded
        length_positions := hlength
        channels_eq := hchannels
        counted := hcounted
        length_features := hout.length_features }

end Prompts

/-! ## The context of a response token -/

/-- The prompt, then `ys`. -/
def Prompt.context (p : Prompt V F) (ys : List (Fin V)) : Row V F where
  ids := p.inputIds ++ ys
  positions := p.positionIds.ids ++
    PositionIds.following (p.positionIds.ids.getLast?.getD []) ys.length
  features := p.features

section Context

variable {visual : Fin V → Bool} {channels : ℕ} {p : Prompt V F} {ys : List (Fin V)}

theorem countP_nonvisual (hys : ∀ y ∈ ys, visual y = false) : ys.countP visual = 0 := by
  rw [List.countP_eq_zero]
  intro y hy
  simp [hys y hy]

theorem context_wellFormed (hp : p.WellFormed visual channels)
    (hys : ∀ y ∈ ys, visual y = false) : (p.context ys).WellFormed visual := by
  have hlength := hp.length_positions
  have hpos : 0 < p.inputIds.length := List.length_pos_iff.mpr hp.nonempty
  refine ⟨by simp [Prompt.context, hp.nonempty], ?_, ?_, ?_⟩
  · simp [Prompt.context, hlength, PositionIds.length_following]
  · intro k q hq
    unfold Prompt.context at hq
    rw [List.getElem?_append] at hq
    split at hq
    · exact hp.counted k q hq
    · rename_i hk
      -- the response counts on from the last position of the prompt
      have hlast : p.positionIds.ids.getLast? = p.positionIds.ids[p.inputIds.length - 1]? := by
        rw [List.getLast?_eq_getElem?, hlength]
      have hlt : p.inputIds.length - 1 < p.positionIds.ids.length := by omega
      rw [hlast, List.getElem?_eq_getElem hlt, Option.getD_some, PositionIds.following,
        List.getElem?_map, Option.map_eq_some_iff] at hq
      obtain ⟨j, hj, rfl⟩ := hq
      obtain ⟨_, hjk⟩ := List.getElem?_eq_some_iff.mp hj
      rw [List.getElem_range] at hjk
      have hhead := hp.counted _ _ (List.getElem?_eq_getElem hlt)
      rw [List.head?_map, hhead, Option.map_some]
      congr 1
      omega
  · simp [Prompt.context, hp.length_features, countP_nonvisual hys]

/-- Up to response token `t`, the context is the prompt and the tokens before it. -/
theorem context_take (hp : p.WellFormed visual channels) (hys : ∀ y ∈ ys, visual y = false)
    {t : ℕ} (ht : t ≤ ys.length) :
    (p.context ys).take visual (p.inputIds.length + t) = p.context (ys.take t) := by
  have hlength := hp.length_positions
  have hcount : (p.inputIds ++ ys.take t).countP visual = p.features.length := by
    rw [List.countP_append, hp.length_features,
      countP_nonvisual fun y hy => hys y (List.mem_of_mem_take hy)]
    rfl
  unfold Row.take Prompt.context
  simp only [Row.mk.injEq]
  refine ⟨?_, ?_, ?_⟩
  · rw [List.take_length_add_append]
  · rw [← hlength, List.take_length_add_append, PositionIds.take_following _ ht,
      List.length_take, Nat.min_eq_left ht]
  · rw [List.take_length_add_append, hcount, List.take_length]

end Context

/-! ## The rows of a view -/

/-- The unmasked part of a row. -/
def PromptInputs.row (x : PromptInputs V F) : Row V F where
  ids := x.inputIds.take (count x.attentionMask)
  positions := x.positionIds.ids.take (count x.attentionMask)
  features := x.multiModalInputs

/-- A row and its padding. -/
def PromptInputs.padded (padToken : Fin V) (seqlen channels : ℕ) (x : PromptInputs V F) :
    PaddedRow V F where
  row := x.row
  idsPad := (padTo padToken seqlen x.inputIds).drop (count x.attentionMask)
  positionsPad := (padTo (List.replicate channels 0) seqlen x.positionIds.ids).drop
    (count x.attentionMask)
  start := x.responseStartIdx

/-- A row that the forward can read: a mask of ones, then zeros, over a well-formed row. -/
structure PromptInputs.Ready (visual : Fin V → Bool) (channels responseLength : ℕ)
    (x : PromptInputs V F) : Prop where
  mask : x.attentionMask = List.replicate (count x.attentionMask) true ++
    List.replicate (x.inputIds.length - count x.attentionMask) false
  count_le : count x.attentionMask ≤ x.inputIds.length
  length_positions : x.positionIds.ids.length = x.inputIds.length
  channels_eq : x.positionIds.channels = channels
  wellFormed : x.row.WellFormed visual
  start_pos : 1 ≤ x.responseStartIdx
  response_fits : x.responseStartIdx + responseLength = x.inputIds.length

section Rows

variable {visual : Fin V → Bool} {channels responseLength seqlen : ℕ} {x : PromptInputs V F}

theorem take_padTo {α : Type} (value : α) (n : ℕ) {k : ℕ} {xs : List α} (h : k ≤ xs.length) :
    (padTo value n xs).take k = xs.take k := by
  unfold padTo
  rw [List.take_append_of_le_length h]

theorem length_padTo {α : Type} (value : α) {n : ℕ} {xs : List α} (h : xs.length ≤ n) :
    (padTo value n xs).length = n := by
  simp [padTo, h]

theorem padded_ids (hx : x.Ready visual channels responseLength) (padToken : Fin V) :
    (x.padded padToken seqlen channels).row.ids ++ (x.padded padToken seqlen channels).idsPad =
      padTo padToken seqlen x.inputIds := by
  show x.inputIds.take _ ++ (padTo padToken seqlen x.inputIds).drop _ = _
  rw [← take_padTo padToken seqlen hx.count_le, List.take_append_drop]

theorem padded_positions (hx : x.Ready visual channels responseLength) (padToken : Fin V) :
    (x.padded padToken seqlen channels).row.positions ++
        (x.padded padToken seqlen channels).positionsPad =
      padTo (List.replicate channels 0) seqlen x.positionIds.ids := by
  show x.positionIds.ids.take _ ++ (padTo _ seqlen x.positionIds.ids).drop _ = _
  rw [← take_padTo (List.replicate channels 0) seqlen (hx.length_positions ▸ hx.count_le),
    List.take_append_drop]

theorem padded_mask (hx : x.Ready visual channels responseLength) (padToken : Fin V)
    (hseqlen : x.inputIds.length ≤ seqlen) :
    (x.padded padToken seqlen channels).mask = padTo false seqlen x.attentionMask := by
  have hcount := hx.count_le
  have hlength : x.attentionMask.length = x.inputIds.length := by
    rw [hx.mask]
    simp
    omega
  unfold PaddedRow.mask padTo
  rw [hlength]
  conv_rhs => rw [hx.mask]
  simp only [PromptInputs.padded, PromptInputs.row, List.length_take, List.length_drop,
    length_padTo padToken hseqlen, Nat.min_eq_left hcount, List.append_assoc,
    List.replicate_append_replicate]
  congr 2
  omega

theorem padded_fits (hx : x.Ready visual channels responseLength) (padToken : Fin V)
    (hseqlen : x.inputIds.length ≤ seqlen) :
    (x.padded padToken seqlen channels).Fits visual seqlen responseLength where
  wellFormed := hx.wellFormed
  length_ids := by
    rw [← List.length_append, padded_ids hx, length_padTo _ hseqlen]
  length_positions := by
    simp only [PromptInputs.padded, List.length_drop, length_padTo _ hseqlen,
      length_padTo _ (hx.length_positions ▸ hseqlen)]
  start_pos := hx.start_pos
  response_fits := hx.response_fits ▸ hseqlen

theorem length_le_maxLength {α : Type} {rows : List (List α)} {row : List α} (h : row ∈ rows) :
    row.length ≤ maxLength rows := by
  unfold maxLength
  induction rows with
  | nil => simp at h
  | cons first rows ih =>
      rw [List.map_cons, List.foldr_cons]
      rcases List.mem_cons.mp h with rfl | h
      · exact Nat.le_max_left _ _
      · exact Nat.le_trans (ih h) (Nat.le_max_right _ _)

theorem placePositions_ok (hx : x.Ready visual channels responseLength)
    (hseqlen : x.inputIds.length ≤ seqlen) :
    placePositions channels seqlen x.positionIds =
      .ok (padTo (List.replicate channels 0) seqlen x.positionIds.ids) := by
  unfold placePositions
  rw [if_neg (by rw [hx.length_positions]; omega), if_pos hx.channels_eq]

/-- The tensors of a view are those of its padded rows. -/
theorem assemble_padded [NeZero V] (padTokenId : Option (Fin V)) {xs : List (PromptInputs V F)}
    (hready : ∀ x ∈ xs, x.Ready visual channels responseLength) (hne : xs ≠ []) :
    ∃ seqlen, assemble padTokenId xs = .ok (padded seqlen channels
        (xs.map (PromptInputs.padded (padTokenId.getD 0) seqlen channels))) ∧
      ∀ x ∈ xs, x.inputIds.length ≤ seqlen := by
  have hseqlen : ∀ x ∈ xs, x.inputIds.length ≤ maxLength (xs.map (·.inputIds)) :=
    fun x hx => length_le_maxLength (List.mem_map.mpr ⟨x, hx, rfl⟩)
  refine ⟨maxLength (xs.map (·.inputIds)), ?_, hseqlen⟩
  obtain ⟨first, rest, rfl⟩ := List.exists_cons_of_ne_nil hne
  have hchannels : first.positionIds.channels = channels := (hready first (by simp)).channels_eq
  have hmasks : maxLength ((first :: rest).map (·.attentionMask)) =
      maxLength ((first :: rest).map (·.inputIds)) := by
    unfold maxLength
    rw [List.map_map, List.map_map]
    congr 1
    refine List.map_congr_left fun x hx => ?_
    have hcount := (hready x hx).count_le
    show x.attentionMask.length = x.inputIds.length
    rw [(hready x hx).mask]
    simp
    omega
  unfold assemble
  simp only [hchannels]
  rw [mapM_eq_map fun x hx => placePositions_ok (hready x hx) (hseqlen x hx)]
  show Except.ok _ = Except.ok _
  congr 1
  unfold padded padSequence
  simp only [List.map_map, TeacherTensors.mk.injEq, true_and, hmasks]
  refine ⟨?_, ?_, ?_, ?_⟩
  · exact List.map_congr_left fun x hx => (padded_ids (hready x hx) _).symm
  · exact List.map_congr_left fun x hx => (padded_mask (hready x hx) _ (hseqlen x hx)).symm
  · exact List.map_congr_left fun x hx => (padded_positions (hready x hx) _).symm
  · exact ⟨rfl, rfl⟩

theorem select_padded (ps : List (PaddedRow V F)) (rows : List ℕ) :
    (padded seqlen channels ps).select rows = padded seqlen channels (gather ps rows) := by
  simp [TeacherTensors.select, padded, gather_map]

end Rows

/-! ## One view -/

/-- Ones, then zeros: the mask of a single-turn rollout. -/
def SingleTurn (mask : List Bool) : Prop :=
  ∃ n m, mask = List.replicate n true ++ List.replicate m false

/-- What a single-turn mask keeps: the tokens before its first zero. -/
theorem SingleTurn.kept_eq {α : Type} {mask : List Bool} (h : SingleTurn mask) {xs : List α}
    (hlength : mask.length = xs.length) :
    ∃ n ≤ xs.length, kept mask xs = xs.take n ∧ ∀ t, mask[t]? = some true → t < n := by
  obtain ⟨n, m, rfl⟩ := h
  have hnm : n + m = xs.length := by simpa using hlength
  refine ⟨n, by omega, kept_take hnm, fun t ht => ?_⟩
  rw [List.getElem?_append] at ht
  split at ht
  · rename_i hlt
    simpa using hlt
  · simp [List.getElem?_replicate] at ht

section View

variable {visual : Fin V → Bool} {channels : ℕ} {p : Prompt V F}

/-- The row of a prompt and a response: unmasked, it is the prompt and the response's tokens
inside the mask. -/
theorem withResponse_ready (hp : p.WellFormed visual channels) {response : List (Fin V)}
    {responseMask : List Bool} (hturn : SingleTurn responseMask)
    (hlength : responseMask.length = response.length)
    (hys : ∀ y ∈ kept responseMask response, visual y = false) {x : PromptInputs V F}
    (h : p.withResponse response responseMask = .ok x) :
    x.Ready visual channels response.length ∧ x.responseStartIdx = p.inputIds.length ∧
      x.row = p.context (kept responseMask response) := by
  obtain ⟨n, m, rfl⟩ := hturn
  have hnm : n + m = response.length := by simpa using hlength
  rw [kept_take hnm] at hys ⊢
  have hpos : 0 < p.inputIds.length := List.length_pos_iff.mpr hp.nonempty
  have hpositions := hp.length_positions
  unfold Prompt.withResponse at h
  split at h
  · cases h
  · rename_i last hlast
    cases h
    have hmask : p.attentionMask ++ (List.replicate n true ++ List.replicate m false) =
        List.replicate (p.inputIds.length + n) true ++ List.replicate m false := by
      rw [hp.unpadded, ← List.append_assoc, List.replicate_append_replicate]
    have hcount : count (p.attentionMask ++ (List.replicate n true ++ List.replicate m false)) =
        p.inputIds.length + n := by simp [hmask]
    have hrow : PromptInputs.row (⟨p.inputIds ++ response,
        p.attentionMask ++ (List.replicate n true ++ List.replicate m false),
        p.positionIds.extend last (List.mem_of_getLast? hlast) response.length,
        p.inputIds.length, p.features⟩ : PromptInputs V F) = p.context (response.take n) := by
      simp only [PromptInputs.row, hcount, Prompt.context, PositionIds.extend, hlast,
        Option.getD_some, Row.mk.injEq, and_true, List.length_take]
      refine ⟨List.take_length_add_append .., ?_⟩
      rw [← hpositions, List.take_length_add_append, PositionIds.take_following _ (by omega),
        Nat.min_eq_left (by omega)]
    refine ⟨⟨?_, ?_, ?_, hp.channels_eq, ?_, hpos, ?_⟩, rfl, hrow⟩
    · simp only [hcount, List.length_append]
      rw [hmask]
      congr 2
      omega
    · simp only [hcount, List.length_append]
      omega
    · simp [PositionIds.extend, PositionIds.length_following, hpositions]
    · rw [hrow]
      exact context_wellFormed hp hys
    · simp

variable {tr : Trainer V F Px} {ropeChannels maxRepromptLen : ℕ} {column : ImageColumn Px}
  {missing : ℕ → Except TeacherError Unit}

/-- A response that passes the check has no visual token inside its mask. -/
theorem nonvisual_of_raiseIfVisual (hdoc : tr.Documented visual ropeChannels) {s : Sample V Px}
    {i : ℕ} (h : tr.raiseIfVisual s i = .ok ()) :
    ∀ y ∈ kept s.responseMask s.response, visual y = false := by
  intro y hy
  unfold Trainer.raiseIfVisual at h
  simp only at h
  split at h
  · rename_i hempty
    obtain ⟨k, hk, rfl⟩ := List.getElem_of_mem hy
    have hmem : ((kept s.responseMask s.response)[k], k) ∈
        (kept s.responseMask s.response).zipIdx := by
      simp [List.mk_mem_zipIdx_iff_getElem?]
    have hnone := List.filterMap_eq_nil_iff.mp (List.isEmpty_iff.mp hempty) _ hmem
    rw [Option.map_eq_none_iff] at hnone
    by_contra hvisual
    have hsome := hdoc.visual_special _ (by simpa using hvisual)
    simp only at hnone
    rw [hnone] at hsome
    cases hsome
  · cases h

theorem viewRow_ready (hdoc : tr.Documented visual ropeChannels) {s : Sample V Px} {i : ℕ}
    (hturn : SingleTurn s.responseMask) (hlength : s.responseMask.length = s.response.length)
    {x : PromptInputs V F} {present : Bool}
    (h : tr.viewRow maxRepromptLen column missing s i = .ok (x, present)) :
    x.Ready visual (tr.channels ropeChannels) s.response.length ∧
      ∃ p : Prompt V F, tr.viewPrompt maxRepromptLen column missing s i = .ok p ∧
        p.WellFormed visual (tr.channels ropeChannels) ∧
        (∀ y ∈ kept s.responseMask s.response, visual y = false) ∧
        x.responseStartIdx = p.inputIds.length ∧
        x.row = p.context (kept s.responseMask s.response) := by
  obtain ⟨hcheck, p, hprompt, hx⟩ := viewRow_ok h
  have hys := nonvisual_of_raiseIfVisual hdoc hcheck
  obtain ⟨_, _, -, hp⟩ := viewPrompt_ok hprompt
  have hp := prompt_wellFormed hdoc hp
  obtain ⟨hready, hstart, hrow⟩ := withResponse_ready hp hturn hlength hys hx
  exact ⟨hready, p, hprompt, hp, hys, hstart, hrow⟩

variable [NeZero V] {model : Model V F} {rowLogits : Row V F → Fin V → ℝ}
  {samples : List (Sample V Px)} {responseLength : ℕ}

/-- The tensors of a view are padded rows, one for each sample: its prompt, then the tokens of its
response inside the mask. -/
theorem buildView_padded (hdoc : tr.Documented visual ropeChannels)
    (hshape : ∀ s ∈ samples, s.response.length = responseLength ∧
      s.responseMask.length = responseLength)
    (hturn : ∀ s ∈ samples, SingleTurn s.responseMask) {view : View V F}
    (h : tr.buildView maxRepromptLen column missing samples = .ok view) :
    ∃ seqlen ps, view.tensors = padded seqlen (tr.channels ropeChannels) ps ∧
      (∀ q ∈ ps, q.Fits visual seqlen responseLength) ∧ ps.length = samples.length ∧
      ∀ i s, samples[i]? = some s → ∃ q p, ps[i]? = some q ∧
        tr.viewPrompt maxRepromptLen column missing s i = .ok p ∧
        p.WellFormed visual (tr.channels ropeChannels) ∧
        (∀ y ∈ kept s.responseMask s.response, visual y = false) ∧
        q.start = p.inputIds.length ∧ q.row = p.context (kept s.responseMask s.response) := by
  obtain ⟨built, hbuilt, h⟩ := except_bind_ok.mp h
  obtain ⟨tensors, htensors, h⟩ := except_bind_ok.mp h
  cases h
  have hready : ∀ x ∈ built.map (·.1),
      x.Ready visual (tr.channels ropeChannels) responseLength := by
    intro x hx
    obtain ⟨⟨x, present⟩, hmem, rfl⟩ := List.mem_map.mp hx
    obtain ⟨⟨s, i⟩, hs, hview⟩ := exists_of_mem_mapM hbuilt _ hmem
    have hmem : s ∈ samples := List.mem_of_getElem? (List.mk_mem_zipIdx_iff_getElem?.mp hs)
    obtain ⟨hresponse, hmask⟩ := hshape s hmem
    exact hresponse ▸ (viewRow_ready hdoc (hturn s hmem) (hmask.trans hresponse.symm) hview).1
  have hne : built.map (·.1) ≠ [] := by
    intro hnil
    rw [hnil] at htensors
    cases htensors
  obtain ⟨seqlen, hpadded, hseqlen⟩ := assemble_padded tr.padTokenId hready hne
  cases htensors.symm.trans hpadded
  refine ⟨seqlen, _, rfl, ?_, ?_, ?_⟩
  · intro q hq
    obtain ⟨x, hx, rfl⟩ := List.mem_map.mp hq
    exact padded_fits (hready x hx) _ (hseqlen x hx)
  · simpa using length_of_mapM hbuilt
  · intro i s hs
    obtain ⟨⟨x, present⟩, hx, hview⟩ :=
      getElem?_mapM (i := i) (x := (s, i)) hbuilt (by simp [List.getElem?_zipIdx, hs])
    have hmem : s ∈ samples := List.mem_of_getElem? hs
    obtain ⟨hresponse, hmask⟩ := hshape s hmem
    obtain ⟨-, p, hprompt, hp, hys, hstart, hrow⟩ :=
      viewRow_ready hdoc (hturn s hmem) (hmask.trans hresponse.symm) hview
    exact ⟨x.padded (tr.padTokenId.getD 0) seqlen (tr.channels ropeChannels), p,
      by simp [hx], hprompt, hp, hys, hstart, hrow⟩

/-- The forward on a micro batch of a view: response token `t` of a row, inside the mask, gets its
log-probability after the row's prompt and the response tokens before it. -/
theorem view_aligned (hdoc : tr.Documented visual ropeChannels)
    (hcausal : RowCausal visual model rowLogits)
    (hshape : ∀ s ∈ samples, s.response.length = responseLength ∧
      s.responseMask.length = responseLength)
    (hturn : ∀ s ∈ samples, SingleTurn s.responseMask) {view : View V F}
    (h : tr.buildView maxRepromptLen column missing samples = .ok view) {rows : List ℕ}
    (hrows : ∀ i ∈ rows, i < samples.length) (temperature : ℝ) :
    ∃ lp, forwardMicroBatch model temperature responseLength (view.tensors.select rows) = .ok lp ∧
      ∀ r i s t y, rows[r]? = some i → samples[i]? = some s → s.responseMask[t]? = some true →
        s.response[t]? = some y →
          ∃ p, tr.viewPrompt maxRepromptLen column missing s i = .ok p ∧
            entry? lp r t =
              some (logprob temperature (rowLogits (p.context (s.response.take t))) y) := by
  obtain ⟨seqlen, ps, htensors, hfits, hlength, hps⟩ := buildView_padded hdoc hshape hturn h
  rw [htensors, select_padded]
  have hin : ∀ i ∈ rows, i < ps.length := fun i hi => hlength ▸ hrows i hi
  obtain ⟨lp, hlp, hentry⟩ := forward_padded hcausal temperature fun q hq =>
    hfits q (mem_of_mem_gather hq)
  refine ⟨lp, hlp, ?_⟩
  intro r i s t y hr hs hmask hy
  obtain ⟨q, p, hq, hprompt, hp, hys, hstart, hrow⟩ := hps i s hs
  refine ⟨p, hprompt, ?_⟩
  have hmem : s ∈ samples := List.mem_of_getElem? hs
  obtain ⟨hresponse, hmaskLength⟩ := hshape s hmem
  obtain ⟨n, hn, hkept, hinside⟩ := (hturn s hmem).kept_eq (hmaskLength.trans hresponse.symm)
  rw [hkept] at hys hrow
  have ht := hinside t hmask
  have hget := getElem?_gather hin r
  rw [hr, Option.bind_some, hq] at hget
  obtain ⟨hlt, rfl⟩ := List.getElem?_eq_some_iff.mp hget
  have hscore := hentry r hlt t (by omega) y
  rw [hrow, hstart] at hscore
  rw [hscore ?_, context_take hp hys (by simp; omega), List.take_take, Nat.min_eq_left (by omega)]
  rw [Prompt.context, List.getElem?_append_right (by omega), Nat.add_sub_cancel_left,
    List.getElem?_take_of_lt ht, hy]

end View

/-! ## Both views -/

/-- The prompt of the positive view of a sample. -/
def Trainer.posPrompt (tr : Trainer V F Px) (cfg : ViewConfig) (batch : Batch V Px)
    (s : Sample V Px) (i : ℕ) : Except TeacherError (Prompt V F) := do
  let column ← batch.column "Teacher image key" cfg.teacherImageKey
  tr.viewPrompt cfg.maxRepromptLen column (missingTeacherImages cfg) s i

/-- The prompt of the negative view of a sample. -/
def Trainer.negPrompt (tr : Trainer V F Px) (cfg : ViewConfig) (batch : Batch V Px)
    (s : Sample V Px) (i : ℕ) : Except TeacherError (Prompt V F) := do
  let column ← batch.column "Teacher neg image key" (cfg.teacherNegImageKey.getD "")
  tr.viewPrompt cfg.maxRepromptLen column missingNegImages s i

section Views

variable [NeZero V] {visual : Fin V → Bool} {tr : Trainer V F Px} {ropeChannels : ℕ}
  {model : Model V F} {rowLogits : Row V F → Fin V → ℝ} {cfg : ViewConfig} {batch : Batch V Px}
  {responseLength : ℕ}

/-- The batch as the trainer gets it: a tensor of responses with their single-turn masks. -/
structure Batch.SingleTurns (batch : Batch V Px) (responseLength : ℕ) : Prop where
  shape : ∀ s ∈ batch.samples, s.response.length = responseLength ∧
    s.responseMask.length = responseLength
  turns : ∀ s ∈ batch.samples, SingleTurn s.responseMask

theorem pos_aligned (hdoc : tr.Documented visual ropeChannels)
    (hcausal : RowCausal visual model rowLogits) (hbatch : batch.SingleTurns responseLength)
    {view : View V F} (h : tr.buildPosTeacherInputs cfg batch = .ok view) {rows : List ℕ}
    (hrows : ∀ i ∈ rows, i < batch.samples.length) (temperature : ℝ) :
    ∃ lp, forwardMicroBatch model temperature responseLength (view.tensors.select rows) = .ok lp ∧
      ∀ r i s t y, rows[r]? = some i → batch.samples[i]? = some s →
        s.responseMask[t]? = some true → s.response[t]? = some y →
          ∃ p, tr.posPrompt cfg batch s i = .ok p ∧
            entry? lp r t =
              some (logprob temperature (rowLogits (p.context (s.response.take t))) y) := by
  obtain ⟨column, hcolumn, h⟩ := except_bind_ok.mp h
  obtain ⟨lp, hlp, hscore⟩ := view_aligned hdoc hcausal hbatch.shape hbatch.turns h hrows
    temperature
  refine ⟨lp, hlp, fun r i s t y hr hs hmask hy => ?_⟩
  obtain ⟨p, hp, hentry⟩ := hscore r i s t y hr hs hmask hy
  exact ⟨p, except_bind_ok.mpr ⟨column, hcolumn, hp⟩, hentry⟩

theorem neg_aligned (hdoc : tr.Documented visual ropeChannels)
    (hcausal : RowCausal visual model rowLogits) (hbatch : batch.SingleTurns responseLength)
    {view : View V F} (h : tr.buildNegTeacherInputs cfg batch = .ok view) {rows : List ℕ}
    (hrows : ∀ i ∈ rows, i < batch.samples.length) (temperature : ℝ) :
    ∃ lp, forwardMicroBatch model temperature responseLength (view.tensors.select rows) = .ok lp ∧
      ∀ r i s t y, rows[r]? = some i → batch.samples[i]? = some s →
        s.responseMask[t]? = some true → s.response[t]? = some y →
          ∃ p, tr.negPrompt cfg batch s i = .ok p ∧
            entry? lp r t =
              some (logprob temperature (rowLogits (p.context (s.response.take t))) y) := by
  unfold Trainer.buildNegTeacherInputs at h
  unfold Trainer.negPrompt
  cases hkey : cfg.teacherNegImageKey with
  | none =>
      rw [hkey] at h
      cases h
  | some key =>
      rw [hkey] at h
      obtain ⟨column, hcolumn, h⟩ := except_bind_ok.mp h
      obtain ⟨lp, hlp, hscore⟩ := view_aligned hdoc hcausal hbatch.shape hbatch.turns h hrows
        temperature
      refine ⟨lp, hlp, fun r i s t y hr hs hmask hy => ?_⟩
      obtain ⟨p, hp, hentry⟩ := hscore r i s t y hr hs hmask hy
      exact ⟨p, except_bind_ok.mpr ⟨column, hcolumn, hp⟩, hentry⟩

theorem entry?_zipWith {α : Type} {f : α → α → α} {m m' : List (List α)} {r t : ℕ} {a b : α}
    (ha : entry? m r t = some a) (hb : entry? m' r t = some b) :
    entry? (List.zipWith (List.zipWith f) m m') r t = some (f a b) := by
  obtain ⟨row, hrow, ha⟩ := Option.bind_eq_some_iff.mp ha
  obtain ⟨row', hrow', hb⟩ := Option.bind_eq_some_iff.mp hb
  unfold entry?
  rw [List.getElem?_zipWith, hrow, hrow']
  show (List.zipWith f row row')[t]? = _
  rw [List.getElem?_zipWith, ha, hb]

/-- On every batch of single-turn rollouts and every choice of its rows, `teacher_log_prob` and
`teacher_neg_log_prob` of a response token inside the mask are the model's log-probabilities of
that token after the prompt of the view and the response tokens before it, and `delta_diff` is
their difference. -/
theorem teacher_views_aligned (hdoc : tr.Documented visual ropeChannels)
    (hcausal : RowCausal visual model rowLogits) (hbatch : batch.SingleTurns responseLength)
    {built : DistillBatch V F} (h : tr.buildTeacherAlwaysOn cfg batch = .ok built)
    {rows : List ℕ} (hrows : ∀ i ∈ rows, i < batch.samples.length) (temperature : ℝ) :
    ∃ out, teacherForwards model temperature cfg.vdGamma responseLength built rows = .ok out ∧
      ∀ r i s t y, rows[r]? = some i → batch.samples[i]? = some s →
        s.responseMask[t]? = some true → s.response[t]? = some y →
          ∃ p lpPos, tr.posPrompt cfg batch s i = .ok p ∧
            lpPos = logprob temperature (rowLogits (p.context (s.response.take t))) y ∧
            entry? out.teacherLogProb r t = some lpPos ∧
            (0 < cfg.vdGamma → ∃ q lpNeg negative, tr.negPrompt cfg batch s i = .ok q ∧
              lpNeg = logprob temperature (rowLogits (q.context (s.response.take t))) y ∧
              out.negative = some negative ∧
              entry? negative.teacherNegLogProb r t = some lpNeg ∧
              entry? negative.deltaDiff r t = some (lpPos - lpNeg)) := by
  obtain ⟨hpos, hneg⟩ := buildTeacherAlwaysOn_ok h
  obtain ⟨lp, hlp, hscore⟩ := pos_aligned hdoc hcausal hbatch hpos hrows temperature
  by_cases hgamma : 0 < cfg.vdGamma
  · obtain ⟨neg, hnegView, hnegBuilt⟩ := hneg hgamma
    obtain ⟨lpNeg, hlpNeg, hscoreNeg⟩ := neg_aligned hdoc hcausal hbatch hnegBuilt hrows temperature
    refine ⟨_, teacherForwards_on hgamma hlp hnegView hlpNeg, ?_⟩
    intro r i s t y hr hs hmask hy
    obtain ⟨p, hp, hentry⟩ := hscore r i s t y hr hs hmask hy
    obtain ⟨q, hq, hentryNeg⟩ := hscoreNeg r i s t y hr hs hmask hy
    exact ⟨p, _, hp, rfl, hentry, fun _ =>
      ⟨q, _, _, hq, rfl, rfl, hentryNeg, entry?_zipWith hentry hentryNeg⟩⟩
  · refine ⟨_, teacherForwards_off hgamma hlp, ?_⟩
    intro r i s t y hr hs hmask hy
    obtain ⟨p, hp, hentry⟩ := hscore r i s t y hr hs hmask hy
    exact ⟨p, _, hp, rfl, hentry, fun hpositive => absurd hpositive hgamma⟩

end Views

/-! ## A batch of two samples

Their prompts have different lengths, and the second sample has no images of the negative view. -/

section Sample

/-- Token 3 stands for an image. -/
def imageToken (v : Fin 4) : Bool := v == 3

def sampleProcessor : Processor 4 ℕ ℕ where
  applyChatTemplate := fun messages => String.join (messages.map (·.role))
  call := fun _ images _ => .ok
    ⟨1 :: images.map (fun _ => 3) ++ [2], List.replicate (images.length + 2) true, images⟩
  getRopeIndex := some fun out => .ok ⟨3, out.inputIds.map fun _ => [0, 0, 0], by simp⟩
  isQwen3 := true
  needsQwen25Compat := false

def sampleTrainer : Trainer 4 ℕ ℕ where
  pil := ⟨id, fun path => .ok path.length, fun bytes => .ok bytes.length⟩
  processor := some sampleProcessor
  tokenize := fun _ _ => .ok ([1, 2], [true, true])
  padTokenId := some 0
  visualSpecialTokens := [(3, "<|image_pad|>")]

theorem sampleTrainer_documented : sampleTrainer.Documented imageToken 3 where
  processed := by
    intro proc hproc text images maxLen out hout
    cases hproc
    cases hout
    refine ⟨by simp, by simp, ?_⟩
    have hcount : (List.replicate images.length (3 : Fin 4)).countP imageToken = images.length := by
      rw [List.countP_replicate, if_pos (by rfl)]
    simp [hcount, imageToken]
  tokenized := by
    intro messages maxLen ids mask h
    cases h
    exact ⟨by simp, rfl, rfl⟩
  rope := by
    intro proc getRopeIndex hproc hrope out p _ hp
    cases hproc
    cases hrope
    cases hp
    exact ⟨by simp, rfl, fun hprepends => absurd ⟨.inl rfl, rfl⟩ hprepends⟩
  visual_special := by
    intro v hv
    obtain rfl : v = 3 := by simpa [imageToken] using hv
    rfl

def sampleConfig : ViewConfig where
  teacherImageKey := "crop"
  teacherNegImageKey := some "crop_neg"
  maxRepromptLen := 64
  vdGamma := 1

def sampleBatch : Batch 4 ℕ where
  samples := [
    { response := [1, 2, 0]
      responseMask := [true, true, false]
      rawPrompt := [⟨"user", .items [.image none (some (.file "a.png")) none, .text "where"]⟩]
      teacherPrompt := none },
    { response := [2, 1, 0]
      responseMask := [true, false, false]
      rawPrompt := [⟨"user", .items [.image none (some (.file "b.png")) none,
        .image none (some (.file "cd.png")) none, .text "which"]⟩]
      teacherPrompt := none }]
  imageColumns := [
    ("crop", [some [.decoded 7], some [.decoded 8, .decoded 9]]),
    ("crop_neg", [some [.decoded 4], none])]

theorem sampleBatch_singleTurns : sampleBatch.SingleTurns 3 where
  shape := by simp [sampleBatch]
  turns := List.forall_mem_cons.mpr ⟨⟨2, 1, rfl⟩, List.forall_mem_cons.mpr ⟨⟨1, 2, rfl⟩, by simp⟩⟩

/-- Response token 0 of the second sample, in a micro batch that starts with it. -/
theorem teacher_views_aligned_sample :
    ∃ built out negative, sampleTrainer.buildTeacherAlwaysOn sampleConfig sampleBatch = .ok built ∧
      teacherForwards (sumModel imageToken) 1 1 3 built [1, 0] = .ok out ∧
      out.negative = some negative ∧
      entry? negative.deltaDiff 0 0 =
        some (logprob 1 (fun w : Fin 4 => ((26 + w : ℕ) : ℝ)) 2 -
          logprob 1 (fun w : Fin 4 => ((20 + w : ℕ) : ℝ)) 2) := by
  obtain ⟨built, hbuilt⟩ :
      ∃ built, sampleTrainer.buildTeacherAlwaysOn sampleConfig sampleBatch = .ok built := ⟨_, rfl⟩
  have hrows : ∀ i ∈ [1, 0], i < sampleBatch.samples.length := by simp [sampleBatch]
  obtain ⟨out, hout, hscore⟩ := teacher_views_aligned sampleTrainer_documented sumModel_causal
    sampleBatch_singleTurns hbuilt hrows 1
  obtain ⟨p, _, hp, rfl, -, hneg⟩ := hscore 0 1 _ 0 2 rfl rfl rfl rfl
  obtain ⟨q, _, negative, hq, rfl, hnegative, -, hdelta⟩ := hneg one_pos
  refine ⟨built, out, negative, hbuilt, hout, hnegative, hdelta.trans ?_⟩
  cases hp
  cases hq
  rfl

end Sample

end LookAway.Teacher
