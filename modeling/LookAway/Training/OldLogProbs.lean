/-
  The old log-probabilities of a training step: `compute_log_prob` of
  verl/workers/fsdp_workers.py on the ranks of the worker group, for the batch with responses
  (`_compute_old_log_prob` of verl/trainer/ppo/ray_trainer.py). Left out: entropies, LoRA,
  offloading; within a sequence-parallel group the slices of a sequence are not followed, and a rank
  of it computes what the model gives for the whole.

  `oldLogProbs_rows`: on every mesh, with micro-batches of any kind, each row gets the
  log-probabilities of its own response. `rollout_oldLogProbs`: so it is for what the agent loops
  have returned, from the prompts of the step to the log-probabilities of every response token.
-/
import LookAway.Training.LogProbs
import LookAway.Training.Rollout

namespace LookAway.Training

open LookAway.Base LookAway.Base.Packing LookAway.Teacher

variable {V : ℕ} {E F : Type}

/-! ## The source -/

/-- The tensors of one row that `compute_log_prob` selects. -/
def actorRow? (features : E → List F) (row : Key → Option (Cell V ℝ E)) :
    Except TrainingError (ActorRow V F) :=
  match row (.tensor "input_ids"), row (.tensor "attention_mask"), row (.tensor "position_ids") with
  | some (.ids inputIds), some (.mask attentionMask), some (.positions p) =>
      .ok ⟨inputIds, attentionMask, p.ids, match row (.nonTensor "multi_modal_inputs") with
        | some (.object (some inputs)) => features inputs
        | _ => []⟩
  | _, _, _ => .error .keyError

/-- The width of a tensor of token ids. -/
def width (data : DataProto (Cell V ℝ E) (MetaValue ℝ)) (key : String) : ℕ :=
  match (data.table (.tensor key)).bind List.head? with
  | some (.ids tokens) => tokens.length
  | _ => 0

/-- The channels of the position ids. -/
def positionChannels (data : DataProto (Cell V ℝ E) (MetaValue ℝ)) : ℕ :=
  match (data.table (.tensor "position_ids")).bind List.head? with
  | some (.positions p) => p.channels
  | _ => 0

/-- `ActorRolloutRefWorker.compute_log_prob`, the log-probs. -/
noncomputable def computeLogProbWorker [NeZero V] (model : Model V F) (temperature : ℝ)
    (features : E → List F) (info : LogProbMeta) (allReduce : ℕ → ℕ)
    (data : DataProto (Cell V ℝ E) (MetaValue ℝ)) :
    Except TrainingError (DataProto (Cell V ℝ E) (MetaValue ℝ)) := do
  raiseIf ((data.table (.tensor "responses")).isNone) .keyError
  let rows ← data.items.mapM (actorRow? features)
  let logProbs ← computeLogProb model temperature (width data "responses")
    (width data "input_ids") (positionChannels data) info allReduce rows
  return .ofSamples [("old_log_probs", Cell.floats)] [] logProbs
    [("temperature", .float temperature)]

/-- How many tokens a row has. -/
def tokenCount {S : Type} (row : Key → Option (Cell V S E)) : ℕ :=
  match row (.tensor "attention_mask") with
  | some (.mask attentionMask) => count attentionMask
  | _ => 0

/-- The token counts on every rank of the data-parallel group. -/
def groupTokens (dp : ℕ) (data : DataProto (Cell V ℝ E) (MetaValue ℝ)) : List (List ℕ) :=
  match data.chunk dp with
  | .ok pieces => pieces.map fun piece => piece.items.map tokenCount
  | .error _ => []

/-- `_compute_old_log_prob`: the ranks agree on the number of micro-batches. -/
noncomputable def computeOldLogProb [NeZero V] (mesh : Mesh) (dp : ℕ) (model : Model V F)
    (temperature : ℝ) (features : E → List F) (info : LogProbMeta)
    (data : DataProto (Cell V ℝ E) (MetaValue ℝ)) :
    Except TrainingError (DataProto (Cell V ℝ E) (MetaValue ℝ)) :=
  callWorkers mesh (fun _ => computeLogProbWorker model temperature features info
    (reduced info.args (groupTokens dp data))) data

/-! ## A row is a sample in one way -/

theorem count_leading {a b c a' b' c' : ℕ}
    (h : List.replicate a false ++ (List.replicate b true ++ List.replicate c false) =
      List.replicate a' false ++ (List.replicate b' true ++ List.replicate c' false))
    (hb : 0 < b) (hb' : 0 < b') : a = a' ∧ b = b' := by
  have hcount := congrArg count h
  simp only [count_append, count_false, count_true] at hcount
  refine ⟨?_, by omega⟩
  by_contra hne
  rcases Nat.lt_or_gt_of_ne hne with hlt | hlt
  · have hat := congrArg (·[a]?) h
    simp [List.getElem?_append, hlt, hb] at hat
  · have hat := congrArg (·[a']?) h
    simp [List.getElem?_append, hlt, hb'] at hat

section Samples

variable {visual : Fin V → Bool} {seqlen responseLength : ℕ} {p q : PaddedSample V F}

/-- The prompt and the response of a row are where its mask and the response columns say. -/
theorem PaddedSample.Fits.unique (hp : p.Fits visual seqlen responseLength)
    (hq : q.Fits visual seqlen responseLength) (h : p.actorRow = q.actorRow) :
    p.row = q.row ∧ p.promptLength = q.promptLength := by
  have hmask := congrArg ActorRow.attentionMask h
  obtain ⟨hleft, hlength⟩ := count_leading hmask (List.length_pos_iff.mpr hp.wellFormed.nonempty)
    (List.length_pos_iff.mpr hq.wellFormed.nonempty)
  have hids := congrArg ActorRow.inputIds h
  have hpositions := congrArg ActorRow.positionIds h
  have hfeatures := congrArg ActorRow.multiModalInputs h
  simp only [PaddedSample.actorRow, List.append_assoc] at hids hpositions hfeatures
  have hids := (List.append_inj (List.append_inj hids hleft).2 hlength).1
  have hpositions := (List.append_inj (List.append_inj hpositions
    (by rw [hp.length_left, hq.length_left, hleft])).2
    (by rw [hp.wellFormed.length_positions, hq.wellFormed.length_positions, hlength])).1
  refine ⟨?_, ?_⟩
  · obtain ⟨⟨pids, ppositions, pfeatures⟩, _, _, _, _, _⟩ := p
    obtain ⟨⟨qids, qpositions, qfeatures⟩, _, _, _, _, _⟩ := q
    simp only at hids hpositions hfeatures
    rw [hids, hpositions, hfeatures]
  · have := hp.columns
    have := hq.columns
    omega

/-- The row of a batch is a sample with its padding. -/
structure IsSample (features : E → List F) (visual : Fin V → Bool)
    (seqlen responseLength channels : ℕ) (row : Key → Option (Cell V ℝ E))
    (p : PaddedSample V F) : Prop where
  actorRow : actorRow? features row = .ok p.actorRow
  fits : p.Fits visual seqlen responseLength
  responses : ∃ tokens, row (.tensor "responses") = some (.ids tokens) ∧
    tokens.length = responseLength
  channels : ∃ positionIds, row (.tensor "position_ids") = some (.positions positionIds) ∧
    positionIds.channels = channels

variable {features : E → List F} {channels : ℕ} {row : Key → Option (Cell V ℝ E)}

/-- The tensors that a sample is read from. -/
theorem actorRow?_ok {r : ActorRow V F} (h : actorRow? features row = .ok r) :
    row (.tensor "input_ids") = some (.ids r.inputIds) ∧
      row (.tensor "attention_mask") = some (.mask r.attentionMask) := by
  unfold actorRow? at h
  split at h
  · rename_i inputIds attentionMask _ hids hmask _
    cases h
    exact ⟨hids, hmask⟩
  · cases h

theorem IsSample.tokenCount_eq (h : IsSample features visual seqlen responseLength channels row p) :
    tokenCount row = p.actorRow.seqLen := by
  unfold tokenCount
  rw [(actorRow?_ok h.actorRow).2]
  rfl

theorem IsSample.length_inputIds
    (h : IsSample features visual seqlen responseLength channels row p) :
    p.actorRow.inputIds.length = seqlen := by
  have := h.fits.length_ids
  simp only [PaddedSample.actorRow, List.length_append]
  omega

end Samples

/-! ## A rank, and all ranks -/

section Ranks

variable [NeZero V] {visual : Fin V → Bool} {model : Model V F} {rowLogits : Row V F → Fin V → ℝ}
  {temperature : ℝ} {features : E → List F} {seqlen channels responseLength : ℕ}
  {info : LogProbMeta} {data : DataProto (Cell V ℝ E) (MetaValue ℝ)}

/-- The result of a row that is a sample: the log-probs of its response. -/
def RightOldLogProbs (features : E → List F) (visual : Fin V → Bool)
    (rowLogits : Row V F → Fin V → ℝ) (temperature : ℝ) (seqlen responseLength channels : ℕ)
    (row out : Key → Option (Cell V ℝ E)) : Prop :=
  ∀ p, IsSample features visual seqlen responseLength channels row p →
    ∃ lp, out (.tensor "old_log_probs") = some (.floats lp) ∧
      RightLogProbs visual rowLogits temperature responseLength p lp

omit [NeZero V] in
/-- The widths that are read off the first row. -/
theorem widths_of_samples (hdata : data.Uniform) (hne : data.items ≠ [])
    (hsamples : ∀ row ∈ data.items,
      ∃ p : PaddedSample V F, IsSample features visual seqlen responseLength channels row p) :
    ¬ (data.table (.tensor "responses")).isNone ∧ width data "responses" = responseLength ∧
      width data "input_ids" = seqlen ∧ positionChannels data = channels := by
  obtain ⟨row, rest, hitems⟩ := List.exists_cons_of_ne_nil hne
  obtain ⟨p, hp⟩ := hsamples row (by rw [hitems]; exact List.mem_cons_self)
  obtain ⟨tokens, htokens, htokens_length⟩ := hp.responses
  obtain ⟨positionIds, hpositions, hpositions_channels⟩ := hp.channels
  have hresponses := DataProto.head?_column hdata hitems (.tensor "responses")
  refine ⟨?_, ?_, ?_, ?_⟩
  · intro hnone
    rw [Option.isNone_iff_eq_none.mp hnone, htokens] at hresponses
    cases hresponses
  · unfold width
    rw [hresponses, htokens]
    exact htokens_length
  · unfold width
    rw [DataProto.head?_column hdata hitems, (actorRow?_ok hp.actorRow).1]
    exact hp.length_inputIds
  · unfold positionChannels
    rw [DataProto.head?_column hdata hitems, hpositions]
    exact hpositions_channels

/-- What a rank returns for its rows. -/
theorem computeLogProbWorker_ok (hcausal : RowCausal visual model rowLogits)
    (hinfo : if info.useDynamicBsz then seqlen ≤ info.maxTokenLen else 0 < info.microBatchSize)
    (hdata : data.Uniform) (hne : data.items ≠ [])
    (hsamples : ∀ row ∈ data.items,
      ∃ p, IsSample features visual seqlen responseLength channels row p)
    {ranks : List (List ℕ)} (hrank : data.items.map tokenCount ∈ ranks)
    (hranks : ∀ rank ∈ ranks, rank.length = data.items.length) :
    ∃ out, computeLogProbWorker model temperature features info (reduced info.args ranks) data =
        .ok out ∧
      RowResult (RightOldLogProbs features visual rowLogits temperature seqlen responseLength
        channels) (fun k => decide (k = .tensor "old_log_probs"))
        [("temperature", .float temperature)] data out := by
  obtain ⟨ps, hps, hrows⟩ := mapM_forall₂ (f := actorRow? features) (g := PaddedSample.actorRow)
    (R := IsSample features visual seqlen responseLength channels) data.items
    (fun row hrow => by
      obtain ⟨p, hp⟩ := hsamples row hrow
      exact ⟨p, hp.actorRow, hp⟩)
  have hlength := hrows.length_eq
  have hfits : ∀ p ∈ ps, p.Fits visual seqlen responseLength := by
    intro p hp
    obtain ⟨i, hi, rfl⟩ := List.mem_iff_getElem.mp hp
    exact (hrows.get (hlength ▸ hi) hi).fits
  have htokens : (ps.map PaddedSample.actorRow).map ActorRow.seqLen =
      data.items.map tokenCount := by
    rw [List.map_map]
    apply List.ext_getElem
    · simp [hlength]
    · intro i hi hi'
      rw [List.length_map] at hi hi'
      rw [List.getElem_map, List.getElem_map]
      exact (hrows.get hi' hi).tokenCount_eq.symm
  have hps_ne : ps ≠ [] := by
    rintro rfl
    exact hne (List.forall₂_nil_right_iff.mp hrows)
  obtain ⟨lp, hlp, hright⟩ : ∃ lp, computeLogProb model temperature responseLength seqlen channels
      info (reduced info.args ranks) (ps.map PaddedSample.actorRow) = .ok lp ∧
        List.Forall₂ (RightLogProbs visual rowLogits temperature responseLength) ps lp :=
    computeLogProb_rows (fun _ hrows => forwardActor_rows hcausal fun p hp => hfits p (hrows p hp))
      hfits hps_ne hinfo (by rw [htokens]; exact hrank)
      fun rank hmem => (hranks rank hmem).trans hlength
  obtain ⟨hresponses, hwidth, hseqlen, hchannels⟩ := widths_of_samples hdata hne hsamples
  refine ⟨_, except_bind_ok.mpr ⟨(), raiseIf_neg hresponses, except_bind_ok.mpr ⟨_, hps,
    except_bind_ok.mpr ⟨lp, ?_, rfl⟩⟩⟩, ?_, rfl, ?_, rfl⟩
  · rw [hwidth, hseqlen, hchannels]
    exact hlp
  · rw [DataProto.items_ofSamples, List.forall₂_map_right_iff]
    refine List.forall₂_iff_get.mpr ⟨hlength.trans hright.length_eq, fun i hi hi' p hp => ?_⟩
    have hi'' : i < ps.length := hlength ▸ hi
    have hsample := hrows.get hi hi''
    obtain ⟨hrow, hprompt⟩ := hp.fits.unique hsample.fits
      (Except.ok.inj (hp.actorRow.symm.trans hsample.actorRow))
    refine ⟨_, rfl, ?_⟩
    have hentry := hright.get hi'' hi'
    unfold RightLogProbs at hentry ⊢
    rw [hrow, hprompt]
    exact hentry
  · intro k
    cases k with
    | tensor key =>
        by_cases hkey : key = "old_log_probs"
        · subst hkey
          rfl
        · have hkey' : (key == "old_log_probs") = false := beq_eq_false_iff_ne.mpr hkey
          simp [DataProto.table, DataProto.ofSamples, List.lookup_cons, hkey, hkey']
    | nonTensor key => rfl

variable (temperature) in
/-- On every mesh, each row of the batch gets the log-probs of its own response. -/
theorem oldLogProbs_rows {mesh : Mesh} {dp sp : ℕ} (hgrid : mesh.Grid dp sp)
    (hcausal : RowCausal visual model rowLogits)
    (hinfo : if info.useDynamicBsz then seqlen ≤ info.maxTokenLen else 0 < info.microBatchSize)
    (hdata : data.Uniform) (hdp : dp ∣ data.len) (hpos : 0 < data.len)
    (hsamples : ∀ row ∈ data.items,
      ∃ p, IsSample features visual seqlen responseLength channels row p) :
    ∃ out, computeOldLogProb mesh dp model temperature features info data = .ok out ∧
      List.Forall₂ (RightOldLogProbs features visual rowLogits temperature seqlen responseLength
        channels) data.items out.items := by
  have hworker : PieceWorker (RightOldLogProbs features visual rowLogits temperature seqlen
      responseLength channels) (fun k => decide (k = .tensor "old_log_probs"))
      [("temperature", .float temperature)] dp data
      (fun _ => computeLogProbWorker model temperature features info
        (reduced info.args (groupTokens dp data))) := by
    intro rank pieces hchunk piece hmem
    obtain ⟨pieces', hchunk', -, -, hpieces⟩ :=
      DataProto.chunk_exists hdata hpos hgrid.dp_pos hdp
    obtain rfl := Except.ok.inj (hchunk'.symm.trans hchunk)
    obtain ⟨huniform, -, hne, hlength, hrows⟩ := hpieces piece hmem
    have hgroup : groupTokens dp data =
        pieces'.map fun piece => piece.items.map tokenCount := by
      unfold groupTokens
      rw [hchunk']
    rw [hgroup]
    refine computeLogProbWorker_ok hcausal hinfo huniform hne (fun row hrow =>
      hsamples row (hrows row hrow)) (List.mem_map.mpr ⟨piece, hmem, rfl⟩) fun rank hrank => ?_
    obtain ⟨other, hother, rfl⟩ := List.mem_map.mp hrank
    rw [List.length_map, hlength, (hpieces other hother).2.2.2.1]
  have hnodup : (([("temperature", .float temperature)] : List (String × MetaValue ℝ)).map
      (·.1)).Nodup := List.nodup_singleton _
  obtain ⟨out, hout, hrows, -⟩ := callWorkers_rows hgrid hdata hdp hpos hnodup hworker
  exact ⟨out, hout, hrows⟩

end Ranks

/-! ## From the rollouts -/

section Rollouts

variable {cfg : RolloutConfig V ℝ E} {kind : Kind} {features : E → List F}
  {visual : Fin V → Bool} {output : AgentLoopOutput V ℝ E} {x : InternalOutput V ℝ E}

/-- A padded output as a sample, with `n` more columns on the left. -/
def rolloutSample [NeZero V] (cfg : RolloutConfig V ℝ E) (features : E → List F)
    (output : AgentLoopOutput V ℝ E) (x : InternalOutput V ℝ E) (n : ℕ) : PaddedSample V F :=
  let left := n + (x.promptIds.length - output.promptIds.length)
  let ids := output.promptIds ++ output.responseIds
  let positions := (x.leftPad n).positionIds.ids
  { row := ⟨ids, (positions.drop left).take ids.length, features x.multiModalInputs⟩
    promptLength := output.promptIds.length
    leftIds := List.replicate n 0 ++
      List.replicate (x.promptIds.length - output.promptIds.length) cfg.padTokenId
    leftPositions := positions.take left
    rightIds := List.replicate (cfg.responseLength - output.responseIds.length) cfg.padTokenId
    rightPositions := positions.drop (left + ids.length) }

/-- The mask of an output. -/
theorem attentionMask_eq (h : PaddedOutput cfg output x) : x.attentionMask =
    List.replicate (x.promptIds.length - output.promptIds.length) false ++
      (List.replicate (output.promptIds ++ output.responseIds).length true ++
        List.replicate (cfg.responseLength - output.responseIds.length) false) := by
  rw [h.attentionMask, h.promptIds]
  simp only [List.leftpad, List.rightpad, List.length_append, List.length_replicate,
    List.replicate_add, List.append_assoc]
  congr 2
  omega

theorem take_middle_drop {α : Type} (xs : List α) (i j : ℕ) :
    xs.take i ++ ((xs.drop i).take j ++ xs.drop (i + j)) = xs := by
  rw [← List.drop_drop, List.take_append_drop, List.take_append_drop]

variable [NeZero V]

/-- The padded output is the sample's row. -/
theorem actorRow_rolloutSample (h : PaddedOutput cfg output x) (n : ℕ) :
    (rolloutSample cfg features output x n).actorRow = ⟨(x.leftPad n).inputIds,
      (x.leftPad n).attentionMask, (x.leftPad n).positionIds.ids,
      features x.multiModalInputs⟩ := by
  have hids : (x.leftPad n).inputIds = List.replicate n 0 ++
      (List.replicate (x.promptIds.length - output.promptIds.length) cfg.padTokenId ++
        (output.promptIds ++ output.responseIds) ++
        List.replicate (cfg.responseLength - output.responseIds.length) cfg.padTokenId) := by
    change List.replicate n 0 ++ x.inputIds = _
    rw [h.inputIds, h.responseIds, h.promptIds]
    simp only [List.leftpad, List.rightpad, List.length_append, List.length_replicate,
      List.append_assoc]
    congr 3
    omega
  have hmask : (x.leftPad n).attentionMask = List.replicate n false ++ x.attentionMask := rfl
  unfold PaddedSample.actorRow rolloutSample
  rw [hids, hmask, attentionMask_eq h]
  simp only [List.length_append, List.length_replicate, List.replicate_add, List.append_assoc,
    ActorRow.mk.injEq, true_and, and_true]
  exact take_middle_drop _ _ _

/-- The text positions of a padded output count its tokens. -/
theorem counted_positionIds (h : PaddedOutput cfg output x) {k : ℕ}
    (hk : k < (output.promptIds ++ output.responseIds).length) {p : List ℤ}
    (hp : x.positionIds.ids[x.promptIds.length - output.promptIds.length + k]? = some p) :
    p.head? = some (k : ℤ) := by
  let sample := rolloutSample cfg (fun _ => ([] : List Unit)) output x 0
  have hmask : sample.actorRow.attentionMask = x.attentionMask := by
    rw [actorRow_rolloutSample h]
    rfl
  have hleft : sample.leftIds.length = x.promptIds.length - output.promptIds.length := by
    simp [sample, rolloutSample]
  have hcount : ∀ m, m ≤ (output.promptIds ++ output.responseIds).length →
      count (x.attentionMask.take (x.promptIds.length - output.promptIds.length + m)) = m := by
    intro m hm
    have := count_take_actorMask (p := sample) (k := m) hm
    rwa [hmask, hleft] at this
  have hat : x.attentionMask[x.promptIds.length - output.promptIds.length + k]? = some true := by
    have := actorMask_get (p := sample) (k := k) hk
    rwa [hmask, hleft] at this
  have hpositions := h.positionIds
  unfold computePositionIds at hpositions
  split at hpositions
  · -- text positions
    rw [← Except.ok.inj hpositions] at hp
    change ((computePositionIdWithMask x.attentionMask).map fun k => [k])[_]? = some p at hp
    rw [computePositionIdWithMask, List.map_map, List.getElem?_map,
      List.getElem?_range (List.getElem?_eq_some_iff.mp hat).1, Option.map_some] at hp
    obtain rfl := Option.some.inj hp
    have := hcount (k + 1) hk
    rw [← Nat.add_assoc] at this
    simp [this]
  · -- the text channel in front of the vision channels
    obtain ⟨_, -, hpositions⟩ := except_bind_ok.mp hpositions
    rw [← Except.ok.inj hpositions] at hp
    change (List.zipWith List.cons _ _)[_]? = some p at hp
    rw [List.getElem?_zipWith, List.getElem?_map,
      List.getElem?_range (List.getElem?_eq_some_iff.mp hat).1, Option.map_some, if_pos hat,
      hcount k hk.le] at hp
    split at hp
    · rename_i text vision htext hvision
      cases Option.some.inj htext
      obtain rfl := Option.some.inj hp
      rfl
    · cases hp

/-- What the outputs have to be: a prompt, and a visual input for each visual token. -/
structure Trainable (cfg : RolloutConfig V ℝ E) (features : E → List F) (visual : Fin V → Bool)
    (output : AgentLoopOutput V ℝ E) : Prop where
  prompt : 0 < output.promptIds.length
  response : output.responseIds.length ≤ cfg.responseLength
  features : ∀ inputIds, (features (cfg.computeMultiModalInputs output inputIds)).length =
    (output.promptIds ++ output.responseIds).countP visual

omit [NeZero V] in
theorem le_length_promptIds (h : PaddedOutput cfg output x) :
    output.promptIds.length ≤ x.promptIds.length := by
  rw [h.promptIds, List.length_leftpad]
  exact Nat.le_max_right _ _

/-- A padded output fits the columns. -/
theorem rolloutSample_fits (htrainable : Trainable cfg features visual output)
    (hpadded : PaddedOutput cfg output x) (hkind : kind.Has cfg.responseLength x) (n : ℕ) :
    (rolloutSample cfg features output x n).Fits visual
      (n + x.promptIds.length + cfg.responseLength) cfg.responseLength := by
  have hprompt := htrainable.prompt
  have hresponse := htrainable.response
  have hle := le_length_promptIds hpadded
  have hpositions : (x.leftPad n).positionIds.ids.length =
      n + x.promptIds.length + cfg.responseLength := by
    have := (hkind.leftPad n).length_positionIds
    rw [length_promptIds_leftPad] at this
    exact this
  have hids : (output.promptIds ++ output.responseIds).length =
      output.promptIds.length + output.responseIds.length := List.length_append
  exact {
    wellFormed := {
      nonempty := List.ne_nil_of_length_pos (by
        change 0 < (output.promptIds ++ output.responseIds).length
        omega)
      length_positions := by
        change (((x.leftPad n).positionIds.ids.drop _).take
          (output.promptIds ++ output.responseIds).length).length =
            (output.promptIds ++ output.responseIds).length
        rw [List.length_take, List.length_drop, hpositions]
        omega
      counted := by
        intro k p hp
        change (((x.leftPad n).positionIds.ids.drop _).take
          (output.promptIds ++ output.responseIds).length)[k]? = some p at hp
        have hk : k < (output.promptIds ++ output.responseIds).length := by
          have := (List.getElem?_eq_some_iff.mp hp).1
          rw [List.length_take] at this
          omega
        refine counted_positionIds hpadded hk ?_
        rw [List.getElem?_take_of_lt hk, List.getElem?_drop] at hp
        change (List.replicate n _ ++ x.positionIds.ids)[_]? = some p at hp
        rw [List.getElem?_append_right (by rw [List.length_replicate]; omega),
          List.length_replicate] at hp
        rw [← hp]
        congr 1
        omega
      length_features := by
        have := htrainable.features x.inputIds
        rwa [← hpadded.multiModalInputs] at this }
    length_ids := by
      simp only [rolloutSample, List.length_append, List.length_replicate]
      omega
    length_left := by
      simp only [rolloutSample, List.length_append, List.length_replicate, List.length_take,
        hpositions]
      omega
    length_right := by
      simp only [rolloutSample, List.length_append, List.length_replicate, List.length_drop,
        hpositions]
      omega
    prompt_pos := htrainable.prompt
    columns := by
      simp only [rolloutSample, List.length_append, List.length_replicate]
      omega }

omit [NeZero V] in
theorem row_multiModalInputs (h : "multi_modal_inputs" ∉ kind.extraKeys)
    (y : InternalOutput V ℝ E) :
    kind.row y (.nonTensor "multi_modal_inputs") = some (.object (some y.multiModalInputs)) := by
  have hnodup : ((kind.extraKeys.dedup.map fun key => (key, fun x : InternalOutput V ℝ E =>
      (Cell.object (x.extraFields.lookup key) : Cell V ℝ E))).map (·.1)).Nodup := by
    simpa [Function.comp_def] using List.nodup_dedup kind.extraKeys
  have hnone : (kind.extraKeys.dedup.map fun key => (key, fun x : InternalOutput V ℝ E =>
      (Cell.object (x.extraFields.lookup key) : Cell V ℝ E))).lookup "multi_modal_inputs" =
        none := by
    rw [lookup_eq_none]
    simpa [Function.comp_def] using h
  unfold Kind.row DataProto.sampleRow objectColumns
  dsimp only
  rw [List.foldl_append, lookup_foldl_insertEntry hnodup, hnone, Option.none_or, List.foldl_append,
    List.foldl_cons, List.foldl_nil, lookup_insertEntry, if_pos rfl, Option.map_some]

/-- The row of the step's batch is the sample. -/
theorem isSample_rollout (n : ℕ) (rest : Key → Option (Cell V ℝ E))
    (htrainable : Trainable cfg features visual output) (hpadded : PaddedOutput cfg output x)
    (hkind : kind.Has cfg.responseLength x) (hinputs : "multi_modal_inputs" ∉ kind.extraKeys) :
    IsSample features visual (n + x.promptIds.length + cfg.responseLength) cfg.responseLength
      kind.channels (fun k => (kind.row (x.leftPad n) k).or (rest k))
      (rolloutSample cfg features output x n) where
  actorRow := by
    rw [actorRow_rolloutSample hpadded]
    unfold actorRow?
    simp only [row_multiModalInputs hinputs]
    rfl
  fits := rolloutSample_fits htrainable hpadded hkind n
  responses := ⟨x.responseIds, rfl, hkind.length_responseIds⟩
  channels := ⟨(x.leftPad n).positionIds, rfl, hkind.channels⟩

omit [NeZero V] in
theorem row_rolloutSample [NeZero V] (n : ℕ) : (rolloutSample cfg features output x n).row =
    ⟨output.promptIds ++ output.responseIds,
      (x.positionIds.ids.drop (x.promptIds.length - output.promptIds.length)).take
        (output.promptIds ++ output.responseIds).length, features x.multiModalInputs⟩ := by
  have hpositions : (x.leftPad n).positionIds.ids =
      List.replicate n (List.replicate x.positionIds.channels 0) ++ x.positionIds.ids := rfl
  unfold rolloutSample
  dsimp only
  rw [hpositions, ← List.drop_drop, List.drop_left' List.length_replicate]

/-- What the model reads of a rollout: the prompt and the response without their padding, with their
    positions and visual inputs. -/
def Rollout.unpadded {run : ℕ → ℕ → (String → Option (Cell V ℝ E)) →
    Except TrainingError (AgentLoopOutput V ℝ E)} (features : E → List F) (r : Rollout cfg run) :
    Row V F where
  ids := r.output.promptIds ++ r.output.responseIds
  positions := (r.padded.positionIds.ids.drop
    (r.padded.promptIds.length - r.output.promptIds.length)).take
      (r.output.promptIds ++ r.output.responseIds).length
  features := features r.padded.multiModalInputs

/-- The log-probability of a token of the response after the tokens before it. -/
noncomputable def Rollout.modelLogProb {run : ℕ → ℕ → (String → Option (Cell V ℝ E)) →
    Except TrainingError (AgentLoopOutput V ℝ E)} (features : E → List F) (visual : Fin V → Bool)
    (rowLogits : Row V F → Fin V → ℝ) (temperature : ℝ) (r : Rollout cfg run) (t : ℕ) (y : Fin V) :
    ℝ :=
  logprob temperature
    (rowLogits ((r.unpadded features).take visual (r.output.promptIds.length + t))) y

/-- The result for a rollout: each token of its response has its log-probability. -/
def ResponseLogProbs {run : ℕ → ℕ → (String → Option (Cell V ℝ E)) →
    Except TrainingError (AgentLoopOutput V ℝ E)} (features : E → List F) (visual : Fin V → Bool)
    (rowLogits : Row V F → Fin V → ℝ) (temperature : ℝ) (r : Rollout cfg run)
    (log : Key → Option (Cell V ℝ E)) : Prop :=
  (r.unpadded features).WellFormed visual ∧
    ∃ lp, log (.tensor "old_log_probs") = some (.floats lp) ∧
      ∀ t y, r.output.responseIds[t]? = some y →
        lp[t]? = some (r.modelLogProb features visual rowLogits temperature t y)

/-- What a step takes for granted: its configuration, its batch, and that every agent loop ends with
    an output to train on. -/
structure StepRuns (cfg : StepConfig V ℝ E) (kind : Kind) (features : E → List F)
    (visual : Fin V → Bool) (uid : ℕ → Cell V ℝ E)
    (run : ℕ → ℕ → (String → Option (Cell V ℝ E)) → Except TrainingError (AgentLoopOutput V ℝ E))
    (batch : DataProto (Cell V ℝ E) (MetaValue ℝ)) (maxPrompt : ℕ) : Prop where
  tensors : batch.batch.isSome
  keyed : batch.Keyed
  metaInfo : batch.metaInfo = []
  len : 0 < batch.len
  n : 0 < cfg.n
  workers : 0 < cfg.numWorkers
  workers_dvd : cfg.numWorkers ∣ batch.len * cfg.n
  responseLength : 0 < cfg.rollout.responseLength
  separate : Separate kind cfg.keys batch
  runs : RunsEnd cfg.rollout kind run (cfg.promptRows uid batch)
  inputs : "multi_modal_inputs" ∉ kind.extraKeys
  outputs : ∀ row ∈ cfg.promptRows uid batch, ∀ worker i output,
    run worker i (fun key => row (.nonTensor key)) = .ok output →
      Trainable cfg.rollout features visual output ∧ output.promptIds.length ≤ maxPrompt
  promptLength : ∀ n, cfg.rollout.promptLength = some n → n ≤ maxPrompt

section Step

variable {cfg : StepConfig V ℝ E} {uid : ℕ → Cell V ℝ E}
  {run : ℕ → ℕ → (String → Option (Cell V ℝ E)) → Except TrainingError (AgentLoopOutput V ℝ E)}
  {batch : DataProto (Cell V ℝ E) (MetaValue ℝ)} {maxPrompt seqlen channels : ℕ}

/-- What a step knows of a rollout. -/
structure Rollout.Fits (features : E → List F) (visual : Fin V → Bool) (kind : Kind) (maxPrompt : ℕ)
    (r : Rollout cfg.rollout run) : Prop where
  trainable : Trainable cfg.rollout features visual r.output
  has : kind.Has cfg.rollout.responseLength r.padded
  length_le : r.padded.promptIds.length ≤ maxPrompt

omit [NeZero V] in
theorem StepRuns.fits (h : StepRuns cfg kind features visual uid run batch maxPrompt)
    {r : Rollout cfg.rollout run} (hr : r.row ∈ cfg.promptRows uid batch) :
    r.Fits features visual kind maxPrompt := by
  obtain ⟨htrainable, hle⟩ := h.outputs r.row hr r.worker r.sample r.output r.returned
  obtain ⟨output, x, hrun, hx, hkind⟩ := h.runs r.row hr r.worker r.sample
  obtain rfl := Except.ok.inj (r.returned.symm.trans hrun)
  refine ⟨htrainable, Except.ok.inj (r.postprocessed.symm.trans hx) ▸ hkind, ?_⟩
  rw [(paddedOutput_of_ok r.postprocessed).promptIds, List.length_leftpad]
  cases hpromptLength : cfg.rollout.promptLength with
  | none => exact Nat.max_le.mpr ⟨hle, hle⟩
  | some n => exact Nat.max_le.mpr ⟨h.promptLength n hpromptLength, hle⟩

/-- The rows of a step, with the rollouts behind them. -/
theorem rolloutStep_outputs [DecidableEq E]
    (h : StepRuns cfg kind features visual uid run batch maxPrompt) :
    ∃ out, ∃ rollouts : List (Rollout cfg.rollout run), rolloutStep cfg run uid batch = .ok out ∧
      out.batch.isSome ∧ out.Uniform ∧ out.len = batch.len * cfg.n ∧
      rollouts.map (·.row) = cfg.promptRows uid batch ∧
      out.items = rolloutItems cfg.keys kind rollouts ∧
      maxPromptLength (rollouts.map (·.padded)) ≤ maxPrompt ∧
      ∀ r ∈ rollouts, r.Fits features visual kind maxPrompt := by
  obtain ⟨out, rollouts, hstep, hrows, hitems, hout_batch⟩ := rolloutStep_rollouts h.tensors h.keyed
    h.metaInfo h.len h.n h.workers h.workers_dvd h.responseLength h.separate h.runs
  obtain ⟨td, htd⟩ := Option.isSome_iff_exists.mp hout_batch
  have hfits : ∀ r ∈ rollouts, r.Fits features visual kind maxPrompt :=
    fun r hr => h.fits (hrows ▸ List.mem_map_of_mem hr)
  refine ⟨out, rollouts, hstep, hout_batch, DataProto.uniform_of_batch htd, ?_, hrows, hitems, ?_,
    hfits⟩
  · rw [← DataProto.length_items, hitems, rolloutItems, List.length_map,
      ← length_promptRows cfg uid, ← hrows, List.length_map]
  · refine List.max_le_of_forall_le _ _ fun w hw => ?_
    obtain ⟨x, hx, rfl⟩ := List.mem_map.mp hw
    obtain ⟨r, hr, rfl⟩ := List.mem_map.mp hx
    exact (hfits r hr).length_le

/-- The row of a rollout is its sample. -/
theorem Rollout.Fits.isSample {r : Rollout cfg.rollout run}
    (hr : r.Fits features visual kind maxPrompt) (hinputs : "multi_modal_inputs" ∉ kind.extraKeys)
    {width : ℕ} (hwidth : r.padded.promptIds.length ≤ width) :
    IsSample features visual (width + cfg.rollout.responseLength) cfg.rollout.responseLength
      kind.channels (fun k => (kind.row (r.padded.leftPad (width - r.padded.promptIds.length)) k).or
        (keptRow cfg.keys r.row k))
      (rolloutSample cfg.rollout features r.output r.padded
        (width - r.padded.promptIds.length)) := by
  have hsample := isSample_rollout (width - r.padded.promptIds.length) (keptRow cfg.keys r.row)
    hr.trainable (paddedOutput_of_ok r.postprocessed) hr.has hinputs
  rwa [Nat.sub_add_cancel hwidth] at hsample

omit [NeZero V] in
theorem le_width {rollouts : List (Rollout cfg.rollout run)} {r : Rollout cfg.rollout run}
    (hr : r ∈ rollouts) :
    r.padded.promptIds.length ≤ maxPromptLength (rollouts.map (·.padded)) :=
  le_maxPromptLength (List.mem_map_of_mem hr)

theorem isSample_rolloutItems {rollouts : List (Rollout cfg.rollout run)}
    (hrollouts : ∀ r ∈ rollouts, r.Fits features visual kind maxPrompt)
    (hinputs : "multi_modal_inputs" ∉ kind.extraKeys) :
    ∀ item ∈ rolloutItems cfg.keys kind rollouts, ∃ p, IsSample features visual
      (maxPromptLength (rollouts.map (·.padded)) + cfg.rollout.responseLength)
      cfg.rollout.responseLength kind.channels item p := by
  intro item hitem
  obtain ⟨r, hr, rfl⟩ := List.mem_map.mp hitem
  exact ⟨_, (hrollouts r hr).isSample hinputs (le_width hr)⟩

theorem Rollout.Fits.logProbs {rowLogits : Row V F → Fin V → ℝ} {temperature : ℝ}
    {r : Rollout cfg.rollout run} {item log : Key → Option (Cell V ℝ E)} {n : ℕ}
    (hr : r.Fits features visual kind maxPrompt)
    (hsample : IsSample features visual seqlen cfg.rollout.responseLength channels item
      (rolloutSample cfg.rollout features r.output r.padded n))
    (hlog : RightOldLogProbs features visual rowLogits temperature seqlen
      cfg.rollout.responseLength channels item log) :
    ResponseLogProbs features visual rowLogits temperature r log := by
  have hrow : (rolloutSample cfg.rollout features r.output r.padded n).row = r.unpadded features :=
    row_rolloutSample n
  obtain ⟨lp, hlp, hentry⟩ := hlog _ hsample
  refine ⟨hrow ▸ hsample.fits.wellFormed, lp, hlp, fun t y hy => ?_⟩
  have ht : t < r.output.responseIds.length := (List.getElem?_eq_some_iff.mp hy).1
  have hat : (r.output.promptIds ++ r.output.responseIds)[r.output.promptIds.length + t]? =
      some y := by
    rw [List.getElem?_append_right (Nat.le_add_right _ _), Nat.add_sub_cancel_left]
    exact hy
  unfold Rollout.modelLogProb
  rw [← hrow]
  exact hentry t (ht.trans_le hr.trainable.response) y hat

/-- The log-probs of some rows of a step. -/
theorem responseLogProbs_of_right {rowLogits : Row V F → Fin V → ℝ} {temperature : ℝ}
    {rollouts rs : List (Rollout cfg.rollout run)} {logs : List (Key → Option (Cell V ℝ E))}
    (hrollouts : ∀ r ∈ rollouts, r.Fits features visual kind maxPrompt)
    (hinputs : "multi_modal_inputs" ∉ kind.extraKeys) (hrs : ∀ r ∈ rs, r ∈ rollouts)
    (h : List.Forall₂ (RightOldLogProbs features visual rowLogits temperature
      (maxPromptLength (rollouts.map (·.padded)) + cfg.rollout.responseLength)
      cfg.rollout.responseLength kind.channels)
      (rs.map fun r k => (kind.row (r.padded.leftPad
        (maxPromptLength (rollouts.map (·.padded)) - r.padded.promptIds.length)) k).or
          (keptRow cfg.keys r.row k)) logs) :
    List.Forall₂ (ResponseLogProbs features visual rowLogits temperature) rs logs := by
  rw [List.forall₂_map_left_iff] at h
  refine ((List.forall₂_and_left _ _).mpr ⟨hrs, h⟩).imp fun r log hr => ?_
  exact (hrollouts r hr.1).logProbs ((hrollouts r hr.1).isSample hinputs (le_width hr.1)) hr.2

omit [NeZero V] in
theorem width_le {width : ℕ} {info : LogProbMeta}
    (hwidth : width ≤ maxPrompt + cfg.rollout.responseLength)
    (hinfo : if info.useDynamicBsz then maxPrompt + cfg.rollout.responseLength ≤ info.maxTokenLen
      else 0 < info.microBatchSize) :
    if info.useDynamicBsz then width ≤ info.maxTokenLen else 0 < info.microBatchSize := by
  split at hinfo
  · rename_i hdynamic
    rw [if_pos hdynamic]
    exact hwidth.trans hinfo
  · rename_i hdynamic
    rwa [if_neg hdynamic]

/-- From the prompts of a step to the old log-probs: every response token of every rollout has its
    own, whatever the workers, the mesh and the micro-batches. -/
theorem rollout_oldLogProbs [DecidableEq E] {mesh : Mesh} {dp sp : ℕ} {model : Model V F}
    {rowLogits : Row V F → Fin V → ℝ} {temperature : ℝ} {info : LogProbMeta}
    (h : StepRuns cfg kind features visual uid run batch maxPrompt)
    (hgrid : mesh.Grid dp sp) (hdp : dp ∣ batch.len * cfg.n)
    (hcausal : RowCausal visual model rowLogits)
    (hinfo : if info.useDynamicBsz then maxPrompt + cfg.rollout.responseLength ≤ info.maxTokenLen
      else 0 < info.microBatchSize) :
    ∃ out logs, ∃ rollouts : List (Rollout cfg.rollout run),
      rolloutStep cfg run uid batch = .ok out ∧
      computeOldLogProb mesh dp model temperature features info out = .ok logs ∧
      rollouts.map (·.row) = cfg.promptRows uid batch ∧
      out.items = rolloutItems cfg.keys kind rollouts ∧
      List.Forall₂ (ResponseLogProbs features visual rowLogits temperature) rollouts
        logs.items := by
  obtain ⟨out, rollouts, hstep, -, huniform, hlen, hrows, hitems, hwidth, hrollouts⟩ :=
    rolloutStep_outputs h
  obtain ⟨logs, hlogs, hright⟩ := oldLogProbs_rows temperature hgrid hcausal
    (width_le (Nat.add_le_add_right hwidth _) hinfo) huniform (by rw [hlen]; exact hdp)
    (by rw [hlen]; exact Nat.mul_pos h.len h.n)
    (fun item hitem => isSample_rolloutItems hrollouts h.inputs item (hitems ▸ hitem))
  rw [hitems] at hright
  exact ⟨out, logs, rollouts, hstep, hlogs, hrows, hitems,
    responseLogProbs_of_right hrollouts h.inputs (fun _ hr => hr) hright⟩

end Step

theorem exampleRun_trainable {uid : ℕ → Cell 5 ℝ String} :
    ∀ row ∈ exampleStep.promptRows uid exampleBatch, ∀ worker i output,
      exampleRun worker i (fun key => row (.nonTensor key)) = .ok output →
        Trainable exampleRollout (fun _ => ([] : List ℕ)) (· == 3) output ∧
          output.promptIds.length ≤ 2 := by
  intro row hrow worker i output hrun
  obtain ⟨name, hpos, hle, hname⟩ := exampleBatch_named row hrow
  obtain ⟨name', hname', hrun⟩ := except_bind_ok.mp hrun
  obtain rfl := Except.ok.inj ((rawPrompt_ok hname).symm.trans hname')
  obtain rfl := Except.ok.inj hrun
  refine ⟨⟨?_, Nat.le_succ 1, fun _ => ?_⟩, ?_⟩
  · simpa using hpos
  · simp [List.countP_replicate]
  · simpa using hle

theorem exampleStep_runs :
    StepRuns (exampleStep : StepConfig 5 ℝ String) exampleKind (fun _ => ([] : List ℕ)) (· == 3)
      (fun i => .number i) exampleRun exampleBatch 2 where
  tensors := rfl
  keyed := exampleBatch_keyed
  metaInfo := rfl
  len := by decide
  n := by decide
  workers := by decide
  workers_dvd := by decide
  responseLength := by decide
  separate := exampleBatch_separate
  runs := exampleBatch_ends
  inputs := by decide
  outputs := exampleRun_trainable
  promptLength := nofun

theorem rollout_oldLogProbs_two : ∃ out logs,
    ∃ rollouts : List (Rollout (exampleStep : StepConfig 5 ℝ String).rollout exampleRun),
    rolloutStep exampleStep exampleRun (fun i => .number i) exampleBatch = .ok out ∧
      computeOldLogProb ⟨2, 1⟩ 2 (sumModel (· == 3)) 1 (fun _ => []) ⟨0, true, 4⟩ out = .ok logs ∧
      rollouts.map (·.row) = exampleStep.promptRows (fun i => .number i) exampleBatch ∧
      out.items = rolloutItems (exampleStep : StepConfig 5 ℝ String).keys exampleKind rollouts ∧
      List.Forall₂ (ResponseLogProbs (fun _ => []) (· == 3)
        (fun (row : Row 5 ℕ) w => ((row.total + w : ℕ) : ℝ)) 1) rollouts logs.items :=
  rollout_oldLogProbs exampleStep_runs ⟨rfl, rfl, by decide, by decide⟩ (by decide) sumModel_causal
    (by decide)

end Rollouts

end LookAway.Training
