/-
  `compute_log_prob` of verl/workers/actor/dp_actor.py: the log-probabilities of the responses, from
  micro-batches of one size or with as many tokens as fit.

  A row has its prompt padded on the left and its response on the right, so the response columns are
  the last ones. `computeLogProb_entry`: on a causal model (`RowCausal`) a response token has its
  log-probability after the tokens of its row before it, however the rows are split, reordered and
  packed. The column after a response that ends early reads the next packed row and is masked later.
-/
import LookAway.Teacher.Causal
import LookAway.Training.MicroBatches

namespace LookAway.Training

open LookAway.Base LookAway.Base.Packing LookAway.Teacher

variable {V : ℕ} {F : Type}

/-! ## The source -/

/-- A row of the tensors that `compute_log_prob` selects. -/
structure ActorRow (V : ℕ) (F : Type) where
  inputIds : List (Fin V)
  attentionMask : List Bool
  positionIds : List (List ℤ)
  multiModalInputs : List F

/-- The tensors of a micro-batch. It has no `response_start_idx`, and `packedLogProbs` reads
    none. -/
def stack (seqlen channels : ℕ) (rows : List (ActorRow V F)) : TeacherTensors V F where
  seqlen := seqlen
  channels := channels
  inputIds := rows.map (·.inputIds)
  attentionMask := rows.map (·.attentionMask)
  positionIds := rows.map (·.positionIds)
  responseStartIdx := []
  multiModalInputs := rows.map (·.multiModalInputs)

/-- `hidden_states[:, -response_length - 1 : -1]`. -/
def selectTail {α : Type} (responseLength seqlen : ℕ) (row : List α) : List α :=
  (row.take (seqlen - 1)).drop (seqlen - (responseLength + 1))

/-- `_forward_micro_batch` of the actor, with `use_remove_padding`. -/
noncomputable def forwardActor [NeZero V] (model : Model V F) (temperature : ℝ)
    (responseLength seqlen channels : ℕ) (rows : List (ActorRow V F)) : List (List ℝ) :=
  let microBatch := stack seqlen channels rows
  let logProbs := packedLogProbs model temperature microBatch
  let fullLogProbs := unflatten rows.length seqlen
    (scatter (rows.length * seqlen) (indices microBatch.attentionMask.flatten) logProbs)
  fullLogProbs.map (selectTail responseLength seqlen)

/-- `DataProto.split`. -/
def split {ρ : Type} (splitSize : ℕ) (data : List ρ) : List (List ρ) :=
  unflatten (ceildiv data.length splitSize) splitSize data

/-- What `data.meta_info` says about the micro-batches. -/
structure LogProbMeta where
  microBatchSize : ℕ
  useDynamicBsz : Bool
  maxTokenLen : ℕ
  deriving DecidableEq

/-- The arguments of `prepare_dynamic_batch`: the token budget and the defaults. -/
def LogProbMeta.args (info : LogProbMeta) : MicroBatchArgs := ⟨info.maxTokenLen, none, none, true⟩

/-- How many tokens a row has. -/
def ActorRow.seqLen (row : ActorRow V F) : ℕ := count row.attentionMask

/-- `compute_log_prob`, the log-probs. -/
noncomputable def computeLogProb [NeZero V] (model : Model V F) (temperature : ℝ)
    (responseLength seqlen channels : ℕ) (info : LogProbMeta) (allReduce : ℕ → ℕ)
    (data : List (ActorRow V F)) : Except TrainingError (List (List ℝ)) :=
  let forward := forwardActor model temperature responseLength seqlen channels
  if info.useDynamicBsz then do
    let (microBatches, batchIdxList) ←
      prepareDynamicBatch info.args allReduce seqlen ActorRow.seqLen data
    restoreDynamicBatch (microBatches.map forward).flatten batchIdxList
  else do
    raiseIf (info.microBatchSize = 0) (.valueError "range() arg 3 must not be zero")
    -- `torch.concat` of no tensors
    raiseIf (data = []) .runtimeError
    return ((split info.microBatchSize data).map forward).flatten

/-! ## Rows with a prompt and a response -/

/-- A row and its padding. -/
structure PaddedSample (V : ℕ) (F : Type) where
  row : Row V F
  promptLength : ℕ
  leftIds : List (Fin V)
  leftPositions : List (List ℤ)
  rightIds : List (Fin V)
  rightPositions : List (List ℤ)

namespace PaddedSample

def actorRow (p : PaddedSample V F) : ActorRow V F where
  inputIds := p.leftIds ++ p.row.ids ++ p.rightIds
  attentionMask := List.replicate p.leftIds.length false ++
    (List.replicate p.row.ids.length true ++ List.replicate p.rightIds.length false)
  positionIds := p.leftPositions ++ p.row.positions ++ p.rightPositions
  multiModalInputs := p.row.features

/-- The prompt ends where the response columns start. -/
structure Fits (visual : Fin V → Bool) (seqlen responseLength : ℕ) (p : PaddedSample V F) :
    Prop where
  wellFormed : p.row.WellFormed visual
  length_ids : p.leftIds.length + p.row.ids.length + p.rightIds.length = seqlen
  length_left : p.leftPositions.length = p.leftIds.length
  length_right : p.rightPositions.length = p.rightIds.length
  prompt_pos : 1 ≤ p.promptLength
  columns : p.leftIds.length + p.promptLength + responseLength = seqlen

/-- The row with all its padding on the right: it packs to the same tokens. -/
def rightPadded (p : PaddedSample V F) : PaddedRow V F where
  row := p.row
  idsPad := p.leftIds ++ p.rightIds
  positionsPad := p.leftPositions ++ p.rightPositions
  start := 1

variable {visual : Fin V → Bool} {seqlen responseLength channels : ℕ} {p : PaddedSample V F}
  {ps : List (PaddedSample V F)}

theorem Fits.rightPadded (h : p.Fits visual seqlen responseLength) :
    p.rightPadded.Fits visual seqlen 0 where
  wellFormed := h.wellFormed
  length_ids := by
    have := h.length_ids
    simp only [PaddedSample.rightPadded, List.length_append]
    omega
  length_positions := by
    simp only [PaddedSample.rightPadded, List.length_append, h.length_left, h.length_right]
  start_pos := Nat.le_refl 1
  response_fits := by
    have hpos := List.length_pos_iff.mpr h.wellFormed.nonempty
    have := h.length_ids
    simp only [PaddedSample.rightPadded]
    omega

theorem kept_middle {α : Type} (xs ys zs : List α) :
    kept (List.replicate xs.length false ++
      (List.replicate ys.length true ++ List.replicate zs.length false)) (xs ++ ys ++ zs) = ys := by
  rw [List.append_assoc, kept_append (by simp), kept_false, List.nil_append, kept_padded]

/-- What the mask keeps of rows that are padded on both sides. -/
theorem gather_actorRows {α : Type} {f left right : PaddedSample V F → List α}
    (hf : ∀ p ∈ ps, (f p).length = p.row.ids.length)
    (hleft : ∀ p ∈ ps, (left p).length = p.leftIds.length)
    (hright : ∀ p ∈ ps, (right p).length = p.rightIds.length) :
    gather (ps.map fun p => left p ++ f p ++ right p).flatten
      (indices (ps.map fun p => p.actorRow.attentionMask).flatten) = ps.flatMap f := by
  have hlengths : List.Forall₂ (fun mask row => mask.length = row.length)
      (ps.map fun p => p.actorRow.attentionMask) (ps.map fun p => left p ++ f p ++ right p) := by
    rw [List.forall₂_map_left_iff, List.forall₂_map_right_iff, List.forall₂_same]
    intro p hp
    simp [actorRow, hf p hp, hleft p hp, hright p hp]
  rw [gather_rows hlengths, List.zipWith_map, List.zipWith_self, List.flatMap_def]
  congr 1
  refine List.map_congr_left fun p hp => ?_
  unfold actorRow
  rw [← hf p hp, ← hleft p hp, ← hright p hp, kept_middle]

theorem count_attentionMask (p : PaddedSample V F) :
    count p.actorRow.attentionMask = p.row.ids.length := by
  simp [actorRow]

theorem count_masks (ps : List (PaddedSample V F)) :
    count (ps.map fun p => p.actorRow.attentionMask).flatten =
      (ps.flatMap (·.row.ids)).length := by
  induction ps with
  | nil => rfl
  | cons p ps ih =>
      rw [List.map_cons, List.flatten_cons, List.flatMap_cons, List.length_append, ← ih,
        ← count_attentionMask p, count_append]

/-- The padding makes no difference to the packed tokens. -/
theorem packedLogProbs_rightPadded [NeZero V] (model : Model V F) (temperature : ℝ)
    (h : ∀ p ∈ ps, p.Fits visual seqlen responseLength) :
    packedLogProbs model temperature (stack seqlen channels (ps.map actorRow)) =
      packedLogProbs model temperature (padded seqlen channels (ps.map rightPadded)) := by
  have hfits : ∀ q ∈ ps.map rightPadded, q.Fits visual seqlen 0 := by
    intro q hq
    obtain ⟨p, hp, rfl⟩ := List.mem_map.mp hq
    exact (h p hp).rightPadded
  have hids : gather (stack seqlen channels (ps.map actorRow)).inputIds.flatten
      (indices (stack seqlen channels (ps.map actorRow)).attentionMask.flatten) =
        (ps.map rightPadded).flatMap (·.row.ids) := by
    unfold stack
    simp only [List.map_map]
    rw [List.flatMap_map]
    exact gather_actorRows (fun _ _ => rfl) (fun _ _ => rfl) (fun _ _ => rfl)
  have hpositions : gather (stack seqlen channels (ps.map actorRow)).positionIds.flatten
      (indices (stack seqlen channels (ps.map actorRow)).attentionMask.flatten) =
        (ps.map rightPadded).flatMap (·.row.positions) := by
    unfold stack
    simp only [List.map_map]
    rw [List.flatMap_map]
    exact gather_actorRows (fun p hp => (h p hp).wellFormed.length_positions)
      (fun p hp => (h p hp).length_left) (fun p hp => (h p hp).length_right)
  have hfeatures : (stack seqlen channels (ps.map actorRow)).multiModalInputs =
      (padded seqlen channels (ps.map rightPadded)).multiModalInputs := by
    unfold stack padded
    simp only [List.map_map]
    rfl
  have hcount : count (stack seqlen channels (ps.map actorRow)).attentionMask.flatten =
      ((ps.map rightPadded).flatMap (·.row.ids)).length := by
    unfold stack
    simp only [List.map_map]
    rw [List.flatMap_map]
    exact count_masks ps
  unfold packedLogProbs
  simp only [hids, hpositions, hcount, hfeatures, packed_ids, packed_positions hfits]
  rw [show count (padded seqlen channels (ps.map rightPadded)).attentionMask.flatten =
    ((ps.map rightPadded).flatMap (·.row.ids)).length from Teacher.count_masks _]
  rfl

end PaddedSample

/-! ## One micro-batch -/

section Forward

variable [NeZero V] {visual : Fin V → Bool} {model : Model V F} {rowLogits : Row V F → Fin V → ℝ}
  {temperature : ℝ} {seqlen channels responseLength : ℕ} {ps : List (PaddedSample V F)}

/-- The log-probs of a micro-batch of samples, before the response columns are selected. -/
noncomputable def fullActor (model : Model V F) (temperature : ℝ) (seqlen channels : ℕ)
    (ps : List (PaddedSample V F)) : List (List ℝ) :=
  unflatten ps.length seqlen
    (scatter (ps.length * seqlen) (indices (ps.map fun p => p.actorRow.attentionMask).flatten)
      (packedLogProbs model temperature
        (padded seqlen channels (ps.map PaddedSample.rightPadded))))

theorem forwardActor_eq (h : ∀ p ∈ ps, p.Fits visual seqlen responseLength) :
    forwardActor model temperature responseLength seqlen channels
        (ps.map PaddedSample.actorRow) =
      (fullActor model temperature seqlen channels ps).map (selectTail responseLength seqlen) := by
  have hmasks : (stack seqlen channels (ps.map PaddedSample.actorRow)).attentionMask =
      ps.map fun p => p.actorRow.attentionMask := List.map_map
  unfold forwardActor fullActor
  simp only [hmasks, List.length_map, PaddedSample.packedLogProbs_rightPadded model temperature h]

omit [NeZero V] in
theorem count_take_actorMask {p : PaddedSample V F} {k : ℕ} (h : k ≤ p.row.ids.length) :
    count (p.actorRow.attentionMask.take (p.leftIds.length + k)) = k := by
  unfold PaddedSample.actorRow
  rw [List.take_append, List.take_of_length_le (by simp), count_append, count_false,
    List.length_replicate, Nat.add_sub_cancel_left, Nat.zero_add,
    List.take_append_of_le_length (by simpa using h), List.take_replicate, count_true,
    Nat.min_eq_left h]

omit [NeZero V] in
theorem actorMask_get {p : PaddedSample V F} {k : ℕ} (h : k < p.row.ids.length) :
    p.actorRow.attentionMask[p.leftIds.length + k]? = some true := by
  unfold PaddedSample.actorRow
  rw [List.getElem?_append_right (by simp), List.length_replicate, Nat.add_sub_cancel_left,
    List.getElem?_append_left (by simpa using h), List.getElem?_replicate, if_pos h]

variable (channels) in
theorem fullActor_get (temperature : ℝ) (hcausal : RowCausal visual model rowLogits)
    (h : ∀ p ∈ ps, p.Fits visual seqlen responseLength) {i k : ℕ} (hi : i < ps.length)
    (hk : k + 1 < ps[i].row.ids.length) :
    entry? (fullActor model temperature seqlen channels ps) i (ps[i].leftIds.length + k) =
      some (logprob temperature (rowLogits (ps[i].row.take visual (k + 1)))
        ps[i].row.ids[k + 1]) := by
  have hfits : ∀ q ∈ ps.map PaddedSample.rightPadded, q.Fits visual seqlen 0 := by
    intro q hq
    obtain ⟨p, hp, rfl⟩ := List.mem_map.mp hq
    exact (h p hp).rightPadded
  have hwidth : ∀ mask ∈ ps.map (fun p => p.actorRow.attentionMask), mask.length = seqlen := by
    intro mask hmask
    obtain ⟨p, hp, rfl⟩ := List.mem_map.mp hmask
    have := (h p hp).length_ids
    simp only [PaddedSample.actorRow, List.length_append, List.length_replicate]
    omega
  have hlogProbs : (packedLogProbs model temperature
      (padded seqlen channels (ps.map PaddedSample.rightPadded))).length =
        count (ps.map fun p => p.actorRow.attentionMask).flatten := by
    rw [length_packedLogProbs channels hcausal temperature hfits, Teacher.count_masks,
      PaddedSample.count_masks, List.flatMap_map]
    rfl
  have hspread := scatter_rows hwidth hlogProbs (i := i) (j := ps[i].leftIds.length + k)
    (by simpa using hi) (by simpa using actorMask_get (p := ps[i]) (Nat.lt_of_succ_lt hk))
  simp only [List.length_map, List.getElem_map, ← List.map_take, PaddedSample.count_masks,
    count_take_actorMask (Nat.le_of_lt (Nat.lt_of_succ_lt hk))] at hspread
  have hpacked : (packedLogProbs model temperature
      (padded seqlen channels (ps.map PaddedSample.rightPadded)))[_]? = some _ :=
    packedLogProbs_get hcausal temperature hfits (i := i) (k := k) (by simpa using hi)
      (by simpa [PaddedSample.rightPadded] using hk)
  rw [← List.map_take, List.flatMap_map] at hpacked
  have hfit := (h ps[i] (List.getElem_mem hi)).length_ids
  unfold entry? fullActor
  rw [getElem?_unflatten _ hi (by omega), hspread]
  refine hpacked.trans ?_
  simp [PaddedSample.rightPadded]

/-- The log-probs of a row are right: those of the tokens of its response. -/
def RightLogProbs (visual : Fin V → Bool) (rowLogits : Row V F → Fin V → ℝ) (temperature : ℝ)
    (responseLength : ℕ) (p : PaddedSample V F) (lp : List ℝ) : Prop :=
  ∀ t, t < responseLength → ∀ y, p.row.ids[p.promptLength + t]? = some y →
    lp[t]? = some (logprob temperature (rowLogits (p.row.take visual (p.promptLength + t))) y)

theorem getElem?_selectTail {α : Type} {row : List α} {t : ℕ} (hfit : responseLength + 1 ≤ seqlen)
    (ht : t < responseLength) :
    (selectTail responseLength seqlen row)[t]? = row[seqlen - (responseLength + 1) + t]? := by
  unfold selectTail
  rw [List.getElem?_drop, List.getElem?_take_of_lt (by omega)]

/-- The forward gives every row the log-probs of its response tokens. -/
theorem forwardActor_rows (hcausal : RowCausal visual model rowLogits)
    (h : ∀ p ∈ ps, p.Fits visual seqlen responseLength) :
    List.Forall₂ (RightLogProbs visual rowLogits temperature responseLength) ps
      (forwardActor model temperature responseLength seqlen channels
        (ps.map PaddedSample.actorRow)) := by
  rw [forwardActor_eq h]
  refine List.forall₂_iff_get.mpr ⟨by simp [fullActor], fun i hi hi' => ?_⟩
  have hfit := h ps[i] (List.getElem_mem hi)
  have hcolumns := hfit.columns
  have hprompt := hfit.prompt_pos
  intro t ht y hy
  simp only [List.get_eq_getElem] at hy ⊢
  obtain ⟨hlt, rfl⟩ := List.getElem?_eq_some_iff.mp hy
  have hprev : ps[i].promptLength - 1 + t + 1 = ps[i].promptLength + t := by omega
  have hplace : seqlen - (responseLength + 1) + t =
      ps[i].leftIds.length + (ps[i].promptLength - 1 + t) := by omega
  have hentry := fullActor_get channels temperature hcausal h hi
    (k := ps[i].promptLength - 1 + t) (by omega)
  have hi'' : i < (fullActor model temperature seqlen channels ps).length := by
    rwa [List.length_map] at hi'
  unfold entry? at hentry
  rw [List.getElem?_eq_getElem hi'', Option.bind_some] at hentry
  rw [List.getElem_map, getElem?_selectTail (by omega) ht, hplace, hentry]
  simp only [hprev]

end Forward

/-! ## The batch -/

section Batch

variable [NeZero V] {visual : Fin V → Bool} {model : Model V F} {rowLogits : Row V F → Fin V → ℝ}
  {temperature : ℝ} {seqlen channels responseLength : ℕ} {ps : List (PaddedSample V F)}
  {info : LogProbMeta}

theorem flatten_split {ρ : Type} {splitSize : ℕ} (h : 0 < splitSize) (data : List ρ) :
    (split splitSize data).flatten = data := by
  unfold split
  rw [flatten_unflatten, List.take_of_length_le (le_ceildiv_mul _ h)]

theorem mem_of_mem_split {ρ : Type} {splitSize : ℕ} {data rows : List ρ}
    (h : rows ∈ split splitSize data) : ∀ row ∈ rows, row ∈ data := by
  obtain ⟨i, -, rfl⟩ := List.mem_map.mp h
  exact fun row hrow => List.mem_of_mem_drop (List.mem_of_mem_take hrow)

theorem split_map {ρ σ : Type} (f : ρ → σ) (splitSize : ℕ) (data : List ρ) :
    split splitSize (data.map f) = (split splitSize data).map (List.map f) := by
  unfold split unflatten
  simp only [List.length_map, List.map_map, Function.comp_def, List.map_take, List.map_drop]

omit [NeZero V] in
theorem sum_seqLen_pos (h : ∀ p ∈ ps, p.Fits visual seqlen responseLength) (hne : ps ≠ []) :
    0 < ((ps.map PaddedSample.actorRow).map ActorRow.seqLen).sum := by
  cases ps with
  | nil => exact absurd rfl hne
  | cons p ps =>
      have hpos := List.length_pos_iff.mpr (h p (by simp)).wellFormed.nonempty
      rw [List.map_cons, List.map_cons, List.sum_cons]
      have hcount : p.actorRow.seqLen = p.row.ids.length := PaddedSample.count_attentionMask p
      omega

/-- A batch that is one rank's share of the rows, whether the micro-batches have one size or as many
    tokens as fit: what holds of each row in a forward holds of it in the result. -/
theorem computeLogProb_rows {R : PaddedSample V F → List ℝ → Prop}
    (hforward : ∀ rows, (∀ row ∈ rows, row ∈ ps) → List.Forall₂ R rows
      (forwardActor model temperature responseLength seqlen channels
        (rows.map PaddedSample.actorRow)))
    (hfits : ∀ p ∈ ps, p.Fits visual seqlen responseLength) (hne : ps ≠ [])
    (hinfo : if info.useDynamicBsz then seqlen ≤ info.maxTokenLen else 0 < info.microBatchSize)
    {ranks : List (List ℕ)}
    (hrank : (ps.map PaddedSample.actorRow).map ActorRow.seqLen ∈ ranks)
    (hranks : ∀ rank ∈ ranks, rank.length = ps.length) :
    ∃ lp, computeLogProb model temperature responseLength seqlen channels info
        (reduced info.args ranks) (ps.map PaddedSample.actorRow) = .ok lp ∧
      List.Forall₂ R ps lp := by
  unfold computeLogProb
  split at hinfo
  · rename_i hdynamic
    have htokens := sum_seqLen_pos hfits hne
    have hmax : 0 < info.args.maxTokenLen := by
      have hfit := hfits _ (List.head_mem hne)
      have := hfit.columns
      have := hfit.prompt_pos
      change 0 < info.maxTokenLen
      omega
    have hnum := numMicroBatches_plain hranks hmax rfl rfl ⟨_, hrank, htokens⟩
    have hwidth : seqlen ≤ info.args.maxTokenLen := hinfo
    have hpos : 0 < numMicroBatches info.args (reduced info.args ranks)
        ((ps.map PaddedSample.actorRow).map ActorRow.seqLen) := hnum.1
    have hle : numMicroBatches info.args (reduced info.args ranks)
        ((ps.map PaddedSample.actorRow).map ActorRow.seqLen) ≤
          ((ps.map PaddedSample.actorRow).map ActorRow.seqLen).length := by
      rw [List.length_map, List.length_map]
      exact hnum.2
    obtain ⟨-, parts, hparts, -⟩ :=
      rearrange_of_num hwidth (by omega) nofun hpos hle
    have hprepare : prepareDynamicBatch info.args (reduced info.args ranks) seqlen
        (ActorRow.seqLen ∘ PaddedSample.actorRow) ps = .ok (parts.map (gather ps), parts) :=
      except_bind_ok.mpr ⟨parts, by rwa [List.map_map] at hparts, rfl⟩
    obtain ⟨lp, hlp, hright⟩ := restore_prepare (g := fun rows => forwardActor model temperature
      responseLength seqlen channels (rows.map PaddedSample.actorRow)) hforward hprepare
    refine ⟨lp, ?_, hright⟩
    rw [if_pos hdynamic]
    refine except_bind_ok.mpr ⟨_, except_bind_ok.mpr ⟨parts, hparts, rfl⟩, ?_⟩
    have hmicro : parts.map (gather (ps.map PaddedSample.actorRow)) =
        (parts.map (gather ps)).map (List.map PaddedSample.actorRow) := by
      rw [List.map_map]
      exact List.map_congr_left fun part _ => gather_map _ _ _
    dsimp only
    rw [hmicro, List.map_map]
    exact hlp
  · rename_i hsplit
    have hnil : ps.map PaddedSample.actorRow ≠ [] := by simpa using hne
    refine ⟨_, by rw [if_neg hsplit, raiseIf_neg (by omega), raiseIf_neg hnil]; rfl, ?_⟩
    have hrows : List.Forall₂ R (split info.microBatchSize ps).flatten
        ((split info.microBatchSize ps).map fun rows => forwardActor model temperature
          responseLength seqlen channels (rows.map PaddedSample.actorRow)).flatten := by
      refine List.rel_flatten (List.forall₂_map_right_iff.mpr (List.forall₂_same.mpr ?_))
      exact fun rows hmem => hforward rows (mem_of_mem_split hmem)
    rw [flatten_split hinfo] at hrows
    rw [split_map, List.map_map]
    exact hrows

/-- Every response token gets its log-probability after the tokens of its row before it. -/
theorem computeLogProb_entry (hcausal : RowCausal visual model rowLogits)
    (hfits : ∀ p ∈ ps, p.Fits visual seqlen responseLength) (hne : ps ≠ [])
    (hinfo : if info.useDynamicBsz then seqlen ≤ info.maxTokenLen else 0 < info.microBatchSize)
    {ranks : List (List ℕ)}
    (hrank : (ps.map PaddedSample.actorRow).map ActorRow.seqLen ∈ ranks)
    (hranks : ∀ rank ∈ ranks, rank.length = ps.length) :
    ∃ lp, computeLogProb model temperature responseLength seqlen channels info
        (reduced info.args ranks) (ps.map PaddedSample.actorRow) = .ok lp ∧
      List.Forall₂ (RightLogProbs visual rowLogits temperature responseLength) ps lp :=
  computeLogProb_rows (fun _ hrows => forwardActor_rows hcausal fun p hp => hfits p (hrows p hp))
    hfits hne hinfo hrank hranks

/-- Two samples of four columns, two of them for the response. Token 3 is an image. -/
def twoSamples : List (PaddedSample 6 ℕ) :=
  [⟨⟨[1, 2, 1], [[0], [1], [2]], []⟩, 1, [0], [[0]], [], []⟩,
    ⟨⟨[3, 1, 2], [[0], [1], [2]], [7]⟩, 2, [], [], [0], [[0]]⟩]

theorem counted_of_range {positions : List (List ℤ)} {n : ℕ}
    (h : positions = (List.range n).map fun k : ℕ => [(k : ℤ)]) (k : ℕ) (p : List ℤ)
    (hp : positions[k]? = some p) : p.head? = some (k : ℤ) := by
  subst h
  rw [List.getElem?_map] at hp
  obtain ⟨k', hk', rfl⟩ := Option.map_eq_some_iff.mp hp
  obtain ⟨hlt, rfl⟩ := List.getElem?_eq_some_iff.mp hk'
  rw [List.getElem_range]
  rfl

theorem twoSamples_fits : ∀ p ∈ twoSamples, p.Fits (· == 3) 4 2 := by
  intro p hp
  rcases List.mem_pair.mp hp with rfl | rfl
  · exact ⟨⟨by decide, rfl, counted_of_range (n := 3) rfl, rfl⟩, rfl, rfl, rfl, by decide, rfl⟩
  · exact ⟨⟨by decide, rfl, counted_of_range (n := 3) rfl, rfl⟩, rfl, rfl, rfl, by decide, rfl⟩

theorem computeLogProb_twoSamples :
    ∃ lp, computeLogProb (sumModel (· == 3)) 1 2 4 1 ⟨0, true, 8⟩
        (reduced (LogProbMeta.args ⟨0, true, 8⟩) [[3, 3], [1, 4]])
        (twoSamples.map PaddedSample.actorRow) = .ok lp ∧
      List.Forall₂ (RightLogProbs (· == 3) (fun row w => ((row.total + w : ℕ) : ℝ)) 1 2)
        twoSamples lp :=
  computeLogProb_entry sumModel_causal twoSamples_fits (by decide) (by decide) (by decide)
    (by decide)

end Batch

end LookAway.Training
