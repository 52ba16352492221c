/-
  A call of the worker group: the rows of a batch are dispatched to the ranks of a mesh, worked on
  and collected (verl/single_controller/base/decorator.py, `func_generator` of
  verl/single_controller/ray/base.py, the mesh of `ActorRolloutRefWorker.__init__`).

  `callWorkers_rows`: on every mesh of data-parallel groups, work that goes row by row gives every
  row of the batch its own result, in the order of the rows, and each row is worked on once for each
  rank of its group. `padded_call`: so does the call between `pad_dataproto_to_divisor` and
  `unpad_dataproto`, for a batch of any size.
-/
import LookAway.Training.DataProto
import Mathlib.Data.List.MinMax
import Mathlib.Order.Nat

namespace LookAway.Training

open LookAway.Base LookAway.Base.Packing

variable {α μ : Type}

/-! ## The source -/

/-- A mesh of `worldSize` ranks, `ulysses_sequence_parallel_size` of them in a group. -/
structure Mesh where
  worldSize : ℕ
  sequenceParallelSize : ℕ
  deriving DecidableEq

/-- `_register_dispatch_collect_info("actor", dp_rank=...)`. -/
def Mesh.dpRank (mesh : Mesh) (rank : ℕ) : ℕ :=
  if 1 < mesh.sequenceParallelSize then rank / mesh.sequenceParallelSize else rank

/-- `_register_dispatch_collect_info("actor", is_collect=...)`. -/
def Mesh.isCollect (mesh : Mesh) (rank : ℕ) : Bool :=
  if 1 < mesh.sequenceParallelSize then rank % mesh.sequenceParallelSize = 0 else true

/-- `dp_rank_mapping`. -/
def Mesh.dpRankMapping (mesh : Mesh) : List ℕ := (List.range mesh.worldSize).map mesh.dpRank

/-- `dispatch_lazy_compute_data_proto`: for each rank, its piece. -/
def dispatch (mesh : Mesh) (data : DataProto α μ) :
    Except TrainingError (List (DataProto α μ)) := do
  -- `max` of no ranks
  raiseIf (mesh.dpRankMapping = []) (.valueError "max() arg is an empty sequence")
  let dpSize := mesh.dpRankMapping.foldr max 0 + 1
  let chunked ← data.chunk dpSize
  check (chunked.length = dpSize) ""
  mesh.dpRankMapping.mapM fun localDpRank =>
    match chunked[localDpRank]? with
    | some piece => .ok piece
    | none => .error .indexError

/-- `collect_lazy_compute_data_proto`. -/
def collect [DecidableEq μ] (mesh : Mesh) (output : List (DataProto α μ)) :
    Except TrainingError (DataProto α μ) := do
  check (output.length = mesh.worldSize) ""
  let outputInDp := (output.zipIdx.filter fun e => mesh.isCollect e.2).map (·.1)
  DataProto.concat outputInDp

/-- `func_generator`: dispatch, execute on every rank, collect. -/
def callWorkers [DecidableEq μ] (mesh : Mesh)
    (worker : ℕ → DataProto α μ → Except TrainingError (DataProto α μ)) (data : DataProto α μ) :
    Except TrainingError (DataProto α μ) := do
  let args ← dispatch mesh data
  let output ← args.zipIdx.mapM fun e => worker e.2 e.1
  collect mesh output

/-- The callers of a batch of any size: pad, call, unpad. -/
def paddedCall [DecidableEq μ] (mesh : Mesh) (sizeDivisor : ℕ)
    (worker : ℕ → DataProto α μ → Except TrainingError (DataProto α μ)) (data : DataProto α μ) :
    Except TrainingError (DataProto α μ) := do
  let (padded, padSize) ← data.padDataprotoToDivisor sizeDivisor
  let output ← callWorkers mesh worker padded
  return output.unpadDataproto padSize

/-! ## Meshes -/

/-- `dp` groups of `sp` ranks. -/
structure Mesh.Grid (mesh : Mesh) (dp sp : ℕ) : Prop where
  world : mesh.worldSize = dp * sp
  size : mesh.sequenceParallelSize = sp
  dp_pos : 0 < dp
  sp_pos : 0 < sp

section Grid

variable {mesh : Mesh} {dp sp : ℕ}

theorem Mesh.Grid.dpRank_eq (h : mesh.Grid dp sp) (rank : ℕ) : mesh.dpRank rank = rank / sp := by
  have hsp := h.sp_pos
  unfold Mesh.dpRank
  rw [h.size]
  split
  · rfl
  · obtain rfl : sp = 1 := by omega
    rw [Nat.div_one]

theorem Mesh.Grid.isCollect_eq (h : mesh.Grid dp sp) (rank : ℕ) :
    mesh.isCollect rank = decide (rank % sp = 0) := by
  have hsp := h.sp_pos
  unfold Mesh.isCollect
  rw [h.size]
  split
  · rfl
  · obtain rfl : sp = 1 := by omega
    rw [Nat.mod_one]
    rfl

theorem Mesh.Grid.dpRankMapping_eq (h : mesh.Grid dp sp) :
    mesh.dpRankMapping = (List.range (dp * sp)).map (· / sp) := by
  unfold Mesh.dpRankMapping
  rw [h.world]
  exact List.map_congr_left fun rank _ => h.dpRank_eq rank

/-- The largest data-parallel rank is the last one. -/
theorem Mesh.Grid.dpSize_eq (h : mesh.Grid dp sp) : mesh.dpRankMapping.foldr max 0 + 1 = dp := by
  have hdp := h.dp_pos
  have hsp := h.sp_pos
  have hlast : (dp - 1) * sp < dp * sp := Nat.mul_lt_mul_of_pos_right (by omega) hsp
  have hmem : dp - 1 ∈ mesh.dpRankMapping := by
    rw [h.dpRankMapping_eq]
    exact List.mem_map.mpr ⟨(dp - 1) * sp, List.mem_range.mpr hlast, Nat.mul_div_cancel _ hsp⟩
  have hmax : mesh.dpRankMapping.foldr max 0 ≤ dp - 1 := by
    refine List.max_le_of_forall_le mesh.dpRankMapping (dp - 1) fun r hr => ?_
    rw [h.dpRankMapping_eq] at hr
    obtain ⟨rank, hrank, rfl⟩ := List.mem_map.mp hr
    have := Nat.div_lt_of_lt_mul (Nat.mul_comm dp sp ▸ List.mem_range.mp hrank)
    omega
  have hge : dp - 1 ≤ mesh.dpRankMapping.foldr max 0 := List.le_max_of_le hmem (Nat.le_refl _)
  omega

theorem Mesh.Grid.dpRankMapping_ne_nil (h : mesh.Grid dp sp) : mesh.dpRankMapping ≠ [] := by
  have hpos := Nat.mul_pos h.dp_pos h.sp_pos
  rw [h.dpRankMapping_eq, ← List.length_pos_iff, List.length_map, List.length_range]
  exact hpos

/-- The ranks that collect: the first of each group. -/
theorem filter_range_mod (dp : ℕ) {sp : ℕ} (hsp : 0 < sp) :
    (List.range (dp * sp)).filter (fun r => decide (r % sp = 0)) =
      (List.range dp).map (· * sp) := by
  induction dp with
  | zero => rw [Nat.zero_mul]; rfl
  | succ dp ih =>
      have hgroup : (List.range sp).filter (fun r => decide ((dp * sp + r) % sp = 0)) = [0] := by
        obtain ⟨sp, rfl⟩ : ∃ sp', sp = sp' + 1 := ⟨sp - 1, by omega⟩
        rw [List.range_succ_eq_map, List.filter_cons_of_pos (by simp), List.filter_eq_nil_iff.mpr]
        intro r hr
        obtain ⟨r', hr', rfl⟩ := List.mem_map.mp hr
        have hlt := List.mem_range.mp hr'
        rw [decide_eq_true_eq, Nat.mul_add_mod_self_right, Nat.mod_eq_of_lt (by omega)]
        omega
      rw [Nat.succ_mul, List.range_add, List.filter_append, ih, List.filter_map,
        List.range_succ, List.map_append]
      congr 1
      exact congrArg (List.map (dp * sp + ·)) hgroup

end Grid

/-- Dropping entries by their index. -/
theorem filter_zipIdx {γ : Type} (p : ℕ → Bool) (xs : List γ) :
    (xs.zipIdx.filter fun e => p e.2).map (·.1) =
      gather xs ((List.range xs.length).filter p) := by
  induction xs using List.reverseRecOn with
  | nil => rfl
  | append_singleton xs x ih =>
      have hin : ∀ i ∈ (List.range xs.length).filter p, i < xs.length := fun i hi =>
        List.mem_range.mp (List.mem_of_mem_filter hi)
      have hfront : gather (xs ++ [x]) ((List.range xs.length).filter p) =
          gather xs ((List.range xs.length).filter p) := by
        unfold gather
        exact List.filterMap_congr fun i hi => List.getElem?_append_left (hin i hi)
      rw [List.zipIdx_append, List.filter_append, List.map_append, ih, List.length_append,
        List.length_singleton, List.range_succ, List.filter_append, gather_append, hfront]
      congr 1
      cases hp : p xs.length <;> simp [hp, gather]

/-! ## The call -/

section Call

variable {mesh : Mesh} {dp sp : ℕ} {data : DataProto α μ}

/-- The result of a piece, row by row: a row and its result are related by `R`. -/
structure RowResult (R : (Key → Option α) → (Key → Option α) → Prop) (keys : Key → Bool)
    (metaInfo : List (String × μ)) (piece out : DataProto α μ) : Prop where
  rows : List.Forall₂ R piece.items out.items
  batch : out.batch.isSome
  same_keys : ∀ k, (out.table k).isSome = keys k
  metaInfo_eq : out.metaInfo = metaInfo

/-- A worker that goes row by row on any rows of a batch: its results have the same keys and the
    same meta info. -/
def RowWorker (R : (Key → Option α) → (Key → Option α) → Prop) (keys : Key → Bool)
    (metaInfo : List (String × μ)) (data : DataProto α μ)
    (worker : ℕ → DataProto α μ → Except TrainingError (DataProto α μ)) : Prop :=
  ∀ rank piece, piece.Uniform → piece.metaInfo = data.metaInfo → piece.items ≠ [] →
    (∀ row ∈ piece.items, row ∈ data.items) →
      ∃ out, worker rank piece = .ok out ∧ RowResult R keys metaInfo piece out

/-- A worker that goes row by row on the pieces that the ranks of a mesh get. -/
def PieceWorker (R : (Key → Option α) → (Key → Option α) → Prop) (keys : Key → Bool)
    (metaInfo : List (String × μ)) (dp : ℕ) (data : DataProto α μ)
    (worker : ℕ → DataProto α μ → Except TrainingError (DataProto α μ)) : Prop :=
  ∀ rank pieces, data.chunk dp = .ok pieces → ∀ piece ∈ pieces,
    ∃ out, worker rank piece = .ok out ∧ RowResult R keys metaInfo piece out

/-- Each rank gets the piece of its group. -/
theorem dispatch_ok (hgrid : mesh.Grid dp sp) {pieces : List (DataProto α μ)}
    (hpieces : data.chunk dp = .ok pieces) (hlength : pieces.length = dp) :
    dispatch mesh data = .ok ((List.range (dp * sp)).map fun rank =>
      (pieces[rank / sp]?).getD data) := by
  refine except_bind_ok.mpr ⟨(), raiseIf_neg hgrid.dpRankMapping_ne_nil, ?_⟩
  dsimp only
  rw [hgrid.dpSize_eq]
  refine except_bind_ok.mpr ⟨pieces, hpieces, except_bind_ok.mpr ⟨(), check_pos hlength, ?_⟩⟩
  rw [hgrid.dpRankMapping_eq, mapM_eq_map (g := fun g => (pieces[g]?).getD data), List.map_map]
  · rfl
  · intro g hg
    obtain ⟨rank, hrank, rfl⟩ := List.mem_map.mp hg
    have hlt : rank / sp < pieces.length := by
      rw [hlength]
      exact Nat.div_lt_of_lt_mul (Nat.mul_comm dp sp ▸ List.mem_range.mp hrank)
    rw [List.getElem?_eq_getElem hlt]
    rfl

variable {R : (Key → Option α) → (Key → Option α) → Prop} {keys : Key → Bool}
  {metaInfo : List (String × μ)}
  {worker : ℕ → DataProto α μ → Except TrainingError (DataProto α μ)}

theorem RowResult.aligned {pieces outs : List (DataProto α μ)}
    (h : List.Forall₂ (RowResult R keys metaInfo) pieces outs) :
    DataProto.Aligned outs ∧ ∀ out ∈ outs, out.metaInfo = metaInfo := by
  have hresult : ∀ out ∈ outs, ∃ piece, RowResult R keys metaInfo piece out := by
    intro out hout
    obtain ⟨i, hi, rfl⟩ := List.mem_iff_getElem.mp hout
    exact ⟨_, h.get (h.length_eq ▸ hi) hi⟩
  refine ⟨⟨?_, ?_, ?_, ?_⟩, ?_⟩
  · intro out hout
    obtain ⟨piece, hpiece⟩ := hresult out hout
    obtain ⟨td, htd⟩ := Option.isSome_iff_exists.mp hpiece.batch
    exact DataProto.uniform_of_batch htd
  · intro out hout
    exact .inl (hresult out hout).choose_spec.batch
  · intro out hout out' hout'
    rw [(hresult out hout).choose_spec.batch, (hresult out' hout').choose_spec.batch]
  · intro out hout out' hout' k
    rw [(hresult out hout).choose_spec.same_keys, (hresult out' hout').choose_spec.same_keys]
  · intro out hout
    exact (hresult out hout).choose_spec.metaInfo_eq

/-- The results of the ranks that collect, for the pieces of their groups. -/
theorem collected_results (hgrid : mesh.Grid dp sp) {pieces outputs : List (DataProto α μ)}
    (hlength : pieces.length = dp) (houtputs : outputs.length = dp * sp)
    (h : ∀ r, r < dp * sp → ∃ piece out, pieces[r / sp]? = some piece ∧ outputs[r]? = some out ∧
      RowResult R keys metaInfo piece out) :
    List.Forall₂ (RowResult R keys metaInfo) pieces
      ((outputs.zipIdx.filter fun e => mesh.isCollect e.2).map (·.1)) := by
  have hsp := hgrid.sp_pos
  have hcollect : (fun e : DataProto α μ × ℕ => mesh.isCollect e.2) =
      fun e => decide (e.2 % sp = 0) := by
    funext e
    exact hgrid.isCollect_eq e.2
  have hin : ∀ r ∈ (List.range dp).map (· * sp), r < outputs.length := by
    intro r hr
    obtain ⟨g, hg, rfl⟩ := List.mem_map.mp hr
    rw [houtputs]
    exact Nat.mul_lt_mul_of_pos_right (List.mem_range.mp hg) hsp
  rw [hcollect, filter_zipIdx (fun r => decide (r % sp = 0)), houtputs, filter_range_mod dp hsp]
  refine List.forall₂_iff_get.mpr ⟨by rw [length_gather hin]; simp [hlength], ?_⟩
  intro g hg hg'
  have hlt : g < dp := hlength ▸ hg
  obtain ⟨piece, out, hpiece, hout, hresult⟩ := h (g * sp) (Nat.mul_lt_mul_of_pos_right hlt hsp)
  rw [Nat.mul_div_cancel _ hsp] at hpiece
  have hplace : (gather outputs ((List.range dp).map (· * sp)))[g]? = some out := by
    rw [getElem?_gather hin, List.getElem?_map, List.getElem?_range hlt, Option.map_some,
      Option.bind_some, hout]
  obtain ⟨_, hpiece⟩ := List.getElem?_eq_some_iff.mp hpiece
  obtain ⟨_, hplace⟩ := List.getElem?_eq_some_iff.mp hplace
  rw [List.get_eq_getElem, List.get_eq_getElem, hpiece, hplace]
  exact hresult

/-- On every mesh, row-wise work gives each row of the batch its own result, in order. -/
theorem callWorkers_rows [DecidableEq μ] (hgrid : mesh.Grid dp sp) (hdata : data.Uniform)
    (hdp : dp ∣ data.len) (hpos : 0 < data.len) (hnodup : (metaInfo.map (·.1)).Nodup)
    (hworker : PieceWorker R keys metaInfo dp data worker) :
    ∃ out, callWorkers mesh worker data = .ok out ∧ List.Forall₂ R data.items out.items ∧
      out.Uniform ∧ out.metaInfo = metaInfo := by
  have hdp_pos := hgrid.dp_pos
  obtain ⟨pieces, hchunk, hlength, hflat, -⟩ := DataProto.chunk_exists hdata hpos hdp_pos hdp
  have hdispatch := dispatch_ok hgrid hchunk hlength
  have hresult : ∀ rank, ∀ piece ∈ pieces, ∃ out, worker rank piece = .ok out ∧
      RowResult R keys metaInfo piece out := fun rank => hworker rank pieces hchunk
  have hpiece_at : ∀ r, r < dp * sp → ∃ piece ∈ pieces, pieces[r / sp]? = some piece := by
    intro r hr
    have hlt : r / sp < pieces.length := by
      rw [hlength]
      exact Nat.div_lt_of_lt_mul (Nat.mul_comm dp sp ▸ hr)
    exact ⟨_, List.getElem_mem hlt, List.getElem?_eq_getElem hlt⟩
  obtain ⟨outputs, houtputs⟩ : ∃ outputs, (((List.range (dp * sp)).map fun rank =>
      (pieces[rank / sp]?).getD data).zipIdx.mapM fun e => worker e.2 e.1) = .ok outputs := by
    refine mapM_exists fun e he => ?_
    obtain ⟨hlt, he⟩ := List.getElem?_eq_some_iff.mp (List.mem_zipIdx_iff_getElem?.mp he)
    rw [List.length_map, List.length_range] at hlt
    rw [List.getElem_map, List.getElem_range] at he
    obtain ⟨piece, hpiece, hat⟩ := hpiece_at e.2 hlt
    rw [hat, Option.getD_some] at he
    obtain ⟨out, hout, -⟩ := hresult e.2 piece hpiece
    exact ⟨out, by rw [← he]; exact hout⟩
  have hlength_outputs : outputs.length = dp * sp := by
    rw [length_of_mapM houtputs, List.length_zipIdx, List.length_map, List.length_range]
  have hcollected := collected_results hgrid hlength hlength_outputs fun r hr => by
    obtain ⟨piece, hpiece, hat⟩ := hpiece_at r hr
    obtain ⟨out, hout, hrows⟩ := hresult r piece hpiece
    obtain ⟨out', hout', hworked⟩ := getElem?_mapM houtputs (i := r) (x := (piece, r)) (by
      rw [List.getElem?_zipIdx, List.getElem?_map, List.getElem?_range hr, Option.map_some,
        Option.map_some, hat, Nat.zero_add]
      rfl)
    obtain rfl := Except.ok.inj (hworked.symm.trans hout)
    exact ⟨piece, out', hat, hout', hrows⟩
  obtain ⟨haligned, hmeta⟩ := RowResult.aligned hcollected
  have hne : (outputs.zipIdx.filter fun e => mesh.isCollect e.2).map (·.1) ≠ [] := by
    rw [← List.length_pos_iff, ← hcollected.length_eq, hlength]
    exact hdp_pos
  obtain ⟨out, hconcat, hout⟩ := DataProto.concat_exists hne haligned hnodup hmeta
  obtain ⟨hout_items, hout_uniform⟩ := DataProto.items_concat haligned hconcat
  refine ⟨out, ?_, ?_, hout_uniform, hout⟩
  · refine except_bind_ok.mpr ⟨_, hdispatch, except_bind_ok.mpr ⟨outputs, houtputs, ?_⟩⟩
    exact except_bind_ok.mpr ⟨(), check_pos (hlength_outputs.trans hgrid.world.symm), hconcat⟩
  · rw [hout_items, ← hflat]
    refine List.rel_flatten (List.forall₂_map_left_iff.mpr (List.forall₂_map_right_iff.mpr ?_))
    exact hcollected.imp fun _ _ h => h.rows

/-- A worker that copies a column. -/
def copyWorker (_ : ℕ) (piece : DataProto ℕ ℕ) : Except TrainingError (DataProto ℕ ℕ) :=
  .ok (.ofSamples [("copy", fun row : Key → Option ℕ => (row (.tensor "x")).getD 0)] []
    piece.items [])

def Copied (row out : Key → Option ℕ) : Prop :=
  out (.tensor "copy") = some ((row (.tensor "x")).getD 0)

theorem copyWorker_result (piece : DataProto ℕ ℕ) : ∃ out, copyWorker 0 piece = .ok out ∧
    RowResult Copied (fun k => decide (k = .tensor "copy")) [] piece out := by
  refine ⟨_, rfl, ?_, rfl, ?_, rfl⟩
  · rw [DataProto.items_ofSamples, List.forall₂_map_right_iff, List.forall₂_same]
    exact fun row _ => rfl
  · intro k
    cases k with
    | tensor key =>
        by_cases hkey : key = "copy"
        · subst hkey
          rfl
        · have hkey' : (key == "copy") = false := beq_eq_false_iff_ne.mpr hkey
          simp [DataProto.table, DataProto.ofSamples, List.lookup_cons, hkey, hkey']
    | nonTensor key => rfl

/-- Four rows on four ranks, two in a group. -/
def fourRows : DataProto ℕ ℕ where
  batch := some ⟨4, [("x", [3, 1, 4, 1])], by simp⟩
  nonTensorBatch := []
  metaInfo := []
  consistent := by simp

example : ∃ out, callWorkers ⟨4, 2⟩ copyWorker fourRows = .ok out ∧
    List.Forall₂ Copied fourRows.items out.items ∧ out.Uniform ∧ out.metaInfo = [] :=
  callWorkers_rows (show Mesh.Grid ⟨4, 2⟩ 2 2 from ⟨rfl, rfl, by decide, by decide⟩)
    (DataProto.uniform_of_batch rfl) (by decide) (by decide) (by decide)
    fun _ _ _ piece _ => copyWorker_result piece

/-- One row more. -/
def fiveRows : DataProto ℕ ℕ where
  batch := some ⟨5, [("x", [3, 1, 4, 1, 5])], by simp⟩
  nonTensorBatch := []
  metaInfo := []
  consistent := by simp

/-- A batch of any size, padded for the call and unpadded after it. -/
theorem padded_call [DecidableEq μ] (hgrid : mesh.Grid dp sp) (hdata : data.Uniform)
    (hcolumns : data.batch.isSome ∨ data.nonTensorBatch ≠ []) (hpos : 0 < data.len)
    (hdata_nodup : (data.metaInfo.map (·.1)).Nodup) (hnodup : (metaInfo.map (·.1)).Nodup)
    (hworker : RowWorker R keys metaInfo data worker) :
    ∃ out, paddedCall mesh dp worker data = .ok out ∧ List.Forall₂ R data.items out.items := by
  obtain ⟨padded, padSize, hpad, huniform, hmeta, hlen, hdvd, -, copies, hitems, hcopies⟩ :=
    DataProto.padDataprotoToDivisor_ok hdata hcolumns hpos hgrid.dp_pos hdata_nodup
  have hrows : ∀ row ∈ padded.items, row ∈ data.items := by
    intro row hrow
    rw [hitems] at hrow
    exact (List.mem_append.mp hrow).elim id (hcopies row)
  have hpiece : PieceWorker R keys metaInfo dp padded worker := by
    intro rank pieces hchunk piece hmem
    obtain ⟨pieces', hchunk', -, -, hpieces⟩ :=
      DataProto.chunk_exists huniform (by omega) hgrid.dp_pos hdvd
    obtain rfl := Except.ok.inj (hchunk'.symm.trans hchunk)
    obtain ⟨hpiece, hpiece_meta, hne, -, hpiece_rows⟩ := hpieces piece hmem
    exact hworker rank piece hpiece (hpiece_meta.trans hmeta) hne fun row hrow =>
      hrows row (hpiece_rows row hrow)
  obtain ⟨out, hout, hresult, hout_uniform, -⟩ := callWorkers_rows hgrid huniform hdvd (by omega)
    hnodup hpiece
  refine ⟨out.unpadDataproto padSize, ?_, ?_⟩
  · exact except_bind_ok.mpr ⟨(padded, padSize), hpad, except_bind_ok.mpr ⟨out, hout, rfl⟩⟩
  · have hout_len : out.len = data.len + padSize := by
      rw [← hlen, ← DataProto.length_items out, ← hresult.length_eq, DataProto.length_items]
    rw [DataProto.items_unpadDataproto hout_uniform, hout_len, Nat.add_sub_cancel]
    have htake := List.forall₂_take data.items.length hresult
    rwa [hitems, List.take_left, DataProto.length_items] at htake

theorem padded_call_five : ∃ out, paddedCall ⟨4, 2⟩ 2 copyWorker fiveRows = .ok out ∧
    List.Forall₂ Copied fiveRows.items out.items :=
  padded_call ⟨rfl, rfl, by decide, by decide⟩ (DataProto.uniform_of_batch rfl) (.inl rfl)
    (by decide) (by decide) (by decide) fun _ piece _ _ _ _ => copyWorker_result piece

end Call

end LookAway.Training
