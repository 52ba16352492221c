/-
  `RayPPOTrainer._balance_batch` of verl/trainer/ppo/ray_trainer.py: the rows of a batch are put in
  an order that the dispatch of the next call cuts into ranks of one workload.
  Left out: the metrics.

  `balanceBatch_ranks`: every rank gets the rows of its partition, as many as the other ranks, light
  ones at both ends; no two ranks are further apart than two rows of the batch.
  `balanceBatch_groups`: with the prefix grouper a rank gets whole groups of a uid.
  `rollout_balance_oldLogProbs`: the order does not show in the log-probabilities.
-/
import LookAway.Training.MicroBatches
import LookAway.Training.OldLogProbs

namespace LookAway.Training

open LookAway.Base LookAway.Base.Differencing LookAway.Base.Packing LookAway.Teacher

/-! ## The source -/

section Source

variable {V : ℕ} {S E : Type}

/-- What `_balance_batch` is told. -/
structure BalanceConfig where
  usePrefixGrouper : Bool
  keepMinibatch : Bool
  ppoMiniBatchSize : ℕ

/-- `global_seqlen_lst`. -/
def globalSeqlens (data : DataProto (Cell V S E) (MetaValue S)) :
    Except TrainingError (List ℕ) := do
  raiseIf data.batch.isNone .typeError
  raiseIf (data.table (.tensor "attention_mask")).isNone .keyError
  return data.items.map tokenCount

/-- Each mini-batch is balanced on its own; the rest of the rows is in no partition. -/
def minibatchPartitions (minibatchSize dpSize : ℕ) (workloads : List ℕ) :
    ℕ → Except TrainingError (List (List ℕ))
  | 0 => .ok (List.replicate dpSize [])
  | i + 1 => do
      let partitions ← minibatchPartitions minibatchSize dpSize workloads i
      let rearranged ← getSeqlenBalancedPartitions
        ((workloads.drop (i * minibatchSize)).take minibatchSize) dpSize true
      return List.zipWith (fun partition part => partition ++ part.map (· + minibatchSize * i))
        partitions rearranged

/-- `global_partition_lst`, before the order within a partition. -/
def globalPartitions {υ : Type} [DecidableEq υ] (cfg : BalanceConfig) (dpSize : ℕ)
    (seqlens : List ℕ) (uids : Option (List υ)) : Except TrainingError (List (List ℕ)) :=
  let workloads := seqlens.map calculateWorkload
  match if cfg.usePrefixGrouper then uids else none with
  | some uidList => do
      let numGroups := uidList.dedup.length
      raiseIf (numGroups % dpSize ≠ 0) (.valueError
        (s!"PrefixGrouper with balance_batch requires num_uid_groups ({numGroups}) " ++
          s!"% dp_size ({dpSize}) == 0. This ensures each rank gets equal number of groups. " ++
          s!"Current batch_size={seqlens.length}, adjust batch_size to be a multiple of " ++
          "dp_size * rollout.n."))
      getGroupBalancedPartitions seqlens uidList dpSize
  | none =>
      if cfg.keepMinibatch then do
        raiseIf (cfg.ppoMiniBatchSize = 0) .zeroDivisionError
        minibatchPartitions cfg.ppoMiniBatchSize dpSize workloads
          (workloads.length / cfg.ppoMiniBatchSize)
      else getSeqlenBalancedPartitions workloads dpSize true

/-- `key=lambda x: (workload_lst[x], x)`. -/
def rowKey (workloads : List ℕ) (x : ℕ) : ℕ ×ₗ ℕ := toLex (workloads.getD x 0, x)

/-- `ordered_partition`. -/
def orderedPartition (workloads : List ℕ) (partition : List ℕ) : List ℕ :=
  let sorted := partition.insertionSort fun x y => rowKey workloads x ≤ rowKey workloads y
  evens sorted ++ (odds sorted).reverse

/-- `_balance_batch`. -/
def balanceBatch [DecidableEq S] [DecidableEq E] (cfg : BalanceConfig) (mesh : Mesh)
    (data : DataProto (Cell V S E) (MetaValue S)) :
    Except TrainingError (DataProto (Cell V S E) (MetaValue S)) := do
  let seqlens ← globalSeqlens data
  -- `_get_dp_size`
  raiseIf (mesh.dpRankMapping = []) (.valueError "max() arg is an empty sequence")
  let dpSize := mesh.dpRankMapping.foldr max 0 + 1
  let partitions ← globalPartitions cfg dpSize seqlens (data.table (.nonTensor "uid"))
  let ordered := if cfg.usePrefixGrouper then partitions
    else partitions.map (orderedPartition (seqlens.map calculateWorkload))
  data.reorder ordered.flatten

end Source

/-! ## The order within a partition -/

theorem evens_sublist {α : Type} (xs : List α) : (evens xs).Sublist xs := by
  induction xs using evens.induct with
  | case1 => exact .slnil
  | case2 x => exact .refl _
  | case3 x y xs ih => exact (ih.cons y).cons_cons x

theorem odds_sublist {α : Type} (xs : List α) : (odds xs).Sublist xs := by
  induction xs using odds.induct with
  | case1 => exact .slnil
  | case2 x => exact List.nil_sublist _
  | case3 x y xs ih => exact (ih.cons_cons y).cons x

theorem orderedPartition_perm (workloads partition : List ℕ) :
    (orderedPartition workloads partition).Perm partition := by
  refine List.Perm.trans ?_ (List.perm_insertionSort (fun x y => rowKey workloads x ≤
    rowKey workloads y) partition)
  refine List.Perm.trans ?_ (evens_odds_perm _)
  exact (List.reverse_perm _).symm.append (List.reverse_perm _)

/-- Up, and then down. -/
def Hill (xs : List ℕ) : Prop :=
  ∃ up down, xs = up ++ down ∧ up.Pairwise (· ≤ ·) ∧ down.Pairwise (· ≥ ·)

theorem le_of_rowKey_le {workloads : List ℕ} {x y : ℕ}
    (h : rowKey workloads x ≤ rowKey workloads y) : workloads.getD x 0 ≤ workloads.getD y 0 := by
  rcases Prod.Lex.toLex_le_toLex.mp h with h | ⟨h, -⟩
  · exact h.le
  · exact h.le

/-- Light rows at both ends. -/
theorem hill_orderedPartition (workloads partition : List ℕ) :
    Hill ((orderedPartition workloads partition).map fun x => workloads.getD x 0) := by
  have hsorted : (partition.insertionSort fun x y =>
      rowKey workloads x ≤ rowKey workloads y).Pairwise fun x y =>
        workloads.getD x 0 ≤ workloads.getD y 0 :=
    (List.pairwise_insertionSort _ _).imp le_of_rowKey_le
  refine ⟨_, _, List.map_append, ?_, ?_⟩
  · exact List.pairwise_map.mpr (hsorted.sublist (evens_sublist _))
  · rw [List.map_reverse, List.pairwise_reverse]
    exact List.pairwise_map.mpr (hsorted.sublist (odds_sublist _))

/-! ## What a rank gets -/

section Ranks

variable {V : ℕ} {S E α μ : Type} {mesh : Mesh} {dp sp m : ℕ} {parts : List (List ℕ)}

theorem unflatten_flatten {rows : List (List α)} (h : ∀ row ∈ rows, row.length = m) :
    unflatten rows.length m rows.flatten = rows := by
  refine List.ext_getElem? fun i => ?_
  rcases Nat.lt_or_ge i rows.length with hi | hi
  · have hrow : rows[i].length = m := h _ (List.getElem_mem hi)
    unfold unflatten
    rw [List.getElem?_map, List.getElem?_range hi, List.getElem?_eq_getElem hi, Option.map_some]
    congr 1
    refine List.ext_getElem? fun j => ?_
    rcases Nat.lt_or_ge j m with hj | hj
    · rw [List.getElem?_take_of_lt hj, List.getElem?_drop, getElem?_flatten_row h hi hj]
    · rw [List.getElem?_take_eq_none hj, List.getElem?_eq_none (hrow ▸ hj)]
  · rw [List.getElem?_eq_none hi, List.getElem?_eq_none (by rw [length_unflatten]; exact hi)]

theorem length_of_mem_columns {d : DataProto α μ} (hbatch : d.batch.isSome) :
    ∀ c ∈ d.columns, c.2.length = d.len := by
  obtain ⟨td, htd⟩ := Option.isSome_iff_exists.mp hbatch
  intro c hc
  rw [DataProto.len_of_batch htd]
  unfold DataProto.columns at hc
  rw [htd] at hc
  rcases List.mem_append.mp hc with hc | hc
  · exact td.length_columns c hc
  · exact d.consistent td htd c hc

variable (parts) in
/-- The dispatch of rows that stand in equal partitions. -/
theorem dispatch_parts {data : DataProto α μ} (hgrid : mesh.Grid dp sp) (hdata : data.Uniform)
    (hbatch : data.batch.isSome) (hlength : parts.length = dp) (hm : 0 < m)
    (hparts : ∀ part ∈ parts, part.length = m) (hlt : ∀ i ∈ parts.flatten, i < data.len) :
    ∃ out pieces, data.reorder parts.flatten = .ok out ∧ dispatch mesh out = .ok pieces ∧
      out.items = gather data.items parts.flatten ∧ out.Uniform ∧
      pieces.map DataProto.items = (List.range (dp * sp)).map fun rank =>
        gather data.items (parts.getD (rank / sp) []) := by
  obtain ⟨out, hselect⟩ : ∃ out, data.selectIdxs parts.flatten = .ok out :=
    DataProto.selectIdxs_ok fun c hc i hi => by
      rw [length_of_mem_columns hbatch c hc]
      exact hlt i hi
  obtain ⟨hitems, huniform⟩ := DataProto.items_selectIdxs hdata hbatch hlt hselect
  have hdp : 0 < dp := hgrid.dp_pos
  have hlen : out.len = dp * m := by
    rw [← DataProto.length_items, hitems,
      length_gather (by rw [DataProto.length_items]; exact hlt), length_flatten_rows hparts,
        hlength]
  have hdiv : out.len / dp = m := by rw [hlen, Nat.mul_div_cancel_left m hdp]
  obtain ⟨chunks, hchunk, hcount, -⟩ := DataProto.chunk_exists huniform
    (by rw [hlen]; exact Nat.mul_pos hdp hm) hdp (Dvd.intro m hlen.symm)
  obtain ⟨-, -, hchunks, -⟩ := DataProto.items_chunk huniform hchunk
  have hgathered : ∀ row ∈ parts.map (gather data.items), row.length = m := by
    intro row hrow
    obtain ⟨part, hpart, rfl⟩ := List.mem_map.mp hrow
    rw [length_gather fun i hi => by
      rw [DataProto.length_items]; exact hlt i (List.mem_flatten_of_mem hpart hi),
        hparts part hpart]
  have hcount' : (parts.map (gather data.items)).length = dp := by
    rw [List.length_map, hlength]
  have hpieces : chunks.map DataProto.items = parts.map (gather data.items) := by
    rw [hchunks, hdiv, hitems, gather_flatten, ← hcount', unflatten_flatten hgathered]
  refine ⟨out, _, ?_, dispatch_ok hgrid hchunk hcount, hitems, huniform, ?_⟩
  · exact except_bind_ok.mpr ⟨(), raiseIf_neg (by simp [Option.isSome_iff_ne_none.mp hbatch]),
      hselect⟩
  · rw [List.map_map]
    refine List.map_congr_left fun rank hrank => ?_
    have hlt : rank / sp < dp :=
      Nat.div_lt_of_lt_mul (Nat.mul_comm dp sp ▸ List.mem_range.mp hrank)
    have hpiece := congrArg (·[rank / sp]?) hpieces
    simp only [List.getElem?_map] at hpiece
    rw [Function.comp_apply, List.getElem?_eq_getElem (hcount.symm ▸ hlt), Option.getD_some]
    rw [List.getElem?_eq_getElem (hcount.symm ▸ hlt), List.getElem?_eq_getElem (hlength.symm ▸ hlt),
      Option.map_some, Option.map_some] at hpiece
    rw [Option.some.inj hpiece, List.getD_eq_getElem?_getD,
      List.getElem?_eq_getElem (hlength.symm ▸ hlt), Option.getD_some]

variable {data : DataProto (Cell V S E) (MetaValue S)} {cfg : BalanceConfig}

theorem globalSeqlens_ok (hbatch : data.batch.isSome)
    (hmask : (data.table (.tensor "attention_mask")).isSome) :
    globalSeqlens data = .ok (data.items.map tokenCount) :=
  except_bind_ok.mpr ⟨(), raiseIf_neg (by simp [Option.isSome_iff_ne_none.mp hbatch]),
    except_bind_ok.mpr ⟨(), raiseIf_neg (by simp [Option.isSome_iff_ne_none.mp hmask]), rfl⟩⟩

/-- The workloads of the rows. -/
def workloads (data : DataProto (Cell V S E) (MetaValue S)) : List ℕ :=
  (data.items.map tokenCount).map calculateWorkload

theorem length_workloads : (workloads data).length = data.len := by
  unfold workloads
  rw [List.length_map, List.length_map, DataProto.length_items]

theorem balanceBatch_eq [DecidableEq S] [DecidableEq E] (hgrid : mesh.Grid dp sp)
    (hbatch : data.batch.isSome) (hmask : (data.table (.tensor "attention_mask")).isSome)
    (hparts : globalPartitions cfg dp (data.items.map tokenCount)
      (data.table (.nonTensor "uid")) = .ok parts) :
    balanceBatch cfg mesh data = data.reorder (if cfg.usePrefixGrouper then parts
      else parts.map (orderedPartition (workloads data))).flatten := by
  unfold balanceBatch
  rw [globalSeqlens_ok hbatch hmask, raiseIf_neg hgrid.dpRankMapping_ne_nil]
  dsimp only [bind, Except.bind]
  rw [hgrid.dpSize_eq, hparts]
  rfl

/-- The partitions as they are dispatched, each in its own order. -/
theorem balanceBatch_parts [DecidableEq S] [DecidableEq E] (hgrid : mesh.Grid dp sp)
    (hdata : data.Uniform) (hbatch : data.batch.isSome)
    (hmask : (data.table (.tensor "attention_mask")).isSome) (hpos : 0 < data.len)
    (hdvd : dp ∣ data.len) (hplain : cfg.usePrefixGrouper = false)
    (hwhole : cfg.keepMinibatch = false) :
    ∃ out pieces, ∃ sorted : List (List ℕ),
      getSeqlenBalancedPartitions (workloads data) dp true = .ok sorted ∧
      balanceBatch cfg mesh data = .ok out ∧ dispatch mesh out = .ok pieces ∧
      out.items = gather data.items (sorted.map (orderedPartition (workloads data))).flatten ∧
      out.Uniform ∧
      (sorted.map (orderedPartition (workloads data))).flatten.Perm (List.range data.len) ∧
      (∀ part ∈ sorted.map (orderedPartition (workloads data)), part.length * dp = data.len) ∧
      pieces.map DataProto.items = (List.range (dp * sp)).map fun rank =>
        gather data.items
          ((sorted.map (orderedPartition (workloads data))).getD (rank / sp) []) := by
  have hdp := hgrid.dp_pos
  have hlength : (workloads data).length = data.len := length_workloads
  obtain ⟨m, hm⟩ := hdvd
  obtain ⟨parts, hparts⟩ : ∃ parts,
      getSeqlenBalancedPartitions (workloads data) dp true = .ok parts := by
    refine exists_getSeqlenBalancedPartitions hdp ?_ fun _ => ?_
    · rw [hlength]
      exact Nat.le_of_dvd hpos (Dvd.intro m hm.symm)
    · rw [hlength]
      exact Dvd.intro m hm.symm
  obtain ⟨hpartition, hsizes⟩ := getSeqlenBalancedPartitions_isPartition hparts
  rw [hlength] at hpartition hsizes
  have hglobal : globalPartitions cfg dp (data.items.map tokenCount)
      (data.table (.nonTensor "uid")) = .ok parts := by
    unfold globalPartitions
    rw [hplain, hwhole]
    exact hparts
  have hreorder := balanceBatch_eq hgrid hbatch hmask hglobal
  rw [hplain, if_neg Bool.false_ne_true] at hreorder
  have hperm : (parts.map (orderedPartition (workloads data))).flatten.Perm
      (List.range data.len) := by
    refine List.Perm.trans ?_ hpartition.perm
    rw [← List.flatMap_def, ← List.flatMap_id]
    exact List.Perm.flatMap_left _ fun part _ => orderedPartition_perm _ part
  have hsize : ∀ part ∈ parts.map (orderedPartition (workloads data)),
      part.length * dp = data.len := by
    intro part hpart
    obtain ⟨part', hpart', rfl⟩ := List.mem_map.mp hpart
    rw [(orderedPartition_perm _ part').length_eq]
    exact hsizes rfl part' hpart'
  obtain ⟨out, pieces, hout, hpieces, hitems, huniform, hranks⟩ := dispatch_parts
    (parts.map (orderedPartition (workloads data))) (m := m) hgrid hdata hbatch
    (by rw [List.length_map, hpartition.length])
    (Nat.pos_of_ne_zero fun h => by rw [hm, h] at hpos; exact absurd hpos (Nat.lt_irrefl 0))
    (fun part hpart => Nat.eq_of_mul_eq_mul_left hdp
      (by rw [Nat.mul_comm, hsize part hpart, hm]))
    (lt_of_perm_range hperm)
  exact ⟨out, pieces, parts, hparts, hreorder.trans hout, hpieces, hitems, huniform, hperm, hsize,
    hranks⟩

/-- **Balance.** The partitions have one size and every row once; each rank gets the rows of its
    partition, light ones at both ends, and no two ranks are further apart than two rows. -/
theorem balanceBatch_ranks [DecidableEq S] [DecidableEq E] (hgrid : mesh.Grid dp sp)
    (hdata : data.Uniform) (hbatch : data.batch.isSome)
    (hmask : (data.table (.tensor "attention_mask")).isSome) (hpos : 0 < data.len)
    (hdvd : dp ∣ data.len) (hplain : cfg.usePrefixGrouper = false)
    (hwhole : cfg.keepMinibatch = false) :
    ∃ out pieces, ∃ parts : List (List ℕ), balanceBatch cfg mesh data = .ok out ∧
      dispatch mesh out = .ok pieces ∧ out.items = gather data.items parts.flatten ∧ out.Uniform ∧
      parts.length = dp ∧
      parts.flatten.Perm (List.range data.len) ∧ (∀ part ∈ parts, part.length * dp = data.len) ∧
      pieces.map DataProto.items = (List.range (dp * sp)).map (fun rank =>
        gather data.items (parts.getD (rank / sp) [])) ∧
      (∀ d, Within d (workloads data) →
        Within d (parts.map fun part => (gather (workloads data) part).sum)) ∧
      ∀ part ∈ parts, Hill (part.map fun x => (workloads data).getD x 0) := by
  obtain ⟨out, pieces, sorted, hsorted, hout, hpieces, hitems, huniform, hperm, hsize, hranks⟩ :=
    balanceBatch_parts hgrid hdata hbatch hmask hpos hdvd hplain hwhole
  refine ⟨out, pieces, _, hout, hpieces, hitems, huniform, ?_, hperm, hsize, hranks,
    fun d hd => ?_, ?_⟩
  · rw [List.length_map, (getSeqlenBalancedPartitions_isPartition hsorted).1.length]
  · have hspread := within_sums hsorted (valuesWithin_of_within hd (by rwa [length_workloads]))
    rw [List.map_map]
    have hsums : sorted.map ((fun part => (gather (workloads data) part).sum) ∘
        orderedPartition (workloads data)) =
        sorted.map fun part => (gather (workloads data) part).sum :=
      List.map_congr_left fun part _ =>
        (gather_perm _ (orderedPartition_perm (workloads data) part)).sum_eq
    rwa [hsums]
  · intro part hpart
    obtain ⟨part, -, rfl⟩ := List.mem_map.mp hpart
    exact hill_orderedPartition _ _

/-- Four rows of two uids. -/
def fourMasks : DataProto (Cell 7 ℕ String) (MetaValue ℕ) where
  batch := some ⟨4, [("attention_mask", [.mask [true], .mask [true, true, true],
    .mask [true, true], .mask [true]])], by simp⟩
  nonTensorBatch := [("uid", [.number 0, .number 0, .number 1, .number 1])]
  metaInfo := []
  consistent := by
    rintro td ⟨⟩ c hc
    obtain rfl := List.mem_singleton.mp hc
    rfl

theorem balanceBatch_four : ∃ out pieces, ∃ parts : List (List ℕ),
    balanceBatch ⟨false, false, 0⟩ ⟨4, 2⟩ fourMasks = .ok out ∧
      dispatch ⟨4, 2⟩ out = .ok pieces ∧ out.items = gather fourMasks.items parts.flatten ∧
      out.Uniform ∧ parts.length = 2 ∧ parts.flatten.Perm (List.range fourMasks.len) ∧
      (∀ part ∈ parts, part.length * 2 = fourMasks.len) ∧
      pieces.map DataProto.items = (List.range (2 * 2)).map (fun rank =>
        gather fourMasks.items (parts.getD (rank / 2) [])) ∧
      (∀ d, Within d (workloads fourMasks) →
        Within d (parts.map fun part => (gather (workloads fourMasks) part).sum)) ∧
      ∀ part ∈ parts, Hill (part.map fun x => (workloads fourMasks).getD x 0) :=
  balanceBatch_ranks ⟨rfl, rfl, by decide, by decide⟩ (DataProto.uniform_of_batch rfl) rfl rfl
    (by decide) (by decide) rfl rfl

end Ranks

/-! ## Groups of a uid -/

section Groups

variable {υ : Type} {n k : ℕ} {uids : List υ}

/-- The rows of group `g`, with `n` rows in a group. -/
def groupRows (n g : ℕ) : List ℕ := List.range' (g * n) n

theorem flatMap_groupRows (n groups : ℕ) :
    (List.range groups).flatMap (groupRows n) = List.range (groups * n) := by
  induction groups with
  | zero => rw [Nat.zero_mul]; rfl
  | succ groups ih =>
      rw [List.range_succ, List.flatMap_append, ih, List.flatMap_singleton, Nat.succ_mul,
        List.range_eq_range', List.range_eq_range', groupRows, ← List.range'_append_1, Nat.zero_add]

theorem pairwise_groupRows {gp : List ℕ} (h : gp.Pairwise (· < ·)) :
    (gp.flatMap (groupRows n)).Pairwise (· ≤ ·) := by
  refine List.pairwise_flatMap.mpr ⟨fun g _ => ?_, h.imp fun {g g'} hlt x hx y hy => ?_⟩
  · exact (List.pairwise_lt_range' _).imp Nat.le_of_lt
  · have hx := (List.mem_range'_1.mp hx).2
    have hy := (List.mem_range'_1.mp hy).1
    have := Nat.mul_le_mul_right n (Nat.succ_le_of_lt hlt)
    rw [Nat.succ_mul] at this
    omega

theorem gather_range_of_lt {is : List ℕ} (h : ∀ i ∈ is, i < n) :
    gather (List.range n) is = is := by
  unfold gather
  have hsome : ∀ i ∈ is, (List.range n)[i]? = some i := fun i hi => List.getElem?_range (h i hi)
  rw [List.filterMap_congr hsome, List.filterMap_some]

variable [DecidableEq υ]

/-- The groups, with the open one. -/
def closed (state : List (List ℕ) × Option (υ × List ℕ)) : List (List ℕ) :=
  state.1 ++ state.2.elim [] fun current => [current.2]

/-- Rows of the open group. -/
theorem groupStep_run (groups : List (List ℕ)) (uid : υ) (current : List ℕ) (m start : ℕ) :
    ((List.replicate m uid).zipIdx start).foldl groupStep (groups, some (uid, current)) =
      (groups, some (uid, current ++ List.range' start m)) := by
  induction m generalizing current start with
  | zero => simp
  | succ m ih =>
      rw [List.replicate_succ, List.zipIdx_cons, List.foldl_cons, groupStep, if_pos rfl, ih,
        List.range'_succ, List.append_assoc]
      rfl

/-- A row of another uid closes the open group. -/
theorem groupStep_fresh {state : List (List ℕ) × Option (υ × List ℕ)} {uid : υ} {i : ℕ}
    (h : ∀ current, state.2 = some current → current.1 ≠ uid) :
    groupStep state (uid, i) = (closed state, some (uid, [i])) := by
  obtain ⟨groups, last⟩ := state
  cases last with
  | none => rw [groupStep, closed, Option.elim_none, List.append_nil]
  | some current =>
      rw [groupStep, if_neg (h current rfl).symm]
      rfl

theorem closed_foldl_groupStep (hn : 0 < n) (huids : uids.Nodup)
    (state : List (List ℕ) × Option (υ × List ℕ))
    (hstate : ∀ current, state.2 = some current → current.1 ∉ uids) (start : ℕ) :
    closed (((uids.flatMap (List.replicate n)).zipIdx start).foldl groupStep state) =
      closed state ++ (List.range uids.length).map fun g => List.range' (start + g * n) n := by
  obtain ⟨m, rfl⟩ : ∃ m, n = m + 1 := ⟨n - 1, by omega⟩
  induction uids generalizing state start with
  | nil => simp
  | cons uid uids ih =>
      obtain ⟨huid, huids⟩ := List.nodup_cons.mp huids
      rw [List.flatMap_cons, List.zipIdx_append, List.foldl_append, List.replicate_succ,
        List.zipIdx_cons, List.foldl_cons,
        groupStep_fresh fun current h heq => hstate current h (heq ▸ List.mem_cons_self),
        groupStep_run, ih huids _ (by rintro _ ⟨⟩; exact huid)]
      rw [show (uid :: uids).length = uids.length + 1 from rfl, List.range_succ_eq_map,
        List.map_cons, List.map_map, closed,
        Option.elim_some, List.append_assoc, List.length_cons, List.length_replicate,
        Nat.zero_mul, List.range'_succ]
      refine congrArg (closed state ++ ·)
        (congrArg₂ List.cons rfl (List.map_congr_left fun g _ => ?_))
      rw [Function.comp_apply, Nat.succ_mul, Nat.add_comm (g * (m + 1)), Nat.add_assoc]

/-- The groups of a batch whose rows of one uid stand together. -/
theorem uidGroups_eq (hn : 0 < n) (huids : uids.Nodup) :
    uidGroups (uids.flatMap (List.replicate n)) =
      (List.range uids.length).map (groupRows n) := by
  have hclosed := closed_foldl_groupStep hn huids ([], none) nofun 0
  simp only [Nat.zero_add] at hclosed
  exact hclosed

/-- `group_workloads`, with `n` rows in a group. -/
def groupWorkloads (seqlens : List ℕ) (n groups : ℕ) : List ℕ :=
  (List.range groups).map fun g => ((gather seqlens (groupRows n g)).map calculateWorkload).sum

theorem getGroupBalancedPartitions_ok (seqlens : List ℕ) (hn : 0 < n) (huids : uids.Nodup)
    (hne : uids ≠ []) (hk : 0 < k) (hdvd : k ∣ uids.length)
    (hlength : seqlens.length = uids.length * n) :
    ∃ gps, getGroupBalancedPartitions seqlens (uids.flatMap (List.replicate n)) k =
        .ok (gps.map (·.flatMap (groupRows n))) ∧ IsPartition uids.length k gps ∧
      (∀ gp ∈ gps, gp.length * k = uids.length) ∧
      ∀ d, Within d (groupWorkloads seqlens n uids.length) →
        Within d (gps.map fun gp => (gather (groupWorkloads seqlens n uids.length) gp).sum) := by
  have hloads : (groupWorkloads seqlens n uids.length).length = uids.length := by
    unfold groupWorkloads
    rw [List.length_map, List.length_range]
  have hkn : k ≤ uids.length := Nat.le_of_dvd (List.length_pos_iff.mpr hne) hdvd
  obtain ⟨gps, hgps⟩ : ∃ gps,
      getSeqlenBalancedPartitions (groupWorkloads seqlens n uids.length) k true = .ok gps :=
    exists_getSeqlenBalancedPartitions hk (by rwa [hloads]) fun _ => by rwa [hloads]
  obtain ⟨hpartition, hsizes⟩ := getSeqlenBalancedPartitions_isPartition hgps
  rw [hloads] at hpartition hsizes
  refine ⟨gps, ?_, hpartition, hsizes rfl, fun d hd =>
    within_sums hgps (valuesWithin_of_within hd (by rwa [hloads]))⟩
  have hgroups := uidGroups_eq hn huids
  have huid_length : (uids.flatMap (List.replicate n)).length = uids.length * n := by
    simp [List.length_flatMap]
  unfold getGroupBalancedPartitions
  rw [check_pos (hlength.trans huid_length.symm), hgroups]
  refine except_bind_ok.mpr ⟨(), rfl, except_bind_ok.mpr
    ⟨(), check_pos (by rw [List.length_map, List.length_range]; exact hkn), ?_⟩⟩
  rw [List.map_map]
  refine except_bind_ok.mpr ⟨gps, hgps, congrArg Except.ok (List.map_congr_left fun gp hgp => ?_)⟩
  rw [gather_map, gather_range_of_lt fun g hg =>
    lt_of_perm_range hpartition.perm g (List.mem_flatten_of_mem hgp hg), ← List.flatMap_def]
  exact (pairwise_groupRows (hpartition.increasing gp hgp)).insertionSort_eq

theorem length_dedup_flatMap (hn : 0 < n) (huids : uids.Nodup) :
    (uids.flatMap (List.replicate n)).dedup.length = uids.length := by
  have hset : (uids.flatMap (List.replicate n)).toFinset = uids.toFinset := by
    ext uid
    simp [hn.ne']
  rw [← List.card_toFinset, hset, List.card_toFinset, huids.dedup]

variable {V : ℕ} {S E : Type} {mesh : Mesh} {dp sp : ℕ} {cfg : BalanceConfig}
  {data : DataProto (Cell V S E) (MetaValue S)} {groupUids : List (Cell V S E)}

/-- **Balance of groups.** With `n` rows of a uid in a row, each rank gets whole groups, as many as
    the other ranks, and no two ranks are further apart than two groups. -/
theorem balanceBatch_groups [DecidableEq S] [DecidableEq E] (hgrid : mesh.Grid dp sp)
    (hdata : data.Uniform) (hbatch : data.batch.isSome)
    (hmask : (data.table (.tensor "attention_mask")).isSome) (hn : 0 < n)
    (huids : groupUids.Nodup) (hne : groupUids ≠ []) (hdvd : dp ∣ groupUids.length)
    (huid : data.table (.nonTensor "uid") = some (groupUids.flatMap (List.replicate n)))
    (hgrouper : cfg.usePrefixGrouper = true) :
    ∃ out pieces, ∃ gps : List (List ℕ), balanceBatch cfg mesh data = .ok out ∧
      dispatch mesh out = .ok pieces ∧ gps.length = dp ∧
      gps.flatten.Perm (List.range groupUids.length) ∧
      (∀ gp ∈ gps, gp.length * dp = groupUids.length) ∧
      pieces.map DataProto.items = (List.range (dp * sp)).map (fun rank =>
        gather data.items ((gps.getD (rank / sp) []).flatMap (groupRows n))) ∧
      ∀ d, Within d (groupWorkloads (data.items.map tokenCount) n groupUids.length) →
        Within d (gps.map fun gp =>
          (gather (groupWorkloads (data.items.map tokenCount) n groupUids.length) gp).sum) := by
  have hlen : data.len = groupUids.length * n := by
    rw [← hdata _ _ huid]
    simp [List.length_flatMap]
  obtain ⟨gps, hgps, hpartition, hsizes, hspread⟩ := getGroupBalancedPartitions_ok
    (data.items.map tokenCount) hn huids hne hgrid.dp_pos hdvd
    (by rw [List.length_map, DataProto.length_items, hlen])
  have hglobal : globalPartitions cfg dp (data.items.map tokenCount)
      (data.table (.nonTensor "uid")) = .ok (gps.map (·.flatMap (groupRows n))) := by
    unfold globalPartitions
    rw [hgrouper, if_pos rfl, huid]
    dsimp only
    rw [length_dedup_flatMap hn huids, raiseIf_neg (by simp [Nat.mod_eq_zero_of_dvd hdvd])]
    exact hgps
  have hreorder := balanceBatch_eq hgrid hbatch hmask hglobal
  rw [hgrouper, if_pos rfl] at hreorder
  obtain ⟨m, hm⟩ := hdvd
  have hsize : ∀ gp ∈ gps, gp.length = m := fun gp hgp =>
    Nat.eq_of_mul_eq_mul_left hgrid.dp_pos (by rw [Nat.mul_comm, hsizes gp hgp, hm])
  have hflatten : (gps.map (·.flatMap (groupRows n))).flatten =
      gps.flatten.flatMap (groupRows n) := by
    rw [List.flatMap_def (l := gps.flatten), List.map_flatten, List.flatten_flatten, List.map_map]
    rfl
  obtain ⟨out, pieces, hout, hpieces, -, -, hranks⟩ := dispatch_parts
    (gps.map (·.flatMap (groupRows n))) (m := m * n) hgrid hdata hbatch
    (by rw [List.length_map, hpartition.length])
    (Nat.mul_pos (Nat.pos_of_ne_zero fun h =>
      hne (List.length_eq_zero_iff.mp (by rw [hm, h]; rfl))) hn)
    (fun part hpart => by
      obtain ⟨gp, hgp, rfl⟩ := List.mem_map.mp hpart
      rw [List.length_flatMap]
      simp [groupRows, hsize gp hgp])
    (fun i hi => by
      rw [hflatten] at hi
      have hmem := ((hpartition.perm.flatMap_right (groupRows n)).mem_iff).mp hi
      rw [flatMap_groupRows, ← hlen] at hmem
      exact List.mem_range.mp hmem)
  refine ⟨out, pieces, gps, hreorder.trans hout, hpieces, hpartition.length, hpartition.perm,
    hsizes, hranks.trans (List.map_congr_left fun rank _ => ?_), hspread⟩
  rw [List.getD_eq_getElem?_getD, List.getD_eq_getElem?_getD, List.getElem?_map]
  cases gps[rank / sp]? <;> rfl

theorem balanceBatch_twoGroups : ∃ out pieces, ∃ gps : List (List ℕ),
    balanceBatch ⟨true, false, 0⟩ ⟨4, 2⟩ fourMasks = .ok out ∧
      dispatch ⟨4, 2⟩ out = .ok pieces ∧ gps.length = 2 ∧ gps.flatten.Perm (List.range 2) ∧
      (∀ gp ∈ gps, gp.length * 2 = 2) ∧
      pieces.map DataProto.items = (List.range (2 * 2)).map (fun rank =>
        gather fourMasks.items ((gps.getD (rank / 2) []).flatMap (groupRows 2))) ∧
      ∀ d, Within d (groupWorkloads (fourMasks.items.map tokenCount) 2 2) →
        Within d (gps.map fun gp =>
          (gather (groupWorkloads (fourMasks.items.map tokenCount) 2 2) gp).sum) :=
  have huids : ([.number 0, .number 1] : List (Cell 7 ℕ String)).Nodup := by decide
  balanceBatch_groups ⟨rfl, rfl, by decide, by decide⟩ (DataProto.uniform_of_batch rfl) rfl rfl
    (by decide) huids (by decide) (by decide) rfl rfl

end Groups

/-! ## Between the rollouts and their log-probs -/

section Pipeline

variable {V : ℕ} {E F α β : Type}

theorem forall₂_trans {γ : Type} {R : α → β → Prop} {R' : β → γ → Prop} {R'' : α → γ → Prop}
    {xs : List α} {ys : List β} {zs : List γ} (h : List.Forall₂ R xs ys)
    (h' : List.Forall₂ R' ys zs) (htrans : ∀ x y z, R x y → R' y z → R'' x z) :
    List.Forall₂ R'' xs zs :=
  List.forall₂_iff_get.mpr ⟨h.length_eq.trans h'.length_eq, fun _ hi hi' =>
    htrans _ _ _ (h.get hi (h.length_eq ▸ hi)) (h'.get (h.length_eq ▸ hi) hi')⟩

/-- A column that some row has. -/
theorem isSome_table {data : DataProto α β} {row : Key → Option α} {k : Key}
    (hrow : row ∈ data.items) (hk : (row k).isSome) : (data.table k).isSome := by
  obtain ⟨i, -, rfl⟩ := List.mem_map.mp hrow
  by_contra hnone
  rw [Option.not_isSome_iff_eq_none] at hnone
  simp only [hnone, Option.bind_none, Option.isSome_none] at hk
  exact absurd hk Bool.false_ne_true

variable [NeZero V] {kind : Kind} {features : E → List F} {visual : Fin V → Bool}
  {cfg : StepConfig V ℝ E} {uid : ℕ → Cell V ℝ E}
  {run : ℕ → ℕ → (String → Option (Cell V ℝ E)) → Except TrainingError (AgentLoopOutput V ℝ E)}
  {batch : DataProto (Cell V ℝ E) (MetaValue ℝ)} {maxPrompt : ℕ}

/-- **The order does not show.** Rollouts, balance, log-probs: the rows are those of the rollouts in
    another order, each with the log-probabilities of its own response. -/
theorem rollout_balance_oldLogProbs [DecidableEq E] {mesh : Mesh} {dp sp : ℕ} {model : Model V F}
    {rowLogits : Row V F → Fin V → ℝ} {temperature : ℝ} {info : LogProbMeta}
    {balance : BalanceConfig} (h : StepRuns cfg kind features visual uid run batch maxPrompt)
    (hgrid : mesh.Grid dp sp) (hdp : dp ∣ batch.len * cfg.n)
    (hcausal : RowCausal visual model rowLogits)
    (hinfo : if info.useDynamicBsz then maxPrompt + cfg.rollout.responseLength ≤ info.maxTokenLen
      else 0 < info.microBatchSize)
    (hplain : balance.usePrefixGrouper = false) (hwhole : balance.keepMinibatch = false) :
    ∃ out balanced logs, ∃ rollouts : List (Rollout cfg.rollout run), ∃ order : List ℕ,
      rolloutStep cfg run uid batch = .ok out ∧ balanceBatch balance mesh out = .ok balanced ∧
      computeOldLogProb mesh dp model temperature features info balanced = .ok logs ∧
      rollouts.map (·.row) = cfg.promptRows uid batch ∧
      (∀ r ∈ rollouts, r.Fits features visual kind maxPrompt) ∧
      out.items = rolloutItems cfg.keys kind rollouts ∧
      order.Perm (List.range rollouts.length) ∧ balanced.items = gather out.items order ∧
      List.Forall₂ (ResponseLogProbs features visual rowLogits temperature) (gather rollouts order)
        logs.items := by
  obtain ⟨out, rollouts, hstep, hbatch, huniform, hlen, hrows, hitems, hwidth, hrollouts⟩ :=
    rolloutStep_outputs h
  have hpos : 0 < out.len := by rw [hlen]; exact Nat.mul_pos h.len h.n
  have hsample := isSample_rolloutItems hrollouts h.inputs
  rw [← hitems] at hsample
  have hmask : (out.table (.tensor "attention_mask")).isSome := by
    obtain ⟨item, hitem⟩ := List.exists_mem_of_length_pos
      (by rw [DataProto.length_items]; exact hpos : 0 < out.items.length)
    obtain ⟨p, hp⟩ := hsample item hitem
    exact isSome_table hitem (by rw [(actorRow?_ok hp.actorRow).2]; rfl)
  obtain ⟨balanced, -, sorted, -, hbalanced, -, hgathered, hbalanced_uniform, hperm, -⟩ :=
    balanceBatch_parts hgrid huniform hbatch hmask hpos (by rw [hlen]; exact hdp) hplain hwhole
  have hbalanced_len : balanced.len = batch.len * cfg.n := by
    rw [← DataProto.length_items, hgathered, length_gather fun i hi => by
      rw [DataProto.length_items]; exact lt_of_perm_range hperm i hi, hperm.length_eq,
      List.length_range, hlen]
  obtain ⟨logs, hlogs, hright⟩ := oldLogProbs_rows temperature hgrid hcausal
    (width_le (Nat.add_le_add_right hwidth _) hinfo)
    hbalanced_uniform (by rw [hbalanced_len]; exact hdp)
    (by rw [hbalanced_len]; exact Nat.mul_pos h.len h.n)
    (fun item hitem => hsample item (mem_of_mem_gather (hgathered ▸ hitem)))
  have hlength : rollouts.length = out.len := by
    rw [hlen, ← length_promptRows cfg uid, ← hrows, List.length_map]
  rw [← hlength] at hperm
  rw [hgathered, hitems, rolloutItems, gather_map] at hright
  exact ⟨out, balanced, logs, rollouts, _, hstep, hbalanced, hlogs, hrows, hrollouts, hitems, hperm,
    hgathered,
    responseLogProbs_of_right hrollouts h.inputs (fun _ hr => mem_of_mem_gather hr) hright⟩

end Pipeline

end LookAway.Training
