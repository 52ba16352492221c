/-
  Balancing rows over micro-batches and ranks (verl/utils/seqlen_balancing.py).

  `karmarkarKarp` keeps a heap of states: `k` sets of rows in decreasing order. Two states are equal
  for the order of the heap only if they are one, so the heap is the list of its states and a pop
  takes the least one. `getSeqlenBalancedPartitions` checks and sorts what comes out.

  A batch is the list of its rows. `rearrangeMicroBatches` reads how many tokens a row has and
  chooses rows; the nested layout of `input_ids` is left out.
-/
import LookAway.Base.Differencing
import LookAway.Base.Packing
import LookAway.Base.SparseVector
import LookAway.Training.Errors
import Mathlib.Data.Finset.Range
import Mathlib.Data.List.Lex
import Mathlib.Data.List.Sort
import Mathlib.Data.Prod.Lex

namespace LookAway.Training

open LookAway.Base LookAway.Base.Differencing

/-! ## Sets and states -/

/-- `Set`: rows with their values, and the sum of the values. -/
structure ItemSet where
  sum : ℕ
  items : List (ℕ × ℕ)
  sum_eq : sum = (items.map (·.2)).sum
  deriving DecidableEq

namespace ItemSet

/-- `Set()`. -/
def empty : ItemSet where
  sum := 0
  items := []
  sum_eq := rfl

/-- `add`. -/
def add (s : ItemSet) (idx val : ℕ) : ItemSet where
  sum := s.sum + val
  items := s.items ++ [(idx, val)]
  sum_eq := by simp [s.sum_eq]

/-- `merge`. -/
def merge (s other : ItemSet) : ItemSet where
  sum := s.sum + other.sum
  items := s.items ++ other.items
  sum_eq := by simp [s.sum_eq, other.sum_eq]

/-- What `__lt__` compares, in this order. -/
def key (s : ItemSet) : ℕ ×ₗ ℕ ×ₗ List (ℕ ×ₗ ℕ) :=
  toLex (s.sum, toLex (s.items.length, s.items.map toLex))

/-- `__lt__`. -/
def lt (s other : ItemSet) : Bool :=
  if s.sum ≠ other.sum then decide (s.sum < other.sum)
  else if s.items.length ≠ other.items.length then decide (s.items.length < other.items.length)
  else decide (s.items.map toLex < other.items.map toLex)

theorem lt_iff {s other : ItemSet} : s.lt other = true ↔ s.key < other.key := by
  unfold lt key
  rw [Prod.Lex.toLex_lt_toLex, Prod.Lex.toLex_lt_toLex]
  split_ifs with hsum hlength
  · rw [decide_eq_true_eq]
    omega
  · rw [decide_eq_true_eq]
    omega
  · rw [decide_eq_true_eq, not_not.mp hsum, not_not.mp hlength]
    simp

/-- The order of `sorted(..., reverse=True)`: no set stands before a larger one. -/
def Before (s other : ItemSet) : Prop := s.lt other = false

instance : DecidableRel Before := fun _ _ => inferInstanceAs (Decidable (_ = _))

theorem before_iff {s other : ItemSet} : s.Before other ↔ other.key ≤ s.key := by
  rw [Before, ← Bool.not_eq_true, lt_iff, not_lt]

instance : IsTrans ItemSet Before :=
  ⟨fun _ _ _ hab hbc => before_iff.mpr ((before_iff.mp hbc).trans (before_iff.mp hab))⟩

instance : Std.Total Before :=
  ⟨fun a b => (le_total b.key a.key).imp before_iff.mpr before_iff.mpr⟩

end ItemSet

/-- `State`: `k` sets in decreasing order. -/
structure State (k : ℕ) where
  sets : List ItemSet
  length_sets : sets.length = k
  decreasing : sets.Pairwise ItemSet.Before

namespace State

variable {k : ℕ}

/-- `self.sets = sorted(..., reverse=True)`. -/
def ofSets (sets : List ItemSet) (h : sets.length = k) : State k where
  sets := sets.insertionSort ItemSet.Before
  length_sets := by rw [List.length_insertionSort, h]
  decreasing := List.pairwise_insertionSort _ _

/-- The sets of `__init__` before they are sorted: each item in a set of its own. -/
def singletons (items : List (ℕ × ℕ)) (k : ℕ) : List ItemSet :=
  (List.range k).map fun i => items[i]?.elim ItemSet.empty fun e => ItemSet.empty.add e.1 e.2

/-- `__init__`. -/
def init (items : List (ℕ × ℕ)) (k : ℕ) : Except TrainingError (State k) := do
  check (items.length = 1 ∨ items.length = k) s!"{items.length} not in [1, {k}]"
  -- `self.sets[i]`
  raiseIf (k < items.length) .indexError
  return ofSets (singletons items k) (by simp [singletons])

/-- `get_partitions`. -/
def getPartitions (s : State k) : List (List ℕ) := s.sets.map fun set => set.items.map (·.1)

/-- `merge`. -/
def merge (s other : State k) : State k :=
  ofSets (List.zipWith ItemSet.merge s.sets other.sets.reverse) (by
    simp [s.length_sets, other.length_sets])

/-- `spread`. -/
def spread (s : State k) : ℕ :=
  (s.sets.head?.elim 0 (·.sum)) - (s.sets.getLast?.elim 0 (·.sum))

/-- `__lt__`: the larger spread first, then the larger set. -/
def lt (s other : State k) : Bool :=
  if s.spread ≠ other.spread then decide (other.spread < s.spread)
  else
    match s.sets.head?, other.sets.head? with
    | some a, some b => b.lt a
    | _, _ => false

end State

/-! ## The partitions -/

/-- `sorted_seqlen_list`, a row before its value. -/
def sortedSeqlenList (seqlenList : List ℕ) : List (ℕ × ℕ) :=
  (seqlenList.zipIdx.insertionSort fun a b => toLex a ≤ toLex b).map Prod.swap

/-- The states on the heap before the loop. -/
def initialStates (seqlenList : List ℕ) (k : ℕ) (equalSize : Bool) :
    Except TrainingError (List (State k)) :=
  if equalSize then do
    -- `len(seqlen_list) % k_partitions`
    raiseIf (k = 0) .zeroDivisionError
    check (seqlenList.length % k = 0) s!"{seqlenList.length} % {k} != 0"
    (Packing.unflatten (seqlenList.length / k) k (sortedSeqlenList seqlenList)).mapM
      (State.init · k)
  else
    (sortedSeqlenList seqlenList).mapM fun e => State.init [e] k

/-- `karmarkar_karp`. -/
def karmarkarKarp (seqlenList : List ℕ) (k : ℕ) (equalSize : Bool) :
    Except TrainingError (List (List ℕ)) := do
  let states ← initialStates seqlenList k equalSize
  -- `states_pq[0]`; the rounds are enough (`merge_rounds`)
  match Loop.rounds (mergeRound State.lt State.merge) (states.length + 1) states with
  | some (finalState :: _) => do
      finalState.getPartitions.forM fun partition =>
        check (equalSize = true → partition.length * k = seqlenList.length)
          s!"{partition.length} * {k} != {seqlenList.length}"
      return finalState.getPartitions
  | _ => throw .indexError

/-- `_check_and_sort_partitions`. -/
def checkAndSortPartitions (n k : ℕ) (partitions : List (List ℕ)) :
    Except TrainingError (List (List ℕ)) := do
  check (partitions.length = k) s!"{partitions.length} != {k}"
  partitions.zipIdx.forM fun e => check (0 < e.1.length) s!"the {e.2}-th partition is empty"
  check (partitions.flatten.toFinset = Finset.range n) ""
  return partitions.map (·.insertionSort (· ≤ ·))

/-- `get_seqlen_balanced_partitions`. -/
def getSeqlenBalancedPartitions (seqlenList : List ℕ) (k : ℕ) (equalSize : Bool) :
    Except TrainingError (List (List ℕ)) := do
  check (k ≤ seqlenList.length)
    s!"number of items:[{seqlenList.length}] < k_partitions:[{k}]"
  let partitions ← karmarkarKarp seqlenList k equalSize
  checkAndSortPartitions seqlenList.length k partitions

/-! ## Micro-batches -/

/-- `calculate_workload`, of one row. -/
def calculateWorkload (seqlen : ℕ) : ℕ := 24576 * seqlen + seqlen ^ 2

/-- `ceildiv`. -/
def ceildiv (a b : ℕ) : ℕ := (a + b - 1) / b

/-- `roundup_divisible`. -/
def roundupDivisible (a b : ℕ) : ℕ := (a + b - 1) / b * b

/-- `xs[::2]`. -/
def evens {α : Type} : List α → List α
  | [] => []
  | [x] => [x]
  | x :: _ :: xs => x :: evens xs

/-- `xs[1::2]`. -/
def odds {α : Type} : List α → List α
  | [] => []
  | [_] => []
  | _ :: y :: xs => y :: odds xs

/-- The arguments of `rearrange_micro_batches` beside the batch. -/
structure MicroBatchArgs where
  maxTokenLen : ℕ
  numBatchesDividedBy : Option ℕ
  minNumMicroBatch : Option ℕ
  useDynamicBszBalance : Bool
  deriving DecidableEq

/-- How many micro-batches a rank wants. -/
def localNumMicroBatches (args : MicroBatchArgs) (seqLenEffective : List ℕ) : ℕ :=
  let num := min seqLenEffective.length (ceildiv seqLenEffective.sum args.maxTokenLen)
  args.minNumMicroBatch.elim num fun least => max least num

/-- The key of `micro_bsz_idx.sort`. -/
def partitionKey (workloads : List ℕ) (partition : List ℕ) : ℕ ×ₗ ℕ :=
  toLex ((Packing.gather workloads partition).sum, partition.head?.getD 0)

/-- The largest micro-batches in the middle. -/
def balanceOrder (workloads : List ℕ) (partitions : List (List ℕ)) : List (List ℕ) :=
  let sorted := partitions.insertionSort fun p q =>
    partitionKey workloads q ≤ partitionKey workloads p
  (evens sorted).reverse ++ odds sorted

/-- How many micro-batches the ranks make. -/
def numMicroBatches (args : MicroBatchArgs) (allReduce : ℕ → ℕ) (seqLenEffective : List ℕ) : ℕ :=
  let reduced := allReduce (localNumMicroBatches args seqLenEffective)
  args.numBatchesDividedBy.elim reduced (roundupDivisible reduced)

/-- `rearrange_micro_batches`, the index lists. `maxSeqLen` is the width of the attention mask, and
    `allReduce` the maximum over the ranks (the identity without them). -/
def rearrangeMicroBatches (args : MicroBatchArgs) (allReduce : ℕ → ℕ) (maxSeqLen : ℕ)
    (seqLenEffective : List ℕ) : Except TrainingError (List (List ℕ)) := do
  check (maxSeqLen ≤ args.maxTokenLen)
    ("max_token_len must be greater than the sequence length. Got " ++
      s!"max_token_len={args.maxTokenLen} and max_seq_len={maxSeqLen}")
  -- `ceildiv` by zero
  raiseIf (args.maxTokenLen = 0) .zeroDivisionError
  raiseIf (args.numBatchesDividedBy = some 0) .zeroDivisionError
  let num := numMicroBatches args allReduce seqLenEffective
  check (num ≤ seqLenEffective.length) ""
  let workloads := seqLenEffective.map calculateWorkload
  let microBszIdx ← getSeqlenBalancedPartitions workloads num false
  return if args.useDynamicBszBalance then balanceOrder workloads microBszIdx else microBszIdx

/-- `dist.all_reduce(op=MAX)`: what every rank has afterwards. -/
def allReduceMax (counts : List ℕ) : ℕ := counts.foldr max 0

/-- Every rank of a group rearranges its rows. -/
def rearrangeRanks (args : MicroBatchArgs) (maxSeqLen : ℕ) (ranks : List (List ℕ)) :
    List (Except TrainingError (List (List ℕ))) :=
  let counts := ranks.map (localNumMicroBatches args)
  ranks.map (rearrangeMicroBatches args (fun _ => allReduceMax counts) maxSeqLen)

section Rows

variable {ρ α : Type}

/-- `prepare_dynamic_batch`: tensors and non-tensors of a row go together. -/
def prepareDynamicBatch (args : MicroBatchArgs) (allReduce : ℕ → ℕ) (maxSeqLen : ℕ)
    (seqLen : ρ → ℕ) (data : List ρ) :
    Except TrainingError (List (List ρ) × List (List ℕ)) := do
  let batchIdxList ← rearrangeMicroBatches args allReduce maxSeqLen (data.map seqLen)
  return (batchIdxList.map (Packing.gather data), batchIdxList)

/-- `get_reverse_idx`. -/
def getReverseIdx (idxMap : List ℕ) : Except TrainingError (List ℕ) := do
  raiseIf (∃ idx ∈ idxMap, idxMap.length ≤ idx) .indexError
  return fill idxMap idxMap.zipIdx

/-- `restore_dynamic_batch`. -/
def restoreDynamicBatch (data : List α) (batchIdxList : List (List ℕ)) :
    Except TrainingError (List α) := do
  let indices := batchIdxList.flatten
  check (indices.length = data.length) s!"{indices.length} vs. {data.length}"
  let revertIndices ← getReverseIdx indices
  return Packing.gather data revertIndices

end Rows

/-! ## Groups of rows -/

/-- One step of the loop over the rows: the groups so far, the open group with its uid. -/
def groupStep {υ : Type} [DecidableEq υ] :
    List (List ℕ) × Option (υ × List ℕ) → υ × ℕ → List (List ℕ) × Option (υ × List ℕ)
  | (groups, none), (uid, i) => (groups, some (uid, [i]))
  | (groups, some (currentUid, currentIndices)), (uid, i) =>
      if uid = currentUid then (groups, some (currentUid, currentIndices ++ [i]))
      else (groups ++ [currentIndices], some (uid, [i]))

/-- The groups: runs of rows with one uid. -/
def uidGroups {υ : Type} [DecidableEq υ] (uidList : List υ) : List (List ℕ) :=
  let (groups, last) := uidList.zipIdx.foldl groupStep ([], none)
  groups ++ last.elim [] fun current => [current.2]

/-- `get_group_balanced_partitions`. -/
def getGroupBalancedPartitions {υ : Type} [DecidableEq υ] (seqlenList : List ℕ)
    (uidList : List υ) (k : ℕ) : Except TrainingError (List (List ℕ)) := do
  check (seqlenList.length = uidList.length) "seqlen_list and uid_list must have same length"
  let groups := uidGroups uidList
  check (k ≤ groups.length)
    (s!"Number of uid groups ({groups.length}) must be >= k_partitions ({k}). " ++
      "Consider reducing world_size or increasing batch_size.")
  let groupWorkloads := groups.map fun indices =>
    ((Packing.gather seqlenList indices).map calculateWorkload).sum
  let groupPartitions ← getSeqlenBalancedPartitions groupWorkloads k true
  return groupPartitions.map fun groupPartition =>
    (Packing.gather groups groupPartition).flatten.insertionSort (· ≤ ·)

end LookAway.Training
