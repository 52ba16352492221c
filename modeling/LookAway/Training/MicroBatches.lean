/-
  Micro-batches with as many tokens as fit: what `rearrangeMicroBatches` gives over every batch and
  every group of ranks.

  `ranks_agree`: ranks with equally many rows make the same number of micro-batches, or all raise
  the same error. `tokens_le`: the budget of tokens is met up to a factor, since the workloads and
  not the tokens are balanced. `restore_prepare`: what is computed row by row on the micro-batches
  comes back in the order of the rows.
-/
import LookAway.Training.Partitions
import Mathlib.Algebra.BigOperators.Ring.List
import Mathlib.Data.List.MinMax
import Mathlib.Order.Nat

namespace LookAway.Training

open LookAway.Base LookAway.Base.Differencing LookAway.Base.Packing

variable {args : MicroBatchArgs} {allReduce : ℕ → ℕ} {maxSeqLen n k : ℕ} {seqLens : List ℕ}
  {parts : List (List ℕ)}

/-! ## The order -/

theorem evens_odds_perm {α : Type} (xs : List α) : ((evens xs).reverse ++ odds xs).Perm xs := by
  refine ((List.reverse_perm _).append_right _).trans ?_
  induction xs using evens.induct with
  | case1 => exact .refl _
  | case2 x => exact .refl _
  | case3 x y xs ih =>
      rw [evens, odds, List.cons_append]
      exact (List.perm_middle.trans (ih.cons y)).cons x

theorem balanceOrder_perm (workloads : List ℕ) (parts : List (List ℕ)) :
    (balanceOrder workloads parts).Perm parts :=
  (evens_odds_perm _).trans (List.perm_insertionSort _ _)

theorem IsPartition.perm_parts {parts' : List (List ℕ)} (h : IsPartition n k parts)
    (hperm : parts'.Perm parts) : IsPartition n k parts' where
  length := hperm.length_eq.trans h.length
  ne_nil := fun part hpart => h.ne_nil part (hperm.subset hpart)
  increasing := fun part hpart => h.increasing part (hperm.subset hpart)
  perm := hperm.flatten.trans h.perm

/-! ## One rank -/

theorem getSeqlenBalancedPartitions_zero (seqlenList : List ℕ) :
    getSeqlenBalancedPartitions seqlenList 0 false = .error .indexError := by
  unfold getSeqlenBalancedPartitions
  rw [check_pos (Nat.zero_le _)]
  unfold karmarkarKarp initialStates
  rw [if_neg Bool.false_ne_true]
  cases sortedSeqlenList seqlenList with
  | nil => rfl
  | cons e es =>
      rw [List.mapM_cons]
      rfl

/-- A rank that gets as far as the partitions: the order of the parts aside, it returns them. -/
theorem rearrange_of_num (hwidth : maxSeqLen ≤ args.maxTokenLen) (hmax : args.maxTokenLen ≠ 0)
    (hdivided : args.numBatchesDividedBy ≠ some 0)
    (hpos : 0 < numMicroBatches args allReduce seqLens)
    (hle : numMicroBatches args allReduce seqLens ≤ seqLens.length) :
    ∃ sorted parts, rearrangeMicroBatches args allReduce maxSeqLen seqLens = .ok parts ∧
      getSeqlenBalancedPartitions (seqLens.map calculateWorkload)
        (numMicroBatches args allReduce seqLens) false = .ok sorted ∧ parts.Perm sorted := by
  obtain ⟨sorted, hsorted⟩ : ∃ sorted, getSeqlenBalancedPartitions
      (seqLens.map calculateWorkload) (numMicroBatches args allReduce seqLens) false = .ok sorted :=
    exists_getSeqlenBalancedPartitions hpos (by rwa [List.length_map]) nofun
  refine ⟨sorted, if args.useDynamicBszBalance then
    balanceOrder (seqLens.map calculateWorkload) sorted else sorted, ?_, hsorted, ?_⟩
  · exact except_bind_ok.mpr ⟨(), check_pos hwidth, except_bind_ok.mpr ⟨(), raiseIf_neg hmax,
      except_bind_ok.mpr ⟨(), raiseIf_neg hdivided, except_bind_ok.mpr ⟨(), check_pos hle,
        except_bind_ok.mpr ⟨sorted, hsorted, rfl⟩⟩⟩⟩⟩
  · split
    · exact balanceOrder_perm _ _
    · exact .refl _

theorem rearrange_some
    (h : rearrangeMicroBatches args allReduce maxSeqLen seqLens = .ok parts) :
    maxSeqLen ≤ args.maxTokenLen ∧ args.maxTokenLen ≠ 0 ∧ args.numBatchesDividedBy ≠ some 0 ∧
      0 < numMicroBatches args allReduce seqLens ∧
      numMicroBatches args allReduce seqLens ≤ seqLens.length := by
  obtain ⟨_, hwidth, h⟩ := except_bind_ok.mp h
  obtain ⟨_, hmax, h⟩ := except_bind_ok.mp h
  obtain ⟨_, hdivided, h⟩ := except_bind_ok.mp h
  obtain ⟨_, hle, h⟩ := except_bind_ok.mp h
  obtain ⟨sorted, hsorted, -⟩ := except_bind_ok.mp h
  exact ⟨check_ok hwidth, raiseIf_ok hmax, raiseIf_ok hdivided,
    (getSeqlenBalancedPartitions_some hsorted).1, check_ok hle⟩

/-- The micro-batches hold every row once, and none is empty. -/
theorem rearrange_isPartition
    (h : rearrangeMicroBatches args allReduce maxSeqLen seqLens = .ok parts) :
    IsPartition seqLens.length (numMicroBatches args allReduce seqLens) parts := by
  obtain ⟨hwidth, hmax, hdivided, hpos, hle⟩ := rearrange_some h
  obtain ⟨sorted, parts', hparts', hsorted, hperm⟩ :=
    rearrange_of_num hwidth hmax hdivided hpos hle
  obtain rfl := Except.ok.inj (hparts'.symm.trans h)
  have hpartition := (getSeqlenBalancedPartitions_isPartition hsorted).1
  rw [List.length_map] at hpartition
  exact hpartition.perm_parts hperm

/-! ## The ranks -/

theorem le_allReduceMax {counts : List ℕ} {c : ℕ} (h : c ∈ counts) : c ≤ allReduceMax counts :=
  List.le_max_of_le h (Nat.le_refl c)

theorem allReduceMax_le {counts : List ℕ} {b : ℕ} (h : ∀ c ∈ counts, c ≤ b) :
    allReduceMax counts ≤ b := List.max_le_of_forall_le counts b h

section Ranks

variable {ranks : List (List ℕ)}

/-- The reduction a rank of the group sees. -/
def reduced (args : MicroBatchArgs) (ranks : List (List ℕ)) : ℕ → ℕ :=
  fun _ => allReduceMax (ranks.map (localNumMicroBatches args))

/-- How many micro-batches a group makes does not depend on the rank. -/
theorem numMicroBatches_reduced (seqLens seqLens' : List ℕ) :
    numMicroBatches args (reduced args ranks) seqLens =
      numMicroBatches args (reduced args ranks) seqLens' := rfl

/-- What the ranks do is settled by how many rows they have. -/
theorem rearrange_error (hlength : seqLens.length = n)
    (h : ¬ (maxSeqLen ≤ args.maxTokenLen ∧ args.maxTokenLen ≠ 0 ∧
      args.numBatchesDividedBy ≠ some 0 ∧ 0 < numMicroBatches args (reduced args ranks) [] ∧
      numMicroBatches args (reduced args ranks) [] ≤ n)) :
    rearrangeMicroBatches args (reduced args ranks) maxSeqLen seqLens =
      rearrangeMicroBatches args (reduced args ranks) maxSeqLen (List.replicate n 0) := by
  unfold rearrangeMicroBatches
  dsimp only
  rw [numMicroBatches_reduced seqLens [], numMicroBatches_reduced (List.replicate n 0) [], hlength,
    List.length_replicate]
  by_cases hwidth : maxSeqLen ≤ args.maxTokenLen
  · by_cases hmax : args.maxTokenLen = 0
    · unfold raiseIf
      rw [if_pos hmax, check_pos hwidth]
      rfl
    · by_cases hdivided : args.numBatchesDividedBy = some 0
      · rw [check_pos hwidth, raiseIf_neg hmax, raiseIf_pos hdivided]
        rfl
      · by_cases hle : numMicroBatches args (reduced args ranks) [] ≤ n
        · obtain hzero : numMicroBatches args (reduced args ranks) [] = 0 := by
            by_contra hne
            exact h ⟨hwidth, hmax, hdivided, Nat.pos_of_ne_zero hne, hle⟩
          rw [hzero, getSeqlenBalancedPartitions_zero, getSeqlenBalancedPartitions_zero]
          rfl
        · rw [check_neg hle, check_pos hwidth, raiseIf_neg hmax, raiseIf_neg hdivided]
          rfl
  · rw [check_neg hwidth]
    rfl

theorem ceildiv_pos {a b : ℕ} (ha : 0 < a) (hb : 0 < b) : 0 < ceildiv a b :=
  Nat.div_pos (by omega) hb

theorem le_ceildiv_mul (a : ℕ) {b : ℕ} (hb : 0 < b) : a ≤ ceildiv a b * b := by
  have hdiv := Nat.div_add_mod (a + b - 1) b
  have hmod := Nat.mod_lt (a + b - 1) hb
  unfold ceildiv
  rw [Nat.mul_comm]
  omega

/-- With the plain arguments and at least one token, the ranks make between one micro-batch and one
    for each row. -/
theorem numMicroBatches_plain (hn : ∀ rank ∈ ranks, rank.length = n)
    (hmax : 0 < args.maxTokenLen) (hmin : args.minNumMicroBatch = none)
    (hdivided : args.numBatchesDividedBy = none)
    (htokens : ∃ rank ∈ ranks, 0 < rank.sum) :
    0 < numMicroBatches args (reduced args ranks) [] ∧
      numMicroBatches args (reduced args ranks) [] ≤ n := by
  have hnum : numMicroBatches args (reduced args ranks) [] =
      allReduceMax (ranks.map (localNumMicroBatches args)) := by
    unfold numMicroBatches
    rw [hdivided]
    rfl
  have hlocal : ∀ rank : List ℕ, localNumMicroBatches args rank =
      min rank.length (ceildiv rank.sum args.maxTokenLen) := by
    intro rank
    unfold localNumMicroBatches
    rw [hmin]
    rfl
  rw [hnum]
  refine ⟨?_, allReduceMax_le ?_⟩
  · obtain ⟨rank, hrank, hpos⟩ := htokens
    refine Nat.lt_of_lt_of_le ?_ (le_allReduceMax (List.mem_map_of_mem hrank))
    have hrows : 0 < rank.length := List.length_pos_iff.mpr (by rintro rfl; simp at hpos)
    rw [hlocal]
    exact Nat.lt_min.mpr ⟨hrows, ceildiv_pos hpos hmax⟩
  · intro c hc
    obtain ⟨rank, hrank, rfl⟩ := List.mem_map.mp hc
    rw [hlocal, ← hn rank hrank]
    exact Nat.min_le_left _ _

/-- Ranks with equally many rows agree on how many micro-batches they make, or raise one error. With
    the plain arguments, a budget for the longest row and a token somewhere, none raises. -/
theorem ranks_agree (args : MicroBatchArgs) (maxSeqLen : ℕ) {n : ℕ} {ranks : List (List ℕ)}
    (hn : ∀ rank ∈ ranks, rank.length = n) :
    ((∃ num, ∀ r ∈ rearrangeRanks args maxSeqLen ranks, ∃ parts, r = .ok parts ∧
        IsPartition n num parts) ∨
      ∃ e, ∀ r ∈ rearrangeRanks args maxSeqLen ranks, r = .error e) ∧
    (args.minNumMicroBatch = none → args.numBatchesDividedBy = none →
      maxSeqLen ≤ args.maxTokenLen → 0 < args.maxTokenLen → (∃ rank ∈ ranks, 0 < rank.sum) →
      ∃ num, ∀ r ∈ rearrangeRanks args maxSeqLen ranks, ∃ parts, r = .ok parts ∧
        IsPartition n num parts) := by
  have hok : (maxSeqLen ≤ args.maxTokenLen ∧ args.maxTokenLen ≠ 0 ∧
      args.numBatchesDividedBy ≠ some 0 ∧ 0 < numMicroBatches args (reduced args ranks) [] ∧
      numMicroBatches args (reduced args ranks) [] ≤ n) →
      ∃ num, ∀ r ∈ rearrangeRanks args maxSeqLen ranks, ∃ parts, r = .ok parts ∧
        IsPartition n num parts := by
    rintro ⟨hwidth, hmax, hdivided, hpos, hle⟩
    refine ⟨numMicroBatches args (reduced args ranks) [], fun r hr => ?_⟩
    obtain ⟨rank, hrank, rfl⟩ := List.mem_map.mp hr
    obtain ⟨_, parts, hparts, -⟩ := rearrange_of_num hwidth hmax hdivided
      (show 0 < numMicroBatches args (reduced args ranks) rank from hpos)
      (by rw [hn rank hrank]; exact hle)
    refine ⟨parts, hparts, ?_⟩
    have hpartition := rearrange_isPartition hparts
    rwa [hn rank hrank] at hpartition
  refine ⟨?_, ?_⟩
  · by_cases h : maxSeqLen ≤ args.maxTokenLen ∧ args.maxTokenLen ≠ 0 ∧
      args.numBatchesDividedBy ≠ some 0 ∧ 0 < numMicroBatches args (reduced args ranks) [] ∧
      numMicroBatches args (reduced args ranks) [] ≤ n
    · exact .inl (hok h)
    · right
      cases hresult : rearrangeMicroBatches args (reduced args ranks) maxSeqLen
          (List.replicate n 0) with
      | ok parts =>
          have hsome := rearrange_some hresult
          rw [List.length_replicate] at hsome
          exact absurd hsome h
      | error e =>
          refine ⟨e, fun r hr => ?_⟩
          obtain ⟨rank, hrank, rfl⟩ := List.mem_map.mp hr
          exact (rearrange_error (hn rank hrank) h).trans hresult
  · intro hmin hdivided hwidth hmax htokens
    obtain ⟨hpos, hle⟩ := numMicroBatches_plain hn hmax hmin hdivided htokens
    exact hok ⟨hwidth, by omega, by rw [hdivided]; exact nofun, hpos, hle⟩

theorem ranks_agree_two :
    ∃ num, ∀ r ∈ rearrangeRanks ⟨8, none, none, true⟩ 4 [[4, 3, 1], [2, 0, 0]],
      ∃ parts, r = .ok parts ∧ IsPartition 3 num parts :=
  (@ranks_agree ⟨8, none, none, true⟩ 4 3 [[4, 3, 1], [2, 0, 0]] (by decide)).2
    rfl rfl (by decide) (by decide) (by decide)

/-! ## The budget -/

theorem calculateWorkload_le {s b : ℕ} (h : s ≤ b) : calculateWorkload s ≤ s * (24576 + b) := by
  unfold calculateWorkload
  rw [Nat.mul_add, Nat.mul_comm 24576, pow_two]
  exact Nat.add_le_add_left (Nat.mul_le_mul_left s h) _

theorem le_calculateWorkload (s : ℕ) : 24576 * s ≤ calculateWorkload s := Nat.le_add_right _ _

theorem sum_calculateWorkload_le {xs : List ℕ} {b : ℕ} (h : ∀ s ∈ xs, s ≤ b) :
    (xs.map calculateWorkload).sum ≤ xs.sum * (24576 + b) := by
  have hmul := List.sum_map_mul_right xs id (24576 + b)
  rw [List.map_id] at hmul
  rw [← hmul]
  exact List.sum_le_sum fun s hs => calculateWorkload_le (h s hs)

theorem le_sum_calculateWorkload (xs : List ℕ) :
    24576 * xs.sum ≤ (xs.map calculateWorkload).sum := by
  have hmul := List.sum_map_mul_left xs id 24576
  rw [List.map_id] at hmul
  rw [← hmul]
  exact List.sum_le_sum fun s _ => le_calculateWorkload s

/-- Some entry is at most the mean. -/
theorem exists_le_of_sum_le {xs : List ℕ} {b : ℕ} (hne : xs ≠ []) (h : xs.sum ≤ xs.length * b) :
    ∃ x ∈ xs, x ≤ b := by
  by_contra hall
  push Not at hall
  have hlt : xs.length * b < xs.sum := by
    calc xs.length * b < xs.length * (b + 1) := by
          rw [Nat.mul_succ]
          have := List.length_pos_iff.mpr hne
          omega
      _ = xs.length • (b + 1) := rfl
      _ ≤ xs.sum := List.card_nsmul_le_sum _ _ hall
  omega

theorem le_roundupDivisible (a : ℕ) {b : ℕ} (hb : 0 < b) : a ≤ roundupDivisible a b :=
  le_ceildiv_mul a hb

/-- The micro-batches of a group have room for the tokens of each rank. -/
theorem sum_le_num_mul {r : List ℕ} (hr : r ∈ ranks) (hmax : 0 < args.maxTokenLen)
    (hrow : ∀ s ∈ r, s ≤ args.maxTokenLen) (hdivided : args.numBatchesDividedBy ≠ some 0) :
    r.sum ≤ numMicroBatches args (reduced args ranks) r * args.maxTokenLen := by
  have hlocal : min r.length (ceildiv r.sum args.maxTokenLen) ≤ localNumMicroBatches args r := by
    unfold localNumMicroBatches
    cases args.minNumMicroBatch with
    | none => exact Nat.le_refl _
    | some least => exact Nat.le_max_right _ _
  have hreduced : localNumMicroBatches args r ≤ reduced args ranks 0 :=
    le_allReduceMax (List.mem_map_of_mem hr)
  have hnum : reduced args ranks 0 ≤ numMicroBatches args (reduced args ranks) r := by
    unfold numMicroBatches
    cases hd : args.numBatchesDividedBy with
    | none => exact Nat.le_refl _
    | some b =>
        refine le_roundupDivisible _ (Nat.pos_of_ne_zero ?_)
        rintro rfl
        exact hdivided hd
  have hroom : r.sum ≤ min r.length (ceildiv r.sum args.maxTokenLen) * args.maxTokenLen := by
    rcases Nat.le_total r.length (ceildiv r.sum args.maxTokenLen) with h | h
    · rw [Nat.min_eq_left h]
      exact List.sum_le_card_nsmul r _ hrow
    · rw [Nat.min_eq_right h]
      exact le_ceildiv_mul _ hmax
  exact hroom.trans (Nat.mul_le_mul_right _ (hlocal.trans (hreduced.trans hnum)))

/-- The tokens of a micro-batch, as many as the budget up to a factor. -/
theorem tokens_le {ranks : List (List ℕ)} {r : List ℕ}
    (hmask : ∀ rank ∈ ranks, ∀ s ∈ rank, s ≤ maxSeqLen) (hr : r ∈ ranks)
    (h : rearrangeMicroBatches args (reduced args ranks) maxSeqLen r = .ok parts) :
    ∀ part ∈ parts, 24576 * (gather r part).sum ≤
      (args.maxTokenLen + maxSeqLen) * (24576 + maxSeqLen) := by
  obtain ⟨hwidth, hmax, hdivided, hpos, hle⟩ := rearrange_some h
  have hpartition := rearrange_isPartition h
  have hrow := hmask r hr
  obtain ⟨sorted, parts', hparts', hsorted, hperm⟩ :=
    rearrange_of_num hwidth hmax hdivided hpos hle
  obtain rfl := Except.ok.inj (hparts'.symm.trans h)
  -- workloads differ by no more than that of the longest row
  have hspread : Within (maxSeqLen * (24576 + maxSeqLen))
      (parts'.map fun part => (gather (r.map calculateWorkload) part).sum) := by
    refine Within.perm (hperm.symm.map _) (within_sums hsorted ?_)
    intro v hv
    obtain ⟨s, hs, rfl⟩ := List.mem_map.mp hv
    exact (calculateWorkload_le (hrow s hs)).trans (Nat.mul_le_mul_right _ (hrow s hs))
  -- and one micro-batch has no more than the mean
  have htotal : (parts'.map fun part => (gather (r.map calculateWorkload) part).sum).sum ≤
      (parts'.map fun part => (gather (r.map calculateWorkload) part).sum).length *
        (args.maxTokenLen * (24576 + maxSeqLen)) := by
    rw [sum_parts (by rw [List.length_map]; exact hpartition.perm), List.length_map,
      hpartition.length, ← Nat.mul_assoc]
    exact (sum_calculateWorkload_le hrow).trans (Nat.mul_le_mul_right _
      (sum_le_num_mul hr (Nat.pos_of_ne_zero hmax) (fun s hs => (hrow s hs).trans hwidth) hdivided))
  have hne : parts' ≠ [] := by
    rintro rfl
    have := hpartition.length
    simp at this
    omega
  obtain ⟨least, hleast, hmean⟩ := exists_le_of_sum_le (by simpa using hne) htotal
  intro part hpart
  calc 24576 * (gather r part).sum
      ≤ (gather (r.map calculateWorkload) part).sum := by
        rw [gather_map]
        exact le_sum_calculateWorkload _
    _ ≤ least + maxSeqLen * (24576 + maxSeqLen) :=
        hspread _ (List.mem_map_of_mem hpart) _ hleast
    _ ≤ args.maxTokenLen * (24576 + maxSeqLen) + maxSeqLen * (24576 + maxSeqLen) :=
        Nat.add_le_add_right hmean _
    _ = (args.maxTokenLen + maxSeqLen) * (24576 + maxSeqLen) := (Nat.add_mul _ _ _).symm

theorem tokens_le_three :
    24576 * (gather [3, 3, 3] [0, 1]).sum ≤ (5 + 3) * (24576 + 3) :=
  @tokens_le ⟨5, none, none, true⟩ 3 [[0, 1], [2]] [[3, 3, 3]] [3, 3, 3] (by decide) (by decide)
    (by decide) [0, 1] (by decide)

/-- The budget itself is not met. -/
example : rearrangeMicroBatches ⟨5, none, none, true⟩ id 3 [3, 3, 3] = .ok [[0, 1], [2]] := by
  decide

end Ranks

/-! ## There and back -/

section Rows

variable {ρ α : Type} {seqLen : ρ → ℕ} {data : List ρ} {microBatches : List (List ρ)}

theorem restoreDynamicBatch_ok {values : List α}
    (h : parts.flatten.Perm (List.range values.length)) :
    restoreDynamicBatch values parts =
      .ok (gather values (fill parts.flatten parts.flatten.zipIdx)) := by
  have hlength : parts.flatten.length = values.length := by rw [h.length_eq, List.length_range]
  have hindex : ¬ ∃ idx ∈ parts.flatten, parts.flatten.length ≤ idx := by
    rintro ⟨idx, hidx, hle⟩
    have := lt_of_perm_range h idx hidx
    omega
  exact except_bind_ok.mpr ⟨(), check_pos hlength,
    except_bind_ok.mpr ⟨_, except_bind_ok.mpr ⟨(), raiseIf_neg hindex, rfl⟩, rfl⟩⟩

theorem prepare_eq (h : prepareDynamicBatch args allReduce maxSeqLen seqLen data =
      .ok (microBatches, parts)) :
    rearrangeMicroBatches args allReduce maxSeqLen (data.map seqLen) = .ok parts ∧
      microBatches = parts.map (gather data) := by
  obtain ⟨parts', hparts, h⟩ := except_bind_ok.mp h
  cases h
  exact ⟨hparts, rfl⟩

/-- The micro-batches have the rows, each once. -/
theorem prepare_perm (h : prepareDynamicBatch args allReduce maxSeqLen seqLen data =
    .ok (microBatches, parts)) : parts.flatten.Perm (List.range data.length) := by
  have hpartition := rearrange_isPartition (prepare_eq h).1
  rw [List.length_map] at hpartition
  exact hpartition.perm

/-- Values computed for the rows of each micro-batch come back in the order of the rows. -/
theorem restore_prepare {R : ρ → α → Prop} {g : List ρ → List α}
    (hg : ∀ rows, (∀ row ∈ rows, row ∈ data) → List.Forall₂ R rows (g rows))
    (h : prepareDynamicBatch args allReduce maxSeqLen seqLen data = .ok (microBatches, parts)) :
    ∃ values, restoreDynamicBatch (microBatches.map g).flatten parts = .ok values ∧
      List.Forall₂ R data values := by
  obtain ⟨-, rfl⟩ := prepare_eq h
  have hperm := prepare_perm h
  have hvalues : List.Forall₂ R (gather data parts.flatten)
      ((parts.map (gather data)).map g).flatten := by
    rw [gather_flatten, List.map_map]
    refine List.rel_flatten (List.forall₂_map_left_iff.mpr (List.forall₂_map_right_iff.mpr ?_))
    exact List.forall₂_same.mpr fun part _ => hg _ fun row hrow => mem_of_mem_gather hrow
  have hlength : ((parts.map (gather data)).map g).flatten.length = data.length := by
    rw [← hvalues.length_eq, length_gather (lt_of_perm_range hperm), hperm.length_eq,
      List.length_range]
  exact ⟨_, restoreDynamicBatch_ok (by rwa [hlength]), forall₂_gather_inverse hperm hvalues⟩

end Rows

end LookAway.Training
