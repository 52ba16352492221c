/-
  Work split round-robin, and put back together by its key. Nothing here names a program.

  * `strides_perm`: the strides of the `n` workers are a partition of the indices below `total`,
    also when there are more workers than indices.
  * `map_mergeSort_eq`: a sort by a key with distinct values undoes any rearrangement, whatever
    the entries carry besides.
-/
import Mathlib.Data.List.Basic
import Mathlib.Data.List.Nodup
import Mathlib.Tactic.Common

namespace LookAway.Base

/-! ## Strides -/

/-- The indices below `total` that worker `k` of `n` gets: `range(k, total, n)`. -/
def strideOf (total n k : ℕ) : List ℕ := List.range' k ((total - k + n - 1) / n) n

theorem mem_strideOf {total n k i : ℕ} (hk : k < n) :
    i ∈ strideOf total n k ↔ i < total ∧ i % n = k := by
  have hn : 0 < n := by omega
  unfold strideOf
  rw [List.mem_range']
  constructor
  · rintro ⟨j, hj, rfl⟩
    have hle : (j + 1) * n ≤ total - k + n - 1 := (Nat.le_div_iff_mul_le hn).mp hj
    rw [Nat.add_mul, Nat.one_mul, Nat.mul_comm] at hle
    exact ⟨by omega, by rw [Nat.add_mul_mod_self_left, Nat.mod_eq_of_lt hk]⟩
  · rintro ⟨hi, hmod⟩
    have hdiv : k + n * (i / n) = i := by
      rw [← hmod]
      exact Nat.mod_add_div i n
    refine ⟨i / n, ?_, hdiv.symm⟩
    apply (Nat.le_div_iff_mul_le hn).mpr
    rw [Nat.succ_mul, Nat.mul_comm]
    omega

theorem nodup_strideOf {total n k : ℕ} (hn : 0 < n) : (strideOf total n k).Nodup :=
  (List.pairwise_lt_range' _ hn).imp Nat.ne_of_lt

/-- Every index is in exactly one stride. -/
theorem strides_perm {total n : ℕ} (hn : 0 < n) :
    ((List.range n).flatMap (strideOf total n)).Perm (List.range total) := by
  apply (List.perm_ext_iff_of_nodup ?_ List.nodup_range).mpr
  · intro i
    rw [List.mem_flatMap, List.mem_range]
    constructor
    · rintro ⟨k, hk, hi⟩
      exact ((mem_strideOf (List.mem_range.mp hk)).mp hi).1
    · intro hi
      have hlt := Nat.mod_lt i hn
      exact ⟨i % n, List.mem_range.mpr hlt, (mem_strideOf hlt).mpr ⟨hi, rfl⟩⟩
  · refine List.nodup_flatMap.mpr ⟨fun k _ => nodup_strideOf hn, ?_⟩
    refine List.Pairwise.imp_of_mem ?_ List.nodup_range
    intro j k hj hk hne i hij hik
    have hj' := ((mem_strideOf (List.mem_range.mp hj)).mp hij).2
    have hk' := ((mem_strideOf (List.mem_range.mp hk)).mp hik).2
    exact hne (hj'.symm.trans hk')

/-! ## Sorting by a key -/

section Sorting

variable {α β : Type} {g : α → β}

/-- Sorting by the key of a part of the entries gives the arrangement of the parts that is
    strictly ascending, if there is one. -/
theorem map_mergeSort_eq (key : β → ℕ) {xs : List α} {ys : List β} (hperm : (xs.map g).Perm ys)
    (hasc : ys.Pairwise fun a b => key a < key b) :
    (xs.mergeSort fun a b => decide (key (g a) ≤ key (g b))).map g = ys := by
  have hsorted : ((xs.mergeSort fun a b => decide (key (g a) ≤ key (g b))).map g).Pairwise
      fun a b => key a ≤ key b := by
    rw [List.pairwise_map]
    refine (List.pairwise_mergeSort ?_ ?_ xs).imp of_decide_eq_true
    · intro a b c hab hbc
      rw [decide_eq_true_eq] at hab hbc ⊢
      omega
    · intro a b
      rw [Bool.or_eq_true, decide_eq_true_eq, decide_eq_true_eq]
      exact Nat.le_total _ _
  have hperm' : ((xs.mergeSort fun a b => decide (key (g a) ≤ key (g b))).map g).Perm ys :=
    ((List.mergeSort_perm xs _).map g).trans hperm
  have hkeys : (ys.map key).Nodup := by
    rw [List.Nodup, List.pairwise_map]
    exact hasc.imp Nat.ne_of_lt
  refine List.Perm.eq_of_pairwise ?_ hsorted (hasc.imp Nat.le_of_lt) hperm'
  intro a b ha hb hab hba
  exact List.inj_on_of_nodup_map hkeys (hperm'.mem_iff.mp ha) hb (Nat.le_antisymm hab hba)

end Sorting

end LookAway.Base
