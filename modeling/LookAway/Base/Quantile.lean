/-
  How many entries an interpolated quantile leaves above it. Nothing here names a program.

  * `countP_lt_getElem`: in an ascending list of `n` entries at most `n - 1 - i` are above the
    one at index `i`, ties or not.
  * `getElem_le_valueAtRank`: interpolating at rank `r` never goes below the entry at `⌊r⌋`.
  * `countP_lt_quantile`: so at most `n - 1 - ⌊q (n - 1)⌋` entries exceed the `q`-quantile.
  * `quantile_const`, `quantile_low`: lists of one value, and of a low and a high one.
-/
import LookAway.Base.Select
import Mathlib.Data.List.GetD

namespace LookAway.Base

section Sorted

variable {α : Type*} [LinearOrder α]

/-- The entries up to index `i` are at most the one at `i`. -/
theorem countP_lt_getElem {xs : List α} (hs : xs.Pairwise (· ≤ ·)) {i : ℕ} (hi : i < xs.length) :
    xs.countP (fun x => decide (xs[i] < x)) ≤ xs.length - 1 - i := by
  have hfront : (xs.take (i + 1)).countP (fun x => decide (xs[i] < x)) = 0 := by
    rw [List.countP_eq_zero]
    intro x hx
    obtain ⟨j, hj, rfl⟩ := List.mem_take_iff_getElem.mp hx
    have hle : xs[j] ≤ xs[i] := by
      by_cases hji : j = i
      · subst hji
        exact le_refl _
      · exact List.pairwise_iff_getElem.mp hs j i (by omega) hi (by omega)
    simpa using hle
  have hback := List.countP_le_length (p := fun x => decide (xs[i] < x)) (l := xs.drop (i + 1))
  have hsplit : xs.countP (fun x => decide (xs[i] < x)) =
      (xs.take (i + 1)).countP (fun x => decide (xs[i] < x)) +
        (xs.drop (i + 1)).countP (fun x => decide (xs[i] < x)) := by
    rw [← List.countP_append, List.take_append_drop]
  rw [List.length_drop] at hback
  omega

end Sorted

section Quantile

variable {K : Type*} [Field K] [LinearOrder K] [IsStrictOrderedRing K] [FloorSemiring K]

/-- Interpolation starts at the entry below the rank and moves up. -/
theorem getElem_le_valueAtRank {xs : List K} (hs : xs.Pairwise (· ≤ ·)) {r : K} (hr : 0 ≤ r)
    (hlast : ⌈r⌉₊ < xs.length) (hi : ⌊r⌋₊ < xs.length) : xs[⌊r⌋₊] ≤ valueAtRank xs r := by
  have hup : xs[⌊r⌋₊] ≤ xs[⌈r⌉₊] := by
    rcases (Nat.floor_le_ceil r).lt_or_eq with h | h
    · exact List.pairwise_iff_getElem.mp hs _ _ hi hlast h
    · exact le_of_eq (by simp only [h])
  unfold valueAtRank
  dsimp only
  rw [List.getD_eq_getElem _ _ hi, List.getD_eq_getElem _ _ hlast]
  have hfrac : 0 ≤ r - (⌊r⌋₊ : K) := sub_nonneg.mpr (Nat.floor_le hr)
  linarith [mul_nonneg hfrac (sub_nonneg.mpr hup)]

/-- Both ranks the quantile reads are indices of the list. -/
theorem ceil_rank_le {n : ℕ} {q : K} (h1 : q ≤ 1) (hn : 1 ≤ n) :
    ⌈q * ((n : K) - 1)⌉₊ ≤ n - 1 := by
  have hn' : (1 : K) ≤ n := by exact_mod_cast hn
  apply Nat.ceil_le.mpr
  rw [Nat.cast_sub hn, Nat.cast_one]
  exact mul_le_of_le_one_left (sub_nonneg.mpr hn') h1

/-- **Order statistics.** With a strict comparison, at most `n - 1 - ⌊q (n - 1)⌋` of the `n`
    values exceed their `q`-quantile. -/
theorem countP_lt_quantile {xs : List K} {q : K} (h0 : 0 ≤ q) (h1 : q ≤ 1) (hne : xs ≠ []) :
    xs.countP (fun x => decide (quantile xs q < x)) ≤
      xs.length - 1 - ⌊q * ((xs.length : K) - 1)⌋₊ := by
  let sorted := xs.insertionSort (· ≤ ·)
  let r := q * ((xs.length : K) - 1)
  have hperm : sorted.Perm xs := List.perm_insertionSort _ _
  have hs : sorted.Pairwise (· ≤ ·) := List.pairwise_insertionSort _ _
  have hlen : sorted.length = xs.length := hperm.length_eq
  have hpos : 1 ≤ xs.length := List.length_pos_iff.mpr hne
  have hn : (1 : K) ≤ xs.length := by exact_mod_cast hpos
  have hr : 0 ≤ r := mul_nonneg h0 (sub_nonneg.mpr hn)
  have hceil : ⌈r⌉₊ ≤ xs.length - 1 := ceil_rank_le h1 hpos
  have hfloor : ⌊r⌋₊ ≤ xs.length - 1 := (Nat.floor_le_ceil r).trans hceil
  have hi : ⌊r⌋₊ < sorted.length := by omega
  have hle : sorted[⌊r⌋₊] ≤ quantile xs q := getElem_le_valueAtRank hs hr (by omega) hi
  calc xs.countP (fun x => decide (quantile xs q < x))
      = sorted.countP (fun x => decide (quantile xs q < x)) := (hperm.countP_eq _).symm
    _ ≤ sorted.countP (fun x => decide (sorted[⌊r⌋₊] < x)) := by
        apply List.countP_mono_left
        intro x _ hx
        exact decide_eq_true (lt_of_le_of_lt hle (of_decide_eq_true hx))
    _ ≤ sorted.length - 1 - ⌊r⌋₊ := countP_lt_getElem hs hi
    _ = xs.length - 1 - ⌊r⌋₊ := by rw [hlen]

/-- A list of equal values has that value as every quantile. -/
theorem quantile_const {xs : List K} {q c : K} (h1 : q ≤ 1) (hne : xs ≠ [])
    (hc : ∀ x ∈ xs, x = c) : quantile xs q = c := by
  have hpos : 1 ≤ xs.length := List.length_pos_iff.mpr hne
  have hceil : ⌈q * ((xs.length : K) - 1)⌉₊ ≤ xs.length - 1 := ceil_rank_le h1 hpos
  have hfloor := (Nat.floor_le_ceil (q * ((xs.length : K) - 1))).trans hceil
  have hentry : ∀ i, i ≤ xs.length - 1 → (xs.insertionSort (· ≤ ·)).getD i 0 = c := by
    intro i hi
    have hlt : i < (xs.insertionSort (· ≤ ·)).length := by
      rw [List.length_insertionSort]
      omega
    rw [List.getD_eq_getElem _ _ hlt]
    exact hc _ ((List.mem_insertionSort _).mp (List.getElem_mem hlt))
  unfold quantile valueAtRank
  dsimp only
  rw [hentry _ hceil, hentry _ hfloor]
  ring

/-- Where the ranks fall among the low values, the high ones do not matter. -/
theorem quantile_low {a b : ℕ} {q c d : K} (hcd : c ≤ d)
    (hrank : ⌈q * (((a + b : ℕ) : K) - 1)⌉₊ < b) :
    quantile (List.replicate a d ++ List.replicate b c) q = c := by
  have hsorted : (List.replicate a d ++ List.replicate b c).insertionSort (· ≤ ·) =
      List.replicate b c ++ List.replicate a d := by
    refine List.Perm.eq_of_pairwise (fun _ _ _ _ hxy hyx => le_antisymm hxy hyx)
      (List.pairwise_insertionSort _ _) ?_
      ((List.perm_insertionSort _ _).trans List.perm_append_comm)
    rw [List.pairwise_append]
    refine ⟨List.pairwise_replicate.mpr (.inr (le_refl c)),
      List.pairwise_replicate.mpr (.inr (le_refl d)), fun x hx y hy => ?_⟩
    rw [List.eq_of_mem_replicate hx, List.eq_of_mem_replicate hy]
    exact hcd
  have hentry : ∀ i < b, (List.replicate b c ++ List.replicate a d).getD i 0 = c := by
    intro i hi
    rw [List.getD_append _ _ _ _ (by simpa using hi), List.getD_replicate _ hi]
  have hfloor := (Nat.floor_le_ceil (q * (((a + b : ℕ) : K) - 1))).trans_lt hrank
  unfold quantile valueAtRank
  rw [hsorted, List.length_append, List.length_replicate, List.length_replicate]
  dsimp only
  rw [hentry _ hrank, hentry _ hfloor]
  ring

end Quantile

end LookAway.Base
