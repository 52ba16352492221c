/-
  Tensors of the weighting block and the helpers of verl/workers/actor/lookaway_utils.py,
  in exact real arithmetic.

  A `(bsz, response_length)` tensor is a function on positions; masks are 0/1 tensors, so
  they are Boolean and their product is `&&`. The last axis of a top-k tensor is `Fin K`.
-/
import LookAway.Base.Select
import Mathlib.Analysis.SpecialFunctions.Log.Basic
import Mathlib.Analysis.SpecialFunctions.Sqrt

namespace LookAway.Weights

open LookAway.Base

/-! ## Numerals

The numerals of the block as instances of their own, so that a real constant is the same term
wherever it is written. -/

instance two_atLeastTwo : Nat.AtLeastTwo 2 := ⟨le_rfl⟩
instance three_atLeastTwo : Nat.AtLeastTwo 3 := ⟨by omega⟩
instance four_atLeastTwo : Nat.AtLeastTwo 4 := ⟨by omega⟩
instance nine_atLeastTwo : Nat.AtLeastTwo 9 := ⟨by omega⟩
instance ten_atLeastTwo : Nat.AtLeastTwo 10 := ⟨by omega⟩
instance twenty_atLeastTwo : Nat.AtLeastTwo 20 := ⟨by omega⟩
instance fifty_atLeastTwo : Nat.AtLeastTwo 50 := ⟨by omega⟩

/-! ## Shapes -/

/-- A position of a `(bsz, response_length)` tensor. -/
abbrev Pos (B T : ℕ) := Fin B × Fin T

abbrev Tensor (B T : ℕ) := Pos B T → ℝ

abbrev Mask (B T : ℕ) := Pos B T → Bool

/-- A `(bsz, response_length, k)` tensor of log-probabilities. -/
abbrev TopK (B T K : ℕ) := Pos B T → Fin K → ℝ

/-- All positions, row by row. -/
def positions (B T : ℕ) : List (Pos B T) := List.finRange B ×ˢ List.finRange T

theorem mem_positions {B T : ℕ} (p : Pos B T) : p ∈ positions B T :=
  List.mem_product.mpr ⟨List.mem_finRange _, List.mem_finRange _⟩

/-- `mask.sum()`. -/
def count {B T : ℕ} (mask : Mask B T) : ℕ := ((positions B T).filter mask).length

/-- `x[mask].sum()`. -/
noncomputable def total {B T : ℕ} (mask : Mask B T) (x : Tensor B T) : ℝ :=
  sumOn (positions B T) mask x

/-- `x[mask].quantile(q)`. -/
noncomputable def maskedQuantile {B T : ℕ} (mask : Mask B T) (x : Tensor B T) (q : ℝ) : ℝ :=
  quantile (select (positions B T) mask x) q

/-- `mask.any()`. -/
def anyOn {B T : ℕ} (mask : Mask B T) : Bool := (positions B T).any mask

theorem maskedQuantile_congr {B T : ℕ} {mask : Mask B T} {x y : Tensor B T}
    (h : ∀ p, mask p = true → x p = y p) (q : ℝ) :
    maskedQuantile mask x q = maskedQuantile mask y q := by
  unfold maskedQuantile
  rw [select_congr h]

theorem total_congr {B T : ℕ} {mask : Mask B T} {x y : Tensor B T}
    (h : ∀ p, mask p = true → x p = y p) : total mask x = total mask y :=
  sumOn_congr h

/-! ## Divergences -/

/-- `torch.logsumexp(x, dim=-1)`. -/
noncomputable def logsumexp {K : ℕ} (x : Fin K → ℝ) : ℝ := Real.log (∑ k, Real.exp (x k))

/-- `_add_tail_bucket`: append the log of the mass the top-k entries leave. -/
noncomputable def addTailBucket {K : ℕ} (logProbs : Fin K → ℝ) : Fin (K + 1) → ℝ :=
  let logS := min (logsumexp logProbs) (-1 / 10 ^ 7)
  Fin.snoc logProbs (Real.log (-(Real.exp logS - 1)))

/-- `x - logsumexp(x)`. -/
noncomputable def renormTopk {K : ℕ} (logProbs : Fin K → ℝ) : Fin K → ℝ :=
  fun k => logProbs k - logsumexp logProbs

/-- `F.kl_div(input, target, log_target=True).sum(-1)`. -/
noncomputable def klDiv {K : ℕ} (input target : Fin K → ℝ) : ℝ :=
  ∑ k, Real.exp (target k) * (target k - input k)

/-- `torch.lerp(start, end, weight)`. -/
noncomputable def lerp (start stop weight : ℝ) : ℝ := start + weight * (stop - start)

/-- `token_distillation_divergence` at one token. -/
noncomputable def tokenDistillationDivergence {K : ℕ} (student teacher : Fin K → ℝ) (alpha : ℝ) :
    ℝ :=
  if alpha = 0 then klDiv student teacher
  else if alpha = 1 then klDiv teacher student
  else
    let mixture := fun k =>
      Real.log (Real.exp (student k + Real.log (1 - alpha)) + Real.exp (teacher k + Real.log alpha))
    lerp (klDiv mixture student) (klDiv mixture teacher) alpha

/-! ## Normalization -/

/-- `normalize_vd_weights` with the lower clamp of the sum as a parameter. -/
noncomputable def normalizeWith {B T : ℕ} (clampMin : ℝ → ℝ) (rawWeights : Tensor B T)
    (validMask : Mask B T) : Tensor B T :=
  let validCount : ℝ := count validMask
  let validSum := clampMin (total validMask rawWeights)
  fun p => if validMask p then rawWeights p * (validCount / validSum) else 1

/-- `normalize_vd_weights`: the sum is clamped from below at 1. -/
noncomputable def normalizeVdWeights {B T : ℕ} (rawWeights : Tensor B T) (validMask : Mask B T) :
    Tensor B T :=
  normalizeWith (fun s => max s 1) rawWeights validMask

/-- The same normalization without the clamp. -/
noncomputable def normalizeUnclamped {B T : ℕ} (rawWeights : Tensor B T) (validMask : Mask B T) :
    Tensor B T :=
  normalizeWith id rawWeights validMask

/-! ## Frequency decay -/

/-- `values[i]` of Python: a negative index counts from the end. -/
def pyIndex {α : Type} (values : List α) (i : ℤ) : Option α :=
  if 0 ≤ i then values[i.toNat]?
  else if -(values.length : ℤ) ≤ i then values[(values.length + i).toNat]?
  else none

/-- `values[ids]`; `none` is the `IndexError`. -/
def gather {α : Type} {B T : ℕ} (values : List α) (ids : Pos B T → ℤ) : Option (Pos B T → α) :=
  if h : ∀ p, (pyIndex values (ids p)).isSome then
    some fun p => (pyIndex values (ids p)).get (h p)
  else none

/-- What `redistribute_by_freq` returns. -/
structure Redistributed (B T : ℕ) where
  extNew : Tensor B T
  budgetRatio : ℝ
  nFreq : Tensor B T

/-- The attenuation `a_t = 1 / sqrt(n_t + kappa)`. -/
noncomputable def attenuation (kappa n : ℝ) : ℝ := 1 / √(n + kappa)

/-- `redistribute_by_freq` on gathered counts. -/
noncomputable def redistribute {B T : ℕ} (ext nFreq : Tensor B T) (validMask : Mask B T)
    (kappa : ℝ) : Redistributed B T :=
  let eW : Tensor B T := fun p => ext p * attenuation kappa (nFreq p)
  let eTotal := total validMask ext
  if eTotal ≤ 0 then ⟨fun _ => 0, 1, nFreq⟩
  else
    let eWeighted := total validMask eW
    let extNew : Tensor B T := fun p => eW p * (eTotal / eWeighted)
    ⟨extNew, total validMask extNew / eTotal, nFreq⟩

/-- The default `kappa` of `redistribute_by_freq`. -/
def defaultKappa : ℝ := 50

/-- `redistribute_by_freq`; `none` is the `IndexError` of the gather. -/
noncomputable def redistributeByFreq {B T : ℕ} (ext : Tensor B T) (freqCounts : List ℝ)
    (responseIds : Pos B T → ℤ) (validMask : Mask B T) : Option (Redistributed B T) := do
  let nFreq ← gather freqCounts responseIds
  return redistribute ext nFreq validMask defaultKappa

end LookAway.Weights
