/-
  `update_policy` (verl/workers/actor/dp_actor.py) on the ranks of a data-parallel group, with
  `_optimizer_step` and `_update_teacher`.

  The parameters are a real normed space and the gradient is the derivative; the reduction takes the
  mean over the ranks. Parameters: the optimizer with its clipping, and whether a norm is finite.
  Left out: the loss scaler of float16, buffers, the metrics and the dump of log-probs.

  `updatePolicy_layout`: with a mean over sequences, ranks, balancing and micro-batches do not show.
-/
import LookAway.Base.MovingAverage
import LookAway.Teacher.Requirements
import LookAway.Training.LogProbs
import LookAway.Training.PolicyLoss
import Mathlib

namespace LookAway.Training

open LookAway.Base LookAway.Base.MovingAverage LookAway.Weights
open LookAway.Base.Packing hiding gather count

variable {P X σ : Type} {V T K : ℕ} [NormedAddCommGroup P] [NormedSpace ℝ P]

/-! ## The source -/

/-- `clip_grad_norm_` and the optimizer. -/
structure Optimizer (P σ : Type) [NormedAddCommGroup P] [NormedSpace ℝ P] where
  isFinite : (P →L[ℝ] ℝ) → Bool
  step : σ → P → (P →L[ℝ] ℝ) → σ × P

structure ActorState (P σ : Type) where
  params : P
  optimizer : σ
  teacher : TeacherModule P

/-- `_optimizer_step`, and whether there was one. -/
def optimizerStep (opt : Optimizer P σ) (s : ActorState P σ) (grad : P →L[ℝ] ℝ) :
    ActorState P σ × Bool :=
  if opt.isFinite grad then
    ({ s with
      optimizer := (opt.step s.optimizer s.params grad).1
      params := (opt.step s.optimizer s.params grad).2 }, true)
  else (s, false)

/-- The data of a call: a list of rows for each rank, and the width of the tensors. -/
structure UpdateData (V T : ℕ) (X : Type) where
  temperature : ℝ
  globalSteps : Option ℤ
  keys : UpdateKeys
  width : ℕ
  ranks : List (List (UpdateRow V T X))

/-- The micro-batches of a rank; `minis` are the mini-batches of all ranks. -/
def rankMicroBatches (cfg : ActorConfig) (width : ℕ) (minis : List (List (UpdateRow V T X)))
    (mini : List (UpdateRow V T X)) : Except TrainingError (List (List (UpdateRow V T X))) :=
  if cfg.useDynamicBsz then do
    let args : MicroBatchArgs := ⟨cfg.maxTokenLen, none, none, true⟩
    let (microBatches, _) ← prepareDynamicBatch args (reduced args (minis.map (·.map (·.seqLen))))
      width (·.seqLen) mini
    return microBatches
  else do
    raiseIf (cfg.ppoMicroBatchSizePerGpu = 0) .zeroDivisionError
    raiseIf (cfg.ppoMiniBatchSize / cfg.ppoMicroBatchSizePerGpu = 0) .zeroDivisionError
    return split cfg.ppoMicroBatchSizePerGpu mini

/-- `loss_scale_factor` for a micro-batch of `n` rows. -/
noncomputable def lossScaleFactor (cfg : ActorConfig) (n : ℕ) : ℝ :=
  if cfg.useDynamicBsz then n / cfg.ppoMiniBatchSize
  else 1 / (cfg.ppoMiniBatchSize / cfg.ppoMicroBatchSizePerGpu : ℕ)

/-- The value of a loss. Whether there is one does not depend on the parameters. -/
def lossValue {ε : Type} : Except ε ℝ → ℝ
  | .ok loss => loss
  | .error _ => 0

section Update

variable (A : Actor P X V T K) (scope : UpdateScope)

/-- `loss.backward()` of a micro-batch. -/
noncomputable def microGradient (teacher : TeacherModule P) (θ : P)
    (rows : List (UpdateRow V T X)) : Except ActorError (P →L[ℝ] ℝ) := do
  let _ ← policyLoss A scope teacher θ θ rows
  return fderiv ℝ (fun θ' =>
    lossValue (policyLoss A scope teacher θ θ' rows) * lossScaleFactor A.cfg rows.length) θ

/-- The gradient of an optimizer step, the mean of what the ranks accumulate. -/
noncomputable def stepGradient (width : ℕ) (teacher : TeacherModule P) (θ : P)
    (minis : List (List (UpdateRow V T X))) : Except ActorError (P →L[ℝ] ℝ) := do
  let micro ← minis.mapM fun mini => (rankMicroBatches A.cfg width minis mini).mapError .training
  -- the reductions of a backward pass wait for all ranks
  (raiseIf (∃ a ∈ micro, ∃ b ∈ micro, a.length ≠ b.length) .runtimeError).mapError .training
  let grads ← micro.mapM fun microBatches => do
    let grads ← microBatches.mapM (microGradient A scope teacher θ)
    return grads.sum
  return (1 / (minis.length : ℝ)) • grads.sum

variable (opt : Optimizer P σ)

/-- A mini-batch of every rank: its gradient, and a step. -/
noncomputable def miniBatchStep (width : ℕ) (s : ActorState P σ × Bool)
    (minis : List (List (UpdateRow V T X))) : Except ActorError (ActorState P σ × Bool) := do
  let grad ← stepGradient A scope width s.1.teacher s.1.params minis
  let next := optimizerStep opt s.1 grad
  return (next.1, s.2 || next.2)

/-- The mini-batches, one of each rank at a time. -/
def miniBatches (size : ℕ) (ranks : List (List (UpdateRow V T X))) :
    List (List (List (UpdateRow V T X))) :=
  (List.range (ceildiv (ranks.headD []).length size)).map fun k =>
    ranks.map fun rank => (split size rank).getD k []

/-- What `update_policy` knows of a call. -/
def updateScope (cfg : ActorConfig) (data : UpdateData V T X) : UpdateScope where
  keys := data.keys
  temperature := data.temperature
  onPolicy := (miniBatches cfg.ppoMiniBatchSize data.ranks).length = 1 ∧ cfg.ppoEpochs = 1

/-- The epochs of a call. -/
noncomputable def updateSteps (data : UpdateData V T X) (s : ActorState P σ) :
    Except ActorError (ActorState P σ × Bool) :=
  (List.replicate A.cfg.ppoEpochs (miniBatches A.cfg.ppoMiniBatchSize data.ranks)).flatten.foldlM
    (miniBatchStep A (updateScope A.cfg data) opt data.width) (s, false)

/-- The parameters of a separate teacher after an update. -/
noncomputable def movedTeacher (cfg : SelfDistillationConfig) (globalSteps : Option ℤ)
    (student teacher : P) : Except ActorError P :=
  if cfg.teacherRegularization = "ema" then
    if cfg.teacherUpdateRate = 0 then .ok teacher
    else .ok (ema (cfg.teacherUpdateRate : ℝ) teacher student)
  else if cfg.teacherRegularization = "progressive" then
    match cfg.teacherUpdateInterval with
    | none => .error (.training (.valueError
        "Progressive teacher requires self_distillation.teacher_update_interval."))
    | some interval =>
        match globalSteps with
        | none => .ok teacher
        | some steps =>
            if interval = 0 then .error (.training .zeroDivisionError)
            else .ok (if interval ∣ steps then student else teacher)
  else .ok teacher

/-- `_update_teacher`. The parameters of `TrustRegionTeacher` start with those of its reference. -/
noncomputable def updateTeacher (cfg : ActorConfig) (globalSteps : Option ℤ)
    (s : ActorState P σ) : Except ActorError (ActorState P σ) :=
  if cfg.lossMode ≠ .vopd ∨ cfg.distillation.teacherModelSource ≠ "legacy" then .ok s
  else
    match s.teacher with
    | .current => .error (.training (.valueError
        "Teacher updates require a separate teacher_module in the actor worker."))
    | .separate params => do
        let params ← movedTeacher cfg.distillation globalSteps s.params params
        return { s with teacher := .separate params }
    | .trustRegion refParams mixCoef => do
        let refParams ← movedTeacher cfg.distillation globalSteps s.params refParams
        return { s with teacher := .trustRegion refParams mixCoef }

/-- `update_policy`. -/
noncomputable def updatePolicy (data : UpdateData V T X) (s : ActorState P σ) :
    Except ActorError (ActorState P σ) := do
  let (s, didUpdate) ← updateSteps A opt data s
  if didUpdate then updateTeacher A.cfg data.globalSteps s else return s

end Update

/-! ## One step -/

section Step

variable {A : Actor P X V T K} {scope : UpdateScope} {teacher : TeacherModule P} {θ : P}
  {width n : ℕ} {rows mini : List (UpdateRow V T X)} {minis : List (List (UpdateRow V T X))}

/-- The gradient of the loss of a row. -/
noncomputable def rowGradient (A : Actor P X V T K) (scope : UpdateScope)
    (teacher : TeacherModule P) (θ : P) (row : UpdateRow V T X) : P →L[ℝ] ℝ :=
  fderiv ℝ (fun θ' => rowLoss A scope teacher θ θ' row) θ

/-- The loss of a row has a gradient at `θ`, the parameters that are held. -/
def SmoothRow (A : Actor P X V T K) (scope : UpdateScope) (teacher : TeacherModule P) (θ : P)
    (row : UpdateRow V T X) : Prop :=
  DifferentiableAt ℝ (fun θ' => rowLoss A scope teacher θ θ' row) θ

/-- How the rows of a step lie on the ranks, `n` on each, and what the micro-batches need. -/
structure Layout (cfg : ActorConfig) (width n : ℕ) (ranks : List (List (UpdateRow V T X))) :
    Prop where
  length : ∀ rank ∈ ranks, rank.length = n
  mini : 0 < cfg.ppoMiniBatchSize
  budget : cfg.useDynamicBsz = true → 0 < cfg.maxTokenLen ∧ width ≤ cfg.maxTokenLen
  tokens : cfg.useDynamicBsz = true → ∀ rank ∈ ranks, ∀ row ∈ rank, 0 < row.seqLen
  micro : cfg.useDynamicBsz = false → 0 < cfg.ppoMicroBatchSizePerGpu ∧
    cfg.ppoMicroBatchSizePerGpu ∣ cfg.ppoMiniBatchSize ∧ cfg.ppoMicroBatchSizePerGpu ∣ n

theorem hasFDerivAt_sum {α : Type} {f : P → α → ℝ} {xs : List α}
    (h : ∀ x ∈ xs, DifferentiableAt ℝ (f · x) θ) :
    HasFDerivAt (fun θ' => (xs.map (f θ')).sum) (xs.map fun x => fderiv ℝ (f · x) θ).sum θ := by
  induction xs with
  | nil => exact hasFDerivAt_const 0 θ
  | cons x xs ih =>
      simp only [List.map_cons, List.sum_cons]
      exact (h x (by simp)).hasFDerivAt.add (ih fun y hy => h y (List.mem_cons_of_mem x hy))

/-- What a micro-batch adds to the gradient. -/
theorem microGradient_rows (h : RowWise A scope teacher) (hrows : ∀ row ∈ rows, Trains A row)
    (hsmooth : ∀ row ∈ rows, SmoothRow A scope teacher θ row) :
    microGradient A scope teacher θ rows =
      .ok ((lossScaleFactor A.cfg rows.length / rows.length) •
        (rows.map (rowGradient A scope teacher θ)).sum) := by
  have hloss : (fun θ' => lossValue (policyLoss A scope teacher θ θ' rows) *
        lossScaleFactor A.cfg rows.length) = fun θ' =>
      (lossScaleFactor A.cfg rows.length / rows.length) •
        (rows.map (rowLoss A scope teacher θ θ')).sum := by
    funext θ'
    rw [policyLoss_rows h hrows, lossValue, smul_eq_mul]
    ring
  unfold microGradient
  rw [policyLoss_rows h hrows]
  refine congrArg Except.ok ?_
  rw [hloss]
  exact ((hasFDerivAt_sum hsmooth).const_smul
    (lossScaleFactor A.cfg rows.length / rows.length)).fderiv

/-- `num` micro-batches, in which every row weighs alike. -/
def Even (cfg : ActorConfig) (num : ℕ) (microBatches : List (List (UpdateRow V T X))) : Prop :=
  microBatches.length = num ∧ ∀ rows ∈ microBatches,
    lossScaleFactor cfg rows.length / rows.length = 1 / (cfg.ppoMiniBatchSize : ℝ)

/-- As many tokens as fit. -/
theorem rankMicroBatches_dynamic {cfg : ActorConfig} (h : Layout cfg width n minis) (hn : 0 < n)
    (hdynamic : cfg.useDynamicBsz = true) :
    ∃ num, ∀ mini ∈ minis, ∃ microBatches,
      rankMicroBatches cfg width minis mini = .ok microBatches ∧
        Even cfg num microBatches ∧ microBatches.flatten.Perm mini := by
  let args : MicroBatchArgs := ⟨cfg.maxTokenLen, none, none, true⟩
  let allReduce := reduced args (minis.map (·.map (·.seqLen)))
  obtain ⟨hmax, hwidth⟩ := h.budget hdynamic
  refine ⟨numMicroBatches args allReduce [], fun mini hmini => ?_⟩
  have hlength := h.length mini hmini
  have hseqLens : ∀ rank ∈ minis.map (·.map (·.seqLen)), rank.length = n := by
    intro rank hrank
    obtain ⟨mini', hmini', rfl⟩ := List.mem_map.mp hrank
    rw [List.length_map, h.length mini' hmini']
  have htokens : ∃ rank ∈ minis.map (·.map (·.seqLen)), 0 < rank.sum := by
    refine ⟨_, List.mem_map_of_mem hmini, ?_⟩
    obtain ⟨row, rest, rfl⟩ : ∃ row rest, mini = row :: rest :=
      List.exists_cons_of_length_pos (by omega)
    have hrow := h.tokens hdynamic _ hmini row (by simp)
    rw [List.map_cons, List.sum_cons]
    omega
  have hnum : 0 < numMicroBatches args allReduce [] ∧ numMicroBatches args allReduce [] ≤ n :=
    numMicroBatches_plain hseqLens hmax rfl rfl htokens
  obtain ⟨-, parts, hparts, -⟩ :=
    @rearrange_of_num args allReduce width (mini.map (·.seqLen)) hwidth
      (by simp only [args]; omega) nofun hnum.1 (by rw [List.length_map, hlength]; exact hnum.2)
  have hpartition := rearrange_isPartition hparts
  have hprepare : prepareDynamicBatch args allReduce width (·.seqLen) mini =
      .ok (parts.map (Packing.gather mini), parts) := by
    unfold prepareDynamicBatch
    rw [hparts]
    rfl
  have hperm : parts.flatten.Perm (List.range mini.length) := prepare_perm hprepare
  refine ⟨parts.map (Packing.gather mini), ?_, ⟨?_, ?_⟩, ?_⟩
  · unfold rankMicroBatches
    rw [if_pos hdynamic]
    dsimp only
    rw [hprepare]
    rfl
  · rw [List.length_map, hpartition.length]
    rfl
  · intro rows hrows
    obtain ⟨part, hpart, rfl⟩ := List.mem_map.mp hrows
    have hbound : ∀ i ∈ part, i < mini.length :=
      fun i hi => lt_of_perm_range hperm i (List.mem_flatten_of_mem hpart hi)
    have hne : ((Packing.gather mini part).length : ℝ) ≠ 0 := by
      rw [length_gather hbound]
      exact_mod_cast (List.length_pos_iff.mpr (hpartition.ne_nil part hpart)).ne'
    unfold lossScaleFactor
    rw [if_pos hdynamic, div_right_comm, div_self hne]
  · rw [← gather_flatten]
    exact gather_perm_range hperm

/-- Of one size. -/
theorem rankMicroBatches_fixed {cfg : ActorConfig} (h : Layout cfg width n minis)
    (hfixed : cfg.useDynamicBsz = false) :
    ∃ num, ∀ mini ∈ minis, ∃ microBatches,
      rankMicroBatches cfg width minis mini = .ok microBatches ∧
        Even cfg num microBatches ∧ microBatches.flatten.Perm mini := by
  obtain ⟨hmicro, hmini, hrank⟩ := h.micro hfixed
  refine ⟨ceildiv n cfg.ppoMicroBatchSizePerGpu, fun mini hmem => ?_⟩
  have hlength := h.length mini hmem
  have hquot : 0 < cfg.ppoMiniBatchSize / cfg.ppoMicroBatchSizePerGpu :=
    Nat.div_pos (Nat.le_of_dvd h.mini hmini) hmicro
  refine ⟨split cfg.ppoMicroBatchSizePerGpu mini, ?_, ⟨?_, ?_⟩, ?_⟩
  · unfold rankMicroBatches
    rw [if_neg (by rw [hfixed]; exact Bool.false_ne_true), raiseIf_neg hmicro.ne',
      raiseIf_neg hquot.ne']
    rfl
  · unfold split
    rw [length_unflatten, hlength]
  · intro rows hrows
    have hrows : rows.length = cfg.ppoMicroBatchSizePerGpu := by
      refine length_of_mem_unflatten ?_ rows hrows
      obtain ⟨q, rfl⟩ := hrank
      have hceil : ceildiv (cfg.ppoMicroBatchSizePerGpu * q) cfg.ppoMicroBatchSizePerGpu = q := by
        unfold ceildiv
        rw [Nat.add_sub_assoc hmicro, Nat.mul_add_div hmicro,
          Nat.div_eq_of_lt (Nat.sub_lt hmicro Nat.one_pos), Nat.add_zero]
      rw [hlength, hceil, Nat.mul_comm]
    have hcast : ((cfg.ppoMiniBatchSize / cfg.ppoMicroBatchSizePerGpu : ℕ) : ℝ) *
        cfg.ppoMicroBatchSizePerGpu = cfg.ppoMiniBatchSize := by
      exact_mod_cast Nat.div_mul_cancel hmini
    unfold lossScaleFactor
    rw [if_neg (by rw [hfixed]; exact Bool.false_ne_true), hrows, div_div, hcast]
  · rw [flatten_split hmicro]

theorem rankMicroBatches_ok {cfg : ActorConfig} (h : Layout cfg width n minis) (hn : 0 < n) :
    ∃ num, ∀ mini ∈ minis, ∃ microBatches,
      rankMicroBatches cfg width minis mini = .ok microBatches ∧
        Even cfg num microBatches ∧ microBatches.flatten.Perm mini := by
  cases hdynamic : cfg.useDynamicBsz with
  | true => exact rankMicroBatches_dynamic h hn hdynamic
  | false => exact rankMicroBatches_fixed h hdynamic

theorem sum_smul_parts {ι E : Type*} [AddCommGroup E] [Module ℝ E] (c : ℝ) (f : ι → E)
    (parts : List (List ι)) :
    (parts.map fun part => c • (part.map f).sum).sum = c • (parts.flatten.map f).sum := by
  rw [List.map_flatten, List.sum_flatten, List.smul_sum, List.map_map, List.map_map]
  rfl

variable (scope teacher θ) in
/-- The micro-batches of a step hold the rows of all ranks, and their gradients add up. -/
theorem stepGradient_micro (hlayout : Layout A.cfg width n minis) (hn : 0 < n) :
    ∃ num, ∃ micro : List (List (List (UpdateRow V T X))),
      (∀ microBatches ∈ micro, Even A.cfg num microBatches) ∧
      micro.flatten.flatten.Perm minis.flatten ∧
      ∀ G : List (UpdateRow V T X) → P →L[ℝ] ℝ,
        (∀ rows ∈ micro.flatten, microGradient A scope teacher θ rows = .ok (G rows)) →
        stepGradient A scope width teacher θ minis =
          .ok ((1 / (minis.length : ℝ)) • (micro.flatten.map G).sum) := by
  obtain ⟨num, hok⟩ := rankMicroBatches_ok hlayout hn
  obtain ⟨micro, hmicro, hcovers⟩ := mapM_forall₂
    (f := fun mini => (rankMicroBatches A.cfg width minis mini).mapError ActorError.training)
    (g := id) (R := fun mini microBatches =>
      Even A.cfg num microBatches ∧ microBatches.flatten.Perm mini) minis (by
        intro mini hmini
        obtain ⟨microBatches, hbatches, hcover⟩ := hok mini hmini
        exact ⟨microBatches, by rw [hbatches]; rfl, hcover⟩)
  rw [List.map_id] at hmicro
  obtain ⟨heven, hperms⟩ := (List.forall₂_and_left micro minis).mp hcovers.flip
  have hagree : ¬ ∃ a ∈ micro, ∃ b ∈ micro, a.length ≠ b.length := by
    rintro ⟨a, ha, b, hb, hne⟩
    exact hne ((heven a ha).1.trans (heven b hb).1.symm)
  refine ⟨num, micro, heven, ?_, fun G hG => ?_⟩
  · rw [List.flatten_flatten]
    exact List.Perm.flatten_congr (List.forall₂_map_left_iff.mpr hperms)
  have hgrads : ∀ microBatches ∈ micro, (do
      let grads ← microBatches.mapM (microGradient A scope teacher θ)
      return grads.sum : Except ActorError (P →L[ℝ] ℝ)) = .ok (microBatches.map G).sum := by
    intro microBatches hmem
    rw [mapM_eq_map fun rows hrows => hG rows (List.mem_flatten_of_mem hmem hrows)]
    rfl
  have hsum := mapM_eq_map hgrads
  unfold stepGradient
  rw [hmicro]
  dsimp only [bind, Except.bind]
  rw [raiseIf_neg hagree]
  refine (congrArg (fun x : Except ActorError (List (P →L[ℝ] ℝ)) =>
    x >>= fun grads => Except.ok ((1 / (minis.length : ℝ)) • grads.sum)) hsum).trans ?_
  refine congrArg Except.ok ?_
  rw [List.map_flatten, List.sum_flatten, List.map_map]
  rfl

/-- The gradient of a step is that of the mean over the rows of all ranks. -/
theorem stepGradient_plain (h : RowWise A scope teacher) (hlayout : Layout A.cfg width n minis)
    (hn : 0 < n) (hrows : ∀ row ∈ minis.flatten, Trains A row)
    (hsmooth : ∀ row ∈ minis.flatten, SmoothRow A scope teacher θ row) :
    stepGradient A scope width teacher θ minis =
      .ok ((1 / ((minis.length * A.cfg.ppoMiniBatchSize : ℕ) : ℝ)) •
        (minis.flatten.map (rowGradient A scope teacher θ)).sum) := by
  obtain ⟨num, micro, heven, hperm, hstep⟩ := stepGradient_micro scope teacher θ hlayout hn
  have hmem : ∀ rows ∈ micro.flatten, ∀ row ∈ rows, row ∈ minis.flatten :=
    fun rows hrows row hrow => hperm.subset (List.mem_flatten_of_mem hrows hrow)
  have hmicro : ∀ rows ∈ micro.flatten, microGradient A scope teacher θ rows =
      .ok ((1 / (A.cfg.ppoMiniBatchSize : ℝ)) •
        (rows.map (rowGradient A scope teacher θ)).sum) := by
    intro rows hrows'
    obtain ⟨microBatches, hbatches, hin⟩ := List.mem_flatten.mp hrows'
    rw [microGradient_rows h (fun row hrow => hrows row (hmem rows hrows' row hrow))
      (fun row hrow => hsmooth row (hmem rows hrows' row hrow)), (heven _ hbatches).2 rows hin]
  rw [hstep _ hmicro, sum_smul_parts, (hperm.map (rowGradient A scope teacher θ)).sum_eq, smul_smul,
    one_div_mul_one_div, Nat.cast_mul]

end Step

/-! ## A call -/

section Run

variable {A : Actor P X V T K} {scope : UpdateScope} {opt : Optimizer P σ} {width n : ℕ}
  {ranks minis : List (List (UpdateRow V T X))}

theorem mul_lt_of_lt_ceildiv {k a b : ℕ} (hb : 0 < b) (hk : k < ceildiv a b) : k * b < a := by
  have hle : (k + 1) * b ≤ a + b - 1 := (Nat.le_div_iff_mul_le hb).mp hk
  rw [Nat.succ_mul] at hle
  omega

theorem getD_split {ρ : Type} {size k : ℕ} {rank : List ρ} (hk : k < ceildiv rank.length size) :
    (split size rank).getD k [] = (rank.drop (k * size)).take size := by
  unfold split unflatten
  rw [List.getD_eq_getElem?_getD, List.getElem?_map, List.getElem?_range hk]
  rfl

/-- The mini-batches of the ranks lie as the rows do. -/
theorem Layout.miniBatch {cfg : ActorConfig} (h : Layout cfg width n ranks)
    (hminis : minis ∈ miniBatches cfg.ppoMiniBatchSize ranks) :
    minis.length = ranks.length ∧ ∃ m, 0 < m ∧ Layout cfg width m minis := by
  obtain ⟨k, hk, rfl⟩ := List.mem_map.mp hminis
  have hlt : ∀ rank ∈ ranks, k < ceildiv rank.length cfg.ppoMiniBatchSize := by
    intro rank hrank
    cases ranks with
    | nil => cases hrank
    | cons first rest =>
        have hfirst : k < ceildiv first.length cfg.ppoMiniBatchSize := List.mem_range.mp hk
        rwa [h.length rank hrank, ← h.length first (by simp)]
  have hmini : ∀ mini ∈ ranks.map fun rank => (split cfg.ppoMiniBatchSize rank).getD k [],
      ∃ rank ∈ ranks, mini = (rank.drop (k * cfg.ppoMiniBatchSize)).take cfg.ppoMiniBatchSize := by
    intro mini hmem
    obtain ⟨rank, hrank, rfl⟩ := List.mem_map.mp hmem
    exact ⟨rank, hrank, getD_split (hlt rank hrank)⟩
  refine ⟨List.length_map _, ?_⟩
  rcases ranks.eq_nil_or_concat' with rfl | ⟨init, last, rfl⟩
  · have hk := mul_lt_of_lt_ceildiv h.mini (List.mem_range.mp hk)
    simp at hk
  have hpos : k * cfg.ppoMiniBatchSize < n := by
    rw [← h.length last (by simp)]
    exact mul_lt_of_lt_ceildiv h.mini (hlt last (by simp))
  refine ⟨min cfg.ppoMiniBatchSize (n - k * cfg.ppoMiniBatchSize),
    Nat.lt_min.mpr ⟨h.mini, by omega⟩, ?_, h.mini, h.budget, ?_, ?_⟩
  · intro mini hmem
    obtain ⟨rank, hrank, rfl⟩ := hmini mini hmem
    rw [List.length_take, List.length_drop, h.length rank hrank]
  · intro hdynamic mini hmem row hrow
    obtain ⟨rank, hrank, rfl⟩ := hmini mini hmem
    exact h.tokens hdynamic rank hrank row (List.mem_of_mem_drop (List.mem_of_mem_take hrow))
  · intro hfixed
    obtain ⟨hmicro, hdvd, hn⟩ := h.micro hfixed
    refine ⟨hmicro, hdvd, ?_⟩
    have hrest : cfg.ppoMicroBatchSizePerGpu ∣ n - k * cfg.ppoMiniBatchSize :=
      Nat.dvd_sub hn (Dvd.dvd.mul_left hdvd k)
    rcases Nat.le_total cfg.ppoMiniBatchSize (n - k * cfg.ppoMiniBatchSize) with hle | hle
    · rwa [Nat.min_eq_left hle]
    · rwa [Nat.min_eq_right hle]

/-- The rows of a global mini-batch, in no order. -/
def globalMinis (size : ℕ) (ranks : List (List (UpdateRow V T X))) :
    List (Multiset (UpdateRow V T X)) :=
  (miniBatches size ranks).map fun minis => (minis.flatten : Multiset (UpdateRow V T X))

/-- A step on a global mini-batch, with the gradient of the mean over `size` rows. -/
noncomputable def plainStep (A : Actor P X V T K) (scope : UpdateScope) (opt : Optimizer P σ)
    (size : ℕ) (s : ActorState P σ × Bool) (rows : Multiset (UpdateRow V T X)) :
    ActorState P σ × Bool :=
  let next := optimizerStep opt s.1 ((1 / (size : ℝ)) •
    (rows.map (rowGradient A scope s.1.teacher s.1.params)).sum)
  (next.1, s.2 || next.2)

/-- The steps of a call on one device, without micro-batches. -/
noncomputable def plainSteps (A : Actor P X V T K) (scope : UpdateScope) (opt : Optimizer P σ)
    (size : ℕ) (minis : List (Multiset (UpdateRow V T X))) (s : ActorState P σ) :
    ActorState P σ × Bool :=
  (List.replicate A.cfg.ppoEpochs minis).flatten.foldl (plainStep A scope opt size) (s, false)

/-- A row that trains, with a gradient at `θ`. -/
structure Regular (A : Actor P X V T K) (scope : UpdateScope) (teacher : TeacherModule P) (θ : P)
    (row : UpdateRow V T X) : Prop where
  trains : Trains A row
  smooth : SmoothRow A scope teacher θ row

/-- Every step has rows that train, with a gradient at the parameters that the step starts from. -/
def RegularSteps (A : Actor P X V T K) (scope : UpdateScope) (opt : Optimizer P σ) (size : ℕ) :
    ActorState P σ × Bool → List (Multiset (UpdateRow V T X)) → Prop
  | _, [] => True
  | s, rows :: rest =>
      (∀ row ∈ rows, Regular A scope s.1.teacher s.1.params row) ∧
        RegularSteps A scope opt size (plainStep A scope opt size s rows) rest

@[simp] theorem optimizerStep_teacher (s : ActorState P σ) (grad : P →L[ℝ] ℝ) :
    (optimizerStep opt s grad).1.teacher = s.teacher := by
  unfold optimizerStep
  split <;> rfl

/-- The ranks do a step of one device. -/
theorem miniBatchStep_plain {teacher : TeacherModule P} (h : RowWise A scope teacher)
    (hlayout : Layout A.cfg width n ranks)
    (hminis : minis ∈ miniBatches A.cfg.ppoMiniBatchSize ranks)
    {s : ActorState P σ × Bool} (hs : s.1.teacher = teacher)
    (hrows : ∀ row ∈ minis.flatten, Regular A scope s.1.teacher s.1.params row) :
    miniBatchStep A scope opt width s minis =
      .ok (plainStep A scope opt (ranks.length * A.cfg.ppoMiniBatchSize) s minis.flatten) := by
  subst hs
  obtain ⟨hlength, m, hm, hmini⟩ := hlayout.miniBatch hminis
  have hgrad := stepGradient_plain h hmini hm (fun row hrow => (hrows row hrow).trains)
    (fun row hrow => (hrows row hrow).smooth)
  unfold miniBatchStep
  rw [hgrad, hlength]
  rfl

/-- And all the steps, on any of the mini-batches. -/
theorem foldlM_plain {teacher : TeacherModule P} (h : RowWise A scope teacher)
    (hlayout : Layout A.cfg width n ranks) {steps : List (List (List (UpdateRow V T X)))}
    (hsteps : ∀ minis ∈ steps, minis ∈ miniBatches A.cfg.ppoMiniBatchSize ranks)
    {s : ActorState P σ × Bool} (hs : s.1.teacher = teacher)
    (hrows : RegularSteps A scope opt (ranks.length * A.cfg.ppoMiniBatchSize) s
      (steps.map fun minis => (minis.flatten : Multiset (UpdateRow V T X)))) :
    steps.foldlM (miniBatchStep A scope opt width) s =
      .ok ((steps.map fun minis => (minis.flatten : Multiset (UpdateRow V T X))).foldl
        (plainStep A scope opt (ranks.length * A.cfg.ppoMiniBatchSize)) s) := by
  induction steps generalizing s with
  | nil => rfl
  | cons minis steps ih =>
      obtain ⟨hfirst, hrest⟩ := hrows
      have hstep : miniBatchStep A scope opt width s minis = .ok (plainStep A scope opt
          (ranks.length * A.cfg.ppoMiniBatchSize) s minis.flatten) :=
        miniBatchStep_plain h hlayout (hsteps minis (by simp)) hs hfirst
      have hteacher : (plainStep A scope opt (ranks.length * A.cfg.ppoMiniBatchSize) s
          minis.flatten).1.teacher = teacher := (optimizerStep_teacher _ _).trans hs
      rw [List.foldlM_cons, hstep, List.map_cons, List.foldl_cons]
      exact ih (fun minis hminis => hsteps minis (List.mem_cons_of_mem _ hminis)) hteacher hrest

/-- The ranks do the steps of one device. -/
theorem updateSteps_plain {data : UpdateData V T X} {s : ActorState P σ}
    (h : RowWise A (updateScope A.cfg data) s.teacher)
    (hlayout : Layout A.cfg data.width n data.ranks)
    (hrows : RegularSteps A (updateScope A.cfg data) opt
      (data.ranks.length * A.cfg.ppoMiniBatchSize) (s, false)
      (List.replicate A.cfg.ppoEpochs (globalMinis A.cfg.ppoMiniBatchSize data.ranks)).flatten) :
    updateSteps A opt data s = .ok (plainSteps A (updateScope A.cfg data) opt
      (data.ranks.length * A.cfg.ppoMiniBatchSize)
      (globalMinis A.cfg.ppoMiniBatchSize data.ranks) s) := by
  have hepochs : (List.replicate A.cfg.ppoEpochs
        (globalMinis A.cfg.ppoMiniBatchSize data.ranks)).flatten =
      (List.replicate A.cfg.ppoEpochs (miniBatches A.cfg.ppoMiniBatchSize data.ranks)).flatten.map
        fun minis => (minis.flatten : Multiset (UpdateRow V T X)) := by
    unfold globalMinis
    rw [List.map_flatten, List.map_replicate]
  have hsteps : ∀ minis ∈ (List.replicate A.cfg.ppoEpochs
      (miniBatches A.cfg.ppoMiniBatchSize data.ranks)).flatten,
      minis ∈ miniBatches A.cfg.ppoMiniBatchSize data.ranks := by
    intro minis hminis
    obtain ⟨_, hreplicate, hminis⟩ := List.mem_flatten.mp hminis
    obtain rfl := (List.mem_replicate.mp hreplicate).2
    exact hminis
  rw [hepochs] at hrows
  unfold updateSteps plainSteps
  rw [hepochs]
  exact foldlM_plain h hlayout hsteps rfl hrows

/-- How a rank cuts its rows. -/
structure Batching where
  ppoMiniBatchSize : ℕ
  useDynamicBsz : Bool
  maxTokenLen : ℕ
  ppoMicroBatchSizePerGpu : ℕ

def Actor.batched (A : Actor P X V T K) (b : Batching) : Actor P X V T K :=
  { A with
    cfg := { A.cfg with
      ppoMiniBatchSize := b.ppoMiniBatchSize
      useDynamicBsz := b.useDynamicBsz
      maxTokenLen := b.maxTokenLen
      ppoMicroBatchSizePerGpu := b.ppoMicroBatchSizePerGpu } }

omit [NormedAddCommGroup P] [NormedSpace ℝ P] in
theorem RowWise.batched {teacher : TeacherModule P} (h : RowWise A scope teacher) (b : Batching) :
    RowWise (A.batched b) scope teacher :=
  ⟨h.mode, h.scale, h.distills, h.gamma, h.trustRegion, h.advantages, h.clipRatioC, h.kl⟩

theorem Regular.batched {teacher : TeacherModule P} {θ : P} {row : UpdateRow V T X}
    (h : Regular A scope teacher θ row) (b : Batching) :
    Regular (A.batched b) scope teacher θ row :=
  ⟨⟨h.trains.response, h.trains.teacher⟩, h.smooth⟩

theorem RegularSteps.batched {size : ℕ} {s : ActorState P σ × Bool}
    {steps : List (Multiset (UpdateRow V T X))} (h : RegularSteps A scope opt size s steps)
    (b : Batching) : RegularSteps (A.batched b) scope opt size s steps := by
  induction steps generalizing s with
  | nil => trivial
  | cons rows steps ih => exact ⟨fun row hrow => (h.1 row hrow).batched b, ih h.2⟩

/-- With a mean over sequences and equal weights, a call does not depend on how many ranks there
    are, which rows each has in which order, and how it cuts them, as long as the global
    mini-batches are the same. The gradients are asked for where the steps are. -/
theorem updatePolicy_layout (A : Actor P X V T K) (b b' : Batching) (opt : Optimizer P σ)
    (data : UpdateData V T X) {width' m : ℕ} {ranks' : List (List (UpdateRow V T X))}
    {s : ActorState P σ}
    (h : RowWise A (updateScope (A.batched b).cfg data) s.teacher)
    (hlayout : Layout (A.batched b).cfg data.width n data.ranks)
    (hlayout' : Layout (A.batched b').cfg width' m ranks')
    (hsize : ranks'.length * b'.ppoMiniBatchSize = data.ranks.length * b.ppoMiniBatchSize)
    (hminis : globalMinis b'.ppoMiniBatchSize ranks' = globalMinis b.ppoMiniBatchSize data.ranks)
    (hrows : RegularSteps A (updateScope (A.batched b).cfg data) opt
      (data.ranks.length * b.ppoMiniBatchSize) (s, false)
      (List.replicate A.cfg.ppoEpochs (globalMinis b.ppoMiniBatchSize data.ranks)).flatten) :
    (∃ t, updateSteps (A.batched b) opt data s = .ok t) ∧
      updatePolicy (A.batched b') opt { data with width := width', ranks := ranks' } s =
        updatePolicy (A.batched b) opt data s := by
  have hscope : updateScope (A.batched b').cfg { data with width := width', ranks := ranks' } =
      updateScope (A.batched b).cfg data := by
    have hlength := congrArg List.length hminis
    unfold globalMinis at hlength
    rw [List.length_map, List.length_map] at hlength
    exact congrArg (fun steps => (⟨data.keys, data.temperature,
      decide (steps = 1 ∧ A.cfg.ppoEpochs = 1)⟩ : UpdateScope)) hlength
  have hplain : updateSteps (A.batched b) opt data s = .ok (plainSteps A
      (updateScope (A.batched b).cfg data) opt (data.ranks.length * b.ppoMiniBatchSize)
      (globalMinis b.ppoMiniBatchSize data.ranks) s) :=
    updateSteps_plain (h.batched b) hlayout (hrows.batched b)
  have hplain' : updateSteps (A.batched b') opt { data with width := width', ranks := ranks' } s =
      .ok (plainSteps A (updateScope (A.batched b).cfg data) opt
        (data.ranks.length * b.ppoMiniBatchSize)
        (globalMinis b.ppoMiniBatchSize data.ranks) s) := by
    rw [← hscope] at h hrows ⊢
    rw [← hminis] at hrows ⊢
    rw [← hsize] at hrows ⊢
    exact updateSteps_plain (h.batched b') hlayout' (hrows.batched b')
  refine ⟨⟨_, hplain⟩, ?_⟩
  unfold updatePolicy
  rw [hplain, hplain']
  rfl

/-- The loss of a token of a smooth model, with the reverse divergence. -/
theorem differentiable_tokenLoss {teacher : TeacherModule P} {θ : P}
    (hlogits : ∀ x t v, Differentiable ℝ fun θ => A.net.logits θ x t v)
    (hfull : A.cfg.distillation.fullLogitDistillation = false) (row : UpdateRow V T X) (t : Fin T) :
    Differentiable ℝ fun θ' => tokenLoss A scope teacher θ θ' row t := by
  have hlogit : ∀ v, Differentiable ℝ
      fun θ' => A.net.logits θ' row.view t v / scope.temperature := by
    intro v
    simpa only [div_eq_mul_inv] using (hlogits row.view t v).mul_const scope.temperature⁻¹
  have hsum : Differentiable ℝ fun θ' =>
      ∑ v, Real.exp (A.net.logits θ' row.view t v / scope.temperature) :=
    Differentiable.fun_sum fun v _ => (hlogit v).exp
  have hpos : ∀ θ', ∑ v, Real.exp (A.net.logits θ' row.view t v / scope.temperature) ≠ 0 :=
    fun θ' => (Finset.sum_pos (fun v _ => Real.exp_pos _) ⟨row.responses t, Finset.mem_univ _⟩).ne'
  have hlogProb : Differentiable ℝ fun θ' => (studentLogps A scope θ θ' row).logProb t :=
    (hlogit (row.responses t)).sub (hsum.log hpos)
  unfold tokenLoss tokenRaw
  simp only [hfull, Bool.false_eq_true, if_false]
  exact ((hlogProb.const_mul _).mul_const _).mul_const _

/-- A smooth model has a gradient for every row, with the reverse divergence and no other terms. -/
theorem smoothRow_reverse {teacher : TeacherModule P}
    (hlogits : ∀ x t v, Differentiable ℝ fun θ => A.net.logits θ x t v)
    (hmode : A.cfg.lossMode = .vopd) (hfull : A.cfg.distillation.fullLogitDistillation = false)
    (hentropy : A.cfg.entropyCoeff = 0) (hkl : A.cfg.useKlLoss = false) (θ : P)
    (row : UpdateRow V T X) : SmoothRow A scope teacher θ row := by
  have htoken : ∀ t, Differentiable ℝ fun θ' =>
      tokenLoss A scope teacher θ θ' row t * maskValue (row.responseMask t) :=
    fun t => (differentiable_tokenLoss hlogits hfull row t).mul_const _
  have hrow : (fun θ' => rowLoss A scope teacher θ θ' row) = fun θ' =>
      seqAgg A.cfg.lossAggMode (tokenLoss A scope teacher θ θ' row) row.responseMask := by
    funext θ'
    unfold rowLoss rowPg rowEntropy rowKl
    rw [hmode, if_neg (not_not.mpr hentropy), if_neg (by rw [hkl]; exact Bool.false_ne_true),
      sub_zero, add_zero]
  unfold SmoothRow
  rw [hrow]
  unfold seqAgg
  split
  · exact (Differentiable.fun_sum fun t _ => htoken t) θ
  · simp only [div_eq_mul_inv]
    exact ((Differentiable.fun_sum fun t _ => htoken t).mul_const _) θ

/-- A model of one parameter: the slope of its logits. -/
noncomputable def lineNet : Network ℝ Unit 2 1 1 where
  logits := fun θ _ _ v => θ * (v : ℕ)
  topk := fun _ _ => Fin.last 1

noncomputable def lineActor (distillation : SelfDistillationConfig) (lossAggMode : String) :
    Actor ℝ Unit 2 1 1 where
  cfg := {
    lossMode := .vopd
    distillation := distillation
    lossAggMode := lossAggMode
    globalBatchInfo := plainScale
    clipRatio := 2 / 10
    clipRatioLow := none
    clipRatioHigh := none
    clipRatioC := 3
    entropyCoeff := 0
    useKlLoss := false
    klLossType := "low_var_kl"
    klLossCoef := 1 / 10 ^ 3
    useRolloutLogProbs := false
    ppoEpochs := 1
    ppoMiniBatchSize := 2
    useDynamicBsz := true
    maxTokenLen := 8
    ppoMicroBatchSizePerGpu := 1 }
  files := sampleFiles
  net := lineNet

noncomputable def lineRow (seqLen : ℕ) : UpdateRow 2 1 Unit where
  view := ()
  teacherView := ()
  teacherNegView := ()
  seqLen := seqLen
  responses := fun _ => Fin.last 1
  responseMask := fun _ => true
  selfDistillationMask := true
  vdNegViewMask := true
  oldLogProbs := fun _ => 0
  refLogProb := fun _ => 0
  advantages := fun _ => 0
  rolloutIsWeights := fun _ => 1

noncomputable def lineData : UpdateData 2 1 Unit where
  temperature := 1
  globalSteps := none
  keys := ⟨true, false, false⟩
  width := 4
  ranks := [[lineRow 1, lineRow 2], [lineRow 3, lineRow 4]]

theorem mem_lineData {row : UpdateRow 2 1 Unit} (h : row ∈ lineData.ranks.flatten) :
    ∃ seqLen, row = lineRow seqLen := by
  have hmem : row ∈ [lineRow 1, lineRow 2, lineRow 3, lineRow 4] := h
  simp only [List.mem_cons, List.not_mem_nil, or_false] at hmem
  rcases hmem with h | h | h | h <;> exact ⟨_, h⟩

/-- Gradient descent. -/
noncomputable def descent : Optimizer ℝ Unit where
  isFinite := fun _ => true
  step := fun _ θ grad => ((), θ - grad 1)

noncomputable def lineState : ActorState ℝ Unit := ⟨1, (), .separate 0⟩

def reverseConfig : SelfDistillationConfig := { fullLogitDistillation := false, alpha := 1 }

theorem lineTrains {distillation : SelfDistillationConfig} {lossAggMode : String}
    {row : UpdateRow 2 1 Unit} (h : row ∈ lineData.ranks.flatten) :
    Trains (lineActor distillation lossAggMode) row := by
  obtain ⟨seqLen, rfl⟩ := mem_lineData h
  exact ⟨⟨0, rfl⟩, fun _ => rfl⟩

theorem lineLayout (distillation : SelfDistillationConfig) (lossAggMode : String) :
    Layout (lineActor distillation lossAggMode).cfg 4 2 lineData.ranks where
  length := by simp [lineData]
  mini := Nat.two_pos
  budget := fun _ => ⟨show 0 < 8 by decide, show 4 ≤ 8 by decide⟩
  tokens := fun _ => by simp [lineData, lineRow]
  micro := nofun

theorem lineNet_differentiable (x : Unit) (t : Fin 1) (v : Fin 2) :
    Differentiable ℝ fun θ => lineNet.logits θ x t v :=
  differentiable_id.mul_const ((v : ℕ) : ℝ)

section Line

variable {distillation : SelfDistillationConfig} {scope : UpdateScope} {teacherParams : ℝ}

theorem lineRowWise (hfull : distillation.fullLogitDistillation = false)
    (halpha : distillation.alpha = 1) (hgamma : distillation.vdGamma ≤ 0) :
    RowWise (lineActor distillation "seq-mean-token-mean") scope (.separate teacherParams) where
  mode := .inr rfl
  scale := rfl
  distills := fun _ => ⟨fun _ => halpha, fun h => absurd (hfull.symm.trans h) Bool.false_ne_true⟩
  gamma := fun _ => hgamma
  trustRegion := fun _ h => nomatch h.2
  advantages := nofun
  clipRatioC := nofun
  kl := nofun

theorem lineRegular (hfull : distillation.fullLogitDistillation = false) (θ : ℝ)
    {row : UpdateRow 2 1 Unit} (h : row ∈ lineData.ranks.flatten) :
    Regular (lineActor distillation "seq-mean-token-mean") scope (.separate teacherParams) θ row :=
  ⟨lineTrains h, smoothRow_reverse lineNet_differentiable rfl hfull rfl rfl θ row⟩

end Line

theorem updatePolicy_layout_line :
    updatePolicy ((lineActor reverseConfig "seq-mean-token-mean").batched ⟨4, false, 0, 2⟩) descent
        { lineData with width := 5, ranks := [[lineRow 4, lineRow 3, lineRow 2, lineRow 1]] }
        lineState =
      updatePolicy ((lineActor reverseConfig "seq-mean-token-mean").batched ⟨2, true, 8, 0⟩) descent
        lineData lineState := by
  refine (updatePolicy_layout (n := 2) (m := 4) (lineActor reverseConfig "seq-mean-token-mean")
    ⟨2, true, 8, 0⟩ ⟨4, false, 0, 2⟩ descent lineData
    (lineRowWise rfl rfl (show reverseConfig.vdGamma ≤ 0 from le_refl 0)) ?_ ?_ rfl ?_ ?_).2
  · obtain ⟨hlength, hmini, hbudget, htokens, -⟩ := lineLayout reverseConfig "seq-mean-token-mean"
    exact ⟨hlength, hmini, hbudget, htokens, nofun⟩
  · exact ⟨by simp, by decide, nofun, nofun, fun _ => ⟨by decide, by decide, by decide⟩⟩
  · have hperm : [lineRow 4, lineRow 3, lineRow 2, lineRow 1].Perm
        [lineRow 1, lineRow 2, lineRow 3, lineRow 4] :=
      List.reverse_perm [lineRow 1, lineRow 2, lineRow 3, lineRow 4]
    exact congrArg (fun rows => [rows]) (Multiset.coe_eq_coe.mpr hperm)
  · exact ⟨fun row hrow => lineRegular rfl 1 hrow, trivial⟩

end Run

end LookAway.Training
