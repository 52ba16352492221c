/-
  The teacher of a training: what `init_model` (verl/workers/fsdp_workers.py) takes for it, and what
  the calls of `update_policy` make of it.

  A training is its calls in their order, with any data; its log has the calls that had a step, with
  their global step and the student after them.
  `teacher_ema`: the teacher is the moving average of the students, from the reference model.
  `teacher_progressive`: it is the student of the last call in the log that was due.
  `teacher_still`: in every other setting it stays as it was taken.
-/
import LookAway.Base.MovingAverage
import LookAway.Training.UpdatePolicy

namespace LookAway.Training

open LookAway.Base LookAway.Base.MovingAverage LookAway.Weights
open LookAway.Teacher (logprob)

variable {P X σ : Type} {V T K : ℕ} [NormedAddCommGroup P] [NormedSpace ℝ P]

/-! ## The source -/

/-- The teacher that `init_model` sets, on a worker that has the reference model as well: from that
    model or from `teacher_model_path`. -/
noncomputable def initTeacher (cfg : ActorConfig) (refParams fixedParams : P) : TeacherModule P :=
  if cfg.lossMode = .vopd then
    if cfg.distillation.teacherModelSource = "current" then .current
    else if cfg.distillation.teacherModelSource = "fixed" then .separate fixedParams
    else if cfg.distillation.teacherRegularization = "trust-region" then
      .trustRegion refParams (cfg.distillation.teacherUpdateRate : ℝ)
    else .separate refParams
  else .current

/-- The calls of a training, from the first state to the last, and its log. -/
inductive TrainingRun (A : Actor P X V T K) (opt : Optimizer P σ) (s : ActorState P σ) :
    List (Option ℤ × P) → ActorState P σ → Prop where
  | start : TrainingRun A opt s [] s
  | call {log : List (Option ℤ × P)} {t u v : ActorState P σ} {data : UpdateData V T X}
      {didUpdate : Bool} (before : TrainingRun A opt s log t)
      (steps : updateSteps A opt data t = .ok (u, didUpdate))
      (result : updatePolicy A opt data t = .ok v) :
      TrainingRun A opt s (log ++ if didUpdate then [(data.globalSteps, v.params)] else []) v

/-! ## One call -/

section Call

variable {A : Actor P X V T K} {opt : Optimizer P σ} {data : UpdateData V T X}
  {s t u v : ActorState P σ} {didUpdate : Bool} {log : List (Option ℤ × P)}

/-- The steps of a call leave the teacher alone. -/
theorem updateSteps_teacher (h : updateSteps A opt data s = .ok (u, didUpdate)) :
    u.teacher = s.teacher := by
  refine foldlM_inv (I := fun t => t.1.teacher = s.teacher) (fun minis b c hb hc => ?_) h rfl
  obtain ⟨grad, -, hc⟩ := except_bind_ok.mp hc
  cases hc
  exact (optimizerStep_teacher b.1 grad).trans hb

theorem updateTeacher_params {cfg : ActorConfig} {globalSteps : Option ℤ}
    (h : updateTeacher cfg globalSteps u = .ok v) : v.params = u.params := by
  unfold updateTeacher at h
  split at h
  · cases h
    rfl
  · split at h
    · cases h
    · obtain ⟨_, -, h⟩ := except_bind_ok.mp h
      cases h
      rfl
    · obtain ⟨_, -, h⟩ := except_bind_ok.mp h
      cases h
      rfl

/-- What a call does with the teacher. -/
theorem updatePolicy_teacher (hsteps : updateSteps A opt data t = .ok (u, didUpdate))
    (hresult : updatePolicy A opt data t = .ok v) :
    (didUpdate = false ∧ v.teacher = t.teacher) ∨
      (didUpdate = true ∧ u.teacher = t.teacher ∧ v.params = u.params ∧
        updateTeacher A.cfg data.globalSteps u = .ok v) := by
  have hteacher := updateSteps_teacher hsteps
  unfold updatePolicy at hresult
  rw [hsteps] at hresult
  cases didUpdate with
  | false =>
      cases hresult
      exact .inl ⟨rfl, hteacher⟩
  | true => exact .inr ⟨rfl, hteacher, updateTeacher_params hresult, hresult⟩

end Call

/-! ## A training -/

section Run

variable {A : Actor P X V T K} {opt : Optimizer P σ} {s t : ActorState P σ}
  {log : List (Option ℤ × P)} {refParams fixedParams : P}

/-- The reference model under the students of a log. -/
theorem TrainingRun.moves (hmode : A.cfg.lossMode = .vopd)
    (hsource : A.cfg.distillation.teacherModelSource = "legacy")
    (hs : s.teacher = .separate refParams)
    (h : TrainingRun A opt s log t) :
    ∃ φ, t.teacher = .separate φ ∧
      log.foldlM (fun φ e => movedTeacher A.cfg.distillation e.1 e.2 φ) refParams = .ok φ := by
  induction h with
  | start => exact ⟨refParams, hs, rfl⟩
  | @call log t u v data didUpdate before hsteps hresult ih =>
      obtain ⟨φ, ht, hφ⟩ := ih
      rcases updatePolicy_teacher hsteps hresult with ⟨rfl, hv⟩ | ⟨rfl, hu, hparams, hmoved⟩
      · exact ⟨φ, hv.trans ht, by simpa using hφ⟩
      · unfold updateTeacher at hmoved
        rw [if_neg (by rw [not_or, not_not, not_not]; exact ⟨hmode, hsource⟩), hu, ht] at hmoved
        obtain ⟨φ', hφ', hv⟩ := except_bind_ok.mp hmoved
        cases hv
        refine ⟨φ', rfl, ?_⟩
        rw [if_pos rfl, List.foldlM_append, hφ]
        exact except_bind_ok.mpr ⟨φ, rfl, except_bind_ok.mpr ⟨φ', hφ', rfl⟩⟩

theorem updateTeacher_still {cfg : ActorConfig} {globalSteps : Option ℤ} {u v : ActorState P σ}
    (hstill : cfg.lossMode ≠ .vopd ∨ cfg.distillation.teacherModelSource ≠ "legacy" ∨
      cfg.distillation.teacherRegularization = "trust-region")
    (h : updateTeacher cfg globalSteps u = .ok v) : v.teacher = u.teacher := by
  unfold updateTeacher at h
  split at h
  · cases h
    rfl
  rename_i hlegacy
  have hreg : cfg.distillation.teacherRegularization = "trust-region" :=
    ((or_assoc.mpr hstill).resolve_left hlegacy)
  have hmoved : ∀ student teacher : P,
      movedTeacher cfg.distillation globalSteps student teacher = .ok teacher := by
    intro student teacher
    unfold movedTeacher
    rw [hreg, if_neg (by decide), if_neg (by decide)]
  split at h
  · cases h
  · rename_i params hteacher
    rw [hmoved] at h
    cases h
    exact hteacher.symm
  · rename_i params mixCoef hteacher
    rw [hmoved] at h
    cases h
    exact hteacher.symm

/-- A teacher that is not moved stays as it was taken. -/
theorem teacher_still (hstill : A.cfg.lossMode ≠ .vopd ∨
      A.cfg.distillation.teacherModelSource ≠ "legacy" ∨
      A.cfg.distillation.teacherRegularization = "trust-region")
    (h : TrainingRun A opt s log t) : t.teacher = s.teacher := by
  induction h with
  | start => rfl
  | call before hsteps hresult ih =>
      rcases updatePolicy_teacher hsteps hresult with ⟨-, hv⟩ | ⟨-, hu, -, hmoved⟩
      · exact hv.trans ih
      · exact (updateTeacher_still hstill hmoved).trans (hu.trans ih)

omit [NormedAddCommGroup P] [NormedSpace ℝ P] in
theorem initTeacher_legacy {cfg : ActorConfig} (hmode : cfg.lossMode = .vopd)
    (hsource : cfg.distillation.teacherModelSource = "legacy")
    (hreg : cfg.distillation.teacherRegularization ≠ "trust-region") :
    initTeacher cfg refParams fixedParams = .separate refParams := by
  unfold initTeacher
  rw [if_pos hmode, hsource, if_neg (by decide), if_neg (by decide), if_neg hreg]

theorem teacherUpdateRate_mem {c : SelfDistillationConfig} (h : c.Accepted) :
    (0 : ℝ) ≤ (c.teacherUpdateRate : ℝ) ∧ (c.teacherUpdateRate : ℝ) ≤ 1 := by
  unfold SelfDistillationConfig.Accepted SelfDistillationConfig.postInit at h
  simp only [require_bind_ok] at h
  obtain ⟨-, -, -, hrate, -⟩ := h
  have hrate : 0 ≤ c.teacherUpdateRate ∧ c.teacherUpdateRate ≤ 1 := by simpa using hrate
  exact ⟨by exact_mod_cast hrate.1, by exact_mod_cast hrate.2⟩

theorem teacherUpdateInterval_pos {c : SelfDistillationConfig} {interval : ℤ} (h : c.Accepted)
    (hinterval : c.teacherUpdateInterval = some interval) : 0 < interval := by
  unfold SelfDistillationConfig.Accepted SelfDistillationConfig.postInit at h
  simp only [require_bind_ok] at h
  obtain ⟨-, -, -, -, hall, -⟩ := h
  rw [hinterval] at hall
  simpa using hall

/-- **The EMA teacher.** Over a training from `init_model` it is the moving average of the students
    that the calls left: in closed form, among their averages, and near them as they settle. -/
theorem teacher_ema (hcfg : A.cfg.distillation.Accepted) (hmode : A.cfg.lossMode = .vopd)
    (hsource : A.cfg.distillation.teacherModelSource = "legacy")
    (hreg : A.cfg.distillation.teacherRegularization = "ema")
    (hs : s.teacher = initTeacher A.cfg refParams fixedParams) (h : TrainingRun A opt s log t) :
    ∃ φ, t.teacher = .separate φ ∧
      φ = (1 - (A.cfg.distillation.teacherUpdateRate : ℝ)) ^ log.length • refParams +
        emaSum (A.cfg.distillation.teacherUpdateRate : ℝ) (log.map (·.2)) ∧
      φ ∈ convexHull ℝ (insert refParams {student | student ∈ log.map (·.2)}) ∧
      ∀ y ε, (∀ student ∈ log.map (·.2), ‖student - y‖ ≤ ε) →
        ‖φ - y‖ ≤ (1 - (A.cfg.distillation.teacherUpdateRate : ℝ)) ^ log.length * ‖refParams - y‖ +
          (1 - (1 - (A.cfg.distillation.teacherUpdateRate : ℝ)) ^ log.length) * ε := by
  obtain ⟨h0, h1⟩ := teacherUpdateRate_mem hcfg
  rw [initTeacher_legacy hmode hsource (by rw [hreg]; decide)] at hs
  obtain ⟨φ, ht, hφ⟩ := h.moves hmode hsource hs
  have hmoved : ∀ φ : P, True → ∀ e ∈ log,
      movedTeacher A.cfg.distillation e.1 e.2 φ =
        .ok (ema (A.cfg.distillation.teacherUpdateRate : ℝ) φ e.2) ∧ True := by
    intro φ _ e _
    refine ⟨?_, trivial⟩
    unfold movedTeacher
    rw [if_pos hreg]
    split
    · rename_i hzero
      rw [hzero, Rat.cast_zero, ema, sub_zero, one_smul, zero_smul, add_zero]
    · rfl
  have hrun : φ = emaRun (A.cfg.distillation.teacherUpdateRate : ℝ) refParams (log.map (·.2)) := by
    refine Except.ok.inj (hφ.symm.trans ((foldlM_ok hmoved trivial).1.trans ?_))
    unfold emaRun
    rw [List.foldl_map]
  have hlength : (log.map (·.2)).length = log.length := List.length_map _
  refine ⟨φ, ht, ?_, ?_, fun y ε hε => ?_⟩
  · rw [hrun, emaRun_eq, hlength]
  · rw [hrun]
    exact emaRun_mem (convex_convexHull ℝ _) h0 h1 (subset_convexHull ℝ _ (Set.mem_insert _ _))
      fun student hstudent => subset_convexHull ℝ _ (Set.mem_insert_of_mem _ hstudent)
  · rw [hrun, ← hlength]
    exact norm_emaRun_sub_le h0 h1 hε

/-- A call that is due for a hard update. -/
def due (interval : ℤ) (e : Option ℤ × P) : Bool := e.1.any fun steps => decide (interval ∣ steps)

omit [NormedAddCommGroup P] [NormedSpace ℝ P] in
theorem foldl_due (interval : ℤ) (log : List (Option ℤ × P)) (φ : P) :
    log.foldl (fun φ e => if due interval e then e.2 else φ) φ =
      ((log.filter (due interval)).map (·.2)).getLastD φ := by
  induction log generalizing φ with
  | nil => rfl
  | cons e log ih =>
      rw [List.foldl_cons, ih]
      by_cases hdue : due interval e = true
      · rw [if_pos hdue, List.filter_cons_of_pos hdue, List.map_cons, List.getLastD_cons]
      · rw [if_neg hdue, List.filter_cons_of_neg hdue]

/-- **The progressive teacher.** Over a training from `init_model` it is the student that the last
    call left whose step is a multiple of the interval, and before that the reference model. -/
theorem teacher_progressive {interval : ℤ} (hcfg : A.cfg.distillation.Accepted)
    (hmode : A.cfg.lossMode = .vopd) (hsource : A.cfg.distillation.teacherModelSource = "legacy")
    (hreg : A.cfg.distillation.teacherRegularization = "progressive")
    (hinterval : A.cfg.distillation.teacherUpdateInterval = some interval)
    (hs : s.teacher = initTeacher A.cfg refParams fixedParams) (h : TrainingRun A opt s log t) :
    t.teacher = .separate (((log.filter (due interval)).map (·.2)).getLastD refParams) := by
  have hpos := teacherUpdateInterval_pos hcfg hinterval
  rw [initTeacher_legacy hmode hsource (by rw [hreg]; decide)] at hs
  obtain ⟨φ, ht, hφ⟩ := h.moves hmode hsource hs
  have hmoved : ∀ φ : P, True → ∀ e ∈ log,
      movedTeacher A.cfg.distillation e.1 e.2 φ = .ok (if due interval e then e.2 else φ) ∧
        True := by
    rintro φ - ⟨globalSteps, student⟩ -
    refine ⟨?_, trivial⟩
    unfold movedTeacher
    rw [if_neg (by rw [hreg]; decide), if_pos hreg, hinterval]
    cases globalSteps with
    | none => rfl
    | some steps => simp only [due, Option.any_some, decide_eq_true_eq, hpos.ne', if_false]
  rw [ht, ← foldl_due]
  exact congrArg TeacherModule.separate
    (Except.ok.inj (hφ.symm.trans (foldlM_ok hmoved trivial).1))

/-! ## A training of the line -/

/-- A call with a step. -/
theorem TrainingRun.stepped {data : UpdateData V T X} {u : ActorState P σ} {φ φ' : P}
    (h : TrainingRun A opt s log t) (hmode : A.cfg.lossMode = .vopd)
    (hsource : A.cfg.distillation.teacherModelSource = "legacy")
    (hsteps : updateSteps A opt data t = .ok (u, true)) (hu : u.teacher = .separate φ)
    (hmoved : movedTeacher A.cfg.distillation data.globalSteps u.params φ = .ok φ') :
    TrainingRun A opt s (log ++ [(data.globalSteps, u.params)])
      { u with teacher := .separate φ' } := by
  have hresult : updatePolicy A opt data t = .ok { u with teacher := .separate φ' } := by
    unfold updatePolicy
    rw [hsteps]
    show updateTeacher A.cfg data.globalSteps u = _
    unfold updateTeacher
    rw [if_neg (by rw [not_or, not_not, not_not]; exact ⟨hmode, hsource⟩), hu]
    exact except_bind_ok.mpr ⟨φ', hmoved, rfl⟩
  exact TrainingRun.call h hsteps hresult

/-- A call without one. -/
theorem TrainingRun.skipped {data : UpdateData V T X} {u : ActorState P σ}
    (h : TrainingRun A opt s log t) (hsteps : updateSteps A opt data t = .ok (u, false)) :
    TrainingRun A opt s log u := by
  have hresult : updatePolicy A opt data t = .ok u := by
    unfold updatePolicy
    rw [hsteps]
    rfl
  simpa using TrainingRun.call h hsteps hresult

/-- Gradient descent with weight decay, where a gradient above 1 is an overflow. -/
noncomputable def decay : Optimizer ℝ Unit where
  isFinite := fun grad => decide (|grad 1| ≤ 1)
  step := fun _ θ grad => ((), θ / 2 - grad 1)

noncomputable def weightedRow (w : ℝ) (seqLen : ℕ) : UpdateRow 2 1 Unit :=
  { lineRow seqLen with rolloutIsWeights := fun _ => w }

/-- A call whose rows have the importance weight `w`. -/
noncomputable def weightedData (w : ℝ) (globalSteps : Option ℤ) : UpdateData 2 1 Unit where
  temperature := 1
  globalSteps := globalSteps
  keys := ⟨true, false, true⟩
  width := 4
  ranks := [[weightedRow w 1, weightedRow w 2], [weightedRow w 3, weightedRow w 4]]

noncomputable def weightedRows (w : ℝ) : List (UpdateRow 2 1 Unit) :=
  [1, 2, 3, 4].map (weightedRow w)

theorem globalMinis_weighted (w : ℝ) (globalSteps : Option ℤ) :
    globalMinis 2 (weightedData w globalSteps).ranks = [(weightedRows w : Multiset _)] := by
  have hsplit : ∀ a b : UpdateRow 2 1 Unit, split 2 [a, b] = [[a, b]] := by
    intro a b
    show Packing.unflatten (ceildiv 2 2) 2 [a, b] = _
    rfl
  have hceil : ceildiv 2 2 = 1 := rfl
  simp [globalMinis, miniBatches, weightedData, weightedRows, hsplit, hceil]

/-- The log-probability of the response. -/
noncomputable def lineLogProb (θ : ℝ) : ℝ := θ - Real.log (1 + Real.exp θ)

theorem hasDerivAt_lineLogProb (θ : ℝ) : HasDerivAt lineLogProb (1 / (1 + Real.exp θ)) θ := by
  have hpos : 1 + Real.exp θ ≠ 0 := by positivity
  have hlog := ((Real.hasDerivAt_exp θ).const_add 1).log hpos
  refine ((hasDerivAt_id θ).sub hlog).congr_deriv ?_
  rw [eq_div_iff hpos, sub_mul, div_mul_cancel₀ _ hpos]
  ring

theorem lineLogProb_strictMono : StrictMono lineLogProb := by
  refine strictMono_of_deriv_pos fun θ => ?_
  rw [(hasDerivAt_lineLogProb θ).deriv]
  positivity

/-- The slope of the loss of a row of weight 1, at `θ` under the teacher `φ`. -/
noncomputable def lineSlope (θ φ : ℝ) : ℝ :=
  (lineLogProb θ - lineLogProb φ) / (1 + 1 / 10 ^ 8) * (1 / (1 + Real.exp θ))

theorem lineSlope_ne_zero {θ φ : ℝ} (h : θ ≠ φ) : lineSlope θ φ ≠ 0 :=
  mul_ne_zero (div_ne_zero (sub_ne_zero.mpr (lineLogProb_strictMono.injective.ne h)) (by norm_num))
    (by positivity)

section Weighted

variable {d : SelfDistillationConfig} {scope : UpdateScope} {θ φ w : ℝ} {globalSteps : Option ℤ}

theorem logprob_line (θ : ℝ) :
    logprob 1 (lineNet.logits θ () 0) (Fin.last 1) = lineLogProb θ := by
  simp [logprob, logsumexp, lineNet, lineLogProb]

theorem rowLoss_weighted (hfull : d.fullLogitDistillation = false) (hclip : d.isClip = none)
    (htemperature : scope.temperature = 1) (hweights : scope.keys.rolloutIsWeights = true)
    (θ' : ℝ) (seqLen : ℕ) :
    rowLoss (lineActor d "seq-mean-token-mean") scope (.separate φ) θ θ' (weightedRow w seqLen) =
      w * ((lineLogProb θ - lineLogProb φ) / (1 + 1 / 10 ^ 8)) * lineLogProb θ' := by
  have htoken : tokenLoss (lineActor d "seq-mean-token-mean") scope (.separate φ) θ θ'
      (weightedRow w seqLen) 0 = (lineLogProb θ - lineLogProb φ) * lineLogProb θ' * 1 * w := by
    unfold tokenLoss tokenRaw tokenRatio isWeight studentLogps teacherLogps rowLogps
    have hreverse :
        ¬ (lineActor d "seq-mean-token-mean").cfg.distillation.fullLogitDistillation = true :=
      fun h => Bool.false_ne_true (hfull.symm.trans h)
    have hnone : (lineActor d "seq-mean-token-mean").cfg.distillation.isClip = none := hclip
    rw [if_neg hreverse, hnone, if_pos hweights, htemperature, ← logprob_line, ← logprob_line,
      ← logprob_line]
    rfl
  unfold rowLoss rowPg rowEntropy rowKl
  simp [lineActor, seqAgg, weightedRow, lineRow, maskValue] at htoken ⊢
  rw [htoken]
  ring

theorem rowGradient_weighted (hfull : d.fullLogitDistillation = false) (hclip : d.isClip = none)
    (htemperature : scope.temperature = 1) (hweights : scope.keys.rolloutIsWeights = true)
    (seqLen : ℕ) :
    rowGradient (lineActor d "seq-mean-token-mean") scope (.separate φ) θ (weightedRow w seqLen) 1 =
      w * lineSlope θ φ := by
  unfold rowGradient
  rw [funext fun θ' => rowLoss_weighted hfull hclip htemperature hweights θ' seqLen,
    fderiv_eq_smul_deriv, ((hasDerivAt_lineLogProb θ).const_mul _).deriv, lineSlope, one_smul,
      mul_assoc]

/-- The step of a call, if it has one. -/
theorem updateSteps_weighted (hfull : d.fullLogitDistillation = false) (halpha : d.alpha = 1)
    (hgamma : d.vdGamma ≤ 0) (hclip : d.isClip = none) (θ φ w : ℝ) (globalSteps : Option ℤ) :
    updateSteps (lineActor d "seq-mean-token-mean") decay (weightedData w globalSteps)
        ⟨θ, (), .separate φ⟩ =
      .ok (if |w * lineSlope θ φ| ≤ 1 then (⟨θ / 2 - w * lineSlope θ φ, (), .separate φ⟩, true)
        else (⟨θ, (), .separate φ⟩, false)) := by
  let A := lineActor d "seq-mean-token-mean"
  let scope := updateScope A.cfg (weightedData w globalSteps)
  have hregular : ∀ row ∈ weightedRows w, Regular A scope (.separate φ) θ row := by
    intro row hrow
    have hsmooth : SmoothRow A scope (.separate φ) θ row :=
      smoothRow_reverse lineNet_differentiable rfl hfull rfl rfl θ row
    obtain ⟨seqLen, -, rfl⟩ := List.mem_map.mp hrow
    exact ⟨⟨⟨0, rfl⟩, fun _ => rfl⟩, hsmooth⟩
  have hlayout : Layout A.cfg 4 2 (weightedData w globalSteps).ranks :=
    ⟨by simp [weightedData], Nat.two_pos, fun _ => ⟨show 0 < 8 by decide, show 4 ≤ 8 by decide⟩,
      fun _ => by simp [weightedData, weightedRow, lineRow], nofun⟩
  have hminis : globalMinis A.cfg.ppoMiniBatchSize (weightedData w globalSteps).ranks =
      [(weightedRows w : Multiset (UpdateRow 2 1 Unit))] := globalMinis_weighted w globalSteps
  have hsteps : RegularSteps A scope decay (2 * 2) (⟨θ, (), .separate φ⟩, false)
      (List.replicate A.cfg.ppoEpochs (globalMinis A.cfg.ppoMiniBatchSize
        (weightedData w globalSteps).ranks)).flatten := by
    rw [hminis]
    exact ⟨hregular, trivial⟩
  have hplain := updateSteps_plain (lineRowWise hfull halpha hgamma) hlayout hsteps
  rw [hminis] at hplain
  have hgrad : ((1 / ((2 * 2 : ℕ) : ℝ)) • ((weightedRows w : Multiset (UpdateRow 2 1 Unit)).map
      (rowGradient A scope (.separate φ) θ)).sum) 1 = w * lineSlope θ φ := by
    have hrow : ∀ seqLen, rowGradient A scope (.separate φ) θ (weightedRow w seqLen) 1 =
      w * lineSlope θ φ := rowGradient_weighted hfull hclip rfl rfl
    simp only [weightedRows, Multiset.map_coe, Multiset.sum_coe, List.map_cons, List.map_nil,
      List.sum_cons, List.sum_nil, smul_apply, add_apply, zero_apply, hrow]
    norm_num
    ring
  refine hplain.trans (congrArg Except.ok ?_)
  show plainStep A scope decay (2 * 2) (⟨θ, (), .separate φ⟩, false) (weightedRows w) = _
  unfold plainStep optimizerStep decay
  simp only [hgrad, decide_eq_true_eq]
  split <;> rfl

/-- Without a weight the parameters decay. -/
theorem updateSteps_decay (hfull : d.fullLogitDistillation = false) (halpha : d.alpha = 1)
    (hgamma : d.vdGamma ≤ 0) (hclip : d.isClip = none) (θ φ : ℝ) (globalSteps : Option ℤ) :
    updateSteps (lineActor d "seq-mean-token-mean") decay (weightedData 0 globalSteps)
        ⟨θ, (), .separate φ⟩ = .ok (⟨θ / 2, (), .separate φ⟩, true) := by
  rw [updateSteps_weighted hfull halpha hgamma hclip, zero_mul, abs_zero, if_pos zero_le_one,
    sub_zero]

/-- Where the student is not the teacher, some weight is an overflow. -/
theorem exists_overflow (hfull : d.fullLogitDistillation = false) (halpha : d.alpha = 1)
    (hgamma : d.vdGamma ≤ 0) (hclip : d.isClip = none) {θ φ : ℝ} (hne : θ ≠ φ)
    (globalSteps : Option ℤ) :
    ∃ w, updateSteps (lineActor d "seq-mean-token-mean") decay (weightedData w globalSteps)
      ⟨θ, (), .separate φ⟩ = .ok (⟨θ, (), .separate φ⟩, false) := by
  refine ⟨2 / lineSlope θ φ, ?_⟩
  rw [updateSteps_weighted hfull halpha hgamma hclip, div_mul_cancel₀ _ (lineSlope_ne_zero hne),
    if_neg (by norm_num)]

/-- Three calls, the second of them without a step. -/
theorem teacher_ema_line : ∃ t φ,
    TrainingRun (lineActor reverseConfig "seq-mean-token-mean") decay lineState
        [(none, 1 / 2), (none, 1 / 4)] t ∧
      t.teacher = .separate φ ∧
      φ = (1 - ((1 / 20 : ℚ) : ℝ)) ^ 2 • 0 + emaSum ((1 / 20 : ℚ) : ℝ) [1 / 2, 1 / 4] := by
  have hmoved : ∀ θ φ : ℝ, movedTeacher reverseConfig none θ φ =
      .ok (ema ((1 / 20 : ℚ) : ℝ) φ θ) := by
    intro θ φ
    unfold movedTeacher
    rw [if_pos (show reverseConfig.teacherRegularization = "ema" from rfl),
      if_neg (by norm_num [reverseConfig])]
    rfl
  have hfirst := TrainingRun.start.stepped rfl rfl
    (updateSteps_decay (d := reverseConfig) rfl rfl (le_refl 0) rfl 1 0 none) rfl (hmoved (1 / 2) 0)
  have hne : (1 / 2 : ℝ) ≠ ema ((1 / 20 : ℚ) : ℝ) 0 (1 / 2) := by norm_num [ema]
  obtain ⟨w, hskipped⟩ := exists_overflow (d := reverseConfig) rfl rfl (le_refl 0) rfl hne none
  have hrun := (hfirst.skipped hskipped).stepped rfl rfl
    (updateSteps_decay (d := reverseConfig) rfl rfl (le_refl 0) rfl (1 / 2) _ none) rfl (hmoved _ _)
  rw [show (1 / 2 / 2 : ℝ) = 1 / 4 by norm_num] at hrun
  have hs : lineState.teacher =
      initTeacher (lineActor reverseConfig "seq-mean-token-mean").cfg 0 0 :=
    (initTeacher_legacy rfl rfl (by decide)).symm
  have hcfg : (lineActor reverseConfig "seq-mean-token-mean").cfg.distillation.Accepted :=
    show reverseConfig.Accepted by decide +kernel
  obtain ⟨φ, hφ, hclosed, -⟩ := teacher_ema hcfg rfl rfl rfl hs hrun
  exact ⟨_, φ, hrun, hφ, hclosed⟩

def progressiveConfig : SelfDistillationConfig :=
  { reverseConfig with teacherRegularization := "progressive", teacherUpdateInterval := some 2 }

theorem movedTeacher_progressive (globalSteps : ℤ) (θ φ : ℝ) :
    movedTeacher progressiveConfig (some globalSteps) θ φ =
      .ok (if 2 ∣ globalSteps then θ else φ) := by
  unfold movedTeacher
  rw [if_neg (by decide),
    if_pos (show progressiveConfig.teacherRegularization = "progressive" from rfl)]
  exact if_neg (by decide)

/-- Four calls: at step 3 one that is not due, at 4 one without a step, at 6 one that is due, and
    at 7 one that is not. -/
theorem teacher_progressive_line : ∃ t,
    TrainingRun (lineActor progressiveConfig "seq-mean-token-mean") decay lineState
        [(some 3, 1 / 2), (some 6, 1 / 4), (some 7, 1 / 8)] t ∧
      t.teacher = .separate (1 / 4) := by
  have hdecay := updateSteps_decay (d := progressiveConfig) rfl rfl (le_refl 0) rfl
  have hthird := TrainingRun.start.stepped rfl rfl (hdecay 1 0 (some 3)) rfl
    (movedTeacher_progressive 3 (1 / 2) 0)
  rw [if_neg (by decide)] at hthird
  obtain ⟨w, hfourth⟩ := exists_overflow (d := progressiveConfig) rfl rfl (le_refl 0) rfl
    (show (1 / 2 : ℝ) ≠ 0 by norm_num) (some 4)
  have hsixth := (hthird.skipped hfourth).stepped rfl rfl (hdecay (1 / 2) 0 (some 6)) rfl
    (movedTeacher_progressive 6 (1 / 2 / 2) 0)
  have hrun := hsixth.stepped rfl rfl (hdecay (1 / 2 / 2) _ (some 7)) rfl
    (movedTeacher_progressive 7 (1 / 2 / 2 / 2) _)
  rw [show (1 / 2 / 2 / 2 : ℝ) = 1 / 8 by norm_num,
    show (1 / 2 / 2 : ℝ) = 1 / 4 by norm_num] at hrun
  have hs : lineState.teacher =
      initTeacher (lineActor progressiveConfig "seq-mean-token-mean").cfg 0 0 :=
    (initTeacher_legacy rfl rfl (by decide)).symm
  have hcfg : (lineActor progressiveConfig "seq-mean-token-mean").cfg.distillation.Accepted :=
    show progressiveConfig.Accepted by decide +kernel
  have hlast : (([(some (3 : ℤ), (1 / 2 : ℝ)), (some 6, 1 / 4), (some 7, 1 / 8)].filter
      (due 2)).map (·.2)).getLastD 0 = 1 / 4 := by
    simp [due]
  exact ⟨_, hrun,
    (teacher_progressive hcfg rfl rfl rfl (Eq.refl (some 2)) hs hrun).trans (congrArg _ hlast)⟩

end Weighted

end Run

end LookAway.Training
