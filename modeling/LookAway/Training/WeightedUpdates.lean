/-
  LookAway in `update_policy`: what the token weights can do to the parameters, and what not.

  `updatePolicy_no_contrast`: where the negative view of every row shows the teacher what the
  positive view shows, a call does what it does without LookAway.
  `stepGradient_mem`: with a mean over tokens the gradient of a step is, under any weights of
  LookAway, an average of the gradients of the tokens.
-/
import LookAway.Training.UpdatePolicy
import LookAway.Weights.MeanPreservation
import LookAway.Weights.Neutral

namespace LookAway.Training

open LookAway.Base LookAway.Base.MovingAverage LookAway.Weights
open LookAway.Teacher (FilesWellFormed)

variable {P X σ : Type} {V T K : ℕ} [NormedAddCommGroup P] [NormedSpace ℝ P]
  {A : Actor P X V T K} {scope : UpdateScope} {teacher : TeacherModule P} {θ θ' : P} {width : ℕ}
  {rows mini : List (UpdateRow V T X)} {minis ranks : List (List (UpdateRow V T X))}

/-! ## Where the rows of a step come from -/

theorem mem_of_mem_rankMicroBatches {cfg : ActorConfig}
    {microBatches : List (List (UpdateRow V T X))}
    (h : rankMicroBatches cfg width minis mini = .ok microBatches) :
    ∀ rows ∈ microBatches, ∀ row ∈ rows, row ∈ mini := by
  unfold rankMicroBatches at h
  split at h
  · obtain ⟨⟨microBatches', parts⟩, hprepare, h⟩ := except_bind_ok.mp h
    cases h
    obtain ⟨-, rfl⟩ := prepare_eq hprepare
    intro rows hrows row hrow
    obtain ⟨part, -, rfl⟩ := List.mem_map.mp hrows
    exact Packing.mem_of_mem_gather hrow
  · obtain ⟨_, -, h⟩ := except_bind_ok.mp h
    obtain ⟨_, -, h⟩ := except_bind_ok.mp h
    cases h
    exact fun rows hrows => mem_of_mem_split hrows

theorem mem_of_mem_miniBatches {size : ℕ} (h : minis ∈ miniBatches size ranks) :
    ∀ mini ∈ minis, ∀ row ∈ mini, ∃ rank ∈ ranks, row ∈ rank := by
  obtain ⟨k, -, rfl⟩ := List.mem_map.mp h
  intro mini hmini row hrow
  obtain ⟨rank, hrank, rfl⟩ := List.mem_map.mp hmini
  refine ⟨rank, hrank, ?_⟩
  rw [List.getD_eq_getElem?_getD] at hrow
  cases hk : (split size rank)[k]? with
  | none =>
      rw [hk] at hrow
      cases hrow
  | some mini =>
      rw [hk] at hrow
      exact mem_of_mem_split (List.mem_of_getElem? hk) row hrow

/-! ## Without a contrast -/

/-- The same actor with LookAway switched off. -/
def Actor.unweighted (A : Actor P X V T K) : Actor P X V T K :=
  { A with cfg := { A.cfg with distillation := { A.cfg.distillation with vdGamma := 0 } } }

/-- The teacher has one view of the row, or no negative one. -/
def OneView (row : UpdateRow V T X) : Prop :=
  row.vdNegViewMask = true → row.teacherNegView = row.teacherView

/-- What LookAway needs to run: an accepted config, its files, the negative view in the batch, and
    top-k log-probs where a gate reads them. -/
structure Weighable (A : Actor P X V T K) (keys : UpdateKeys) : Prop where
  accepted : A.cfg.distillation.Accepted
  files : FilesWellFormed V A.cfg.distillation A.files
  topk : A.cfg.distillation.vdJsdGate = true ∨ A.cfg.distillation.vdDdJsd = true →
    hasTopk A.cfg.distillation = true
  neg : keys.teacherNeg = true

variable (teacher θ) in
omit [NormedAddCommGroup P] [NormedSpace ℝ P] in
theorem weightingBlock_weighable (h : Weighable A scope.keys)
    (hgamma : 0 < A.cfg.distillation.vdGamma) (rows : List (UpdateRow V T X)) :
    ∃ out, weightingBlock A.cfg.distillation A.files (weightInputs A scope teacher θ rows) =
      .ok (some out) := by
  have hneg : (weightInputs A scope teacher θ rows).teacherNeg ≠ none := by
    unfold weightInputs
    rw [h.neg]
    exact nofun
  obtain ⟨neg, hneg⟩ := Option.ne_none_iff_exists'.mp hneg
  refine weightingBlock_ok h.accepted hgamma h.topk hneg ⟨h.files.priors, fun path hpath => ?_⟩
  obtain ⟨counts, hcounts, hlength⟩ := h.files.freq path hpath
  refine ⟨counts, hcounts, fun p => ⟨Int.natCast_nonneg _, ?_⟩⟩
  show (((rows.get p.1).responses p.2 : ℕ) : ℤ) < counts.length
  exact_mod_cast ((rows.get p.1).responses p.2).isLt.trans_le hlength

omit [NormedAddCommGroup P] [NormedSpace ℝ P] in
/-- Rows with one view have nothing to compare. -/
theorem weightInputs_noContrast {neg : NegView rows.length T K}
    (hkey : scope.keys.teacherNeg = true)
    (hrows : ∀ row ∈ rows, OneView row)
    (hneg : (weightInputs A scope teacher θ rows).teacherNeg = some neg) :
    NoContrast A.cfg.distillation (weightInputs A scope teacher θ rows) neg := by
  simp only [weightInputs, hkey, if_true] at hneg
  obtain rfl := Option.some.inj hneg
  intro p hp
  have hmask : (rows.get p.1).vdNegViewMask = true := by
    have hrow := (Bool.and_eq_true_iff.mp hp).2
    simp only [weightInputs, hkey, if_true] at hrow
    exact hrow
  have hview := hrows _ (List.get_mem rows p.1) hmask
  unfold weightInputs onRows
  dsimp only
  rw [hview]
  exact ⟨rfl, fun _ => rfl⟩

variable (teacher θ θ') in
omit [NormedAddCommGroup P] [NormedSpace ℝ P] in
theorem distillationGraph_weights (h : Weighable A scope.keys) (hrows : ∀ row ∈ rows, OneView row) :
    ∃ weights, weightingBlock A.cfg.distillation A.files (weightInputs A scope teacher θ rows) =
        .ok weights ∧
      distillationGraph A.cfg.distillation (lossInputs A scope teacher θ θ' rows)
          (lossInputs A scope teacher θ θ rows) (weights.map (·.vdWeights)) =
        distillationGraph A.cfg.distillation (lossInputs A scope teacher θ θ' rows)
          (lossInputs A scope teacher θ θ rows) none := by
  by_cases hgamma : 0 < A.cfg.distillation.vdGamma
  · obtain ⟨out, hout⟩ := weightingBlock_weighable teacher θ h hgamma rows
    obtain ⟨neg, -, hneg, hraw, hweights⟩ := weightingBlock_cases.mp hout
    have hone : ∀ p, out.vdWeights p = 1 := by
      intro p
      rw [hweights]
      exact normalizeVdWeights_eq_one (fun q hq =>
        rawWeights_eq_one h.accepted (weightInputs_noContrast h.neg hrows hneg) hraw hq) p
    refine ⟨some out, hout, ?_⟩
    unfold distillationGraph
    simp only [Option.map_some, timesWeights_one hone]
  · exact ⟨none, weightingBlock_off (not_lt.mp hgamma), rfl⟩

omit [NormedAddCommGroup P] [NormedSpace ℝ P] in
/-- The loss of a micro-batch of rows with one view. -/
theorem policyLoss_unweighted (h : Weighable A scope.keys) (hrows : ∀ row ∈ rows, OneView row) :
    policyLoss A.unweighted scope teacher θ θ' rows = policyLoss A scope teacher θ θ' rows := by
  have hpg : pgLossOf A.unweighted scope teacher θ θ' rows =
      pgLossOf A scope teacher θ θ' rows := by
    have hmode : A.unweighted.cfg.lossMode = A.cfg.lossMode := rfl
    unfold pgLossOf
    rw [hmode]
    cases A.cfg.lossMode with
    | vanilla => rfl
    | vopd =>
        obtain ⟨weights, hweights, hgraph⟩ :=
          distillationGraph_weights teacher θ θ' h hrows
        refine except_bind_congr fun _ _ => ?_
        rw [hweights, weightingBlock_off (le_refl (0 : ℚ))]
        exact congrArg (fun loss => loss.mapError ActorError.loss >>= fun vopdLoss =>
          fallbackLoss A scope θ θ' rows >>= fun grpoLoss => pure (vopdLoss + grpoLoss)) hgraph.symm
  unfold policyLoss
  rw [hpg]
  rfl

theorem microGradient_unweighted (h : Weighable A scope.keys) (hrows : ∀ row ∈ rows, OneView row) :
    microGradient A.unweighted scope teacher θ rows = microGradient A scope teacher θ rows := by
  have hloss : (fun θ' => policyLoss A.unweighted scope teacher θ θ' rows) =
      fun θ' => policyLoss A scope teacher θ θ' rows :=
    funext fun θ' => policyLoss_unweighted h hrows
  unfold microGradient
  rw [policyLoss_unweighted h hrows]
  refine except_bind_congr fun _ _ => ?_
  exact congrArg (fun loss : P → Except ActorError ℝ => pure (fderiv ℝ (fun θ' =>
    lossValue (loss θ') * lossScaleFactor A.cfg rows.length) θ)) hloss

theorem stepGradient_unweighted (h : Weighable A scope.keys)
    (hrows : ∀ mini ∈ minis, ∀ row ∈ mini, OneView row) :
    stepGradient A.unweighted scope width teacher θ minis =
      stepGradient A scope width teacher θ minis := by
  unfold stepGradient
  refine except_bind_congr fun micro hmicro => except_bind_congr fun _ _ => ?_
  have hgrads : ∀ microBatches ∈ micro, (do
      let grads ← microBatches.mapM (microGradient A.unweighted scope teacher θ)
      return grads.sum : Except ActorError (P →L[ℝ] ℝ)) = (do
      let grads ← microBatches.mapM (microGradient A scope teacher θ)
      return grads.sum) := by
    intro microBatches hmem
    obtain ⟨mini, hmini, hok⟩ := exists_of_mem_mapM hmicro microBatches hmem
    have hbatches : rankMicroBatches A.cfg width minis mini = .ok microBatches := by
      cases hrank : rankMicroBatches A.cfg width minis mini with
      | error e =>
          rw [show rankMicroBatches A.unweighted.cfg width minis mini = .error e from hrank] at hok
          cases hok
      | ok found =>
          rw [show rankMicroBatches A.unweighted.cfg width minis mini = .ok found from hrank] at hok
          exact congrArg Except.ok (Except.ok.inj hok)
    rw [mapM_congr fun rows hrows' => microGradient_unweighted h fun row hrow =>
      hrows mini hmini row (mem_of_mem_rankMicroBatches hbatches rows hrows' row hrow)]
  rw [mapM_congr hgrads]

/-- No contrast anywhere: a call is the call without LookAway, its errors included. -/
theorem updatePolicy_no_contrast (opt : Optimizer P σ) {data : UpdateData V T X}
    {s : ActorState P σ} (h : Weighable A data.keys)
    (hrows : ∀ rank ∈ data.ranks, ∀ row ∈ rank, OneView row) :
    updatePolicy A opt data s = updatePolicy A.unweighted opt data s := by
  have hsteps : updateSteps A opt data s = updateSteps A.unweighted opt data s := by
    refine foldlM_congr (fun t minis hminis => ?_) (s, false)
    obtain ⟨_, hreplicate, hminis⟩ := List.mem_flatten.mp hminis
    obtain rfl := (List.mem_replicate.mp hreplicate).2
    have hviews : ∀ mini ∈ minis, ∀ row ∈ mini, OneView row := by
      intro mini hmini row hrow
      obtain ⟨rank, hrank, hrow⟩ := mem_of_mem_miniBatches hminis mini hmini row hrow
      exact hrows rank hrank row hrow
    have hgrad :
        stepGradient A.unweighted (updateScope A.cfg data) data.width t.1.teacher t.1.params
          minis =
        stepGradient A (updateScope A.cfg data) data.width t.1.teacher t.1.params minis :=
      stepGradient_unweighted h hviews
    unfold miniBatchStep
    rw [← hgrad]
    rfl
  unfold updatePolicy
  rw [hsteps]
  rfl

theorem updatePolicy_no_contrast_line :
    updatePolicy (lineActor (launcherConfig "priors" "freq") "token-mean") descent lineData
      lineState =
      updatePolicy (lineActor (launcherConfig "priors" "freq") "token-mean").unweighted descent
        lineData lineState :=
  updatePolicy_no_contrast descent ⟨by decide +kernel,
    ⟨fun _ _ => ⟨_, rfl⟩, fun _ _ => ⟨_, rfl, le_refl 2⟩⟩, fun _ => by decide +kernel, rfl⟩
    fun _ _ _ _ _ => rfl

/-! ## An average of the tokens -/

/-- The gradient of the distillation at a token, before the weights of LookAway. -/
noncomputable def tokenGradient (A : Actor P X V T K) (scope : UpdateScope)
    (teacher : TeacherModule P) (θ : P) (row : UpdateRow V T X) (t : Fin T) : P →L[ℝ] ℝ :=
  fderiv ℝ (fun θ' => tokenLoss A scope teacher θ θ' row t) θ

/-- The gradients of the response tokens of some rows. -/
def tokenGradients (A : Actor P X V T K) (scope : UpdateScope) (teacher : TeacherModule P) (θ : P)
    (rows : List (UpdateRow V T X)) : Set (P →L[ℝ] ℝ) :=
  {g | ∃ row ∈ rows, ∃ t, row.responseMask t = true ∧ g = tokenGradient A scope teacher θ row t}

/-- Distillation with a mean over tokens, and nothing else. -/
structure TokenMean (A : Actor P X V T K) (scope : UpdateScope) (teacher : TeacherModule P) :
    Prop where
  mode : A.cfg.lossMode = .vopd
  aggMode : A.cfg.lossAggMode = "token-mean"
  scale : A.cfg.globalBatchInfo = plainScale
  distills : Distills A.cfg.distillation
  trustRegion : ¬ (useTrustRegionTeacher A.cfg.distillation ∧ teacher.isCurrent)
  entropy : A.cfg.entropyCoeff = 0
  kl : A.cfg.useKlLoss = false
  weighable : Weighable A scope.keys
  freq : A.files.FreqNonneg

/-- Tensors that have no say in the loss of a micro-batch but weigh its tokens. -/
structure Weighs (mask : Mask rows.length T) (w : Tensor rows.length T) : Prop where
  nonneg : ∀ p, 0 ≤ w p
  total : total mask w = count mask

omit [NormedAddCommGroup P] [NormedSpace ℝ P] in
theorem weightingBlock_weighs (h : TokenMean A scope teacher) (rows : List (UpdateRow V T X)) :
    ∃ weights w, weightingBlock A.cfg.distillation A.files (weightInputs A scope teacher θ rows) =
        .ok weights ∧
      Weighs (onRows rows fun row t => row.responseMask t && row.selfDistillationMask) w ∧
      ∀ loss, timesWeights (weights.map (·.vdWeights)) loss = fun p => loss p * w p := by
  by_cases hgamma : 0 < A.cfg.distillation.vdGamma
  · obtain ⟨out, hout⟩ := weightingBlock_weighable teacher θ h.weighable hgamma rows
    obtain ⟨neg, -, -, hraw, hweights⟩ := weightingBlock_cases.mp hout
    have hone := rawWeights_ge_one h.weighable.accepted hgamma h.freq hraw
    rw [normalize_eq_unclamped hone] at hweights
    refine ⟨some out, out.vdWeights, hout, ⟨fun p => ?_, ?_⟩, fun _ => rfl⟩
    · rw [hweights]
      exact (normalizeUnclamped_pos hone p).le
    · rw [hweights]
      exact total_outer (validPos_le_lossMask (weightInputs A scope teacher θ rows))
        (fun p hp => normalizeUnclamped_invalid hp) (total_normalizeUnclamped hone)
  · exact ⟨none, fun _ => 1, weightingBlock_off (not_lt.mp hgamma),
      ⟨fun _ => zero_le_one, sumOn_const_one _ _⟩, fun loss => funext fun p => (mul_one _).symm⟩

omit [NormedAddCommGroup P] [NormedSpace ℝ P] in
/-- The loss of a micro-batch, with one weight for each token at all parameters. -/
theorem policyLoss_tokens (h : TokenMean A scope teacher) (hrows : ∀ row ∈ rows, Trains A row) :
    ∃ w, Weighs (onRows rows (·.responseMask)) w ∧ ∀ θ',
      policyLoss A scope teacher θ θ' rows =
        .ok (total (onRows rows (·.responseMask))
          (fun p => onRows rows (tokenLoss A scope teacher θ θ') p * w p) /
            max (count (onRows rows (·.responseMask)) : ℝ) 1) := by
  have hteacher : ∀ row ∈ rows, row.selfDistillationMask = true :=
    fun row hrow => (hrows row hrow).teacher h.mode
  have hmask : (onRows rows fun row t => row.responseMask t && row.selfDistillationMask) =
      onRows rows (·.responseMask) := by
    funext p
    simp only [onRows]
    rw [hteacher _ (List.get_mem rows p.1), Bool.and_true]
  obtain ⟨weights, w, hweights, hw, htimes⟩ := weightingBlock_weighs (θ := θ) h rows
  rw [hmask] at hw
  refine ⟨w, hw, fun θ' => ?_⟩
  have hloss := @distillationGraph_rows P X V T K A scope teacher θ θ' rows h.distills
    (weights.map (·.vdWeights))
  have hagg : aggLoss (fun p => onRows rows (tokenLoss A scope teacher θ θ') p * w p)
      (onRows rows (·.responseMask)) "token-mean" ⟨1, some (plainScale.batchNumTokens.getD
        (max (count (onRows rows (·.responseMask))) 1)), plainScale.globalBatchSize,
        plainScale.lossScaleFactor⟩ = .ok (total (onRows rows (·.responseMask))
          (fun p => onRows rows (tokenLoss A scope teacher θ θ') p * w p) /
            max (count (onRows rows (·.responseMask)) : ℝ) 1) := by
    unfold aggLoss
    dsimp only
    rw [if_pos rfl, maskedSum_eq_total, mul_one]
    rfl
  rw [htimes, hmask, h.scale, h.aggMode, hagg] at hloss
  have hentropy : entropyTerm A scope θ θ' rows = .ok 0 := by
    unfold entropyTerm
    rw [if_neg (not_not.mpr h.entropy)]
  have hkl : klTerm A scope θ θ' rows = .ok 0 := by
    unfold klTerm
    rw [if_neg (by rw [h.kl]; exact Bool.false_ne_true)]
  unfold policyLoss pgLossOf
  rw [h.mode, hentropy, hkl, fallbackLoss_none hteacher]
  dsimp only
  rw [raiseIf_neg h.trustRegion, hweights]
  dsimp only [bind, Except.bind, Except.mapError]
  rw [hloss]
  refine congrArg Except.ok ?_
  show _ + 0 - 0 + 0 = _
  rw [add_zero, sub_zero, add_zero]

/-- A micro-batch adds an average of its tokens. -/
theorem microGradient_mem (h : TokenMean A scope teacher) (hne : rows ≠ [])
    (hrows : ∀ row ∈ rows, Trains A row)
    (hsmooth : ∀ row ∈ rows, ∀ t,
      DifferentiableAt ℝ (fun θ' => tokenLoss A scope teacher θ θ' row t) θ) :
    ∃ g ∈ convexHull ℝ (tokenGradients A scope teacher θ rows),
      microGradient A scope teacher θ rows = .ok (lossScaleFactor A.cfg rows.length • g) := by
  obtain ⟨w, hw, hloss⟩ := policyLoss_tokens (θ := θ) h hrows
  set mask := onRows rows (·.responseMask)
  let ps := (positions rows.length T).filter mask
  have hmask : ∀ p ∈ ps, mask p = true := fun p hp => (List.mem_filter.mp hp).2
  have htotal : (ps.map w).sum = count mask := hw.total
  have hcount : (1 : ℝ) ≤ count mask := by
    obtain ⟨row, rest, hcons⟩ := List.exists_cons_of_ne_nil hne
    have hmem : row ∈ rows := by rw [hcons]; exact List.mem_cons_self
    obtain ⟨i, hi⟩ := List.get_of_mem hmem
    obtain ⟨t, ht⟩ := (hrows row hmem).response
    have hp : mask (i, t) = true := by
      show (rows.get i).responseMask t = true
      rw [hi, ht]
    exact_mod_cast count_pos_of_valid hp
  obtain ⟨g, hg, hsum⟩ := exists_average
    (convex_convexHull ℝ (tokenGradients A scope teacher θ rows)) (l := ps) (w := w)
    (z := fun p => tokenGradient A scope teacher θ (rows.get p.1) p.2) (fun p _ => hw.nonneg p)
    (fun p hp => subset_convexHull ℝ _ ⟨rows.get p.1, List.get_mem rows p.1, p.2, hmask p hp, rfl⟩)
    (by rw [htotal]; linarith)
  rw [htotal] at hsum
  have hsmooth' : ∀ p ∈ ps, DifferentiableAt ℝ
      (fun θ' => tokenLoss A scope teacher θ θ' (rows.get p.1) p.2 * w p) θ :=
    fun p _ => (hsmooth _ (List.get_mem rows p.1) p.2).mul_const (w p)
  have hvalue : (fun θ' => lossValue (policyLoss A scope teacher θ θ' rows) *
      lossScaleFactor A.cfg rows.length) =
        fun θ' => (lossScaleFactor A.cfg rows.length / count mask) •
        (ps.map fun p => tokenLoss A scope teacher θ θ' (rows.get p.1) p.2 * w p).sum := by
    funext θ'
    rw [hloss, lossValue, smul_eq_mul, max_eq_left hcount]
    show (ps.map fun p => tokenLoss A scope teacher θ θ' (rows.get p.1) p.2 * w p).sum / _ * _ = _
    ring
  have hgrads : (ps.map fun p => fderiv ℝ
      (fun θ' => tokenLoss A scope teacher θ θ' (rows.get p.1) p.2 * w p) θ).sum =
        (count mask : ℝ) • g := by
    rw [← hsum]
    refine congrArg List.sum (List.map_congr_left fun p _ => ?_)
    exact fderiv_mul_const (hsmooth _ (List.get_mem rows p.1) p.2) (w p)
  refine ⟨g, hg, ?_⟩
  unfold microGradient
  rw [hloss]
  refine congrArg Except.ok ?_
  rw [hvalue]
  refine ((hasFDerivAt_sum hsmooth').const_smul
    (lossScaleFactor A.cfg rows.length / count mask)).fderiv.trans ?_
  rw [hgrads, smul_smul, div_mul_cancel₀ _ (by linarith)]

/-- A step with LookAway: the weights only say how the gradients of the tokens are averaged. The
    last mini-batch of a rank may be short. -/
theorem stepGradient_mem {n : ℕ} (h : TokenMean A scope teacher)
    (hlayout : Layout A.cfg width n minis)
    (hn : 0 < n) (hne : minis ≠ []) (hrows : ∀ row ∈ minis.flatten, Trains A row)
    (hsmooth : ∀ row ∈ minis.flatten, ∀ t,
      DifferentiableAt ℝ (fun θ' => tokenLoss A scope teacher θ θ' row t) θ) :
    ∃ g ∈ convexHull ℝ (tokenGradients A scope teacher θ minis.flatten),
      stepGradient A scope width teacher θ minis =
        .ok (((n : ℝ) / A.cfg.ppoMiniBatchSize) • g) := by
  obtain ⟨num, micro, heven, hperm, hstep⟩ := stepGradient_micro scope teacher θ hlayout hn
  have hmini : (0 : ℝ) < A.cfg.ppoMiniBatchSize := by exact_mod_cast hlayout.mini
  have hmem : ∀ rows ∈ micro.flatten, ∀ row ∈ rows, row ∈ minis.flatten :=
    fun rows hrows row hrow => hperm.subset (List.mem_flatten_of_mem hrows hrow)
  have hshare : ∀ rows ∈ micro.flatten, rows ≠ [] ∧
      lossScaleFactor A.cfg rows.length = rows.length / A.cfg.ppoMiniBatchSize := by
    intro rows hrows
    obtain ⟨microBatches, hbatches, hin⟩ := List.mem_flatten.mp hrows
    have hscale := (heven _ hbatches).2 rows hin
    have hlength : (rows.length : ℝ) ≠ 0 := by
      intro hzero
      rw [hzero, div_zero] at hscale
      exact (one_div_pos.mpr hmini).ne hscale
    refine ⟨?_, ?_⟩
    · rintro rfl
      exact hlength Nat.cast_zero
    · rw [(div_eq_iff hlength).mp hscale]
      ring
  -- every micro-batch gives an average of its tokens, and they weigh as many rows as they have
  have hmicro : ∀ rows ∈ micro.flatten, ∃ g,
      g ∈ convexHull ℝ (tokenGradients A scope teacher θ minis.flatten) ∧
        microGradient A scope teacher θ rows =
          .ok (((rows.length : ℝ) / A.cfg.ppoMiniBatchSize) • g) := by
    intro rows hrows'
    obtain ⟨g, hg, hgrad⟩ := microGradient_mem h (hshare rows hrows').1
      (fun row hrow => hrows row (hmem rows hrows' row hrow))
      (fun row hrow => hsmooth row (hmem rows hrows' row hrow))
    rw [(hshare rows hrows').2] at hgrad
    refine ⟨g, convexHull_mono ?_ hg, hgrad⟩
    rintro _ ⟨row, hrow, t, ht, rfl⟩
    exact ⟨row, hmem rows hrows' row hrow, t, ht, rfl⟩
  choose! z hz hgrad using hmicro
  have htotal : (micro.flatten.map fun rows => (rows.length : ℝ) / A.cfg.ppoMiniBatchSize).sum =
      (minis.length : ℝ) * (n / A.cfg.ppoMiniBatchSize) := by
    have hlength : minis.flatten.length = minis.length * n := by
      rw [List.length_flatten, List.sum_eq_card_nsmul _ n (by simpa using hlayout.length),
        List.length_map, smul_eq_mul]
    have hcount := sum_smul_parts (1 / (A.cfg.ppoMiniBatchSize : ℝ))
      (fun _ => (1 : ℝ)) micro.flatten
    simp only [List.map_const', List.sum_replicate, nsmul_eq_mul, mul_one, smul_eq_mul,
      one_div_mul_eq_div] at hcount
    rw [hcount, hperm.length_eq, hlength, Nat.cast_mul, mul_div_assoc]
  have hranks : (0 : ℝ) < minis.length := by exact_mod_cast List.length_pos_iff.mpr hne
  obtain ⟨g, hg, hsum⟩ := exists_average
    (convex_convexHull ℝ (tokenGradients A scope teacher θ minis.flatten)) (l := micro.flatten)
    (w := fun rows => (rows.length : ℝ) / A.cfg.ppoMiniBatchSize) (z := z)
    (fun rows _ => div_nonneg (Nat.cast_nonneg _) hmini.le) hz (by
      rw [htotal]
      exact mul_pos hranks (div_pos (by exact_mod_cast hn) hmini))
  refine ⟨g, hg, ?_⟩
  rw [hstep _ hgrad, hsum, htotal, smul_smul, ← mul_assoc, one_div_mul_cancel hranks.ne', one_mul]

/-- LookAway on the reverse divergence, without gates. -/
def contrastConfig : SelfDistillationConfig :=
  { reverseConfig with
    teacherAlwaysOn := true
    teacherImageKey := some "bbox_images"
    teacherNegImageKey := some "neg_bbox_images"
    vdGamma := 1 }

theorem stepGradient_mem_line :
    ∃ g ∈ convexHull ℝ (tokenGradients (lineActor contrastConfig "token-mean")
        (updateScope (lineActor contrastConfig "token-mean").cfg lineData) (.separate 0) 1
        lineData.ranks.flatten),
      stepGradient (lineActor contrastConfig "token-mean")
          (updateScope (lineActor contrastConfig "token-mean").cfg lineData) 4 (.separate 0) 1
          lineData.ranks =
        .ok ((((2 : ℕ) : ℝ) /
          (lineActor contrastConfig "token-mean").cfg.ppoMiniBatchSize) • g) := by
  refine stepGradient_mem ⟨rfl, rfl, rfl, ⟨fun _ => rfl, nofun⟩, fun h => ?_, rfl, rfl,
    ⟨by decide +kernel, ⟨fun _ _ => ⟨_, rfl⟩, fun _ _ => ⟨_, rfl, le_refl 2⟩⟩, nofun, rfl⟩,
    sampleFiles_nonneg⟩ (lineLayout _ _) Nat.two_pos (by simp [lineData]) (fun row => lineTrains)
    fun row _ t => differentiable_tokenLoss lineNet_differentiable rfl row t 1
  cases h.2

end LookAway.Training
