/-
  `SelfDistillationConfig` (verl/workers/config/actor.py): the fields its check and the
  weighting block read, and `__post_init__` as `postInit`.

  Floats are rationals. An error carries the text of the source's message; the value the
  source interpolates after "got" is left out. `postInit_ok` turns an accepted config into
  the facts the weighting block relies on.
-/
import Mathlib.Data.Rat.Defs
import Mathlib.Algebra.Order.Ring.Rat
import Mathlib.Tactic.Linarith

namespace LookAway.Weights

/-- Self-distillation settings, with the defaults of the source. -/
structure SelfDistillationConfig where
  fullLogitDistillation : Bool := true
  alpha : ℚ := 0
  gamma : ℚ := 1
  teacherRegularization : String := "ema"
  teacherUpdateRate : ℚ := 1 / 20
  teacherUpdateInterval : Option ℤ := none
  distillationTopk : Option ℤ := none
  distillationAddTail : Bool := true
  isClip : Option ℚ := none
  teacherAlwaysOn : Bool := false
  teacherModelSource : String := "legacy"
  teacherModelPath : Option String := none
  teacherImageKey : Option String := none
  teacherPromptMode : Option String := none
  vdGamma : ℚ := 0
  vdTau : ℚ := 2
  teacherNegImageKey : Option String := none
  vdDualSignal : Bool := false
  vdTargeted : Bool := false
  vdLambda : ℚ := 4
  vdRateCut : ℚ := 3 / 25
  vdPriorFile : Option String := none
  vdJsdGate : Bool := false
  vdJsdQ : ℚ := 1 / 2
  vdDdQ : ℚ := 9 / 10
  vdDdJsd : Bool := false
  vdDdJsdQ : ℚ := 9 / 10
  vdFreqDecay : Bool := false
  vdFreqFile : Option String := none
  vdBaseSignal : String := "dual"

/-- `ValueError` of the config check. -/
inductive ConfigError where
  | valueError (text : String)
  deriving DecidableEq, Repr

/-- Truth value of an optional string: `None` and the empty string are false. -/
def truthy : Option String → Bool
  | none => false
  | some s => s ≠ ""

/-- `if not ok: raise ValueError(text)`. -/
def require (ok : Bool) (text : String) : Except ConfigError Unit :=
  if ok then .ok () else .error (.valueError text)

theorem require_bind_ok {ok : Bool} {text : String} {k : Unit → Except ConfigError Unit} :
    (require ok text >>= k) = .ok () ↔ ok = true ∧ k () = .ok () := by
  cases ok
  · simp [require, bind, Except.bind]
  · simp [require, bind, Except.bind]

namespace SelfDistillationConfig

/-- `__post_init__`: the checks of the source, in its order. -/
def postInit (c : SelfDistillationConfig) : Except ConfigError Unit := do
  require (0 ≤ c.alpha && c.alpha ≤ 1) "self_distillation.alpha must be in [0,1]"
  require (!(c.gamma < 0)) "self_distillation.gamma must be non-negative"
  require (["ema", "trust-region", "progressive"].contains c.teacherRegularization)
    "self_distillation.teacher_regularization must be one of ['ema', 'trust-region', 'progressive']"
  require (0 ≤ c.teacherUpdateRate && c.teacherUpdateRate ≤ 1)
    "self_distillation.teacher_update_rate must be in [0,1]"
  require (c.teacherUpdateInterval.all fun n => !(n ≤ 0))
    "self_distillation.teacher_update_interval must be a positive integer when set"
  require (c.distillationTopk.all fun n => !(n ≤ 0))
    "self_distillation.distillation_topk must be a positive integer"
  require (c.isClip.all fun x => !(x ≤ 0)) "self_distillation.is_clip must be positive"
  require (!(c.vdGamma < 0)) "self_distillation.vd_gamma must be non-negative"
  require (!(c.vdTau ≤ 0)) "self_distillation.vd_tau must be positive"
  require (!(c.vdLambda < 0)) "self_distillation.vd_lambda must be non-negative"
  require (0 ≤ c.vdRateCut && c.vdRateCut ≤ 1) "self_distillation.vd_rate_cut must be in [0, 1]"
  require (!(c.vdTargeted && c.vdGamma == 0)) "vd_targeted requires vd_gamma > 0."
  require (!(c.vdTargeted && !c.vdDualSignal))
    "vd_targeted requires vd_dual_signal (extrapolation builds on the dual-signal base weight)."
  require (!(c.vdTargeted && !truthy c.vdPriorFile))
    "vd_targeted requires self_distillation.vd_prior_file."
  require (!(c.vdJsdGate && !c.vdTargeted)) "vd_jsd_gate requires vd_targeted."
  require (0 < c.vdJsdQ && c.vdJsdQ < 1) "vd_jsd_q must be in (0, 1)"
  require (!(c.vdFreqDecay && !c.vdTargeted))
    "vd_freq_decay requires vd_targeted (it reallocates the extrapolation budget)."
  require (!(c.vdFreqDecay && !truthy c.vdFreqFile))
    "vd_freq_decay requires self_distillation.vd_freq_file."
  require (0 < c.vdDdQ && c.vdDdQ < 1) "vd_dd_q must be in (0, 1)"
  require (!(c.vdDdJsd && !c.vdTargeted))
    "vd_dd_jsd requires vd_targeted (it is an OR-branch of the dd gate)."
  require (0 < c.vdDdJsdQ && c.vdDdJsdQ < 1) "vd_dd_jsd_q must be in (0, 1)"
  require (["dual", "dd"].contains c.vdBaseSignal) "vd_base_signal must be 'dual' or 'dd'"
  require (!(c.vdGamma > 0 && !c.teacherAlwaysOn))
    ("vd_gamma > 0 requires teacher_always_on=True: the negative-view teacher tensors are only " ++
      "built on the always-on teacher path.")
  require (!(c.vdGamma > 0 && !truthy c.teacherNegImageKey))
    "vd_gamma > 0 requires self_distillation.teacher_neg_image_key."
  require (c.teacherPromptMode.all fun m => m == "answer_hint")
    "self_distillation.teacher_prompt_mode must be None or 'answer_hint'"
  require (!(c.teacherAlwaysOn && !truthy c.teacherImageKey
      && c.teacherPromptMode != some "answer_hint"))
    ("self_distillation.teacher_image_key is required when teacher_always_on=True " ++
      "(unless teacher_prompt_mode='answer_hint')")
  require (["legacy", "current", "fixed"].contains c.teacherModelSource)
    "self_distillation.teacher_model_source must be one of ['legacy', 'current', 'fixed']"
  require (!(c.teacherModelSource == "fixed" && !truthy c.teacherModelPath))
    "self_distillation.teacher_model_path is required when teacher_model_source='fixed'"
  require (!(c.teacherRegularization == "progressive" && c.teacherModelSource != "legacy"))
    "self_distillation.teacher_regularization='progressive' requires teacher_model_source='legacy'"
  require (!(c.teacherRegularization == "progressive" && c.teacherUpdateInterval.isNone))
    ("self_distillation.teacher_update_interval is required when " ++
      "teacher_regularization='progressive'")

/-- The config passes its own check. -/
def Accepted (c : SelfDistillationConfig) : Prop := c.postInit = .ok ()

instance (c : SelfDistillationConfig) : Decidable c.Accepted :=
  inferInstanceAs (Decidable (c.postInit = .ok ()))

/-- What the weighting block uses of an accepted config. -/
structure BlockFacts (c : SelfDistillationConfig) : Prop where
  vdTau_pos : 0 < c.vdTau
  vdLambda_nonneg : 0 ≤ c.vdLambda
  dual_of_targeted : c.vdTargeted = true → c.vdDualSignal = true
  targeted_of_freqDecay : c.vdFreqDecay = true → c.vdTargeted = true
  priorFile_of_targeted : c.vdTargeted = true → truthy c.vdPriorFile = true
  freqFile_of_freqDecay : c.vdFreqDecay = true → truthy c.vdFreqFile = true

theorem Accepted.blockFacts {c : SelfDistillationConfig} (h : c.Accepted) : c.BlockFacts := by
  unfold Accepted postInit at h
  simp only [require_bind_ok] at h
  obtain ⟨-, -, -, -, -, -, -, -, htau, hlam, -, -, hdual, hprior, -, -, hfd, hfile, -⟩ := h
  refine ⟨?_, ?_, ?_, ?_, ?_, ?_⟩
  · simpa using htau
  · simpa using hlam
  · intro ht
    simpa [ht] using hdual
  · intro hf
    simpa [hf] using hfd
  · intro ht
    simpa [ht] using hprior
  · intro hf
    simpa [hf] using hfile

/-- The three quantile levels of an accepted config are inside the unit interval. -/
structure QuantileFacts (c : SelfDistillationConfig) : Prop where
  vdDdQ : 0 < c.vdDdQ ∧ c.vdDdQ < 1
  vdJsdQ : 0 < c.vdJsdQ ∧ c.vdJsdQ < 1
  vdDdJsdQ : 0 < c.vdDdJsdQ ∧ c.vdDdJsdQ < 1

theorem Accepted.quantileFacts {c : SelfDistillationConfig} (h : c.Accepted) :
    c.QuantileFacts := by
  unfold Accepted postInit at h
  simp only [require_bind_ok] at h
  obtain ⟨-, -, -, -, -, -, -, -, -, -, -, -, -, -, -, hjsd, -, -, hdd, -, hddJsd, -⟩ := h
  refine ⟨?_, ?_, ?_⟩
  · simpa using hdd
  · simpa using hjsd
  · simpa using hddJsd

theorem Accepted.alpha_mem {c : SelfDistillationConfig} (h : c.Accepted) :
    0 ≤ c.alpha ∧ c.alpha ≤ 1 := by
  unfold Accepted postInit at h
  simp only [require_bind_ok] at h
  obtain ⟨halpha, -⟩ := h
  simpa using halpha

/-- What the construction of the teacher inputs and the top-k forwards use of it. -/
structure TeacherFacts (c : SelfDistillationConfig) : Prop where
  vdGamma_nonneg : 0 ≤ c.vdGamma
  alwaysOn_of_vdGamma : 0 < c.vdGamma → c.teacherAlwaysOn = true
  gamma_of_targeted : c.vdTargeted = true → 0 < c.vdGamma
  targeted_of_jsdGate : c.vdJsdGate = true → c.vdTargeted = true
  targeted_of_ddJsd : c.vdDdJsd = true → c.vdTargeted = true
  topk_pos : ∀ k, c.distillationTopk = some k → 0 < k
  imageKey_of_alwaysOn : c.teacherAlwaysOn = true → c.teacherPromptMode ≠ some "answer_hint" →
    truthy c.teacherImageKey = true

theorem Accepted.teacherFacts {c : SelfDistillationConfig} (h : c.Accepted) : c.TeacherFacts := by
  unfold Accepted postInit at h
  simp only [require_bind_ok] at h
  obtain ⟨-, -, -, -, -, htopk, -, hgamma, -, -, -, htargeted, -, -, hjsd, -, -, -, -, hddJsd, -, -,
    hon, -, -, hkey, -⟩ := h
  have hnonneg : 0 ≤ c.vdGamma := by simpa using hgamma
  refine ⟨hnonneg, ?_, ?_, ?_, ?_, ?_, ?_⟩
  · intro hpos
    simpa [hpos] using hon
  · intro ht
    have hne : c.vdGamma ≠ 0 := by simpa [ht] using htargeted
    exact lt_of_le_of_ne hnonneg (Ne.symm hne)
  · intro hg
    simpa [hg] using hjsd
  · intro hd
    simpa [hd] using hddJsd
  · intro k hk
    simpa [hk] using htopk
  · intro halways hmode
    simpa [halways, hmode] using hkey

end SelfDistillationConfig

/-- The settings `scripts/run_lookaway.sh` passes, with frequency decay on (its default). -/
def launcherConfig (priorFile freqFile : String) : SelfDistillationConfig where
  alpha := 1 / 2
  distillationTopk := some 100
  isClip := some 2
  teacherAlwaysOn := true
  teacherImageKey := some "bbox_images"
  teacherNegImageKey := some "neg_bbox_images"
  vdGamma := 1
  vdDualSignal := true
  vdBaseSignal := "dd"
  vdTargeted := true
  vdPriorFile := some priorFile
  vdJsdGate := true
  vdFreqDecay := true
  vdFreqFile := some freqFile

example : (launcherConfig "priors" "freq").Accepted := by decide +kernel

end LookAway.Weights
