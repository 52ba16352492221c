/-
  generate_negative_views as a protocol of seven phases.

  `generateNegativeViews_phases`: under every schedule of failures and stops, the directory an
  observer finds is one of seven, up to the scratch files (staging, backup, temporary file,
  results.failed.json). `negativeViews_all_or_nothing` reads the guarantees off the phases.
-/
import LookAway.Data.BuildTrainset

namespace LookAway.Data

open LookAway.Base LookAway.Base.Script

/-! ## What the pool leaves -/

/-- The results the pool hands over, in completion order. -/
def poolResults (events : List PoolEvent) : List ResultRecord :=
  events.filterMap fun
    | .staged _ _ => none
    | .result r => some r

/-- The images the workers save, from a staging directory that holds `images`. -/
def stage (events : List PoolEvent) (images : ImageSet) : ImageSet :=
  events.foldl (fun acc event =>
    match event with
    | .staged name bytes => acc.insert name bytes
    | .result _ => acc) images

/-- The staging directory after a pool run: it starts empty. -/
def stagedSet (events : List PoolEvent) : ImageSet := stage events ∅

/-- The pool handed over every row exactly once, each with ok true, and saved one image a row. -/
structure PoolComplete (rows : List SourceRow) (events : List PoolEvent) : Prop where
  results : CompleteResults (sortResults (poolResults events)) rows.length
  images : (stagedSet events).keys = expectedFiles rows.length

theorem sortResults_perm (results : List ResultRecord) : (sortResults results).Perm results :=
  List.mergeSort_perm _ _

theorem PoolComplete.idx_perm {rows : List SourceRow} {events : List PoolEvent}
    (h : PoolComplete rows events) :
    ((poolResults events).map (·.idx)).Perm (List.range rows.length) := by
  rw [← h.results.1]
  exact ((sortResults_perm _).map _).symm

theorem PoolComplete.ok {rows : List SourceRow} {events : List PoolEvent}
    (h : PoolComplete rows events) {r : ResultRecord} (hr : r ∈ poolResults events) :
    r.ok = true :=
  h.results.2 r ((sortResults_perm _).mem_iff.mpr hr)

/-- The expected set has one file a row. -/
theorem expectedFiles_card (n : ℕ) : (expectedFiles n).card = n := by
  unfold expectedFiles
  rw [Finset.card_image_of_injective, Finset.card_range]
  exact imageName_injective.comp fun _ _ h => Int.ofNat.inj h

/-! ## Scratch files -/

/-- `s'` is `s` up to the files no launch reads: the staging and backup directories, the
    temporary file and results.failed.json. -/
def Scratch (s s' : DataDir) : Prop :=
  ∃ staging backup temp failed, s' =
    { s with staging := staging, backup := backup, temp := temp, resultsFailed := failed }

theorem Scratch.refl (s : DataDir) : Scratch s s := ⟨_, _, _, _, rfl⟩

theorem keeps_writeFailedResults (s : DataDir) (results : List ResultRecord) :
    Keeps (Scratch s) (writeFailedResults results) := by
  have hstep : ∀ f : DataDir → DataDir, (∀ t, Scratch t (f t)) →
      ∀ t, Scratch s t → Scratch s (f t) := by
    rintro f hf t ⟨a, b, c, d, rfl⟩
    obtain ⟨a', b', c', d', h⟩ := hf _
    exact ⟨a', b', c', d', h⟩
  refine keeps_tryFinally (keeps_bind (keeps_atomic (hstep _ fun t => ⟨_, _, _, _, rfl⟩)) fun _ =>
    keeps_bind (keeps_atomic (hstep _ fun t => ⟨_, _, _, _, rfl⟩)) fun _ =>
      keeps_atomic (hstep _ fun t => ⟨_, _, _, _, rfl⟩))
    (keeps_atomic (hstep _ fun t => ⟨_, _, _, _, rfl⟩))

theorem keeps_discardStaging (s : DataDir) : Keeps (Scratch s) discardStaging := by
  refine keeps_tryExcept (keeps_write ?_ ?_) fun _ => keeps_pure ()
  · rintro t ⟨a, b, c, d, rfl⟩
    exact ⟨_, _, _, _, rfl⟩
  · exact fun _ t h => h

/-! ## Before the invalidation -/

/-- The pool loop changes the staging directory only, and collects the results in order. -/
theorem wp_collectResults (events : List PoolEvent) (results : List ResultRecord) (s : DataDir) :
    wp (collectResults events results)
      (fun out s' => out = results ++ poolResults events ∧
        s' = { s with staging := s.staging.map (stage events) })
      (fun _ => Scratch s) (Scratch s) s := by
  induction events generalizing results s with
  | nil =>
      refine wp_pure ⟨by simp [poolResults], ?_⟩
      have : s.staging.map (stage []) = s.staging := by
        cases s.staging <;> rfl
      rw [this]
  | cons event events ih =>
      cases event with
      | staged name bytes =>
          refine wp_bind (wp_write (fun e n => ⟨_, _, _, _, rfl⟩) (fun n => ⟨_, _, _, _, rfl⟩) ?_)
          refine wp_mono (ih results _) ?_ ?_ ?_
          · rintro out s' ⟨rfl, rfl⟩
            refine ⟨rfl, ?_⟩
            simp only [Option.map_map]
            rfl
          · rintro e s' ⟨a, b, c, d, rfl⟩
            exact ⟨a, b, c, d, rfl⟩
          · rintro s' ⟨a, b, c, d, rfl⟩
            exact ⟨a, b, c, d, rfl⟩
      | result r =>
          refine wp_bind (wp_atomic (fun _ => Scratch.refl s) (Scratch.refl s) ?_)
          refine wp_mono (ih (results ++ [r]) s) ?_ (fun _ _ h => h) (fun _ h => h)
          rintro out s' ⟨rfl, rfl⟩
          refine ⟨?_, rfl⟩
          rw [List.append_assoc]
          rfl

/-- The checks pass only on a complete pool run, and then the staging directory holds it. -/
theorem wp_checkedResults (rows : List SourceRow) (pool : PoolRun) (s : DataDir)
    (hs : s.staging = some ∅) :
    wp (checkedResults rows pool)
      (fun out s' => out = sortResults (poolResults (pool rows s.image?)) ∧
        PoolComplete rows (pool rows s.image?) ∧
        s' = { s with staging := some (stagedSet (pool rows s.image?)) })
      (fun _ => Scratch s) (Scratch s) s := by
  refine wp_bind (wp_read (fun _ => Scratch.refl s) (Scratch.refl s) ?_)
  intro events hev
  cases hev
  refine wp_bind (wp_mono (wp_collectResults _ [] s) ?_ (fun _ _ h => h) (fun _ h => h))
  rintro collected s' ⟨rfl, rfl⟩
  rw [List.nil_append, hs]
  have hscratch : Scratch s { s with staging := (some ∅).map (stage (pool rows s.image?)) } :=
    ⟨_, _, _, _, rfl⟩
  have hfail : ∀ e : PyError, ∀ t, Scratch s t →
      wp (raise e : Py (List ResultRecord))
        (fun out s' => out = sortResults (poolResults (pool rows s.image?)) ∧
          PoolComplete rows (pool rows s.image?) ∧
          s' = { s with staging := some (stagedSet (pool rows s.image?)) })
        (fun _ => Scratch s) (Scratch s) t := fun e t ht => wp_raise ht
  dsimp only
  split
  · rename_i hresults
    refine wp_bind (wp_read (fun _ => hscratch) hscratch ?_)
    intro actual hactual
    cases hactual
    split
    · rename_i himages
      exact wp_pure ⟨rfl, ⟨hresults, himages⟩, rfl⟩
    · exact wp_bind (wp_mono (keeps_writeFailedResults s _ _ hscratch) (fun _ => hfail _)
        (fun _ _ h => h) (fun _ h => h))
  · exact wp_bind (wp_mono (keeps_writeFailedResults s _ _ hscratch) (fun _ => hfail _)
      (fun _ _ h => h) (fun _ h => h))

/-! ## The phases -/

/-- How far a run has come. -/
inductive Phase where
  | untouched
  | parquetStale
  | priorsStale
  | manifestStale
  | negativesAbsent
  | negativesNew
  | manifestNew
  deriving DecidableEq

def invalidated (s : DataDir) : DataDir :=
  markManifestStale (markPriorsStale (markParquetStale (beginGeneration s)))

/-- The directory in a phase, from the directory `s` at the start, the new images and the new
    results. -/
def Phase.dir (s : DataDir) (new : ImageSet) (results : List ResultRecord) : Phase → DataDir
  | .untouched => s
  | .parquetStale => markParquetStale (beginGeneration s)
  | .priorsStale => markPriorsStale (markParquetStale (beginGeneration s))
  | .manifestStale => invalidated s
  | .negativesAbsent => { invalidated s with teacherNeg := none }
  | .negativesNew => { invalidated s with teacherNeg := some new }
  | .manifestNew => { invalidated s with
      teacherNeg := some new, manifest := some (.complete results) }

/-- `s'` is in a phase of the publication, up to scratch files. -/
def InPhase (s : DataDir) (new : ImageSet) (results : List ResultRecord) (s' : DataDir) : Prop :=
  ∃ p : Phase, Scratch (p.dir s new results) s'

section Publication

variable {s : DataDir} {new : ImageSet} {results : List ResultRecord}

theorem Scratch.inPhase {s' : DataDir} (p : Phase) (h : Scratch (p.dir s new results) s') :
    InPhase s new results s' := ⟨p, h⟩

/-- The stale marks touch no scratch file. -/
theorem Scratch.parquetStale {t : DataDir} (h : Scratch s t) :
    Scratch (markParquetStale (beginGeneration s)) (markParquetStale (beginGeneration t)) := by
  obtain ⟨a, b, c, d, rfl⟩ := h
  exact ⟨a, b, c, d, rfl⟩

theorem Scratch.priorsStale {t : DataDir} (h : Scratch s t) :
    Scratch (markPriorsStale s) (markPriorsStale t) := by
  obtain ⟨a, b, c, d, rfl⟩ := h
  exact ⟨a, b, c, d, rfl⟩

theorem Scratch.manifestStale {t : DataDir} (h : Scratch s t) :
    Scratch (markManifestStale s) (markManifestStale t) := by
  obtain ⟨a, b, c, d, rfl⟩ := h
  exact ⟨a, b, c, d, rfl⟩

theorem wp_invalidate {t : DataDir} (h : Scratch s t) :
    wp invalidateTrainingArtifacts (fun _ t' => t' = invalidated t) (fun _ => InPhase s new results)
      (InPhase s new results) t := by
  have h0 : InPhase s new results t := h.inPhase .untouched
  have h1 : InPhase s new results (markParquetStale (beginGeneration t)) :=
    Scratch.inPhase .parquetStale h.parquetStale
  have h2 : InPhase s new results (markPriorsStale (markParquetStale (beginGeneration t))) :=
    Scratch.inPhase .priorsStale h.parquetStale.priorsStale
  exact wp_bind (wp_atomic (fun _ => h0) h0
    (wp_bind (wp_atomic (fun _ => h1) h1 (wp_atomic (fun _ => h2) h2 rfl))))

theorem wp_invalidate_done (t : DataDir) :
    wp invalidateTrainingArtifacts (fun _ t' => t' = invalidated t) (fun _ _ => True)
      (fun _ => True) t :=
  wp_bind (wp_atomic (fun _ => trivial) trivial
    (wp_bind (wp_atomic (fun _ => trivial) trivial (wp_atomic (fun _ => trivial) trivial rfl))))

/-- What an exit of publish_negative_views leaves when it does not return. -/
def PublishExit (t : DataDir) (new : ImageSet) (t' : DataDir) : Prop :=
  Scratch t t' ∨ Scratch { t with teacherNeg := none } t' ∨
    Scratch { t with teacherNeg := some new } t'

/-- The rename of the staging directory, when no old set is in the way: `u` is the directory
    without one, and the handler of a failed rename is `handler`. -/
theorem wp_moveStaging {t u : DataDir} {handler : PyError → Py Unit}
    (hu : u.staging = some new) (hexit : PublishExit t new u)
    (hnew : Scratch { t with teacherNeg := some new }
      { u with teacherNeg := some new, staging := none })
    (hhandler : ∀ e, wp (handler e)
      (fun _ => Scratch { t with teacherNeg := some new }) (fun _ => PublishExit t new)
      (PublishExit t new) u) :
    wp (tryExcept moveStaging PyError.isException handler)
      (fun _ => Scratch { t with teacherNeg := some new }) (fun _ => PublishExit t new)
      (PublishExit t new) u := by
  refine wp_tryExcept (wp_act ?_ (fun _ => hexit) ?_ ?_)
  · exact fun e _ => ⟨fun _ => hhandler e, fun _ => hexit⟩
  · intro a t' ht'
    rw [hu] at ht'
    cases ht'
    exact hnew
  · intro e ht'
    rw [hu] at ht'
    cases ht'

/-- publish_negative_views puts the new set in place, or leaves the old set, no set or the new
    set. -/
theorem wp_publish {t : DataDir} (hs : t.staging = some new) :
    wp publishNegativeViews (fun _ => Scratch { t with teacherNeg := some new })
      (fun _ => PublishExit t new) (PublishExit t new) t := by
  have hold : PublishExit t new t := .inl (Scratch.refl t)
  have hdone : ∀ t', Scratch { t with teacherNeg := some new } t' → PublishExit t new t' :=
    fun _ h => .inr (.inr h)
  refine wp_bind (wp_read (fun _ => hold) hold ?_)
  intro hasTarget htarget
  cases htarget
  cases hneg : t.teacherNeg with
  | none =>
      exact wp_moveStaging hs hold ⟨_, _, _, _, rfl⟩ fun e => wp_raise hold
  | some old =>
      have hb : ∀ b, PublishExit t new { t with backup := b } :=
        fun b => .inl ⟨_, _, _, _, rfl⟩
      -- the old set is in the backup directory
      have haway : PublishExit t new
          { t with backup := t.teacherNeg, teacherNeg := none } := .inr (.inl ⟨_, _, _, _, rfl⟩)
      refine wp_bind (wp_bind (wp_atomic (fun _ => hold) hold (wp_bind
        (wp_atomic (fun _ => hb _) (hb _) (wp_atomic (fun _ => hb _) (hb _) ?_)))))
      refine wp_bind (wp_mono (wp_moveStaging (t := t) hs haway ⟨_, _, _, _, rfl⟩ ?_) ?_
        (fun _ _ h => h) (fun _ h => h))
      · exact fun e => wp_bind (wp_atomic (fun _ => haway) haway
          (wp_raise (.inl ⟨_, _, _, _, rfl⟩)))
      · intro _ t' ht'
        refine wp_write (fun _ _ => hdone _ ht') (fun _ => hdone _ ht') ?_
        obtain ⟨a, b, c, d, rfl⟩ := ht'
        exact ⟨_, _, _, _, rfl⟩

theorem wp_writeManifest {t : DataDir} (ht : Scratch (Phase.negativesNew.dir s new results) t) :
    wp (writeManifest results) (fun _ => Scratch (Phase.manifestNew.dir s new results))
      (fun _ => InPhase s new results) (InPhase s new results) t := by
  have h0 : ∀ {t'}, Scratch (Phase.negativesNew.dir s new results) t' → InPhase s new results t' :=
    fun h => h.inPhase .negativesNew
  obtain ⟨a, b, c, d, rfl⟩ := ht
  have htemp : ∀ {t'}, Scratch (Phase.manifestNew.dir s new results) t' →
      wp removeTemp (fun _ => Scratch (Phase.manifestNew.dir s new results))
        (fun _ => InPhase s new results) (InPhase s new results) t' := by
    rintro t' ⟨a', b', c', d', rfl⟩
    exact wp_atomic (fun _ => Scratch.inPhase .manifestNew ⟨_, _, _, _, rfl⟩)
      (Scratch.inPhase .manifestNew ⟨_, _, _, _, rfl⟩) ⟨_, _, _, _, rfl⟩
  have hclean : ∀ {t'}, Scratch (Phase.negativesNew.dir s new results) t' →
      wp removeTemp (fun _ => InPhase s new results) (fun _ => InPhase s new results)
        (InPhase s new results) t' := by
    rintro t' ⟨a', b', c', d', rfl⟩
    exact wp_atomic (fun _ => h0 ⟨_, _, _, _, rfl⟩) (h0 ⟨_, _, _, _, rfl⟩) (h0 ⟨_, _, _, _, rfl⟩)
  refine wp_tryFinally (wp_bind (wp_atomic (fun _ => hclean ⟨_, _, _, _, rfl⟩)
    (h0 ⟨_, _, _, _, rfl⟩) (wp_bind (wp_atomic (fun _ => hclean ⟨_, _, _, _, rfl⟩)
      (h0 ⟨_, _, _, _, rfl⟩) (wp_atomic (fun _ => hclean ⟨_, _, _, _, rfl⟩)
        (h0 ⟨_, _, _, _, rfl⟩) (htemp ⟨_, _, _, _, rfl⟩))))))

theorem wp_publishResults {t : DataDir} (h : Scratch s t) (hs : t.staging = some new) :
    wp (publishResults results)
      (fun out t' => out = results ∧ Scratch (Phase.manifestNew.dir s new results) t')
      (fun _ => InPhase s new results) (InPhase s new results) t := by
  have hinv : Scratch (invalidated s) (invalidated t) :=
    h.parquetStale.priorsStale.manifestStale
  have hexit : ∀ t', PublishExit (invalidated t) new t' → InPhase s new results t' := by
    obtain ⟨a, b, c, d, hinv⟩ := hinv
    rw [hinv]
    rintro t' (⟨a', b', c', d', rfl⟩ | ⟨a', b', c', d', rfl⟩ | ⟨a', b', c', d', rfl⟩)
    · exact Scratch.inPhase .manifestStale ⟨_, _, _, _, rfl⟩
    · exact Scratch.inPhase .negativesAbsent ⟨_, _, _, _, rfl⟩
    · exact Scratch.inPhase .negativesNew ⟨_, _, _, _, rfl⟩
  refine wp_bind (wp_mono (wp_invalidate h) ?_ (fun _ _ h => h) (fun _ h => h))
  rintro _ t' rfl
  have hs' : (invalidated t).staging = some new := hs
  refine wp_bind (wp_mono (wp_publish hs') ?_ (fun _ _ h => hexit _ h) hexit)
  intro _ t' ht'
  have hnew : Scratch (Phase.negativesNew.dir s new results) t' := by
    obtain ⟨a, b, c, d, hinv⟩ := hinv
    rw [hinv] at ht'
    obtain ⟨a', b', c', d', rfl⟩ := ht'
    exact ⟨_, _, _, _, rfl⟩
  refine wp_bind (wp_mono (wp_writeManifest hnew) ?_ (fun _ _ h => h) (fun _ h => h))
  intro _ t'' hm
  refine wp_bind (wp_atomic (fun _ => hm.inPhase .manifestNew) (hm.inPhase .manifestNew) ?_)
  obtain ⟨a, b, c, d, rfl⟩ := hm
  exact wp_pure ⟨rfl, ⟨_, _, _, _, rfl⟩⟩

end Publication

/-! ## The whole run -/

/-- What a run that does not return leaves: nothing but scratch files, or a phase of the
    publication of a complete pool run. -/
def Interrupted (pool : PoolRun) (s s' : DataDir) : Prop :=
  Scratch s s' ∨ ∃ rows, readRows s = .ok rows ∧ PoolComplete rows (pool rows s.image?) ∧
    InPhase s (stagedSet (pool rows s.image?))
      (sortResults (poolResults (pool rows s.image?))) s'

/-- What a run that returns `out` leaves. -/
def Finished (pool : PoolRun) (s : DataDir) (out : List ResultRecord) (s' : DataDir) : Prop :=
  ∃ rows, readRows s = .ok rows ∧ PoolComplete rows (pool rows s.image?) ∧
    out = sortResults (poolResults (pool rows s.image?)) ∧
    Scratch (Phase.manifestNew.dir s (stagedSet (pool rows s.image?)) out) s'

theorem wp_startStaging (s : DataDir) :
    wp startStaging (fun rows s' => readRows s = .ok rows ∧ s' = { s with staging := some ∅ })
      (fun _ => Scratch s) (Scratch s) s := by
  have hs := Scratch.refl s
  refine wp_bind (wp_read (fun _ => hs) hs ?_)
  intro rows hrows
  split
  · exact wp_raise hs
  · exact wp_bind (wp_atomic (fun _ => hs) hs (wp_pure ⟨hrows, rfl⟩))

/-- Every exit of generate_negative_views is in one of the seven phases. -/
theorem generateNegativeViews_phases (pool : PoolRun) (s : DataDir) :
    wp (generateNegativeViews pool) (Finished pool s) (fun _ => Interrupted pool s)
      (Interrupted pool s) s := by
  refine wp_bind (wp_mono (wp_startStaging s) ?_ (fun _ _ h => .inl h) (fun _ h => .inl h))
  rintro rows s₀ ⟨hrows, rfl⟩
  have hclean : ∀ t s', Scratch t s' →
      wp discardStaging (fun _ => Scratch t) (fun _ => Scratch t) (Scratch t) s' :=
    fun t s' h => keeps_discardStaging t s' h
  have hinterrupted : ∀ s', Interrupted pool s s' →
      wp discardStaging (fun _ => Interrupted pool s) (fun _ => Interrupted pool s)
        (Interrupted pool s) s' := by
    rintro s' (h | ⟨rows', hrows', hcomplete, p, h⟩)
    · exact wp_mono (hclean _ _ h) (fun _ _ h => .inl h) (fun _ _ h => .inl h) (fun _ h => .inl h)
    · have hp : ∀ t, Scratch (p.dir s _ _) t → Interrupted pool s t :=
        fun t ht => .inr ⟨rows', hrows', hcomplete, p, ht⟩
      exact wp_mono (hclean _ _ h) (fun _ => hp) (fun _ => hp) hp
  have hscratch : ∀ s', Scratch { s with staging := some ∅ } s' → Interrupted pool s s' := by
    rintro s' ⟨a, b, c, d, rfl⟩
    exact .inl ⟨_, _, _, _, rfl⟩
  refine wp_tryFinally (wp_bind (wp_mono (wp_checkedResults rows pool _ rfl) ?_
    (fun _ _ h => hinterrupted _ (hscratch _ h)) hscratch))
  rintro results s₁ ⟨rfl, hcomplete, rfl⟩
  have hphase : ∀ t, InPhase s (stagedSet (pool rows s.image?))
      (sortResults (poolResults (pool rows s.image?))) t → Interrupted pool s t :=
    fun t ht => .inr ⟨rows, hrows, hcomplete, ht⟩
  refine wp_mono (wp_publishResults (s := s) ⟨_, _, _, _, rfl⟩ rfl) ?_
    (fun _ t h => hinterrupted t (hphase t h)) hphase
  rintro out t ⟨rfl, ht⟩
  refine wp_mono (hclean _ _ ht) ?_ (fun _ t h => hphase t ⟨_, h⟩) (fun t h => hphase t ⟨_, h⟩)
  exact fun _ t h => ⟨rows, hrows, hcomplete, rfl, h⟩

/-! ## All or nothing -/

/-- The guarantees about a directory `s'` a run that began in `s` has left. The generation
    counter moves in the first step of the invalidation. -/
structure AllOrNothing (pool : PoolRun) (s s' : DataDir) : Prop where
  /-- Before the invalidation nothing a launch reads has changed. -/
  untouched : s'.generation = s.generation → s'.teacherNeg = s.teacherNeg ∧
    s'.parquet = s.parquet ∧ s'.priors = s.priors ∧ s'.manifest = s.manifest
  /-- teacher_neg/ is the old set, absent, or the complete set of this run. -/
  whole : s'.teacherNeg = s.teacherNeg ∨ s'.teacherNeg = none ∨
    ∃ rows, readRows s = .ok rows ∧ s'.teacherNeg = some (stagedSet (pool rows s.image?)) ∧
      (stagedSet (pool rows s.image?)).keys = expectedFiles rows.length ∧
      (stagedSet (pool rows s.image?)).keys.card = rows.length
  /-- No old artifact stands next to a set that is not the old one. -/
  guarded : s'.teacherNeg ≠ s.teacherNeg → s'.parquet = none ∧ s'.priors = none ∧
    (s'.manifest = none ∨ ∃ rows, readRows s = .ok rows ∧
      s'.manifest = some (.complete (sortResults (poolResults (pool rows s.image?)))))

theorem allOrNothing_of_phase {pool : PoolRun} {s s' : DataDir} {rows : List SourceRow}
    (hrows : readRows s = .ok rows) (hcomplete : PoolComplete rows (pool rows s.image?))
    (h : InPhase s (stagedSet (pool rows s.image?))
      (sortResults (poolResults (pool rows s.image?))) s') : AllOrNothing pool s s' := by
  obtain ⟨p, a, b, c, d, rfl⟩ := h
  have hlater : (invalidated s).generation ≠ s.generation := Nat.succ_ne_self _
  have hcard : (stagedSet (pool rows s.image?)).keys.card = rows.length := by
    rw [hcomplete.images, expectedFiles_card]
  cases p with
  | untouched => exact ⟨fun _ => ⟨rfl, rfl, rfl, rfl⟩, .inl rfl, fun h => absurd rfl h⟩
  | parquetStale => exact ⟨fun h => absurd h hlater, .inl rfl, fun h => absurd rfl h⟩
  | priorsStale => exact ⟨fun h => absurd h hlater, .inl rfl, fun h => absurd rfl h⟩
  | manifestStale => exact ⟨fun h => absurd h hlater, .inl rfl, fun h => absurd rfl h⟩
  | negativesAbsent =>
      exact ⟨fun h => absurd h hlater, .inr (.inl rfl), fun _ => ⟨rfl, rfl, .inl rfl⟩⟩
  | negativesNew =>
      exact ⟨fun h => absurd h hlater, .inr (.inr ⟨rows, hrows, rfl, hcomplete.images, hcard⟩),
        fun _ => ⟨rfl, rfl, .inl rfl⟩⟩
  | manifestNew =>
      exact ⟨fun h => absurd h hlater, .inr (.inr ⟨rows, hrows, rfl, hcomplete.images, hcard⟩),
        fun _ => ⟨rfl, rfl, .inr ⟨rows, hrows, rfl⟩⟩⟩

theorem Interrupted.allOrNothing {pool : PoolRun} {s s' : DataDir} (h : Interrupted pool s s') :
    AllOrNothing pool s s' := by
  rcases h with ⟨a, b, c, d, rfl⟩ | ⟨rows, hrows, hcomplete, h⟩
  · exact ⟨fun _ => ⟨rfl, rfl, rfl, rfl⟩, .inl rfl, fun h => absurd rfl h⟩
  · exact allOrNothing_of_phase hrows hcomplete h

/-- In this run an old set stands in the way, the rename of the staging directory raises, and the
    rename that puts the old set back goes through. The first three verdicts after the check for
    an old set are for mkdtemp, rmdir and the rename of the old set. -/
def MoveRollsBack (pool : PoolRun) (faults : List (Verdict PyError)) (s : DataDir) : Prop :=
  s.teacherNeg.isSome ∧ ∃ rows f₀ s₀ results f₁ s₁ f₂ s₂ e n,
    startStaging.run faults s = ⟨.done rows, f₀, s₀⟩ ∧
    (checkedResults rows pool).run f₀ s₀ = ⟨.done results, f₁, s₁⟩ ∧
    invalidateTrainingArtifacts.run f₁ s₁ =
      ⟨.done (), [.proceed, .proceed, .proceed, .proceed, .fail e n, .proceed] ++ f₂, s₂⟩ ∧
    e.isException = true

theorem publish_rolls_back {s : DataDir} {old : ImageSet} {e : PyError} {n : ℕ}
    {rest : List (Verdict PyError)} (hs : s.teacherNeg = some old) (he : e.isException = true) :
    publishNegativeViews.run
        ([.proceed, .proceed, .proceed, .proceed, .fail e n, .proceed] ++ rest) s =
      ⟨.raised e, rest, { s with backup := none }⟩ := by
  have hmove : (tryExcept moveStaging PyError.isException restoreBackup).run
      ([.fail e n, .proceed] ++ rest) { s with backup := s.teacherNeg, teacherNeg := none } =
      ⟨.raised e, rest, { s with backup := none }⟩ := by
    show (if e.isException then _ else _) = _
    rw [if_pos he]
    rfl
  have hbody : (do
      moveTargetAway
      tryExcept moveStaging PyError.isException restoreBackup
      removeBackup : Py Unit).run ([.proceed, .proceed, .proceed, .fail e n, .proceed] ++ rest) s =
      ⟨.raised e, rest, { s with backup := none }⟩ := by
    refine Eq.trans (run_bind_done rfl) ?_
    exact run_bind_raised hmove
  have hsome : s.teacherNeg.isSome = true := by
    rw [hs]
    rfl
  unfold publishNegativeViews
  refine Eq.trans (run_bind_done rfl) ?_
  rw [hsome, if_pos rfl]
  exact hbody

theorem rolls_back_to_old {pool : PoolRun} {faults : List (Verdict PyError)} {s : DataDir}
    (h : MoveRollsBack pool faults s) :
    ((generateNegativeViews pool).run faults s).state.teacherNeg = s.teacherNeg := by
  obtain ⟨hold, rows, f₀, s₀, results, f₁, s₁, f₂, s₂, e, n, hstart, hcheck, hinv, he⟩ := h
  obtain ⟨old, hold⟩ := Option.isSome_iff_exists.mp hold
  obtain ⟨_, rfl⟩ := wp.of_run (wp_startStaging s) hstart
  obtain ⟨_, _, rfl⟩ := wp.of_run (wp_checkedResults rows pool _ rfl) hcheck
  have hs₂ := wp.of_run (wp_invalidate_done _) hinv
  have hneg : s₂.teacherNeg = some old := by
    rw [hs₂]
    exact hold
  have hbody : (do
      let results ← checkedResults rows pool
      publishResults results : Py (List ResultRecord)).run f₀ { s with staging := some ∅ } =
      ⟨.raised e, f₂, { s₂ with backup := none }⟩ := by
    rw [run_bind_done hcheck]
    unfold publishResults
    rw [run_bind_done hinv, run_bind_raised (publish_rolls_back hneg he)]
  unfold generateNegativeViews
  rw [run_bind_done hstart, run_tryFinally_raised hbody, hold]
  have hkeeps : Keeps (fun t : DataDir => t.teacherNeg = some old)
      (discardStaging >>= fun _ => (raise e : Py (List ResultRecord))) :=
    keeps_bind (keeps_tryExcept (keeps_write (fun _ h => h) fun _ _ h => h) fun _ => keeps_pure ())
      fun _ => keeps_raise e
  exact wp.state (hkeeps { s₂ with backup := none } hneg) f₂

/-- **Negative-view generation is all or nothing**: for every dataset, pool run and schedule of
    failures and stops. It returns only if every row occurs exactly once with ok true. -/
theorem negativeViews_all_or_nothing (pool : PoolRun) (faults : List (Verdict PyError))
    (s : DataDir) :
    AllOrNothing pool s ((generateNegativeViews pool).run faults s).state ∧
    (MoveRollsBack pool faults s →
      ((generateNegativeViews pool).run faults s).state.teacherNeg = s.teacherNeg) ∧
    ∀ out, ((generateNegativeViews pool).run faults s).outcome = .done out →
      ∃ rows, readRows s = .ok rows ∧
        ((poolResults (pool rows s.image?)).map (·.idx)).Perm (List.range rows.length) ∧
        ∀ r ∈ poolResults (pool rows s.image?), r.ok = true := by
  have hwp := generateNegativeViews_phases pool s
  refine ⟨wp.state (wp_mono hwp ?_ (fun _ _ h => h.allOrNothing) (fun _ h => h.allOrNothing))
    faults, rolls_back_to_old, ?_⟩
  · rintro out s' ⟨rows, hrows, hcomplete, rfl, h⟩
    exact allOrNothing_of_phase hrows hcomplete ⟨_, h⟩
  · intro out hout
    obtain ⟨rows, hrows, hcomplete, _, _⟩ := wp.done hwp hout
    exact ⟨rows, hrows, hcomplete.idx_perm, fun _ hr => hcomplete.ok hr⟩

end LookAway.Data
