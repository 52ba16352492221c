/-
  A build that meets no failure returns: `finishes_prepareStage`. Its pool run has to be complete,
  and its rows have to convert.
-/
import LookAway.Data.NegativeViews

namespace LookAway.Data

open LookAway.Base LookAway.Base.Script

theorem finishes_writeJsonAtomic (replace : DataDir → DataDir) (s : DataDir) :
    Finishes (writeJsonAtomic replace) s ()
      { replace { s with temp := false } with temp := false } :=
  .tryFinally ((finishes_atomic _ s).bind ((finishes_atomic id _).bind (finishes_atomic _ _)))
    (finishes_atomic _ _)

theorem finishes_collectResults (events : List PoolEvent) (results : List ResultRecord)
    (s : DataDir) :
    Finishes (collectResults events results) s (results ++ poolResults events)
      { s with staging := s.staging.map (stage events) } := by
  induction events generalizing results s with
  | nil =>
      have : s.staging.map (stage []) = s.staging := by
        cases s.staging <;> rfl
      rw [this, show poolResults [] = [] from rfl, List.append_nil]
      exact finishes_pure results s
  | cons event events ih =>
      cases event with
      | staged name bytes =>
          have h := ih results { s with staging := s.staging.map (·.insert name bytes) }
          rw [Option.map_map] at h
          exact (finishes_write _ _ s).bind h
      | result r =>
          have h := ih (results ++ [r]) s
          rw [List.append_assoc] at h
          exact (finishes_atomic id s).bind h

section Publication

variable {s : DataDir} {new : ImageSet} {results : List ResultRecord}

theorem finishes_publishNegativeViews (h : s.staging = some new) :
    Finishes publishNegativeViews s () { s with
      staging := none
      teacherNeg := some new
      backup := if s.teacherNeg.isSome then none else s.backup } := by
  have hmove : ∀ t : DataDir, t.staging = some new →
      Finishes moveStaging t () { t with teacherNeg := some new, staging := none } := by
    intro t ht
    refine finishes_act ?_
    rw [ht]
  refine .bind (finishes_read rfl) ?_
  cases hneg : s.teacherNeg.isSome with
  | false =>
      rw [if_neg Bool.false_ne_true, if_neg Bool.false_ne_true]
      exact (hmove s h).tryExcept
  | true =>
      rw [if_pos rfl, if_pos rfl]
      have haway : Finishes moveTargetAway s ()
          { s with backup := s.teacherNeg, teacherNeg := none } :=
        (finishes_atomic _ s).bind ((finishes_atomic _ _).bind (finishes_atomic _ _))
      have hmoved := hmove { s with backup := s.teacherNeg, teacherNeg := none } h
      exact haway.bind (hmoved.tryExcept.bind (finishes_write _ _ _))

/-- The directory a complete run of generate_negative_views leaves. -/
def published (s : DataDir) (new : ImageSet) (results : List ResultRecord) : DataDir :=
  { invalidated s with
    staging := none
    teacherNeg := some new
    backup := if s.teacherNeg.isSome then none else s.backup
    temp := false
    manifest := some (.complete results)
    resultsFailed := none }

variable (results) in
/-- The steps after the invalidation, from any directory. -/
theorem finishes_publishStaged (h : s.staging = some new) :
    Finishes (do
        publishNegativeViews
        writeManifest results
        (atomic fun s => { s with resultsFailed := none } : Py Unit)
        return results) s results { s with
      staging := none
      teacherNeg := some new
      backup := if s.teacherNeg.isSome then none else s.backup
      temp := false
      manifest := some (.complete results)
      resultsFailed := none } :=
  (finishes_publishNegativeViews h).bind
    ((finishes_writeJsonAtomic _ _).bind ((finishes_atomic _ _).bind (finishes_pure results _)))

theorem finishes_publishResults (h : s.staging = some new) :
    Finishes (publishResults results) s results (published s new results) := by
  have hinvalidate : Finishes invalidateTrainingArtifacts s () (invalidated s) :=
    (finishes_atomic _ s).bind ((finishes_atomic _ _).bind (finishes_atomic _ _))
  have hstaging : (invalidated s).staging = some new := h
  have hneg : (invalidated s).teacherNeg = s.teacherNeg := rfl
  have hbackup : (invalidated s).backup = s.backup := rfl
  have hstaged := finishes_publishStaged results hstaging
  rw [hneg, hbackup] at hstaged
  exact hinvalidate.bind hstaged

end Publication

section Build

variable {pool : PoolRun} {s : DataDir} {rows : List SourceRow}

/-- A complete pool run passes the checks. -/
theorem finishes_checkedResults (hc : PoolComplete rows (pool rows s.image?))
    (hs : s.staging = some ∅) :
    Finishes (checkedResults rows pool) s (sortResults (poolResults (pool rows s.image?)))
      { s with staging := some (stagedSet (pool rows s.image?)) } := by
  refine .bind (finishes_read rfl) (.bind (finishes_collectResults _ [] s) ?_)
  dsimp only
  rw [List.nil_append, if_pos hc.results, hs]
  refine .bind (finishes_read rfl) ?_
  change Finishes (if (stagedSet (pool rows s.image?)).keys = expectedFiles rows.length then _
    else _) _ _ _
  rw [if_pos hc.images]
  exact finishes_pure _ _

theorem finishes_generateNegativeViews (hrows : readRows s = .ok rows) (hne : rows ≠ [])
    (hc : PoolComplete rows (pool rows s.image?)) :
    Finishes (generateNegativeViews pool) s (sortResults (poolResults (pool rows s.image?)))
      (published s (stagedSet (pool rows s.image?))
        (sortResults (poolResults (pool rows s.image?)))) := by
  have hstart : Finishes startStaging s rows { s with staging := some ∅ } := by
    refine .bind (finishes_read hrows) ?_
    rw [if_neg hne]
    exact (finishes_atomic _ s).bind (finishes_pure rows _)
  have hchecked := finishes_checkedResults (s := { s with staging := some ∅ }) hc rfl
  refine hstart.bind (.tryFinally (hchecked.bind (finishes_publishResults rfl)) ?_)
  exact (finishes_write _ _ _).tryExcept

theorem finishes_convertToParquet {lines : List JsonlLine} {results : List ResultRecord}
    {records : List TrainRecord} (hlines : s.jsonl = some lines)
    (hrecords : parquetRecords s.root.1 lines results = .ok records) :
    Finishes (convertToParquet results) s () { s with
      temp := false
      parquet := some ⟨.complete records, s.generation, s.view⟩ } := by
  refine .bind (a := records) (finishes_read ?_) (.tryFinally ((finishes_atomic _ _).bind
    (finishes_atomic _ _)) (finishes_atomic _ _))
  rw [hlines]
  exact hrecords

/-- The directory a complete build leaves. -/
def rebuilt (s : DataDir) (new : ImageSet) (results : List ResultRecord)
    (records : List TrainRecord) : DataDir :=
  let t := published s new results
  markFreqCountsStale (markPriorsStale
    { t with parquet := some ⟨.complete records, t.generation, t.view⟩ })

/-- A build with a complete pool run returns. -/
theorem finishes_prepareStage {lines : List JsonlLine} {records : List TrainRecord}
    (hlines : s.jsonl = some lines) (hrows : readRows s = .ok rows) (hne : rows ≠ [])
    (hc : PoolComplete rows (pool rows s.image?))
    (hrecords : parquetRecords s.root.1 lines (sortResults (poolResults (pool rows s.image?))) =
      .ok records) :
    Finishes (prepareStage pool) s () (rebuilt s (stagedSet (pool rows s.image?))
      (sortResults (poolResults (pool rows s.image?))) records) := by
  have hgenerated := finishes_generateNegativeViews hrows hne hc
  have hconverted := finishes_convertToParquet (s := published s (stagedSet (pool rows s.image?))
    (sortResults (poolResults (pool rows s.image?)))) hlines hrecords
  exact hgenerated.bind (hconverted.bind ((finishes_atomic _ _).bind (finishes_atomic _ _)))

end Build

end LookAway.Data
