/-
  generate_negative_views does not depend on how its workers are scheduled.

  A schedule of the pool leaves the results of the rows and their images, whatever the number of
  processes and the order of completion (`sortResults_schedules`, `stagedSet_schedules`). So two
  pools give the same run (`run_generateNegativeViews_congr`), and a run that returns has
  published the images and the manifest of the rows (`generated_of_done`).
-/
import LookAway.Data.NegativeViews
import LookAway.Data.Worker

namespace LookAway.Data

open LookAway.Base LookAway.Base.Script

section Schedule

variable {ρ : Type} (sha256 : Digest) (im : Imaging ρ) (root : Path) (image? : Path → Option Bytes)

/-! ## What a row gives -/

/-- The record of row `i`. -/
def rowResult (rows : List SourceRow) (i : ℕ) : ResultRecord :=
  WorkPool.outcome (negativeJob sha256 im root image? rows) i

/-- The negative of row `i`, if its worker gets so far. -/
def rowNegative (rows : List SourceRow) (i : ℕ) : Option Bytes :=
  WorkPool.value? (negativeJob sha256 im root image? rows) i

/-- The manifest of the rows. -/
def negativeResults (rows : List SourceRow) : List ResultRecord :=
  (List.range rows.length).map (rowResult sha256 im root image? rows)

variable {sha256 im root image?} {rows : List SourceRow}

theorem negativeJob_key : Function.Injective (negativeJob sha256 im root image? rows).key :=
  imageName_injective.comp fun _ _ h => Int.ofNat.inj h

theorem startRow_of_lt {i : ℕ} (h : i < rows.length) :
    startRow im root image? rows i = renderNegative im root image? rows[i] i := by
  unfold startRow
  rw [List.getElem?_eq_getElem h]
  rfl

theorem negativeJob_start {i : ℕ} {b : Bytes} {r : Rendered} :
    (negativeJob sha256 im root image? rows).start i = .ok (b, r) ↔
      startRow im root image? rows i = .ok r ∧ r.bytes = b := by
  show ((startRow im root image? rows i).map fun r => (r.bytes, r)).mapError (failedResult i) =
    .ok (b, r) ↔ _
  cases startRow im root image? rows i with
  | error e => simp [Except.map, Except.mapError]
  | ok r' =>
      simp only [Except.map, Except.mapError, Except.ok.injEq, Prod.mk.injEq]
      constructor
      · rintro ⟨rfl, rfl⟩
        exact ⟨rfl, rfl⟩
      · rintro ⟨rfl, rfl⟩
        exact ⟨rfl, rfl⟩

theorem rowResult_of_rendered {i : ℕ} {r : Rendered}
    (h : startRow im root image? rows i = .ok r) :
    rowResult sha256 im root image? rows i =
      (negativeJob sha256 im root image? rows).finish i r (some r.bytes) :=
  WorkPool.outcome_of_ok (negativeJob_start.mpr ⟨h, rfl⟩)

theorem rowNegative_of_rendered {i : ℕ} {r : Rendered}
    (h : startRow im root image? rows i = .ok r) :
    rowNegative sha256 im root image? rows i = some r.bytes :=
  WorkPool.value?_of_ok (negativeJob_start.mpr ⟨h, rfl⟩)

theorem rowResult_of_failed {i : ℕ} {e : PyError}
    (h : startRow im root image? rows i = .error e) :
    rowResult sha256 im root image? rows i = failedResult i e := by
  refine WorkPool.outcome_of_error ?_
  show ((startRow im root image? rows i).map fun r => (r.bytes, r)).mapError (failedResult i) = _
  rw [h]
  rfl

/-- The record of a row carries its index. -/
theorem rowResult_idx (i : ℕ) : (rowResult sha256 im root image? rows i).idx = i := by
  cases h : startRow im root image? rows i with
  | error e => rw [rowResult_of_failed h]; rfl
  | ok r =>
      rw [rowResult_of_rendered h]
      show (returned i (reportNegative sha256 im image? r i (some r.bytes))).idx = i
      cases hr : reportNegative sha256 im image? r i (some r.bytes) with
      | error e => rfl
      | ok result =>
          obtain ⟨_, _, hr⟩ := except_bind_ok.mp hr
          obtain ⟨_, _, hr⟩ := except_bind_ok.mp hr
          obtain ⟨_, _, hr⟩ := except_bind_ok.mp hr
          obtain ⟨_, _, hr⟩ := except_bind_ok.mp hr
          obtain ⟨_, _, hr⟩ := except_bind_ok.mp hr
          cases hr
          rfl

/-! ## What a schedule leaves -/

theorem poolResults_eq (events : List PoolEvent) :
    poolResults events = WorkPool.results events := by
  unfold poolResults WorkPool.results
  congr 1
  funext event
  cases event <;> rfl

theorem lookup_stage (events : List PoolEvent) (images : ImageSet) (name : String) :
    (stage events images).lookup name =
      WorkPool.storeAfter (fun k => images.lookup k) events name := by
  induction events generalizing images with
  | nil => rfl
  | cons event events ih =>
      cases event with
      | result r => exact ih images
      | staged k b =>
          have hinsert : (fun x => (images.insert k b).lookup x) =
              Function.update (fun x => images.lookup x) k (some b) := by
            funext x
            by_cases hx : x = k
            · subst hx
              rw [Function.update_self]
              exact Finmap.lookup_insert _
            · rw [Function.update_of_ne hx]
              exact Finmap.lookup_insert_of_ne _ hx
          show (stage events (images.insert k b)).lookup name = _
          rw [ih, hinsert]
          rfl

/-- Whatever the schedule, the results of the rows come out of the sort. -/
theorem sortResults_schedules {events : List PoolEvent}
    (h : Schedules sha256 im root image? rows events) :
    sortResults (poolResults events) = negativeResults sha256 im root image? rows := by
  have hperm : (poolResults events).Perm (negativeResults sha256 im root image? rows) := by
    obtain ⟨nproc, q, hruns, hq⟩ := h
    have hp := hruns.results_perm negativeJob_key hq
    rw [WorkPool.flatten_chunks, ← poolResults_eq] at hp
    exact hp
  have hsorted : (sortResults (poolResults events)).Pairwise fun a b => a.idx ≤ b.idx := by
    have hs : (sortResults (poolResults events)).Pairwise
        fun a b => decide (a.idx ≤ b.idx) = true := by
      apply List.pairwise_mergeSort
      · intro a b c hab hbc
        simp only [decide_eq_true_eq] at *
        omega
      · intro a b
        simp only [Bool.or_eq_true, decide_eq_true_eq]
        omega
    exact hs.imp fun hab => of_decide_eq_true hab
  have hrows : (negativeResults sha256 im root image? rows).Pairwise fun a b => a.idx ≤ b.idx := by
    refine List.pairwise_map.mpr (List.pairwise_le_range.imp fun {i j} hij => ?_)
    rw [rowResult_idx, rowResult_idx]
    exact hij
  refine ((sortResults_perm _).trans hperm).eq_of_pairwise ?_ hsorted hrows
  -- a record is that of the row with its index
  intro a b ha hb hab hba
  have hrow : ∀ c ∈ negativeResults sha256 im root image? rows,
      c = rowResult sha256 im root image? rows c.idx := by
    intro c hc
    obtain ⟨i, _, rfl⟩ := List.mem_map.mp hc
    rw [rowResult_idx]
  have ha' := ((sortResults_perm _).trans hperm).mem_iff.mp ha
  rw [hrow a ha', hrow b hb, Nat.le_antisymm hab hba]

/-- Whatever the schedule, the staging directory holds the negatives of the rows. -/
theorem lookup_stagedSet {events : List PoolEvent}
    (h : Schedules sha256 im root image? rows events) (name : String) (bytes : Bytes) :
    (stagedSet events).lookup name = some bytes ↔
      ∃ i, i < rows.length ∧ imageName i = name ∧
        rowNegative sha256 im root image? rows i = some bytes := by
  obtain ⟨nproc, q, hruns, hq⟩ := h
  have hstored := hruns.stored_iff negativeJob_key hq name bytes
  rw [WorkPool.flatten_chunks] at hstored
  have hempty : (fun k => (∅ : ImageSet).lookup k) = fun _ : String => (none : Option Bytes) := by
    funext k
    exact Finmap.lookup_empty k
  unfold stagedSet
  rw [lookup_stage, hempty, hstored]
  simp only [List.mem_range]
  rfl

theorem stagedSet_schedules {events events' : List PoolEvent}
    (h : Schedules sha256 im root image? rows events)
    (h' : Schedules sha256 im root image? rows events') : stagedSet events = stagedSet events' := by
  refine Finmap.ext_lookup fun name => Option.ext fun bytes => ?_
  rw [lookup_stagedSet h, lookup_stagedSet h']

end Schedule

/-! ## Whole runs -/

section Run

variable {pool pool' : PoolRun} {rows : List SourceRow} {s : DataDir}

theorem run_collectResults (events : List PoolEvent) (results : List ResultRecord) (s : DataDir) :
    (collectResults events results).run [] s =
      ⟨.done (results ++ poolResults events), [],
        { s with staging := s.staging.map (stage events) }⟩ := by
  induction events generalizing results s with
  | nil =>
      have hstaging : s.staging.map (stage []) = s.staging := by cases s.staging <;> rfl
      rw [hstaging, poolResults, List.filterMap_nil, List.append_nil]
      rfl
  | cons event events ih =>
      cases event with
      | staged name bytes =>
          have hstep : (collectResults (.staged name bytes :: events) results).run [] s =
              (collectResults events results).run []
                { s with staging := s.staging.map (·.insert name bytes) } := rfl
          rw [hstep, ih]
          simp only [Option.map_map]
          rfl
      | result r =>
          have hstep : (collectResults (.result r :: events) results).run [] s =
              (collectResults events (results ++ [r])).run [] s := rfl
          rw [hstep, ih, List.append_assoc]
          rfl

/-- The checks see the sorted results and the staged images only. -/
theorem run_checkedResults_congr (hs : s.staging = some ∅)
    (hresults : sortResults (poolResults (pool rows s.image?)) =
      sortResults (poolResults (pool' rows s.image?)))
    (himages : stagedSet (pool rows s.image?) = stagedSet (pool' rows s.image?)) :
    (checkedResults rows pool).run [] s = (checkedResults rows pool').run [] s := by
  have hevents : ∀ p : PoolRun, (checkedResults rows p).run [] s =
      (collectResults (p rows s.image?) [] >>= fun collected => do
        let results := sortResults collected
        if CompleteResults results rows.length then
          let actualFiles ← read fun s => .ok (stagedFiles s)
          let expected := expectedFiles rows.length
          if actualFiles = expected then
            pure results
          else do
            writeFailedResults results
            raise (incompleteImageSet (expected \ actualFiles) (actualFiles \ expected))
        else do
          writeFailedResults results
          raise incompleteGeneration : Py (List ResultRecord)).run [] s := fun _ => rfl
  rw [hevents, hevents, run_bind_done (run_collectResults _ [] s),
    run_bind_done (run_collectResults _ [] s), hs]
  dsimp only [List.nil_append]
  rw [hresults]
  have hstage : (some ∅ : Option ImageSet).map (stage (pool rows s.image?)) =
      (some ∅ : Option ImageSet).map (stage (pool' rows s.image?)) := congrArg some himages
  rw [hstage]

/-- Two pools with the same sorted results and the same images give the same run. -/
theorem run_generateNegativeViews_congr
    (hresults : ∀ rows, sortResults (poolResults (pool rows s.image?)) =
      sortResults (poolResults (pool' rows s.image?)))
    (himages : ∀ rows, stagedSet (pool rows s.image?) = stagedSet (pool' rows s.image?)) :
    (generateNegativeViews pool).run [] s = (generateNegativeViews pool').run [] s := by
  refine run_bind_congr_right fun rows rest s' hstart => ?_
  have hs' : rest = [] ∧ s' = { s with staging := some ∅ } := by
    unfold startStaging at hstart
    cases hrows : readRows s with
    | error e =>
        have hread : (read readRows : Py _).run [] s = ⟨.raised e, [], s⟩ := by
          show settle ((readRows s).map _) [] s = _
          rw [hrows]
          rfl
        rw [run_bind_raised hread] at hstart
        cases hstart
    | ok read =>
        have hread : (Script.read readRows : Py _).run [] s = ⟨.done read, [], s⟩ := by
          show settle ((readRows s).map _) [] s = _
          rw [hrows]
          rfl
        rw [run_bind_done hread] at hstart
        split at hstart
        · cases hstart
        · cases hstart
          exact ⟨rfl, rfl⟩
  obtain ⟨rfl, rfl⟩ := hs'
  exact run_tryFinally_congr (run_bind_congr
    (run_checkedResults_congr rfl (hresults rows) (himages rows)))

end Run

/-! ## Runs that return -/

/-- `t` has the negatives and the manifest of the rows, as their workers computed them from the
    images `image?`. -/
structure GeneratedFrom {ρ : Type} (sha256 : Digest) (im : Imaging ρ) (image? : Path → Option Bytes)
    (rows : List SourceRow) (t : DataDir) : Prop where
  jsonl : readRows t = .ok rows
  manifest : t.manifest = some (.complete (negativeResults sha256 im t.root.1 image? rows))
  images : ∃ images, t.teacherNeg = some images ∧ ∀ name bytes,
    images.lookup name = some bytes ↔ ∃ i, i < rows.length ∧ imageName i = name ∧
      rowNegative sha256 im t.root.1 image? rows i = some bytes
  complete : CompleteResults (negativeResults sha256 im t.root.1 image? rows) rows.length
  /-- Outside teacher_neg/ the workers saw the images that are there. -/
  unchanged : ∀ path, path.dropLast ≠ t.root.1 ++ ["teacher_neg"] → image? path = t.files path

/-- What the last phase of a publication has of the directory at its start. -/
structure PublishedFrom (s : DataDir) (new : ImageSet) (results : List ResultRecord) (t : DataDir) :
    Prop where
  root : t.root = s.root
  jsonl : t.jsonl = s.jsonl
  files : t.files = s.files
  teacherNeg : t.teacherNeg = some new
  manifest : t.manifest = some (.complete results)

theorem publishedFrom {s t : DataDir} {new : ImageSet} {results : List ResultRecord}
    (h : Scratch (Phase.manifestNew.dir s new results) t) : PublishedFrom s new results t := by
  obtain ⟨a, b, c, d, rfl⟩ := h
  have hroot : (invalidated s).root = s.root := rfl
  have hjsonl : (invalidated s).jsonl = s.jsonl := rfl
  have hfiles : (invalidated s).files = s.files := rfl
  unfold Phase.dir
  dsimp only
  generalize invalidated s = u at hroot hjsonl hfiles ⊢
  exact ⟨hroot, hjsonl, hfiles, rfl, rfl⟩

/-- A run that returns has published what its rows give, whatever the schedule of its pool. -/
theorem wp_generateNegativeViews {ρ : Type} {sha256 : Digest} {im : Imaging ρ} {pool : PoolRun}
    (s : DataDir) (hpool : Scheduled sha256 im s.root.1 pool) :
    wp (generateNegativeViews pool)
      (fun out t => ∃ rows, readRows s = .ok rows ∧
        out = negativeResults sha256 im t.root.1 s.image? rows ∧ t.root = s.root ∧
        GeneratedFrom sha256 im s.image? rows t)
      (fun _ _ => True) (fun _ => True) s := by
  refine wp_mono (generateNegativeViews_phases pool s) ?_ (fun _ _ _ => trivial) fun _ _ => trivial
  rintro out t ⟨rows, hrows, hcomplete, hout, ht⟩
  have hpublished := publishedFrom ht
  have hresults := sortResults_schedules (hpool rows s.image?)
  have hreads : readRows t = .ok rows := by
    rw [← hrows]
    unfold readRows
    rw [hpublished.jsonl]
  have hcompleted := hcomplete.results
  rw [hresults] at hcompleted hout
  rw [hout] at hpublished
  refine ⟨rows, hrows, ?_, hpublished.root, ?_⟩
  · rw [hout, hpublished.root]
  · refine ⟨hreads, ?_, ⟨_, hpublished.teacherNeg, ?_⟩, ?_, fun path hpath => ?_⟩
    · rw [hpublished.manifest, hpublished.root]
    · rw [hpublished.root]
      exact lookup_stagedSet (hpool rows s.image?)
    · rw [hpublished.root]
      exact hcompleted
    · rw [hpublished.root] at hpath
      rw [hpublished.files]
      exact if_neg hpath

theorem image?_negativePath (t : DataDir) (i : ℕ) :
    t.image? (negativePath t.root.1 i) = t.teacherNeg.bind (·.lookup (imageName i)) := by
  have hdir : (t.root.1 ++ ["teacher_neg", imageName i]).dropLast = t.root.1 ++ ["teacher_neg"] :=
    List.dropLast_append_of_ne_nil (List.cons_ne_nil _ _)
  have hname : (t.root.1 ++ ["teacher_neg", imageName i]).getLast?.getD "" = imageName i := by
    rw [List.getLast?_append]
    rfl
  unfold DataDir.image? negativePath
  rw [if_pos hdir, hname]

/-- The worker of each row has rendered its negative, and its record is in the manifest. -/
theorem GeneratedFrom.rendered {ρ : Type} {sha256 : Digest} {im : Imaging ρ}
    {image? : Path → Option Bytes} {rows : List SourceRow} {t : DataDir}
    (h : GeneratedFrom sha256 im image? rows t) {i : ℕ} (hi : i < rows.length) :
    ∃ r, renderNegative im t.root.1 image? rows[i] i = .ok r ∧
      reportNegative sha256 im image? r i (some r.bytes) =
        .ok (rowResult sha256 im t.root.1 image? rows i) ∧
      t.openImage (negativePath t.root.1 i) = .ok r.bytes := by
  have hok : (rowResult sha256 im t.root.1 image? rows i).ok = true :=
    h.complete.2 _ (List.mem_map_of_mem (List.mem_range.mpr hi))
  cases hstart : startRow im t.root.1 image? rows i with
  | error e =>
      rw [rowResult_of_failed hstart] at hok
      cases hok
  | ok r =>
      rw [rowResult_of_rendered hstart] at hok ⊢
      refine ⟨r, startRow_of_lt hi ▸ hstart, ?_, ?_⟩
      · change (returned i (reportNegative sha256 im image? r i (some r.bytes))).ok = true at hok
        show _ = Except.ok (returned i (reportNegative sha256 im image? r i (some r.bytes)))
        cases hreport : reportNegative sha256 im image? r i (some r.bytes) with
        | error e =>
            rw [hreport] at hok
            cases hok
        | ok result => rfl
      · obtain ⟨images, himages, hlookup⟩ := h.images
        have hfound := (hlookup _ _).mpr ⟨i, hi, rfl, rowNegative_of_rendered hstart⟩
        unfold DataDir.openImage
        rw [image?_negativePath, himages, Option.bind_some, hfound]

/-! ## Pools that finish their work -/

section Success

variable {ρ : Type} {sha256 : Digest} {im : Imaging ρ} {root : Path} {rows : List SourceRow}

/-- There is such a pool, and one whose chunks finish in reverse order. -/
theorem exists_scheduled (sha256 : Digest) (im : Imaging ρ) (root : Path) :
    ∃ pool, Scheduled sha256 im root pool ∧ ∀ rows image?, poolResults (pool rows image?) =
      (WorkPool.chunks 16 (List.range rows.length)).reverse.flatten.map
        (rowResult sha256 im root image? rows) := by
  have hruns : ∀ rows image?, ∃ events, Schedules sha256 im root image? rows events ∧
      poolResults events = (WorkPool.chunks 16 (List.range rows.length)).reverse.flatten.map
        (rowResult sha256 im root image? rows) := by
    intro rows image?
    obtain ⟨events, q, hevents, hq, hresults⟩ :=
      WorkPool.exists_order (negativeJob sha256 im root image? rows) (le_refl _)
        (List.reverse_perm (WorkPool.chunks 16 (List.range rows.length)))
    exact ⟨events, ⟨_, q, hevents, hq⟩, (poolResults_eq events).trans hresults⟩
  choose pool hpool using hruns
  exact ⟨pool, fun rows image? => (hpool rows image?).1, fun rows image? => (hpool rows image?).2⟩

/-- No order of work gets stuck: whatever the processes have done so far begins a schedule. -/
theorem schedules_of_runs {image? : Path → Option Bytes} {nproc : ℕ} {events : List PoolEvent}
    {p : WorkPool.Pool ℕ String Bytes Rendered ResultRecord}
    (h : WorkPool.Runs (negativeJob sha256 im root image? rows)
      (.start (nproc + 1) (WorkPool.chunks 16 (List.range rows.length))) events p) :
    ∃ rest, Schedules sha256 im root image? rows (events ++ rest) := by
  obtain ⟨rest, q, hruns, hq⟩ := h.exists_finish
  exact ⟨rest, nproc + 1, q, hruns, hq⟩

/-- When every row succeeds, every schedule passes the checks. -/
theorem poolComplete_of_schedules {image? : Path → Option Bytes} {events : List PoolEvent}
    (h : Schedules sha256 im root image? rows events)
    (hcomplete : CompleteResults (negativeResults sha256 im root image? rows) rows.length) :
    PoolComplete rows events := by
  refine ⟨(sortResults_schedules h).symm ▸ hcomplete, ?_⟩
  ext name
  simp only [Finmap.mem_keys, ← Finmap.lookup_isSome, Option.isSome_iff_exists, lookup_stagedSet h,
    expectedFiles, Finset.mem_image, Finset.mem_range]
  constructor
  · rintro ⟨_, i, hi, rfl, _⟩
    exact ⟨i, hi, rfl⟩
  · rintro ⟨i, hi, rfl⟩
    have hok := hcomplete.2 _ (List.mem_map_of_mem (List.mem_range.mpr hi))
    cases hstart : startRow im root image? rows i with
    | error e =>
        rw [rowResult_of_failed hstart] at hok
        cases hok
    | ok r => exact ⟨r.bytes, i, hi, rfl, rowNegative_of_rendered hstart⟩

end Success

end LookAway.Data
