/-
  When an interrupted import is safe.

  The importer never invalidates the old parquet, priors and manifest: it overwrites the dataset
  while they stand under their launch names. `import_safe_iff`: every early end of the import is
  safe exactly when the import fails before it touches the directory, or the priors in place pass
  the launch check at none of its stages.
-/
import Mathlib.Data.Rat.Floor
import LookAway.Base.Select
import LookAway.Data.Copies
import LookAway.Data.Generations
import LookAway.Data.Parquet

namespace LookAway.Data

open LookAway.Base LookAway.Base.Script

variable {sha256 : Digest} {world : World} {env : LaunchEnv} {args : ImportArgs} {s : DataDir}

/-! ## What a launch sees -/

/-- The files the launch check reads, up to where the parquet came from. -/
structure SameLaunchFiles (s t : DataDir) : Prop where
  manifest : t.manifest = s.manifest
  parquet : t.parquet.map (·.content) = s.parquet.map (·.content)
  priors : t.priors = s.priors
  freqCounts : t.freqCounts = s.freqCounts
  dump : t.dump = s.dump

theorem SameLaunchFiles.symm {t : DataDir} (h : SameLaunchFiles s t) : SameLaunchFiles t s :=
  ⟨h.manifest.symm, h.parquet.symm, h.priors.symm, h.freqCounts.symm, h.dump.symm⟩

theorem SameLaunchFiles.launchable {t : DataDir} (h : SameLaunchFiles s t)
    (hs : Launchable sha256 world env s) : Launchable sha256 world env t := by
  obtain ⟨i, hi⟩ := launchCheck_eq_ok.mp hs
  have hparquet := h.parquet
  rw [hi.parquet] at hparquet
  obtain ⟨parquet, hq, hcontent⟩ := Option.map_eq_some_iff.mp hparquet
  refine launchCheck_eq_ok.mpr ⟨{ i with parquet := parquet }, ?_⟩
  exact {
    resolved := hi.resolved
    revision := hi.revision
    tokenizer := hi.tokenizer
    template := hi.template
    manifest := h.manifest.trans hi.manifest
    parquet := hq
    records := hcontent.trans hi.records
    priors := h.priors.trans hi.priors
    blob := hi.blob
    info := by
      dsimp only
      rw [hcontent]
      exact hi.info
    freq := by
      rw [h.freqCounts, h.dump]
      exact hi.freq }

theorem SameLaunchFiles.launchable_iff {t : DataDir} (h : SameLaunchFiles s t) :
    Launchable sha256 world env t ↔ Launchable sha256 world env s :=
  ⟨h.symm.launchable, h.launchable⟩

/-! ## The property and the condition -/

/-- The images, the negatives, the jsonl, the manifest and the parquet of `s`. -/
structure SameData (s t : DataDir) : Prop where
  files : t.files = s.files
  teacherNeg : t.teacherNeg = s.teacherNeg
  jsonl : t.jsonl = s.jsonl
  manifest : t.manifest = s.manifest
  parquet : t.parquet = s.parquet

/-- A failed import is harmless: it has changed nothing, or the launch check fails. -/
def ImportSafe (sha256 : Digest) (world : World) (env : LaunchEnv) (s t : DataDir) : Prop :=
  SameData s t ∨ ¬Launchable sha256 world env t

/-- The directory with the manifest the import writes. -/
def withManifest (s : DataDir) (m : Doc (List ResultRecord)) : DataDir :=
  { s with manifest := some m }

/-- The directory with the manifest and the parquet the import writes. -/
def withParquet (s : DataDir) (rows : List ReleaseRow) (records : List TrainRecord) : DataDir :=
  { withManifest s (.complete (importResults rows)) with
    parquet := some ⟨.complete records, s.generation, s.view⟩ }

/-- The priors in place pass the launch check neither as they are nor, where the import gets so
    far, next to the manifest it writes (whole or cut short) or the parquet it builds. -/
structure NeverAccepted (sha256 : Digest) (world : World) (env : LaunchEnv) (args : ImportArgs)
    (s : DataDir) (rows : List ReleaseRow) : Prop where
  before : ¬Launchable sha256 world env s
  cut : (∀ row ∈ rows, Verified sha256 args row) →
    ∀ n, ¬Launchable sha256 world env (withManifest s (.cut (importResults rows) n))
  manifest : (∀ row ∈ rows, Verified sha256 args row) →
    ¬Launchable sha256 world env (withManifest s (.complete (importResults rows)))
  parquet : (∀ row ∈ rows, Verified sha256 args row) → ∀ records,
    parquetRecords s.root.1 (importLines rows) (importResults rows) = .ok records →
      ¬Launchable sha256 world env (withParquet s rows records)

/-! ## Stages -/

theorem Copying.launchFiles {t : DataDir} (h : Copying s t) : SameLaunchFiles s t :=
  ⟨h.manifest, congrArg _ h.parquet, h.priors, h.freqCounts, h.dump⟩

/-- What an import that has not finished leaves for the launch check. -/
def ImportStage (sha256 : Digest) (args : ImportArgs) (s : DataDir) (rows : List ReleaseRow)
    (t : DataDir) : Prop :=
  SameLaunchFiles s t ∨ (∀ row ∈ rows, Verified sha256 args row) ∧
    ((∃ n, SameLaunchFiles (withManifest s (.cut (importResults rows) n)) t) ∨
      SameLaunchFiles (withManifest s (.complete (importResults rows))) t ∨
      ∃ records, parquetRecords s.root.1 (importLines rows) (importResults rows) = .ok records ∧
        SameLaunchFiles (withParquet s rows records) t)

theorem NeverAccepted.not_launchable {rows : List ReleaseRow} {t : DataDir}
    (h : NeverAccepted sha256 world env args s rows) (ht : ImportStage sha256 args s rows t) :
    ¬Launchable sha256 world env t := by
  rcases ht with ht | ⟨hv, ⟨n, ht⟩ | ht | ⟨records, hrecords, ht⟩⟩
  · exact fun hl => h.before (ht.launchable_iff.mp hl)
  · exact fun hl => h.cut hv n (ht.launchable_iff.mp hl)
  · exact fun hl => h.manifest hv (ht.launchable_iff.mp hl)
  · exact fun hl => h.parquet hv records hrecords (ht.launchable_iff.mp hl)

theorem wp_convertImport {rows : List ReleaseRow} {t : DataDir} (hroot : t.root = s.root)
    (hjsonl : t.jsonl = some (importLines rows)) (hv : ∀ row ∈ rows, Verified sha256 args row)
    (ht : SameLaunchFiles (withManifest s (.complete (importResults rows))) t) :
    wp (convertToParquet (importResults rows)) (fun _ _ => True)
      (fun _ => ImportStage sha256 args s rows) (ImportStage sha256 args s rows) t := by
  have hstage : ∀ u, Tempered t u ∨ Converted (importResults rows) t u →
      ImportStage sha256 args s rows u := by
    rintro u (⟨b, rfl⟩ | ⟨lines, records, hlines, hrecords, b, rfl⟩)
    · exact .inr ⟨hv, .inr (.inl ⟨ht.manifest, ht.parquet, ht.priors, ht.freqCounts, ht.dump⟩)⟩
    · obtain rfl : importLines rows = lines := Option.some.inj (hjsonl.symm.trans hlines)
      rw [hroot] at hrecords
      exact .inr ⟨hv, .inr (.inr ⟨records, hrecords,
        ⟨ht.manifest, rfl, ht.priors, ht.freqCounts, ht.dump⟩⟩)⟩
  exact wp_mono (wp_convertToParquet (importResults rows) t) (fun _ _ _ => trivial)
    (fun _ => hstage) hstage

/-- Every early end of the import after the rows are read is in one of its stages. -/
theorem wp_importMain {rows : List ReleaseRow} (hrows : keptRows args = .ok rows) :
    wp (importMain sha256 args) (fun _ _ => True) (fun _ => ImportStage sha256 args s rows)
      (ImportStage sha256 args s rows) s := by
  have hcopying : ∀ t, Copying s t → ImportStage sha256 args s rows t :=
    fun t ht => .inl ht.launchFiles
  have h0 := hcopying s (Copying.refl s)
  refine wp_bind (wp_read (fun _ => h0) h0 ?_)
  intro rows' hrows'
  cases hrows.symm.trans hrows'
  refine wp_bind (wp_atomic (fun _ => h0) h0 ?_)
  refine wp_bind (wp_mono wp_importRows ?_ (fun _ t => hcopying t) hcopying)
  rintro _ t ⟨ht, hjsonl, hv, _⟩
  have hcut : ∀ n, ImportStage sha256 args s rows
      { t with manifest := some (.cut (importResults rows) n) } := fun n =>
    .inr ⟨hv, .inl ⟨n, rfl, congrArg _ ht.parquet, ht.priors, ht.freqCounts, ht.dump⟩⟩
  refine wp_bind (wp_atomic (fun _ => hcopying t ht) (hcopying t ht) ?_)
  refine wp_bind (wp_write (fun _ n => hcut n) (fun n => hcut n) ?_)
  exact wp_convertImport ht.root hjsonl hv
    ⟨rfl, congrArg _ ht.parquet, ht.priors, ht.freqCounts, ht.dump⟩

/-! ## Runs that get to a stage -/

theorem finishes_streaming {α : Type} {f : DataDir → Except PyError (α × DataDir)}
    {torn : ℕ → DataDir → DataDir} {t t' : DataDir} {a : α} (h : f t = .ok (a, t')) :
    Finishes (streaming f torn) t a t' := by
  refine ⟨[.proceed], fun rest => ?_⟩
  show settle (f t) rest t = _
  rw [h]
  rfl

theorem stops_streaming {α : Type} {f : DataDir → Except PyError (α × DataDir)}
    {torn : ℕ → DataDir → DataDir} (n : ℕ) (t : DataDir) :
    Stops (streaming f torn) t (killed n.unpair.2 (torn n.unpair.1 t)) :=
  ⟨[.stop n], [], rfl⟩

theorem finishes_copyVerified {src : Path} {dst : Destination} {expected : Option String}
    {label : String} (h : ∃ b, args.sourceImages src = some b ∧
      ∀ d ∈ expected, sha256 (.bytes b) = d) (t : DataDir) :
    Finishes (copyVerified sha256 args src dst expected label) t ()
      (dst.put ((args.sourceImages src).getD []) (dst.makeDir t)) := by
  obtain ⟨b, hb, hdigest⟩ := h
  have hopen : (openFile src.text (args.sourceImages src)).map (fun b => (b, dst.makeDir t)) =
      .ok (b, dst.makeDir t) := by
    rw [hb]
    rfl
  rw [hb]
  refine (finishes_streaming rfl).bind ((finishes_streaming hopen).bind
    ((finishes_streaming rfl).bind ?_))
  cases expected with
  | none => exact finishes_pure () _
  | some digest =>
      refine finishes_streaming ?_
      rw [Destination.get_put (dst.makeDir_idem t)]
      exact if_pos (hdigest digest rfl)

/-- A verified row is imported. -/
theorem finishes_importRow {entry : ReleaseRow × ℕ} (h : Verified sha256 args entry.1)
    (t : DataDir) : ∃ t', Finishes (importRow sha256 args entry) t () t' := by
  obtain ⟨b, hb⟩ := h.student
  exact ⟨_, (finishes_streaming rfl).bind
    ((finishes_copyVerified ⟨b, hb, fun _ hd => by cases hd⟩ _).bind
      ((finishes_copyVerified h.positive _).bind (finishes_copyVerified h.negative _)))⟩

theorem finishes_importRows {entries : List (ReleaseRow × ℕ)}
    (h : ∀ entry ∈ entries, Verified sha256 args entry.1) (t : DataDir) :
    ∃ t', Finishes (forEach entries (importRow sha256 args)) t () t' := by
  induction entries generalizing t with
  | nil => exact ⟨t, finishes_pure () t⟩
  | cons entry entries ih =>
      obtain ⟨t₁, h₁⟩ := finishes_importRow (h entry (by simp)) t
      obtain ⟨t₂, h₂⟩ := ih (fun e he => h e (by simp [he])) t₁
      exact ⟨t₂, h₁.bind h₂⟩

theorem filterRows_ne_nil {rows kept : List ReleaseRow} {labels : String}
    (h : filterRows rows labels = .ok kept) : kept ≠ [] := by
  unfold filterRows at h
  dsimp only at h
  split at h
  · cases h
  · rename_i hne
    cases h
    intro hnil
    rw [hnil] at hne
    exact hne rfl

theorem keptRows_ne_nil {rows : List ReleaseRow} (h : keptRows args = .ok rows) : rows ≠ [] := by
  obtain ⟨loaded, _, h⟩ := except_bind_ok.mp h
  exact filterRows_ne_nil h

/-- The stages an import with verified images can stop in. -/
theorem stops_at_stage {rows : List ReleaseRow} (hrows : keptRows args = .ok rows)
    (hv : ∀ row ∈ rows, Verified sha256 args row) :
    (∀ n, ∃ t, Stops (importMain sha256 args) s t ∧
      SameLaunchFiles (withManifest s (.cut (importResults rows) n)) t) ∧
    (∃ t, Stops (importMain sha256 args) s t ∧
      SameLaunchFiles (withManifest s (.complete (importResults rows))) t) ∧
    ∀ records, parquetRecords s.root.1 (importLines rows) (importResults rows) = .ok records →
      ∃ t, Stops (importMain sha256 args) s t ∧ SameLaunchFiles (withParquet s rows records) t := by
  have hv' : ∀ entry ∈ rows.zipIdx, Verified sha256 args entry.1 :=
    fun entry he => hv _ (List.fst_mem_of_mem_zipIdx he)
  obtain ⟨t, hloop⟩ := finishes_importRows hv' { s with jsonl := some [] }
  obtain ⟨ht, hjsonl, _⟩ := hloop.post wp_importRows
  have hcopied : ∀ u, Stops (publishImport (importResults rows)) t u →
      Stops (importMain sha256 args) s u := fun u hu =>
    .bind_right (finishes_read hrows) (.bind_right (finishes_atomic _ s) (.bind_right hloop hu))
  have hwritten : Finishes (write
      (fun s => { s with manifest := some (.complete (importResults rows)) })
      (fun n s => { s with manifest := some (.cut (importResults rows) n) }) : Py Unit)
      { t with manifest := some (.cut (importResults rows) 0) } ()
      { t with manifest := some (.complete (importResults rows)) } := finishes_write _ _ _
  refine ⟨fun n => ?_, ?_, fun records hrecords => ?_⟩
  · exact ⟨{ t with manifest := some (.cut (importResults rows) n) },
      hcopied _ (.bind_right (finishes_atomic _ t) (stops_write _ _ n _).bind_left),
      rfl, congrArg _ ht.parquet, ht.priors, ht.freqCounts, ht.dump⟩
  · exact ⟨{ t with manifest := some (.complete (importResults rows)) },
      hcopied _ (.bind_right (finishes_atomic _ t) (.bind_right hwritten
        (stops_read _ _).bind_left)),
      rfl, congrArg _ ht.parquet, ht.priors, ht.freqCounts, ht.dump⟩
  · rw [← ht.root] at hrecords
    refine ⟨{ t with
        manifest := some (.complete (importResults rows))
        temp := false
        parquet := some ⟨.complete records, t.generation, t.view⟩ },
      hcopied _ (.bind_right (finishes_atomic _ t) (.bind_right hwritten (.bind_right
        (finishes_read (a := records) ?_) ?_))),
      rfl, rfl, ht.priors, ht.freqCounts, ht.dump⟩
    · dsimp only
      rw [hjsonl]
      exact hrecords
    exact .tryFinally_right ((finishes_atomic _ _).bind (finishes_atomic _ _)) (stops_atomic _ _)

/-- Right after the jsonl has been opened it is empty, and one line later it is not: a launchable
    directory is changed at one of the two stops. -/
theorem not_launchable_of_safe {rows : List ReleaseRow} (hrows : keptRows args = .ok rows)
    (h : ∀ t, Stops (importMain sha256 args) s t → ImportSafe sha256 world env s t) :
    ¬Launchable sha256 world env s := by
  intro hl
  have hsame : ∀ t, Stops (importMain sha256 args) s t → SameLaunchFiles s t → SameData s t :=
    fun t ht hf => (h t ht).resolve_right fun hno => hno (hf.launchable hl)
  cases hcons : rows with
  | nil => exact keptRows_ne_nil hrows hcons
  | cons row rest =>
      have hstart : ∀ u, Stops (importRow sha256 args (row, 0)) { s with jsonl := some [] } u →
          Stops (importMain sha256 args) s u := by
        intro u hu
        refine .bind_right (finishes_read hrows) (.bind_right (finishes_atomic _ s) ?_)
        rw [hcons]
        exact hu.bind_left.bind_left
      have hempty : (killed 0 { s with jsonl := some [] }).jsonl = s.jsonl :=
        (hsame _ (hstart _ (stops_streaming 0 _).bind_left) ⟨rfl, rfl, rfl, rfl, rfl⟩).jsonl
      have hline := (hsame _ (hstart _ (.bind_right (finishes_streaming rfl)
        (stops_streaming (Nat.pair 0 2) _).bind_left.bind_left)) ⟨rfl, rfl, rfl, rfl, rfl⟩).jsonl
      rw [Nat.unpair_pair] at hline
      exact absurd (hempty.trans hline.symm) (by simp [killed, appendLine, flushed])

/-! ## The condition is exact -/

/-- **An interrupted import is safe at every early end exactly when it fails before it touches the
    directory, or the priors in place are accepted at none of its stages.** -/
theorem import_safe_iff (sha256 : Digest) (world : World) (env : LaunchEnv) (args : ImportArgs)
    (s : DataDir) :
    (∀ faults, Unfinished ((importMain sha256 args).run faults s) →
        ImportSafe sha256 world env s ((importMain sha256 args).run faults s).state) ↔
      ∀ rows, keptRows args = .ok rows → NeverAccepted sha256 world env args s rows := by
  constructor
  · intro h rows hrows
    have hstop : ∀ t, Stops (importMain sha256 args) s t → ImportSafe sha256 world env s t := by
      intro t ht
      obtain ⟨faults, hu, rfl⟩ := ht.unfinished
      exact h faults hu
    have hbefore := not_launchable_of_safe hrows hstop
    refine ⟨hbefore, fun hv n hl => ?_, fun hv hl => ?_, fun hv records hrecords hl => ?_⟩
    · obtain ⟨t, ht, hfiles⟩ := (stops_at_stage hrows hv).1 n
      have hsame := (hstop t ht).resolve_right fun hno => hno (hfiles.launchable hl)
      have hself : SameLaunchFiles (withManifest s (.cut (importResults rows) n)) s :=
        ⟨hsame.manifest.symm.trans hfiles.manifest, rfl, rfl, rfl, rfl⟩
      exact hbefore (hself.launchable hl)
    · obtain ⟨t, ht, hfiles⟩ := (stops_at_stage hrows hv).2.1
      have hsame := (hstop t ht).resolve_right fun hno => hno (hfiles.launchable hl)
      have hself : SameLaunchFiles (withManifest s (.complete (importResults rows))) s :=
        ⟨hsame.manifest.symm.trans hfiles.manifest, rfl, rfl, rfl, rfl⟩
      exact hbefore (hself.launchable hl)
    · obtain ⟨t, ht, hfiles⟩ := (stops_at_stage hrows hv).2.2 records hrecords
      have hsame := (hstop t ht).resolve_right fun hno => hno (hfiles.launchable hl)
      have hself : SameLaunchFiles (withParquet s rows records) s :=
        ⟨hsame.manifest.symm.trans hfiles.manifest,
          (congrArg _ hsame.parquet.symm).trans hfiles.parquet, rfl, rfl, rfl⟩
      exact hbefore (hself.launchable hl)
  · intro h faults hu
    cases hrows : keptRows args with
    | error e =>
        have hsame : ImportSafe sha256 world env s s := .inl ⟨rfl, rfl, rfl, rfl, rfl⟩
        have hwp : wp (importMain sha256 args) (fun _ _ => True)
            (fun _ => ImportSafe sha256 world env s) (ImportSafe sha256 world env s) s := by
          refine wp_bind (wp_read (fun _ => hsame) hsame fun rows hr => ?_)
          rw [hrows] at hr
          cases hr
        exact hwp.unfinished hu
    | ok rows =>
        refine wp.unfinished (wp_mono (wp_importMain hrows) (fun _ _ h => h) (fun _ t ht => ?_)
          (fun t ht => ?_)) hu
        · exact .inr ((h rows hrows).not_launchable ht)
        · exact .inr ((h rows hrows).not_launchable ht)

/-! ## A failed import that stays launchable -/

section Sample

def sampleTokenizer : Tokenizer where
  vocab := [("red", 0)]
  id_lt := by decide
  specialTokensMap := []
  allSpecialIds := []
  unkTokenId := none
  size := 1
  vocabSize := some 1
  nameOrPath := some "models/qwen"
  tokenText _ := "red"
  decode _ := "red"

def sampleWorld : World where
  pathExists path := path == "models/qwen"
  snapshotDownload _ _ := .error (.valueError "offline")
  fromPretrained _ _ := .ok sampleTokenizer
  loadModel _ _ := .error (.valueError "offline")
  templateText _ := some "template"
  abspath path := "/" ++ path
  percentile xs q := quantile xs (q / 100)

def sampleEnv : LaunchEnv where
  modelPath := "models/qwen"
  modelRevision := ""
  vdFreqDecay := "false"

theorem sampleDir_launchable (sha256 : Digest) :
    Launchable sha256 sampleWorld sampleEnv (sampleDir sha256) := by
  refine launchCheck_eq_ok.mpr ⟨⟨"models/qwen", none, sampleTokenizer, "template",
    .complete [sampleResult], ⟨.complete [sampleRecord], 1, sampleView⟩, [sampleRecord],
    samplePriors sha256, sampleBlob sha256⟩, ?_⟩
  exact {
    resolved := rfl
    revision := rfl
    tokenizer := rfl
    template := rfl
    manifest := rfl
    parquet := rfl
    records := rfl
    priors := rfl
    blob := rfl
    info := ⟨rfl, rfl, rfl, rfl, rfl, rfl, by simp [sampleBlob, expectedMeta,
      tokenizerFingerprint, Tokenizer.payload, sampleTokenizer, sortPairs]⟩
    freq := fun h => absurd h (by decide) }

def sampleRelease : ReleaseRow where
  sampleId := 0
  question := "What color is the bus?"
  answer := "blue"
  legacyQualityLabel := some "healthy"
  sourceBbox := [10, 10, 20, 20]
  negativeBbox := [40, 40, 50, 50]
  negativeCropWindow := [30, 30, 60, 60]
  originalSize := [100, 100]
  outputSize := [60, 60]
  targetBboxInCrop := [10, 10, 20, 20]
  bboxIou := 0
  positiveSha256 := none
  negativeSha256 := none
  sharedFrameMaskSha256 := none
  generationVersion := some "2.0.0"

/-- A workspace without the positive crop of the only row. -/
def sampleImport : ImportArgs where
  snapshot := "snapshots/main"
  shards := [[sampleRelease]]
  sourceImages := fun path => if path = ["student", "000000.png"] then some [255, 216] else none
  qualityLabels := "healthy"

theorem sampleImport_kept : keptRows sampleImport = .ok [sampleRelease] := by
  have hload : loadReleaseRows sampleImport = .ok [sampleRelease] := by
    simp [loadReleaseRows, sampleImport]
  refine except_bind_ok.mpr ⟨_, hload, ?_⟩
  have hlabel : (sampleRelease.legacyQualityLabel.any
      (allowedLabels sampleImport.qualityLabels).contains) = true := by decide
  have hfilter : [sampleRelease].filter (fun row => row.legacyQualityLabel.any
      (allowedLabels sampleImport.qualityLabels).contains) = [sampleRelease] := by
    refine List.filter_eq_self.mpr fun row hrow => ?_
    rw [List.mem_singleton.mp hrow]
    exact hlabel
  unfold filterRows
  dsimp only
  rw [hfilter]
  rfl

end Sample

/-- The import raises FileNotFoundError on the positive crop, after the student image of the old
    dataset has been overwritten; the old artifacts still pass the launch check. -/
theorem import_leaves_launchable : ¬∃ sha256 : Digest, ∀ world env args s faults,
    Unfinished ((importMain sha256 args).run faults s) →
      ImportSafe sha256 world env s ((importMain sha256 args).run faults s).state := by
  rintro ⟨sha256, h⟩
  have hread : (read (fun _ => keptRows sampleImport) : Py (List ReleaseRow)).run []
      (sampleDir sha256) = ⟨.done [sampleRelease], [], sampleDir sha256⟩ := by
    show settle ((keptRows sampleImport).map _) _ _ = _
    rw [sampleImport_kept]
    rfl
  have hrun : (importMain sha256 sampleImport).run [] (sampleDir sha256) =
      ⟨.raised (.fileNotFound "teacher_pos/000000.png"), [],
        setFile ["data", "images", "000000.png"] [255, 216] { sampleDir sha256 with
          jsonl := some [.row (makeJsonlRow sampleRelease)] }⟩ := by
    refine (run_bind_done hread).trans ?_
    rfl
  have hsafe := h sampleWorld sampleEnv sampleImport (sampleDir sha256) []
    (by rw [hrun]; exact fun _ ha => nomatch ha)
  rw [hrun] at hsafe
  have hl : Launchable sha256 sampleWorld sampleEnv (setFile ["data", "images", "000000.png"]
      [255, 216] { sampleDir sha256 with jsonl := some [.row (makeJsonlRow sampleRelease)] }) :=
    SameLaunchFiles.launchable ⟨rfl, rfl, rfl, rfl, rfl⟩ (sampleDir_launchable sha256)
  have hsame := hsafe.resolve_right fun hno => hno hl
  -- the student image of the old dataset is gone
  have hfile : Function.update sampleView.files ["data", "images", "000000.png"]
      (some [255, 216]) ["data", "images", "000000.png"] =
      sampleView.files ["data", "images", "000000.png"] :=
    congrFun hsame.files ["data", "images", "000000.png"]
  rw [Function.update_self] at hfile
  have hne : some ([255, 216] : Bytes) ≠ sampleView.files ["data", "images", "000000.png"] := by
    decide
  exact hne hfile

end LookAway.Data
