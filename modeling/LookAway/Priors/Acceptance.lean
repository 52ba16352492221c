/-
  When the launch accepts what the producers have written.

  The launch validates the priors against the path that resolve_model.py prints, while
  prepare_priors.py records the path it was given: the two agree for a local model only. And a row
  without an answer has no record, while the launch counts the rows of the parquet.
  `accepted_iff`: after a finished build (or import), a finished prepare_priors.py without --limit
  and a finished build_freq_table.py, the launch with the same model passes both checks exactly
  when the model is a local path and every row has a record.
-/
import LookAway.Priors.Dataset
import LookAway.Priors.Provenance

namespace LookAway.Priors

open LookAway.Base LookAway.Base.Script LookAway.Data

/-! ## The dataset -/

/-- A directory with a finished dataset, whatever prepare_priors.py and build_freq_table.py have
    done in it since. -/
inductive DatasetReady (sha256 : Digest) : DataDir → Prop where
  | build {hub : Hub} {pool : PoolRun} {args : BuildArgs} {s : DataDir}
      {faults : List (Verdict PyError)}
      (h : ((buildTrainsetMain hub pool args).run faults s).outcome = .done ()) :
      DatasetReady sha256 ((buildTrainsetMain hub pool args).run faults s).state
  | imported {args : ImportArgs} {s : DataDir} {faults : List (Verdict PyError)}
      (h : ((importMain sha256 args).run faults s).outcome = .done ()) :
      DatasetReady sha256 ((importMain sha256 args).run faults s).state
  | prepare {world : World} {args : PrepareArgs} {s : DataDir} {faults : List (Verdict PyError)}
      (h : DatasetReady sha256 s) :
      DatasetReady sha256 ((prepareMain sha256 world args).run faults s).state
  | freqTable {world : World} {args : FreqArgs} {s : DataDir} {faults : List (Verdict PyError)}
      (h : DatasetReady sha256 s) :
      DatasetReady sha256 ((freqMain sha256 world args).run faults s).state

/-- The manifest and the parquet have these rows. -/
structure Aligned (s : DataDir) (results : List ResultRecord) (records : List TrainRecord) :
    Prop where
  manifest : s.manifest = some (.complete results)
  parquet : ∃ parquet, s.parquet = some parquet ∧ parquet.content = .complete records
  length : records.length = results.length

theorem SameSet.aligned {s t : DataDir} {results : List ResultRecord} {records : List TrainRecord}
    (h : SameSet s t) (hs : Aligned s results records) : Aligned t results records :=
  ⟨h.manifest.trans hs.manifest, h.parquet ▸ hs.parquet, hs.length⟩

section Ready

variable {sha256 : Digest} {world : World}

theorem Converted.aligned {results : List ResultRecord} {s t : DataDir}
    (h : Converted results s t) (hm : s.manifest = some (.complete results)) :
    ∃ records, Aligned t results records := by
  obtain ⟨lines, records, _, hrecords, b, rfl⟩ := h
  exact ⟨records, hm, ⟨_, rfl, rfl⟩, parquetRecords_length hrecords⟩

theorem wp_buildTrainsetMain_done (hub : Hub) (pool : PoolRun) (args : BuildArgs) (s : DataDir) :
    wp (buildTrainsetMain hub pool args) (fun _ t => ∃ results records, Aligned t results records)
      (fun _ _ => True) (fun _ => True) s := by
  refine wp_bind (wp_mono (keeps_downloadStage hub args s s ⟨rfl, rfl, rfl⟩) ?_
    (fun _ _ _ => trivial) (fun _ _ => trivial))
  intro _ t _
  refine wp_bind (wp_mono (generateNegativeViews_phases pool t) ?_ (fun _ _ _ => trivial)
    (fun _ _ => trivial))
  rintro results u ⟨_, _, _, _, hu⟩
  refine wp_bind (wp_mono (wp_convertToParquet results u) ?_ (fun _ _ _ => trivial)
    (fun _ _ => trivial))
  intro _ v hv
  obtain ⟨records, hrecords⟩ := Converted.aligned hv (aside_of_scratch hu).manifest
  exact wp_bind (wp_atomic (fun _ => trivial) trivial (wp_atomic (fun _ => trivial) trivial
    ⟨results, records, hrecords.manifest, hrecords.parquet, hrecords.length⟩))

theorem wp_importMain_done (args : ImportArgs) (s : DataDir) :
    wp (importMain sha256 args) (fun _ t => ∃ results records, Aligned t results records)
      (fun _ _ => True) (fun _ => True) s := by
  refine wp_bind (wp_read (fun _ => trivial) trivial fun rows _ => ?_)
  refine wp_bind (wp_atomic (fun _ => trivial) trivial ?_)
  refine wp_bind (wp_mono wp_importRows ?_ (fun _ _ _ => trivial) (fun _ _ => trivial))
  intro _ t _
  refine wp_bind (wp_atomic (fun _ => trivial) trivial ?_)
  refine wp_bind (wp_write (fun _ _ => trivial) (fun _ => trivial) ?_)
  refine wp_mono (wp_convertToParquet (importResults rows) _) ?_ (fun _ _ _ => trivial)
    (fun _ _ => trivial)
  intro _ u hu
  obtain ⟨records, hrecords⟩ := Converted.aligned hu rfl
  exact ⟨importResults rows, records, hrecords⟩

/-- A finished dataset has a parquet with a row for each record of its manifest. -/
theorem DatasetReady.aligned {s : DataDir} (h : DatasetReady sha256 s) :
    ∃ results records, Aligned s results records := by
  induction h with
  | @build hub pool args s faults h => exact (wp_buildTrainsetMain_done hub pool args s).done h
  | @imported args s faults h => exact (wp_importMain_done args s).done h
  | @prepare world args s faults _ ih =>
      obtain ⟨results, records, hs⟩ := ih
      have hsame := (keeps_sameSet_prepareMain sha256 world args s s (.refl s)).state faults
      exact ⟨results, records, hsame.aligned hs⟩
  | @freqTable world args s faults _ ih =>
      obtain ⟨results, records, hs⟩ := ih
      have hsame := (keeps_sameSet_freqMain sha256 world args s s (.refl s)).state faults
      exact ⟨results, records, hsame.aligned hs⟩

end Ready

/-! ## The producers -/

/-- A model as the scripts are told of it. -/
structure ModelSpec where
  path : String
  revision : Option String

/-- An existing path, the default remote model, or any other with a revision. -/
def ModelSpec.Admitted (world : World) (m : ModelSpec) : Prop :=
  m.path ≠ "" ∧ m.revision ≠ some "" ∧
    (world.pathExists m.path = true ∨ m.path = defaultModelPath ∨ m.revision.isSome)

/-- prepare_priors.py with this model, without `--limit`, in a mode that builds the priors. -/
structure BuildsPriors (m : ModelSpec) (args : PrepareArgs) : Prop where
  modelPath : args.modelPath = m.path
  modelRevision : args.modelRevision = m.revision
  limit : args.limit ≤ 0
  chatTemplate : args.chatTemplate = defaultChatTemplate
  mode : 0 < args.mergeShards ∨ args.numShards ≤ 1

def ModelSpec.freqArgs (m : ModelSpec) : FreqArgs := ⟨m.path, m.revision⟩

/-- MODEL_PATH and MODEL_REVISION; the frequency decay is on by default. -/
def ModelSpec.env (m : ModelSpec) : LaunchEnv where
  modelPath := m.path
  modelRevision := m.revision.getD ""
  vdFreqDecay := ""

/-! ## The condition -/

/-- The model answers the question of the row with at least one content token. -/
def HasAnswer (args : DumpArgs) (s : DataDir) (row : SourceRow) : Prop :=
  ∀ question answer, row.problem = some question → rollout args s row question = .ok answer →
    answer ≠ []

/-- The records of the parts a merge reads. -/
def partSources (s : DataDir) (mergeShards : ℤ) : List (ℕ × Origin) :=
  (List.range mergeShards.toNat).flatMap fun k => lineSources ((s.part k).getD [])

/-- Every row has a record: each one has an answer or, for a merge, the parts hold as many records
    as the manifest. -/
def EveryRowRecorded (world : World) (args : PrepareArgs) (s : DataDir) : Prop :=
  if 0 < args.mergeShards then ∀ results, s.manifest = some (.complete results) →
    (partSources s args.mergeShards).length = results.length
  else ∀ revision tok model rows, loadTokenizer world args = .ok (revision, tok) →
    world.loadModel args.modelPath revision = .ok model → readRows s = .ok rows →
      ∀ row ∈ rows, HasAnswer (args.dumpArgs world revision tok model) s row

/-! ## The records of a dump -/

/-- A scored row has a record exactly when it has an answer. -/
theorem rowRecord_isSome {args : DumpArgs} {rows : List SourceRow} {s : DataDir} {i : ℕ}
    {r : Option DumpRecord} (h : rowRecord args rows s i = .ok r) :
    ∃ row, rows[i]? = some row ∧ (r.isSome = true ↔ HasAnswer args s row) := by
  obtain ⟨row, hrow, h⟩ := except_bind_ok.mp h
  cases hget : rows[i]? with
  | none =>
      rw [hget] at hrow
      cases hrow
  | some row' =>
      rw [hget] at hrow
      cases hrow
      refine ⟨row, rfl, ?_⟩
      obtain ⟨question, hquestion, h⟩ := except_bind_ok.mp h
      obtain ⟨answer, hanswer, h⟩ := except_bind_ok.mp h
      have hproblem : row.problem = some question := by
        cases hp : row.problem with
        | none =>
            rw [hp] at hquestion
            cases hquestion
        | some q =>
            rw [hp] at hquestion
            cases hquestion
            rfl
      split at h
      · rename_i hempty
        cases h
        constructor
        · intro hsome
          cases hsome
        · exact fun hall => absurd hempty (hall question answer hproblem hanswer)
      · rename_i hne
        obtain ⟨_, _, h⟩ := except_bind_ok.mp h
        obtain ⟨_, _, h⟩ := except_bind_ok.mp h
        obtain ⟨_, _, h⟩ := except_bind_ok.mp h
        obtain ⟨_, _, h⟩ := except_bind_ok.mp h
        cases h
        refine ⟨fun _ question' answer' hq ha => ?_, fun _ => rfl⟩
        rw [hproblem] at hq
        cases hq
        rw [hanswer] at ha
        cases ha
        exact hne

/-- All rows have a record exactly when all have an answer. -/
theorem scores_all_iff {args : DumpArgs} {rows : List SourceRow} {s : DataDir}
    {found : List (Option DumpRecord)} (h : Scores args rows s (List.range rows.length) found) :
    found.reduceOption.length = rows.length ↔ ∀ row ∈ rows, HasAnswer args s row := by
  have hlength : found.length = rows.length := by
    rw [← h.length_eq, List.length_range]
  rw [← hlength, List.reduceOption_length_eq_iff]
  have hget : ∀ i (hi : i < found.length), rowRecord args rows s i = .ok found[i] := by
    intro i hi
    have := h.get (i := i) (by rw [List.length_range, ← hlength]; exact hi) hi
    simpa using this
  constructor
  · intro hall row hrow
    obtain ⟨i, hi, rfl⟩ := List.mem_iff_getElem.mp hrow
    have hi' : i < found.length := by rw [hlength]; exact hi
    obtain ⟨row', hrow', hiff⟩ := rowRecord_isSome (hget i hi')
    rw [List.getElem?_eq_getElem hi] at hrow'
    cases hrow'
    exact hiff.mp (hall _ (List.getElem_mem hi'))
  · intro hall r hr
    obtain ⟨i, hi, rfl⟩ := List.mem_iff_getElem.mp hr
    obtain ⟨row, hrow, hiff⟩ := rowRecord_isSome (hget i hi)
    exact hiff.mpr (hall row (List.mem_of_getElem? hrow))

/-! ## What a finished prepare_priors.py leaves -/

structure PriorsBuilt (sha256 : Digest) (world : World) (args : PrepareArgs) (s t : DataDir)
    (revision : Option String) (tok : Tokenizer) (lines : List Scored) (file : PriorsFile)
    (blob : Priors) : Prop where
  loaded : loadTokenizer world args = .ok (revision, tok)
  same : SameSet s t
  dump : t.dump = some lines
  priors : t.priors = some file
  content : file.content = .complete blob
  info : MetaOf sha256 world args revision tok t (lineSources lines).length blob.info
  count : ∀ results, s.manifest = some (.complete results) →
    ((lineSources lines).length = results.length ↔ EveryRowRecorded world args s)

section Built

variable {sha256 : Digest} {world : World} {args : PrepareArgs} {s t : DataDir}
  {revision : Option String} {tok : Tokenizer}

theorem wp_runPriors_done (hload : loadTokenizer world args = .ok (revision, tok))
    (hsame : SameSet s t) (hcount : ∀ lines, t.dump = some lines → ∀ results,
      s.manifest = some (.complete results) →
        ((lineSources lines).length = results.length ↔ EveryRowRecorded world args s)) :
    wp (runPriors sha256 world args revision tok)
      (fun _ u => ∃ lines file blob,
        PriorsBuilt sha256 world args s u revision tok lines file blob)
      (fun _ _ => True) (fun _ => True) t := by
  refine wp_mono (wp_runPriors sha256 world args revision tok t) ?_ (fun _ _ _ => trivial)
    (fun _ _ => trivial)
  rintro _ u ⟨file, hfile, b, rfl⟩
  obtain ⟨lines, blob, hlines, hsource, hcontent, hmeta⟩ := priorsFile_eq_ok hfile
  rw [hsource] at hmeta
  exact ⟨lines, file, blob, {
    loaded := hload
    same := ⟨hsame.root, hsame.view, hsame.manifest, hsame.parquet⟩
    dump := hlines
    priors := rfl
    content := hcontent
    info := ⟨hmeta.nSamples, hmeta.modelPath, hmeta.modelRevision, hmeta.tokenizer, hmeta.template,
      hmeta.manifest, hmeta.parquet⟩
    count := hcount lines hlines }⟩

/-- A dump without shards holds a record for each row with an answer. -/
theorem dumped_count {model : VisionModel} (hload : loadTokenizer world args = .ok (revision, tok))
    (hmodel : world.loadModel args.modelPath revision = .ok model) (hlimit : args.limit ≤ 0)
    (hshards : args.numShards ≤ 1) (hmerge : ¬0 < args.mergeShards)
    {plan : List SourceRow × List ℕ} {found : List (Option DumpRecord)}
    (hplan : dumpPlan (args.dumpArgs world revision tok model) s = .ok plan)
    (hfound : Scores (args.dumpArgs world revision tok model) plan.1 s plan.2 found)
    {results : List ResultRecord} (hresults : s.manifest = some (.complete results)) :
    found.reduceOption.length = results.length ↔ EveryRowRecorded world args s := by
  obtain ⟨allRows, results', hrows, hmanifest, haligned, hplanRows, htargets⟩ :=
    dumpPlan_eq_ok hplan
  rw [hresults] at hmanifest
  cases hmanifest
  have hall : plan.1 = allRows := by
    rw [hplanRows]
    exact if_neg (not_lt.mpr hlimit)
  obtain ⟨h0, hlt, _⟩ := shardRowIndices_eq_ok htargets
  have hspec : (args.dumpArgs world revision tok model).shard = 0 ∧
      (args.dumpArgs world revision tok model).numShards = 1 := by
    have hle : (args.dumpArgs world revision tok model).numShards ≤ 1 := hshards
    constructor <;> omega
  rw [hspec.1, hspec.2, shardRowIndices_one] at htargets
  rw [← Except.ok.inj htargets, hall] at hfound
  rw [haligned.length_eq, scores_all_iff hfound]
  unfold EveryRowRecorded
  rw [if_neg hmerge]
  constructor
  · intro h revision' tok' model' rows hload' hmodel' hrows'
    rw [hload] at hload'
    cases hload'
    rw [hmodel] at hmodel'
    cases hmodel'
    rw [hrows] at hrows'
    cases hrows'
    exact h
  · exact fun h => h revision tok model allRows hload hmodel hrows

theorem wp_prepareMain_done (hlimit : args.limit ≤ 0)
    (hmode : 0 < args.mergeShards ∨ args.numShards ≤ 1) :
    wp (prepareMain sha256 world args)
      (fun _ u => ∃ revision tok lines file blob,
        PriorsBuilt sha256 world args s u revision tok lines file blob)
      (fun _ _ => True) (fun _ => True) s := by
  refine wp_bind (wp_read (fun _ => trivial) trivial fun loaded hload => ?_)
  obtain ⟨revision, tok⟩ := loaded
  have hweaken : ∀ u : DataDir, (∃ lines file blob,
      PriorsBuilt sha256 world args s u revision tok lines file blob) →
        ∃ revision tok lines file blob,
          PriorsBuilt sha256 world args s u revision tok lines file blob :=
    fun u h => ⟨revision, tok, h⟩
  split
  · rename_i hmerge
    refine wp_bind (wp_mono (wp_mergeShards _ s) ?_ (fun _ _ _ => trivial) (fun _ _ => trivial))
    rintro _ t ⟨records, hrecords, ht, hdump⟩
    refine wp_mono (wp_runPriors_done hload ht.sameSet ?_) (fun _ => hweaken) (fun _ _ h => h)
      (fun _ h => h)
    intro lines hlines results hresults
    rw [hdump] at hlines
    cases hlines
    have hperm := (lineSources_scoredLines (mergeDumpRecords records)) ▸
      (readParts_eq_ok hrecords ▸ mergeDumpRecords_sources records)
    rw [hperm.length_eq]
    unfold EveryRowRecorded
    rw [if_pos hmerge]
    constructor
    · intro h results' hresults'
      rw [hresults] at hresults'
      cases hresults'
      exact h
    · exact fun h => h results hresults
  · rename_i hmerge
    have hshards := hmode.resolve_left hmerge
    refine wp_bind (wp_read (fun _ => trivial) trivial fun model hmodel => ?_)
    refine wp_bind (wp_mono (wp_runDump _ s) ?_ (fun _ _ _ => trivial) (fun _ _ => trivial))
    intro _ t ht
    rw [if_neg (not_lt.mpr hshards)]
    have hsame := sameSet_dumpExit ht.exit
    obtain ⟨plan, found, hplan, hfound, rfl⟩ := ht
    have hpart : (args.dumpArgs world revision tok model).part? = none :=
      if_neg (not_lt.mpr hshards)
    rw [hpart] at hsame ⊢
    refine wp_bind (wp_atomic (fun _ => trivial) trivial (wp_mono (wp_runPriors_done hload
      ⟨hsame.root, hsame.view, hsame.manifest, hsame.parquet⟩ ?_) (fun _ => hweaken)
      (fun _ _ h => h) (fun _ h => h)))
    intro lines hlines results hresults
    cases hlines
    rw [lineSources_dumpedLines, List.length_map]
    exact dumped_count hload hmodel hlimit hshards hmerge hplan hfound hresults

end Built

/-! ## The launch -/

section Launch

variable {sha256 : Digest} {world : World} {m : ModelSpec} {args : PrepareArgs} {s t u : DataDir}

theorem ModelSpec.env_modelId (h : m.path ≠ "") : m.env.modelId = m.path := if_neg h

/-- An accepted model is a local path: a remote one is validated under the path of its snapshot. -/
theorem local_of_launchable (hpath : m.path ≠ "")
    (hsnapshot : ∀ id revision dir, world.snapshotDownload id revision = .ok dir →
      world.pathExists dir = true) {file : PriorsFile} {blob : Priors}
    (hpriors : u.priors = some file) (hcontent : file.content = .complete blob)
    (hmeta : blob.info.modelPath = some m.path) (hl : Launchable sha256 world m.env u) :
    world.pathExists m.path = true := by
  obtain ⟨i, hi⟩ := launchCheck_eq_ok.mp hl
  have hresolved := hi.resolved
  rw [ModelSpec.env_modelId hpath] at hresolved
  have hfile := hi.priors
  rw [hpriors] at hfile
  cases hfile
  have hblob := hi.blob
  rw [hcontent] at hblob
  cases hblob
  have hsame : m.path = i.modelPath := Option.some.inj (hmeta.symm.trans hi.info.modelPath)
  unfold resolve at hresolved
  split at hresolved
  · rename_i hexists
    exact hexists
  · split at hresolved
    · cases hresolved
    · rw [hsame]
      exact hsnapshot _ _ _ hresolved

/-- The priors name the chat template of the launch. -/
theorem PriorsBuilt.template {t : DataDir} {revision : Option String} {tok : Tokenizer}
    {lines : List Scored} {file : PriorsFile} {blob : Priors} (hargs : BuildsPriors m args)
    (ht : PriorsBuilt sha256 world args s t revision tok lines file blob) :
    ∃ template, world.chatTemplate = some template ∧
      blob.info.chatTemplateSha256 = some (sha256 (.template template)) := by
  rcases ht.info.template with ⟨hempty, _⟩ | ⟨text, htext, hhash⟩
  · rw [hargs.chatTemplate] at hempty
    exact absurd hempty (by decide)
  · refine ⟨text, ?_, hhash⟩
    unfold PrepareArgs.templateText at htext
    rw [hargs.chatTemplate, if_neg (by decide)] at htext
    exact htext

/-- With a local model and a record for each row, both checks pass. -/
theorem launchable_of_local {results : List ResultRecord} {records : List TrainRecord}
    {revision : Option String} {tok : Tokenizer} {lines : List Scored} {file : PriorsFile}
    {blob : Priors} (hpath : m.path ≠ "") (hargs : BuildsPriors m args)
    (hids : ∀ path revision tok, world.fromPretrained path revision = .ok tok →
      ∀ e ∈ tok.vocab, e.2 < tok.size)
    (hs : Aligned s results records)
    (ht : PriorsBuilt sha256 world args s t revision tok lines file blob)
    (hu : Tabled sha256 world m.freqArgs t u) (hlocal : world.pathExists m.path = true)
    (hcount : (lineSources lines).length = results.length) : Launchable sha256 world m.env u := by
  obtain ⟨payload, hpayload, b, rfl⟩ := hu
  obtain ⟨parsed, tok', dump, ids, _, htok', hdump, hids', hne, rfl⟩ := freqTable_eq_ok hpayload
  rw [ht.dump] at hdump
  cases hdump
  have hrevision : ∀ r, modelRevision world m.path r = .ok none := fun r => if_pos hlocal
  obtain ⟨revision', hrevision', hload⟩ := except_bind_ok.mp ht.loaded
  obtain ⟨tok'', htok, hload⟩ := except_bind_ok.mp hload
  cases hload
  rw [hargs.modelPath, hrevision] at hrevision'
  cases hrevision'
  rw [hargs.modelPath] at htok
  rw [show m.freqArgs.modelPath = m.path from rfl, if_pos hlocal, htok] at htok'
  cases htok'
  obtain ⟨parquet, hparquet, hrecords⟩ := hs.parquet
  obtain ⟨template, htemplate, htemplateHash⟩ := ht.template hargs
  have hmanifest := ht.same.manifest.trans hs.manifest
  have hparquet' := ht.same.parquet.trans hparquet
  refine launchCheck_eq_ok.mpr ⟨⟨m.path, none, tok, template, .complete results, parquet, records,
    file, blob⟩, ?_⟩
  exact {
    resolved := by
      rw [ModelSpec.env_modelId hpath]
      exact if_pos hlocal
    revision := hrevision _
    tokenizer := htok
    template := htemplate
    manifest := hmanifest
    parquet := hparquet'
    records := hrecords
    priors := ht.priors
    blob := ht.content
    info := by
      obtain ⟨d, hd, hdhash⟩ := ht.info.manifest
      obtain ⟨q, hq, hqhash⟩ := ht.info.parquet
      rw [hmanifest] at hd
      rw [hparquet'] at hq
      cases hd
      cases hq
      refine ⟨?_, ht.info.modelRevision, htemplateHash, hdhash, hqhash, ?_, ht.info.tokenizer⟩
      · rw [ht.info.modelPath, hargs.modelPath]
        rfl
      · rw [ht.info.nSamples, hcount, ← hs.length]
        rfl
    freq := by
      intro _
      refine ⟨_, rfl, ?_⟩
      have hlocal' : world.pathExists m.freqArgs.modelPath = true := hlocal
      rw [if_pos hlocal', show t.dump = some lines from ht.dump]
      refine validateFreq_freqPayload hne (fun id hid => ?_) (dumpIds_lt hids')
      obtain ⟨w, hw⟩ := dumpIds_mem hids' id hid
      exact hids _ _ _ htok _ hw }

end Launch

/-- **After finished producers, the launch with the same model passes both checks exactly when the
    model is a local path and every row has a record.** -/
theorem accepted_iff (sha256 : Digest) (world : World) (m : ModelSpec) (hm : m.Admitted world)
    (hsnapshot : ∀ id revision dir, world.snapshotDownload id revision = .ok dir →
      world.pathExists dir = true)
    (hids : ∀ path revision tok, world.fromPretrained path revision = .ok tok →
      ∀ e ∈ tok.vocab, e.2 < tok.size)
    (args : PrepareArgs) (hargs : BuildsPriors m args) (s : DataDir) (hs : DatasetReady sha256 s)
    (faults faults' : List (Verdict PyError))
    (hprepare : ((prepareMain sha256 world args).run faults s).outcome = .done ())
    (hfreq : ((freqMain sha256 world m.freqArgs).run faults'
      ((prepareMain sha256 world args).run faults s).state).outcome = .done ()) :
    Launchable sha256 world m.env ((freqMain sha256 world m.freqArgs).run faults'
        ((prepareMain sha256 world args).run faults s).state).state ↔
      world.pathExists m.path = true ∧ EveryRowRecorded world args s := by
  obtain ⟨results, records, haligned⟩ := hs.aligned
  obtain ⟨revision, tok, lines, file, blob, ht⟩ :=
    (wp_prepareMain_done (s := s) hargs.limit hargs.mode).done hprepare
  have hu := (wp_freqMain sha256 world m.freqArgs _).done hfreq
  generalize ((prepareMain sha256 world args).run faults s).state = t at ht hu ⊢
  generalize ((freqMain sha256 world m.freqArgs).run faults' t).state = u at hu ⊢
  constructor
  · intro hl
    obtain ⟨payload, _, b, rfl⟩ := hu
    have hlocal := local_of_launchable hm.1 hsnapshot (u := { t with
      freqCounts := some (.complete payload), temp := b }) ht.priors ht.content
      (by rw [ht.info.modelPath, hargs.modelPath]) hl
    refine ⟨hlocal, (ht.count results haligned.manifest).mp ?_⟩
    obtain ⟨i, hi⟩ := launchCheck_eq_ok.mp hl
    obtain ⟨parquet, hparquet, hrecords⟩ := (ht.same.aligned haligned).parquet
    have hparquet' := hi.parquet
    rw [show ({ t with freqCounts := _, temp := b } : DataDir).parquet = t.parquet from rfl,
      hparquet] at hparquet'
    cases hparquet'
    have hrecords' := hi.records
    rw [hrecords] at hrecords'
    cases hrecords'
    have hfile := hi.priors
    rw [show ({ t with freqCounts := _, temp := b } : DataDir).priors = t.priors from rfl,
      ht.priors] at hfile
    cases hfile
    have hblob := hi.blob
    rw [ht.content] at hblob
    cases hblob
    have hcount := Option.some.inj (ht.info.nSamples.symm.trans hi.info.nSamples)
    rw [hcount, ← haligned.length]
    rfl
  · rintro ⟨hlocal, hevery⟩
    exact launchable_of_local hm.1 hargs hids haligned ht hu hlocal
      ((ht.count results haligned.manifest).mpr hevery)

/-! ## A local and a remote model -/

section Sample

/-- A hub with one snapshot. -/
def hubWorld : World :=
  { twoModels with
    pathExists := fun path => path == "/hub/snapshot"
    snapshotDownload := fun _ _ => .ok "/hub/snapshot" }

def fullArgs (m : ModelSpec) : PrepareArgs where
  modelPath := m.path
  modelRevision := m.revision
  limit := 0
  chatTemplate := defaultChatTemplate
  numShards := 1
  shard := 0
  mergeShards := 0

theorem fullArgs_buildsPriors (m : ModelSpec) : BuildsPriors m (fullArgs m) :=
  ⟨rfl, rfl, le_rfl, rfl, .inr le_rfl⟩

/-- The worlds of the sample differ in the paths that exist. -/
structure SampleWorld (world : World) : Prop where
  tokenizer : ∀ path revision, world.fromPretrained path revision = .ok sampleTokenizer
  model : ∀ path revision, world.loadModel path revision = .ok sampleModel
  template : ∀ path, world.templateText path = some "template"

theorem SampleWorld.ids {world : World} (h : SampleWorld world) :
    ∀ path revision tok, world.fromPretrained path revision = .ok tok →
      ∀ e ∈ tok.vocab, e.2 < tok.size := by
  intro path revision tok htok e he
  rw [h.tokenizer] at htok
  cases htok
  rw [List.mem_singleton.mp he]
  decide

/-- The only row of the sample has an answer, a record, and its token is in the vocabulary. -/
theorem sample_row (args : DumpArgs) (htok : args.tokenizer = sampleTokenizer)
    (hmodel : args.model = sampleModel) (htext : args.templateText = some "template")
    (record : TrainRecord) :
    ∃ r, rowRecord args [sampleRow "<image>What color is the car?"] (builtDir record) 0 =
      .ok (some r) ∧ r.tokens ≠ [] ∧ recordIds sampleTokenizer { r with n := 0 } = .ok [0] := by
  obtain ⟨modelPath, modelRevision, tokenizer, model, chatTemplate, templateText, limit, numShards,
    shard⟩ := args
  cases htok
  cases hmodel
  cases htext
  exact ⟨_, rfl, List.cons_ne_nil _ _, rfl⟩

/-- The process of prepare_priors.py on the sample. -/
def fullDump (m : ModelSpec) (world : World) (revision : Option String) : DumpArgs :=
  (fullArgs m).dumpArgs world revision sampleTokenizer sampleModel

/-- The directory after the dump and the removal of the old statistics. -/
def scoredDir (m : ModelSpec) (world : World) (revision : Option String) (record : TrainRecord)
    (r : DumpRecord) : DataDir :=
  markFreqCountsStale (setDump (some (dumpedLines ((fullDump m world revision).origin
    (builtDir record)) [r])) (builtDir record) none)

theorem fullDump_plan (m : ModelSpec) (world : World) (revision : Option String)
    (record : TrainRecord) : dumpPlan (fullDump m world revision) (builtDir record) =
      .ok ([sampleRow "<image>What color is the car?"], [0]) := by
  have hlimit : ¬0 < (fullDump m world revision).limit := Int.lt_irrefl 0
  unfold dumpPlan
  refine except_bind_ok.mpr ⟨_, rfl, except_bind_ok.mpr ⟨_, rfl, except_bind_ok.mpr ⟨_, rfl, ?_⟩⟩⟩
  rw [if_pos (by decide)]
  dsimp only
  rw [if_neg hlimit]
  exact except_bind_ok.mpr ⟨[0], shardRowIndices_one 1, rfl⟩

theorem finishes_fullPrepare (sha256 : Digest) {world : World} (hworld : SampleWorld world)
    {m : ModelSpec} {revision : Option String} {record : TrainRecord} {r : DumpRecord}
    (hrevision : modelRevision world m.path (m.revision.getD "") = .ok revision)
    (hr : rowRecord (fullDump m world revision) [sampleRow "<image>What color is the car?"]
      (builtDir record) 0 = .ok (some r)) (htokens : r.tokens ≠ []) :
    ∃ file, Finishes (prepareMain sha256 world (fullArgs m)) (builtDir record) ()
      { scoredDir m world revision record r with temp := false, priors := some file } := by
  have hload : loadTokenizer world (fullArgs m) = .ok (revision, sampleTokenizer) :=
    except_bind_ok.mpr ⟨revision, hrevision, except_bind_ok.mpr
      ⟨sampleTokenizer, hworld.tokenizer _ _, rfl⟩⟩
  have htext : (fullArgs m).templateText world = some "template" := by
    have hne : (fullArgs m).chatTemplate ≠ "" := (by decide : defaultChatTemplate ≠ "")
    exact (if_neg hne).trans (hworld.template _)
  have hread : readDump (scoredDir m world revision record r) =
      .ok [({ r with n := 0 }, (fullDump m world revision).origin (builtDir record))] := rfl
  obtain ⟨file, hfile⟩ := priorsFile_ok sha256 world (fullArgs m) revision sampleTokenizer hread
    (by simp) (by simpa using htokens) htext rfl rfl
  have hfound : Scores (fullDump m world revision) [sampleRow "<image>What color is the car?"]
      (builtDir record) [0] [some r] := .cons hr .nil
  have hdumped := finishes_runDump (fullDump_plan m world revision record) hfound
  have hfirst := finishes_read (s := builtDir record)
    (g := fun _ => loadTokenizer world (fullArgs m)) hload
  have hmodel := finishes_read (s := builtDir record)
    (g := fun _ => world.loadModel m.path revision) (hworld.model _ _)
  have hmerge : ¬0 < (fullArgs m).mergeShards := Int.lt_irrefl 0
  have hshards : ¬1 < (fullArgs m).numShards := Int.lt_irrefl 1
  refine ⟨file, hfirst.bind ?_⟩
  rw [if_neg hmerge]
  refine hmodel.bind (hdumped.bind ?_)
  rw [if_neg hshards]
  exact (finishes_atomic _ _).bind (finishes_runPriors hfile)

/-- The producers finish on the sample. -/
theorem sample_producers (sha256 : Digest) {world : World} (hworld : SampleWorld world)
    {m : ModelSpec} {revision parsed : Option String}
    (hrevision : modelRevision world m.path (m.revision.getD "") = .ok revision)
    (hparsed : parsedRevision world m.freqArgs = .ok parsed) (record : TrainRecord) :
    ∃ faults faults',
      ((prepareMain sha256 world (fullArgs m)).run faults (builtDir record)).outcome = .done () ∧
      ((freqMain sha256 world m.freqArgs).run faults'
        ((prepareMain sha256 world (fullArgs m)).run faults (builtDir record)).state).outcome =
          .done () := by
  obtain ⟨r, hr, htokens, hids⟩ := sample_row (fullDump m world revision) rfl rfl
    (show (fullArgs m).templateText world = some "template" from
      (if_neg (by decide : defaultChatTemplate ≠ "")).trans (hworld.template _)) record
  obtain ⟨file, hprepare⟩ := finishes_fullPrepare sha256 hworld hrevision hr htokens
  obtain ⟨faults, hdone, hstate⟩ := hprepare.run
  have htable : ∃ payload, freqTable sha256 world m.freqArgs
      ((prepareMain sha256 world (fullArgs m)).run faults (builtDir record)).state =
        .ok payload := by
    rw [hstate]
    unfold freqTable
    rw [hparsed]
    have hdump : dumpIds sampleTokenizer (dumpedLines ((fullDump m world revision).origin
        (builtDir record)) [r]) = .ok [0] :=
      except_bind_ok.mpr ⟨_, rfl, except_bind_ok.mpr ⟨[0], hids, rfl⟩⟩
    exact ⟨_, except_bind_ok.mpr ⟨parsed, rfl, except_bind_ok.mpr ⟨sampleTokenizer,
      hworld.tokenizer _ _, except_bind_ok.mpr ⟨[0], hdump, rfl⟩⟩⟩⟩
  obtain ⟨payload, hpayload⟩ := htable
  obtain ⟨faults', hdone', _⟩ := (finishes_freqMain hpayload).run
  exact ⟨faults, faults', hdone, hdone'⟩

theorem builtDir_ready (sha256 : Digest) : ∃ record, DatasetReady sha256 (builtDir record) := by
  obtain ⟨record, hbuilt⟩ := sample_build
  obtain ⟨faults, hdone, hstate⟩ := hbuilt.run
  exact ⟨record, hstate ▸ .build hdone⟩

end Sample

/-- A local model: the producers finish, and the launch accepts what they have written. -/
theorem accepted_iff_sample : ∃ (sha256 : Digest) (s : DataDir),
    Launchable sha256 twoModels (ModelSpec.env ⟨"models/qwen", none⟩) s := by
  let sha256 : Digest := fun _ => ""
  let m : ModelSpec := ⟨"models/qwen", none⟩
  have hworld : SampleWorld twoModels := ⟨fun _ _ => rfl, fun _ _ => rfl, fun _ => rfl⟩
  have hlocal : twoModels.pathExists m.path = true := by decide
  have hrevision : modelRevision twoModels m.path (m.revision.getD "") = .ok none := if_pos hlocal
  have hparsed : parsedRevision twoModels m.freqArgs = .ok none := rfl
  have hadmitted : m.Admitted twoModels := ⟨by decide, by decide, .inl hlocal⟩
  obtain ⟨record, hready⟩ := builtDir_ready sha256
  obtain ⟨faults, faults', hprepare, hfreq⟩ := sample_producers sha256 hworld hrevision
    hparsed record
  have hevery : EveryRowRecorded twoModels (fullArgs m) (builtDir record) := by
    have hmerge : ¬0 < (fullArgs m).mergeShards := Int.lt_irrefl 0
    refine (if_neg hmerge).mpr ?_
    intro revision tok model rows hload hmodel hrows row hrow
    cases hload
    cases hmodel
    cases hrows
    rw [List.mem_singleton.mp hrow]
    obtain ⟨r, hr, _, _⟩ := sample_row (fullDump m twoModels none) rfl rfl rfl record
    obtain ⟨row', hrow', hanswer⟩ := rowRecord_isSome hr
    cases hrow'
    exact hanswer.mp rfl
  exact ⟨sha256, _, (accepted_iff sha256 twoModels m hadmitted (fun _ _ _ h => nomatch h)
    hworld.ids (fullArgs m) (fullArgs_buildsPriors m) (builtDir record) hready faults faults'
    hprepare hfreq).mpr ⟨hlocal, hevery⟩⟩

/-- The default remote model: the producers finish, and the launch rejects what they have
    written. -/
theorem remote_model_rejected : ¬∃ sha256 : Digest, ∀ (world : World) (m : ModelSpec),
    m.Admitted world →
    (∀ id revision dir, world.snapshotDownload id revision = .ok dir →
      world.pathExists dir = true) →
    (∀ path revision tok, world.fromPretrained path revision = .ok tok →
      ∀ e ∈ tok.vocab, e.2 < tok.size) →
    ∀ args, BuildsPriors m args → ∀ s, DatasetReady sha256 s → ∀ faults faults',
      ((prepareMain sha256 world args).run faults s).outcome = .done () →
      ((freqMain sha256 world m.freqArgs).run faults'
        ((prepareMain sha256 world args).run faults s).state).outcome = .done () →
      Launchable sha256 world m.env ((freqMain sha256 world m.freqArgs).run faults'
        ((prepareMain sha256 world args).run faults s).state).state := by
  rintro ⟨sha256, h⟩
  let m : ModelSpec := ⟨defaultModelPath, none⟩
  have hworld : SampleWorld hubWorld := ⟨fun _ _ => rfl, fun _ _ => rfl, fun _ => rfl⟩
  have hadmitted : m.Admitted hubWorld := ⟨by decide, by decide, .inr (.inl rfl)⟩
  have hsnapshot : ∀ id revision dir, hubWorld.snapshotDownload id revision = .ok dir →
      hubWorld.pathExists dir = true := by
    intro id revision dir hdir
    cases hdir
    decide
  have hremote : hubWorld.pathExists m.path = false := by decide
  have hrevision : modelRevision hubWorld m.path (m.revision.getD "") =
      .ok (some defaultModelRevision) := by decide
  have hparsed : parsedRevision hubWorld m.freqArgs = .ok (some defaultModelRevision) := rfl
  have hargs : BuildsPriors m (fullArgs m) := fullArgs_buildsPriors m
  obtain ⟨record, hready⟩ := builtDir_ready sha256
  obtain ⟨faults, faults', hprepare, hfreq⟩ := sample_producers sha256 hworld hrevision
    hparsed record
  have hlaunch := h hubWorld m hadmitted hsnapshot hworld.ids _ hargs _ hready
    faults faults' hprepare hfreq
  obtain ⟨revision, tok, lines, file, blob, ht⟩ :=
    (wp_prepareMain_done (s := builtDir record) hargs.limit hargs.mode).done hprepare
  have hu := (wp_freqMain sha256 hubWorld m.freqArgs _).done hfreq
  generalize ((prepareMain sha256 hubWorld (fullArgs m)).run faults (builtDir record)).state = t
    at ht hu hlaunch
  have hpriors : ((freqMain sha256 hubWorld m.freqArgs).run faults' t).state.priors =
      some file := by
    obtain ⟨_, _, _, hstate⟩ := hu
    rw [hstate]
    exact ht.priors
  have hlocal := local_of_launchable hadmitted.1 hsnapshot hpriors ht.content
    ht.info.modelPath hlaunch
  rw [hremote] at hlocal
  cases hlocal

end LookAway.Priors
