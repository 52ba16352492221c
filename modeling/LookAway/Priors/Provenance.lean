/-
  Where the records behind accepted priors come from.

  `provenance_of_launch`: in a run whose merges are careful, priors the launch check accepts were
  computed from one record for each row of the parquet, and each record was scored as the launch
  assumes. `merge_hides_model` is a run with a merge that is not.
-/
import LookAway.Data.Digest
import LookAway.Data.ImportSafety
import LookAway.Data.Progress
import LookAway.Priors.Soundness

namespace LookAway.Priors

open LookAway.Base LookAway.Base.Script LookAway.Data

/-! ## The property -/

/-- The record was scored with the model, tokenizer and chat template of the launch. -/
structure ScoredFor (i : LaunchInputs) (o : Origin) : Prop where
  modelPath : o.modelPath = i.modelPath
  modelRevision : o.modelRevision = i.revision
  tokenizer : o.tokenizer = i.tokenizer.payload
  chatTemplate : o.chatTemplate = i.template

/-- The priors come from one record for each row of the parquet, all of the current generation
    and scored as the launch assumes. -/
structure Provenance (s : DataDir) (i : LaunchInputs) : Prop where
  rows : (i.priors.source.map (·.1)).Perm (List.range i.records.length)
  generation : ∀ x ∈ i.priors.source, x.2.generation = s.generation
  scored : ∀ x ∈ i.priors.source, ScoredFor i x.2

/-! ## The launch -/

/-- Distinct numbers below their count are all of them. -/
theorem perm_range {xs : List ℕ} {n : ℕ} (hnodup : xs.Nodup) (hlt : ∀ x ∈ xs, x < n)
    (hlength : xs.length = n) : xs.Perm (List.range n) := by
  have hsub : xs.Subperm (List.range n) :=
    List.subperm_of_subset hnodup fun x hx => List.mem_range.mpr (hlt x hx)
  exact hsub.perm_of_length_le (by rw [List.length_range, hlength])

theorem modelRevision_ne_empty {world : World} {path revision : String}
    (h : modelRevision world path revision = .ok (some "")) : False := by
  unfold modelRevision at h
  split at h
  · cases h
  · split at h
    · rename_i hne
      cases h
      exact hne rfl
    · split at h
      · exact absurd (Except.ok.inj h) (by decide)
      · cases h

/-- In a sound directory with a current parquet, accepted priors have their provenance. -/
theorem Sound.provenance {sha256 : Digest} (hinj : Function.Injective sha256) {s : DataDir}
    (h : Sound sha256 s) {world : World} {env : LaunchEnv} {i : LaunchInputs}
    (hcurrent : i.parquet.generation = s.generation) (hi : Accepted sha256 world env s i) :
    Provenance s i := by
  have hc : CurrentParquet s := ⟨i.parquet, hi.parquet, hcurrent⟩
  have hfrom := h.priors hc i.priors i.blob hi.priors hi.blob
  obtain ⟨results, records, hmanifest, hrecords, hlength⟩ := h.parquet hc
  rw [hi.parquet, Option.map_some, hi.records] at hrecords
  cases hrecords
  have hinfo := hi.info
  have hcount : i.priors.source.length = i.records.length :=
    Option.some.inj (hfrom.count.symm.trans hinfo.nSamples)
  refine ⟨perm_range hfrom.nodup (fun j hj => ?_) (by rw [List.length_map, hcount]),
    hfrom.generation, fun x hx => ?_⟩
  · obtain ⟨x, hx, rfl⟩ := List.mem_map.mp hj
    obtain ⟨results', hresults', hlt⟩ := hfrom.row x hx
    rw [hmanifest] at hresults'
    cases hresults'
    rw [hlength]
    exact hlt
  · have hx := hfrom.described x hx
    refine ⟨Option.some.inj (hx.modelPath.symm.trans hinfo.modelPath), ?_, ?_, ?_⟩
    · have hrev := hx.modelRevision.symm.trans hinfo.modelRevision
      rw [hrev]
      refine if_neg fun hempty => ?_
      have hrevision := hi.revision
      rw [hempty] at hrevision
      exact modelRevision_ne_empty hrevision
    · have htok := Option.some.inj (hx.tokenizer.symm.trans hinfo.tokenizer)
      exact Hashed.tokenizer.inj (hinj htok)
    · have htemplate := hinj (hx.template _ hinfo.chatTemplate)
      exact (Hashed.template.inj htemplate).symm

/-- **In every run whose merges find the parts written for them, accepted priors next to a current
    parquet come from one record a row, scored as the launch assumes.** -/
theorem provenance_of_launch (sha256 : Digest) (hinj : Function.Injective sha256)
    (s₀ s : DataDir) (hfresh : Fresh s₀) (hrun : Reaches sha256 Careful s₀ s) (world : World)
    (env : LaunchEnv) (hlaunch : Careful s (.launch world env)) (i : LaunchInputs)
    (hi : Accepted sha256 world env s i) : Provenance s i :=
  (hrun.sound hfresh).provenance hinj (hlaunch i.parquet hi.parquet) hi

/-! ## A careful and a careless merge -/

section Sample

def sampleModel : VisionModel where
  promptIds _ _ _ := .ok [1]
  generate _ _ := [0]
  logSoftmax _ _ _ _ := -1

/-- Two local models that share a tokenizer. -/
def twoModels : World where
  pathExists path := path == "models/qwen" || path == "models/tuned"
  snapshotDownload _ _ := .error (.valueError "offline")
  fromPretrained _ _ := .ok sampleTokenizer
  loadModel _ _ := .ok sampleModel
  templateText _ := some "template"
  abspath path := "/" ++ path
  percentile := sampleWorld.percentile

/-- The pool saves the negative of the only row and reports it. -/
def samplePool : PoolRun := fun _ _ => [.staged (imageName 0) [137, 80], .result sampleResult]

/-- The dataset has been unpacked by hand. -/
def freshDir : DataDir :=
  { DataDir.empty sampleRoot with jsonl := sampleView.jsonl, files := sampleView.files }

theorem freshDir_fresh : Fresh freshDir := ⟨rfl, rfl, rfl, rfl, fun _ => rfl, rfl⟩

def shardArgs (modelPath : String) (shard : ℤ) : PrepareArgs where
  modelPath := modelPath
  modelRevision := none
  limit := 0
  chatTemplate := defaultChatTemplate
  numShards := 2
  shard := shard
  mergeShards := 0

def mergeArgs : PrepareArgs where
  modelPath := "models/qwen"
  modelRevision := none
  limit := 0
  chatTemplate := defaultChatTemplate
  numShards := 1
  shard := 0
  mergeShards := 2

theorem samplePool_complete (rows : List SourceRow) (files : Path → Option Bytes)
    (h : rows.length = 1) : PoolComplete rows (samplePool rows files) := by
  constructor
  · rw [h]
    have hsort : sortResults (poolResults (samplePool rows files)) = [sampleResult] := by
      simp [sortResults, poolResults, samplePool]
    rw [hsort]
    decide
  · rw [h]
    ext name
    have hnone : name ∉ (∅ : ImageSet) := Finmap.notMem_empty
    simp [stagedSet, stage, samplePool, expectedFiles, Finmap.mem_keys, Finmap.mem_insert, hnone]

/-- The directory after the build. -/
def builtDir (record : TrainRecord) : DataDir :=
  rebuilt freshDir (stagedSet (samplePool [] fun _ => none)) [sampleResult] [record]

theorem sample_build : ∃ record, Finishes (buildTrainsetMain sampleHub samplePool (sampleArgs true))
    freshDir () (builtDir record) := by
  have hsort : ∀ rows files, sortResults (poolResults (samplePool rows files)) =
      [sampleResult] := by
    intro rows files
    simp [sortResults, poolResults, samplePool]
  have hrecords : ∃ record, parquetRecords freshDir.root.1
      [.row (sampleRow "<image>What color is the car?")] [sampleResult] = .ok [record] := by
    unfold parquetRecords
    rw [if_pos (by decide)]
    exact ⟨_, rfl⟩
  obtain ⟨record, hrecords⟩ := hrecords
  rw [← hsort [sampleRow "<image>What color is the car?"] freshDir.image?] at hrecords
  have hcomplete : PoolComplete [sampleRow "<image>What color is the car?"]
      (samplePool [sampleRow "<image>What color is the car?"] freshDir.image?) :=
    samplePool_complete _ _ rfl
  have h := finishes_prepareStage (s := freshDir) rfl rfl (by simp) hcomplete hrecords
  rw [hsort] at h
  exact ⟨record, (finishes_pure () freshDir).bind h⟩

/-- The origin of what a dump process of the sample writes. -/
def sampleOriginOf (modelPath : String) (record : TrainRecord) (shard : ℕ) : Origin where
  generation := 1
  view := (builtDir record).view
  modelPath := modelPath
  modelRevision := none
  tokenizer := sampleTokenizer.payload
  chatTemplate := "template"
  numShards := 2
  shard := shard

/-- The directory after both dump processes. -/
def dumpedDir (modelPath : String) (record : TrainRecord) (r : DumpRecord) : DataDir :=
  setDump (some []) (setDump (some (dumpedLines (sampleOriginOf modelPath record 0) [r]))
    (builtDir record) (some 0)) (some 1)

def shardDump (modelPath : String) (shard : ℤ) : DumpArgs :=
  (shardArgs modelPath shard).dumpArgs twoModels none sampleTokenizer sampleModel

theorem sample_plan (modelPath : String) {shard : ℤ} {targets : List ℕ} {s : DataDir}
    (hrows : readRows s = .ok [sampleRow "<image>What color is the car?"])
    (hmanifest : s.manifest = some (.complete [sampleResult]))
    (htargets : shardRowIndices 1 shard 2 = .ok targets) :
    dumpPlan (shardDump modelPath shard) s =
      .ok ([sampleRow "<image>What color is the car?"], targets) := by
  unfold dumpPlan
  rw [hrows, hmanifest]
  refine except_bind_ok.mpr ⟨_, rfl, except_bind_ok.mpr ⟨_, rfl, except_bind_ok.mpr ⟨_, rfl, ?_⟩⟩⟩
  have hlimit : ¬0 < (shardDump modelPath shard).limit := Int.lt_irrefl 0
  rw [if_pos (by decide)]
  dsimp only
  rw [if_neg hlimit]
  exact except_bind_ok.mpr ⟨targets, htargets, rfl⟩

theorem finishes_shard (sha256 : Digest) {modelPath : String} {shard : ℤ} {s : DataDir}
    {plan : List SourceRow × List ℕ} {found : List (Option DumpRecord)}
    (hpath : twoModels.pathExists modelPath = true)
    (hplan : dumpPlan (shardDump modelPath shard) s = .ok plan)
    (hfound : Scores (shardDump modelPath shard) plan.1 s plan.2 found) :
    Finishes (prepareMain sha256 twoModels (shardArgs modelPath shard)) s ()
      (setDump (some (dumpedLines ((shardDump modelPath shard).origin s) found.reduceOption)) s
        (shardDump modelPath shard).part?) := by
  have hload : loadTokenizer twoModels (shardArgs modelPath shard) =
      .ok (none, sampleTokenizer) := by
    refine except_bind_ok.mpr ⟨none, ?_, rfl⟩
    unfold modelRevision
    rw [show (shardArgs modelPath shard).modelPath = modelPath from rfl, if_pos hpath]
  have hfirst := finishes_read (s := s)
    (g := fun _ => loadTokenizer twoModels (shardArgs modelPath shard)) hload
  have hmodel := finishes_read (s := s)
    (g := fun _ => twoModels.loadModel modelPath none) (a := sampleModel) rfl
  have hmerge : ¬0 < (shardArgs modelPath shard).mergeShards := Int.lt_irrefl 0
  have hsharded : 1 < (shardArgs modelPath shard).numShards := by
    show (1 : ℤ) < 2
    decide
  refine hfirst.bind ?_
  rw [if_neg hmerge]
  refine hmodel.bind ((finishes_runDump hplan hfound).bind ?_)
  rw [if_pos hsharded]
  exact finishes_pure () _

theorem sample_dump (sha256 : Digest) {modelPath : String} (record : TrainRecord)
    (hpath : twoModels.pathExists modelPath = true) :
    ∃ r s, r.tokens ≠ [] ∧
      Finishes (prepareMain sha256 twoModels (shardArgs modelPath 0)) (builtDir record) () s ∧
      Finishes (prepareMain sha256 twoModels (shardArgs modelPath 1)) s ()
        (dumpedDir modelPath record r) := by
  obtain ⟨r, hr, htokens⟩ : ∃ r, rowRecord (shardDump modelPath 0)
      [sampleRow "<image>What color is the car?"] (builtDir record) 0 = .ok (some r) ∧
        r.tokens ≠ [] := ⟨_, rfl, List.cons_ne_nil _ _⟩
  have hplan : dumpPlan (shardDump modelPath 0) (builtDir record) =
      .ok ([sampleRow "<image>What color is the car?"], [0]) := sample_plan _ rfl rfl rfl
  have hfound : Scores (shardDump modelPath 0) [sampleRow "<image>What color is the car?"]
      (builtDir record) [0] [some r] := .cons hr .nil
  have hplan' : dumpPlan (shardDump modelPath 1) (setDump (some (dumpedLines
      ((shardDump modelPath 0).origin (builtDir record)) [r])) (builtDir record) (some 0)) =
      .ok ([sampleRow "<image>What color is the car?"], []) := sample_plan _ rfl rfl rfl
  exact ⟨r, _, htokens, finishes_shard sha256 hpath hplan hfound,
    finishes_shard sha256 hpath hplan' .nil⟩

/-- The merge accepts the parts whatever model wrote them, and the launch accepts the priors. -/
theorem sample_merge (sha256 : Digest) (modelPath : String) (record : TrainRecord)
    {r : DumpRecord} (htokens : r.tokens ≠ []) :
    ∃ s i, Finishes (prepareMain sha256 twoModels mergeArgs) (dumpedDir modelPath record r) () s ∧
      Accepted sha256 twoModels sampleEnv s i ∧ i.parquet.generation = s.generation ∧
      ∃ x ∈ i.priors.source, x.2.modelPath = modelPath := by
  have hload : loadTokenizer twoModels mergeArgs = .ok (none, sampleTokenizer) := rfl
  have hparts : readParts (dumpedDir modelPath record r) (List.range 2) =
      .ok [({ r with n := 0 }, sampleOriginOf modelPath record 0)] := rfl
  obtain ⟨t, hmerged, haside, hdump⟩ := finishes_mergeShards hparts
  have hsorted : mergeDumpRecords [({ r with n := 0 }, sampleOriginOf modelPath record 0)] =
      [({ r with n := 0 }, sampleOriginOf modelPath record 0)] := by
    simp [mergeDumpRecords]
  have hdump' : t.dump = some (scoredLines [({ r with n := 0 },
      sampleOriginOf modelPath record 0)]) := by
    rw [← hsorted]
    exact hdump
  have hmanifest : t.manifest = some (.complete [sampleResult]) := haside.manifest
  have hparquet : t.parquet = some ⟨.complete [record], 1, (builtDir record).view⟩ := haside.parquet
  obtain ⟨file, hfile⟩ := priorsFile_ok sha256 twoModels mergeArgs none sampleTokenizer
    (readDump_scoredLines hdump') (by simp) (by simpa using htokens) rfl hmanifest hparquet
  obtain ⟨lines, blob, hlines, hsource, hblob, hmeta⟩ := priorsFile_eq_ok hfile
  rw [hdump'] at hlines
  cases hlines
  have hone : file.source = [(r.idx, sampleOriginOf modelPath record 0)] := hsource
  have hfirst := finishes_read (s := dumpedDir modelPath record r)
    (g := fun _ => loadTokenizer twoModels mergeArgs) hload
  refine ⟨_, ⟨"models/qwen", none, sampleTokenizer, "template", .complete [sampleResult],
    ⟨.complete [record], 1, (builtDir record).view⟩, [record], file, blob⟩,
    hfirst.bind (hmerged.bind (finishes_runPriors hfile)), ?_, ?_, ?_⟩
  · exact {
      resolved := rfl
      revision := rfl
      tokenizer := rfl
      template := rfl
      manifest := hmanifest
      parquet := hparquet
      records := rfl
      priors := rfl
      blob := hblob
      info := by
        obtain ⟨m, hm, hmhash⟩ := hmeta.manifest
        obtain ⟨q, hq, hqhash⟩ := hmeta.parquet
        rw [hmanifest] at hm
        rw [hparquet] at hq
        cases hm
        cases hq
        refine ⟨hmeta.modelPath, hmeta.modelRevision, ?_, hmhash, hqhash, ?_, hmeta.tokenizer⟩
        · rcases hmeta.template with ⟨hempty, _⟩ | ⟨text, htext, hhash⟩
          · exact absurd hempty (by decide)
          · cases htext
            exact hhash
        · rw [hmeta.nSamples, hone]
          rfl
      freq := fun h => absurd h (by decide) }
  · exact haside.generation.symm
  · refine ⟨(r.idx, sampleOriginOf modelPath record 0), ?_, rfl⟩
    show _ ∈ file.source
    rw [hone]
    exact List.mem_singleton_self _

/-- The parts of the sample carry the settings of the dump. -/
theorem dumpedDir_part {modelPath : String} {record : TrainRecord} {r : DumpRecord} {k : ℕ}
    {lines : List Scored} (hk : k < 2) (h : (dumpedDir modelPath record r).part k = some lines) :
    ∀ x ∈ lines, x.origin = sampleOriginOf modelPath record k := by
  intro x hx
  have hcases : k = 0 ∨ k = 1 := by omega
  rcases hcases with rfl | rfl
  · cases h
    rw [List.mem_singleton.mp hx]
  · cases h
    cases hx

/-- The run of the sample, up to the merge. -/
theorem sample_reaches (sha256 : Digest) (ok : DataDir → Command → Prop) (modelPath : String)
    (hpath : twoModels.pathExists modelPath = true)
    (hbuild : ∀ s, ok s (.build sampleHub samplePool (sampleArgs true)))
    (hdump : ∀ s shard, ok s (.prepare twoModels (shardArgs modelPath shard))) :
    ∃ record r, r.tokens ≠ [] ∧
      Reaches sha256 ok freshDir (dumpedDir modelPath record r) := by
  obtain ⟨record, hbuilt⟩ := sample_build
  obtain ⟨r, s, htokens, hfirst, hsecond⟩ := sample_dump sha256 record hpath
  have hrun : Reaches sha256 ok freshDir (builtDir record) :=
    Reaches.finish .refl (.build sampleHub samplePool (sampleArgs true)) (hbuild _) hbuilt
  exact ⟨record, r, htokens, (hrun.finish (.prepare _ (shardArgs modelPath 0)) (hdump _ 0)
    hfirst).finish (.prepare _ (shardArgs modelPath 1)) (hdump _ 1) hsecond⟩

end Sample

/-- A careful run to a launch. -/
theorem provenance_of_launch_sample : ∃ sha256 : Digest, Function.Injective sha256 ∧ ∃ s i,
    Accepted sha256 twoModels sampleEnv s i ∧ Provenance s i := by
  obtain ⟨sha256, hinj⟩ := exists_collisionFree
  obtain ⟨record, r, htokens, hrun⟩ := sample_reaches sha256 Careful "models/qwen" rfl
    (fun _ => trivial) (fun _ _ hmerge => absurd hmerge (Int.lt_irrefl 0))
  obtain ⟨s, i, hmerge, hi, hcurrent, _⟩ := sample_merge sha256 "models/qwen" record htokens
  have hcareful : Careful (dumpedDir "models/qwen" record r) (.prepare twoModels mergeArgs) := by
    intro _ k hk lines hlines x hx
    rw [dumpedDir_part hk hlines x hx]
    refine ⟨rfl, rfl, rfl, rfl, fun revision tok hload => ?_, fun text htext => ?_⟩
    · cases hload
      exact ⟨rfl, rfl⟩
    · cases htext
      rfl
  have hlaunch : Careful s (.launch twoModels sampleEnv) := by
    intro parquet hparquet
    rw [hi.parquet] at hparquet
    cases hparquet
    exact hcurrent
  exact ⟨sha256, hinj, s, i, hi, provenance_of_launch sha256 hinj freshDir s freshDir_fresh
    (hrun.finish (.prepare twoModels mergeArgs) hcareful hmerge) twoModels sampleEnv hlaunch i hi⟩

/-- Parts of one model, merged under the name of another: the launch with the other model accepts
    the priors. -/
theorem merge_hides_model : ¬∃ sha256 : Digest, Function.Injective sha256 ∧ ∀ s₀ s, Fresh s₀ →
    Reaches sha256 (fun _ _ => True) s₀ s → ∀ world env i, Accepted sha256 world env s i →
      Provenance s i := by
  rintro ⟨sha256, _, h⟩
  obtain ⟨record, r, htokens, hrun⟩ := sample_reaches sha256 (fun _ _ => True)
    "models/tuned" rfl (fun _ => trivial) (fun _ _ => trivial)
  obtain ⟨s, i, hmerge, hi, _, x, hx, hpath⟩ := sample_merge sha256 "models/tuned" record htokens
  have hprov := h freshDir s freshDir_fresh (hrun.finish
    (.prepare twoModels mergeArgs) trivial hmerge) twoModels sampleEnv i hi
  have hlaunch := (hprov.scored x hx).modelPath
  have hqwen : i.modelPath = "models/qwen" := (Except.ok.inj hi.resolved).symm
  rw [hpath, hqwen] at hlaunch
  exact absurd hlaunch (by decide)

end LookAway.Priors
