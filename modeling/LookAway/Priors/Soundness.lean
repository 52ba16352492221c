/-
  The invariant of the runs over one data directory whose merges are careful.

  The meta block of the priors is written by the command that builds them; the records may come
  from part files of other processes. `Careful` asks of a merge that it finds the parts of its own
  shards, settings and dataset generation. `Sound` follows every record from the process that
  scored it to the priors; `Reaches.sound` says that all commands keep it.
-/
import LookAway.Data.Generations
import LookAway.Priors.DumpSpec
import LookAway.Priors.Runs

namespace LookAway.Priors

open LookAway.Base LookAway.Base.Script LookAway.Data

/-! ## The condition -/

/-- The record was written for this merge: by its shard `k`, in the current generation and with
    the settings of the merge. -/
structure PartOf (world : World) (args : PrepareArgs) (s : DataDir) (k : ℕ) (o : Origin) :
    Prop where
  generation : o.generation = s.generation
  numShards : o.numShards = args.mergeShards.toNat
  shard : o.shard = k
  modelPath : o.modelPath = args.modelPath
  model : ∀ revision tok, loadTokenizer world args = .ok (revision, tok) →
    o.modelRevision = revision ∧ o.tokenizer = tok.payload
  chatTemplate : ∀ text, args.templateText world = some text → o.chatTemplate = text

/-- The parts a merge finds were written for it, and a launch does not find the parquet of a
    dataset that a download has begun to replace. -/
def Careful (s : DataDir) : Command → Prop
  | .build _ _ _ => True
  | .prepare world args => 0 < args.mergeShards → ∀ k < args.mergeShards.toNat, ∀ lines,
      s.part k = some lines → ∀ x ∈ lines, PartOf world args s k x.origin
  | .freqTable _ _ => True
  | .launch _ _ => ∀ parquet, s.parquet = some parquet → parquet.generation = s.generation

/-! ## The invariant -/

/-- `i` is a row of the dataset the manifest describes. -/
def RowOf (s : DataDir) (i : ℕ) : Prop :=
  ∃ results, s.manifest = some (.complete results) ∧ i < results.length

/-- A record of a part file belongs to its shard; one of the current generation is a row. -/
structure Owned (s : DataDir) (x : ℕ × Origin) : Prop where
  mod : x.1 % x.2.numShards = x.2.shard
  generation : x.2.generation ≤ s.generation
  row : x.2.generation = s.generation → RowOf s x.1

/-- The meta block describes the process that scored the record. -/
structure DescribedBy (sha256 : Digest) (info : PriorsMeta) (o : Origin) : Prop where
  modelPath : info.modelPath = some o.modelPath
  modelRevision : info.modelRevision = o.modelRevision
  tokenizer : info.tokenizerSha256 = some (sha256 (.tokenizer o.tokenizer))
  template : ∀ d, info.chatTemplateSha256 = some d → d = sha256 (.template o.chatTemplate)

/-- The records behind the priors: distinct rows of the dataset in place. -/
structure FromDataset (sha256 : Digest) (s : DataDir) (info : PriorsMeta)
    (source : List (ℕ × Origin)) : Prop where
  count : info.nSamples = some source.length
  nodup : (source.map (·.1)).Nodup
  row : ∀ x ∈ source, RowOf s x.1
  generation : ∀ x ∈ source, x.2.generation = s.generation
  described : ∀ x ∈ source, DescribedBy sha256 info x.2

/-- The parquet was made from the dataset in place. -/
def CurrentParquet (s : DataDir) : Prop :=
  ∃ parquet, s.parquet = some parquet ∧ parquet.generation = s.generation

structure Sound (sha256 : Digest) (s : DataDir) : Prop where
  ascending : ∀ k lines, s.part k = some lines → (lineSources lines).Pairwise (·.1 < ·.1)
  owned : ∀ k lines, s.part k = some lines → ∀ x ∈ lineSources lines, Owned s x
  generation : ∀ parquet, s.parquet = some parquet → parquet.generation ≤ s.generation
  parquet : CurrentParquet s → ∃ results records, s.manifest = some (.complete results) ∧
    s.parquet.map (·.content) = some (.complete records) ∧ records.length = results.length
  priors : CurrentParquet s → ∀ file blob, s.priors = some file → file.content = .complete blob →
    FromDataset sha256 s blob.info file.source

section Invariant

variable {sha256 : Digest} {s t : DataDir}

theorem Fresh.sound (h : Fresh s) : Sound sha256 s := by
  have hpart : ∀ k lines, s.part k = some lines → False := by
    intro k lines hk
    rw [h.part k] at hk
    cases hk
  have hparquet : ∀ parquet, s.parquet = some parquet → False := by
    intro parquet hq
    rw [h.parquet] at hq
    cases hq
  exact {
    ascending := fun k lines hk => (hpart k lines hk).elim
    owned := fun k lines hk => (hpart k lines hk).elim
    generation := fun parquet hq => (hparquet parquet hq).elim
    parquet := fun ⟨parquet, hq, _⟩ => (hparquet parquet hq).elim
    priors := fun ⟨parquet, hq, _⟩ => (hparquet parquet hq).elim }

theorem RowOf.congr {i : ℕ} (h : RowOf s i) (hm : t.manifest = s.manifest) : RowOf t i := by
  obtain ⟨results, hresults, hi⟩ := h
  exact ⟨results, hm.trans hresults, hi⟩

theorem Owned.congr {x : ℕ × Origin} (h : Owned s x) (hm : t.manifest = s.manifest)
    (hg : t.generation = s.generation) : Owned t x :=
  ⟨h.mod, hg ▸ h.generation, fun hx => (h.row (hx.trans hg)).congr hm⟩

theorem FromDataset.congr {info : PriorsMeta} {source : List (ℕ × Origin)}
    (h : FromDataset sha256 s info source) (hm : t.manifest = s.manifest)
    (hg : t.generation = s.generation) : FromDataset sha256 t info source :=
  ⟨h.count, h.nodup, fun x hx => (h.row x hx).congr hm,
    fun x hx => (h.generation x hx).trans hg.symm, h.described⟩

/-- Files that the invariant does not speak of, and parts that are gone, do not matter. -/
theorem Sound.aside (h : Sound sha256 s) (ht : Aside s t) : Sound sha256 t := by
  have hpart : ∀ k lines, t.part k = some lines → s.part k = some lines := by
    intro k lines hk
    rcases ht.part k with hp | hp
    · rw [← hp, hk]
    · rw [hp] at hk
      cases hk
  have hcurrent : CurrentParquet t → CurrentParquet s := by
    rintro ⟨parquet, hq, hg⟩
    exact ⟨parquet, ht.parquet ▸ hq, hg.trans ht.generation⟩
  refine {
    ascending := fun k lines hk => h.ascending k lines (hpart k lines hk)
    owned := fun k lines hk x hx =>
      (h.owned k lines (hpart k lines hk) x hx).congr ht.manifest ht.generation
    generation := fun parquet hq => ht.generation ▸ h.generation parquet (ht.parquet ▸ hq)
    parquet := fun hc => ?_
    priors := fun hc file blob hfile hblob =>
      (h.priors (hcurrent hc) file blob (ht.priors ▸ hfile) hblob).congr ht.manifest
        ht.generation }
  rw [ht.manifest, ht.parquet]
  exact h.parquet (hcurrent hc)

/-- A new generation with the old parts: nothing in place is current. -/
theorem Sound.bump (h : Sound sha256 s) (hg : s.generation < t.generation)
    (hq : t.parquet = s.parquet ∨ t.parquet = none) (hp : t.part = s.part) : Sound sha256 t := by
  have hparquet : ∀ parquet, t.parquet = some parquet → parquet.generation < t.generation := by
    intro parquet hparquet
    rcases hq with hq | hq
    · exact lt_of_le_of_lt (h.generation parquet (hq ▸ hparquet)) hg
    · rw [hq] at hparquet
      cases hparquet
  have hnot : ¬CurrentParquet t := by
    rintro ⟨parquet, hparquet', heq⟩
    exact absurd heq (hparquet parquet hparquet').ne
  refine {
    ascending := fun k lines hk => h.ascending k lines (hp ▸ hk)
    owned := fun k lines hk x hx => ?_
    generation := fun parquet hparquet' => (hparquet parquet hparquet').le
    parquet := fun hc => absurd hc hnot
    priors := fun hc => absurd hc hnot }
  have hx := h.owned k lines (hp ▸ hk) x hx
  have hlt := lt_of_le_of_lt hx.generation hg
  exact ⟨hx.mod, hlt.le, fun he => absurd he hlt.ne⟩

/-- A new parquet next to its manifest, without priors. -/
theorem Sound.converted (h : Sound sha256 s) {results : List ResultRecord}
    (hm : s.manifest = some (.complete results)) (hp : s.priors = none)
    (ht : Converted results s t) : Sound sha256 t := by
  obtain ⟨lines, records, _, hrecords, b, rfl⟩ := ht
  exact {
    ascending := h.ascending
    owned := fun k lines hk x hx => (h.owned k lines hk x hx).congr rfl rfl
    generation := by
      intro parquet hq
      cases hq
      exact le_rfl
    parquet := fun _ => ⟨results, records, hm, rfl, parquetRecords_length hrecords⟩
    priors := by
      intro _ file blob hfile
      rw [show ({ s with temp := b, parquet := _ } : DataDir).priors = s.priors from rfl, hp]
        at hfile
      cases hfile }

/-- New priors whose records are rows of the dataset in place. -/
theorem Sound.publish (h : Sound sha256 s) {file : PriorsFile}
    (hfile : ∀ blob, file.content = .complete blob → FromDataset sha256 s blob.info file.source)
    (ht : Tempered { s with priors := some file } t) : Sound sha256 t := by
  obtain ⟨b, rfl⟩ := ht
  exact {
    ascending := h.ascending
    owned := fun k lines hk x hx => (h.owned k lines hk x hx).congr rfl rfl
    generation := h.generation
    parquet := h.parquet
    priors := by
      intro _ file' blob hf hblob
      cases hf
      exact (hfile blob hblob).congr rfl rfl }

end Invariant

/-! ## build_trainset -/

section Build

variable {sha256 : Digest}

theorem aside_of_scratch {s t : DataDir} (h : Scratch s t) : Aside s t := by
  obtain ⟨a, b, c, d, rfl⟩ := h
  exact ⟨rfl, rfl, rfl, rfl, rfl, rfl, fun _ => .inl rfl⟩

theorem aside_of_tempered {s t : DataDir} (h : Tempered s t) : Aside s t := by
  obtain ⟨b, rfl⟩ := h
  exact ⟨rfl, rfl, rfl, rfl, rfl, rfl, fun _ => .inl rfl⟩

/-- The parquet and the parts are those of `s`, and its generation is over. -/
structure Replacing (s t : DataDir) : Prop where
  parquet : t.parquet = s.parquet
  part : t.part = s.part
  generation : s.generation < t.generation

theorem Replacing.sound {s t : DataDir} (h : Replacing s t) (hs : Sound sha256 s) :
    Sound sha256 t := hs.bump h.generation (.inl h.parquet) h.part

theorem keeps_sound_downloadStage (hub : Hub) (args : BuildArgs) :
    Keeps (Sound sha256) (downloadStage hub args) := by
  intro s hs
  unfold downloadStage
  split
  · exact wp_pure hs
  · refine wp_bind (wp_read (fun _ => hs) hs fun revision _ => ?_)
    refine wp_bind (wp_atomic (fun _ => hs) hs ?_)
    have hbegun : Replacing s (beginGeneration s) := ⟨rfl, rfl, Nat.lt_succ_self _⟩
    have hkeeps := keeps_downloadFiles (I := Replacing s)
      (fun f t h => by cases f <;> exact ⟨h.parquet, h.part, h.generation⟩)
      (fun _ _ _ h => ⟨h.parquet, h.part, h.generation⟩)
      (fun _ _ h => ⟨h.parquet, h.part, h.generation⟩) hub
      (hub.snapshot args.hfRepo revision) [.images, .teacherImages, .originalImages]
    exact wp_mono (hkeeps _ hbegun) (fun _ t ht => ht.sound hs) (fun _ t ht => ht.sound hs)
      fun t ht => ht.sound hs

theorem sound_of_phase {s : DataDir} (new : ImageSet) (results : List ResultRecord) (p : Phase)
    (hs : Sound sha256 s) : Sound sha256 (p.dir s new results) := by
  have hgeneration : s.generation < (invalidated s).generation := Nat.lt_succ_self _
  have hparquet : (invalidated s).parquet = none := rfl
  have hpart : (invalidated s).part = s.part := rfl
  cases p with
  | untouched => exact hs
  | parquetStale => exact hs.bump (Nat.lt_succ_self _) (.inr rfl) rfl
  | priorsStale => exact hs.bump (Nat.lt_succ_self _) (.inr rfl) rfl
  | _ => exact hs.bump hgeneration (.inr hparquet) hpart

theorem sound_of_interrupted {pool : PoolRun} {s t : DataDir} (h : Interrupted pool s t)
    (hs : Sound sha256 s) : Sound sha256 t := by
  rcases h with h | ⟨rows, _, _, p, h⟩
  · exact hs.aside (aside_of_scratch h)
  · exact (sound_of_phase _ _ p hs).aside (aside_of_scratch h)

theorem keeps_sound_prepareStage (pool : PoolRun) : Keeps (Sound sha256) (prepareStage pool) := by
  intro s hs
  refine wp_bind (wp_mono (generateNegativeViews_phases pool s) ?_
    (fun _ t ht => sound_of_interrupted ht hs) (fun t ht => sound_of_interrupted ht hs))
  rintro results t ⟨rows, _, _, _, ht⟩
  have hnew : Sound sha256 (Phase.manifestNew.dir s (stagedSet (pool rows s.image?)) results) :=
    hs.bump (Nat.lt_succ_self _) (.inr rfl) rfl
  have haside := aside_of_scratch ht
  have hsound := hnew.aside haside
  have hmanifest : t.manifest = some (.complete results) := haside.manifest
  have hpriors : t.priors = none := haside.priors
  have hexit : ∀ u, Tempered t u ∨ Converted results t u → Sound sha256 u := by
    rintro u (hu | hu)
    · exact hsound.aside (aside_of_tempered hu)
    · exact hsound.converted hmanifest hpriors hu
  refine wp_bind (wp_mono (wp_convertToParquet results t) ?_ (fun _ => hexit) hexit)
  rintro _ u hu
  have hu' := hexit u (.inr hu)
  have hnone : u.priors = none := by
    obtain ⟨_, _, _, _, _, rfl⟩ := hu
    exact hpriors
  have hstale : Aside u (markPriorsStale u) :=
    ⟨rfl, rfl, rfl, rfl, hnone.symm, rfl, fun _ => .inl rfl⟩
  have hu'' := hu'.aside hstale
  refine wp_bind (wp_atomic (fun _ => hu') hu' (wp_atomic (fun _ => hu'') hu'' ?_))
  exact hu''.aside ⟨rfl, rfl, rfl, rfl, rfl, rfl, fun _ => .inl rfl⟩

end Build

/-! ## prepare_priors -/

section Prepare

variable {sha256 : Digest} {world : World}

/-- The records of a dump: rows of the dataset, ascending, each in its shard. -/
theorem dump_sources {args : DumpArgs} {s : DataDir} {plan : List SourceRow × List ℕ}
    {pre : List ℕ} {found : List (Option DumpRecord)} (hplan : dumpPlan args s = .ok plan)
    (hpre : pre <+: plan.2) (hfound : Scores args plan.1 s pre found) :
    (found.reduceOption.map (·.idx)).Pairwise (· < ·) ∧
      ∀ r ∈ found.reduceOption, r.idx % args.numShards.toNat = args.shard.toNat ∧
        RowOf s r.idx := by
  obtain ⟨allRows, results, _, hmanifest, haligned, hrows, htargets⟩ := dumpPlan_eq_ok hplan
  have hshard := shardRowIndices_rows htargets
  have hsub := hfound.sublist.trans hpre.sublist
  refine ⟨hshard.ascending.sublist hsub, fun r hr => ?_⟩
  have hmem := hsub.subset (List.mem_map_of_mem hr)
  refine ⟨hshard.mod _ hmem, results, hmanifest, ?_⟩
  have hle : plan.1.length ≤ allRows.length := by
    rw [hrows]
    split
    · rw [List.length_take]
      exact Nat.min_le_right ..
    · exact le_rfl
  rw [haligned.length_eq]
  exact lt_of_lt_of_le (hshard.lt _ hmem) hle

theorem DumpExit.sound {args : DumpArgs} {s t : DataDir} (h : DumpExit args s t)
    (hs : Sound sha256 s) : Sound sha256 t := by
  rcases h with rfl | ⟨plan, pre, found, torn, hplan, hpre, hfound, htorn, rfl⟩
  · exact hs
  · cases hpart : args.part? with
    | none => exact hs.aside ⟨rfl, rfl, rfl, rfl, rfl, rfl, fun _ => .inl rfl⟩
    | some k =>
        obtain ⟨hasc, hrow⟩ := dump_sources hplan hpre hfound
        have hsources : lineSources (dumpedLines (args.origin s) found.reduceOption ++ torn) =
            found.reduceOption.map fun r => (r.idx, args.origin s) := by
          rw [lineSources_append, lineSources_dumpedLines, lineSources_torn htorn, List.append_nil]
        have hnew : ∀ j lines, Function.update s.part k (some (dumpedLines (args.origin s)
            found.reduceOption ++ torn)) j = some lines → s.part j = some lines ∨
              lineSources lines = found.reduceOption.map fun r => (r.idx, args.origin s) := by
          intro j lines hj
          by_cases hjk : j = k
          · subst hjk
            rw [Function.update_self] at hj
            cases hj
            exact .inr hsources
          · rw [Function.update_of_ne hjk] at hj
            exact .inl hj
        refine {
          ascending := fun j lines hj => ?_
          owned := fun j lines hj x hx => ?_
          generation := hs.generation
          parquet := hs.parquet
          priors := fun hc file blob hfile hblob =>
            (hs.priors hc file blob hfile hblob).congr rfl rfl }
        · rcases hnew j lines hj with hj | hj
          · exact hs.ascending j lines hj
          · rw [hj]
            rw [List.pairwise_map] at hasc ⊢
            exact hasc
        · rcases hnew j lines hj with hj | hj
          · exact (hs.owned j lines hj x hx).congr rfl rfl
          · rw [hj] at hx
            obtain ⟨r, hr, rfl⟩ := List.mem_map.mp hx
            exact ⟨(hrow r hr).1, le_rfl, fun _ => (hrow r hr).2⟩

/-- The priors of a dump in place, when its records are rows that the meta block describes. -/
theorem keeps_sound_runPriors {args : PrepareArgs} {revision : Option String} {tok : Tokenizer}
    {s : DataDir} (hs : Sound sha256 s)
    (hdump : ∀ lines info, s.dump = some lines →
      MetaOf sha256 world args revision tok s (lineSources lines).length info →
        FromDataset sha256 s info (lineSources lines)) :
    wp (runPriors sha256 world args revision tok) (fun _ => Sound sha256) (fun _ => Sound sha256)
      (Sound sha256) s := by
  have hdone : ∀ t, Published sha256 world args revision tok s t → Sound sha256 t := by
    rintro t ⟨file, hfile, ht⟩
    obtain ⟨lines, blob, hlines, hsource, hcontent, hmeta⟩ := priorsFile_eq_ok hfile
    refine hs.publish (fun blob' hblob' => ?_) ht
    rw [hcontent] at hblob'
    cases hblob'
    rw [hsource] at hmeta ⊢
    exact hdump lines blob.info hlines hmeta
  have hexit : ∀ t, Tempered s t ∨ Published sha256 world args revision tok s t →
      Sound sha256 t := by
    rintro t (ht | ht)
    · exact hs.aside (aside_of_tempered ht)
    · exact hdone t ht
  exact wp_mono (wp_runPriors sha256 world args revision tok s) (fun _ => hdone) (fun _ => hexit)
    hexit

/-- The records that settings and meta block have in common. -/
theorem MetaOf.describes {args : PrepareArgs} {revision : Option String} {tok : Tokenizer}
    {s : DataDir} {n : ℕ} {info : PriorsMeta} {o : Origin}
    (h : MetaOf sha256 world args revision tok s n info) (hpath : o.modelPath = args.modelPath)
    (hrev : o.modelRevision = revision) (htok : o.tokenizer = tok.payload)
    (htemplate : ∀ text, args.templateText world = some text → o.chatTemplate = text) :
    DescribedBy sha256 info o := by
  refine ⟨by rw [h.modelPath, hpath], by rw [h.modelRevision, hrev], ?_, fun d hd => ?_⟩
  · rw [h.tokenizer, htok]
    rfl
  · rcases h.template with ⟨_, hnone⟩ | ⟨text, htext, hhash⟩
    · rw [hnone] at hd
      cases hd
    · rw [hhash] at hd
      cases hd
      rw [htemplate text htext]

theorem keeps_sound_dumpBranch (args : PrepareArgs) (revision : Option String) (tok : Tokenizer) :
    Keeps (Sound sha256) (dumpBranch sha256 world args revision tok) := by
  intro s hs
  refine wp_bind (wp_read (fun _ => hs) hs fun model _ => ?_)
  refine wp_bind (wp_mono (wp_runDump (args.dumpArgs world revision tok model) s) ?_
    (fun _ t ht => ht.sound hs) (fun t ht => ht.sound hs))
  rintro _ t ht
  have htsound := ht.exit.sound hs
  split
  · exact wp_pure htsound
  · rename_i hone
    obtain ⟨plan, found, hplan, hfound, rfl⟩ := ht
    have hpart : (args.dumpArgs world revision tok model).part? = none := if_neg hone
    rw [hpart] at htsound ⊢
    obtain ⟨hasc, hrow⟩ := dump_sources hplan List.prefix_rfl hfound
    refine wp_bind (wp_atomic (fun _ => htsound) htsound (keeps_sound_runPriors
      (htsound.aside ⟨rfl, rfl, rfl, rfl, rfl, rfl, fun _ => .inl rfl⟩) ?_))
    rintro lines info hlines hmeta
    cases hlines
    have hsources := lineSources_dumpedLines
      ((args.dumpArgs world revision tok model).origin s) found.reduceOption
    have hmem : ∀ x ∈ lineSources (dumpedLines
        ((args.dumpArgs world revision tok model).origin s) found.reduceOption),
        ∃ r ∈ found.reduceOption,
          x = (r.idx, (args.dumpArgs world revision tok model).origin s) := by
      intro x hx
      rw [hsources] at hx
      obtain ⟨r, hr, rfl⟩ := List.mem_map.mp hx
      exact ⟨r, hr, rfl⟩
    refine ⟨hmeta.nSamples, ?_, fun x hx => ?_, fun x hx => ?_, fun x hx => ?_⟩
    · rw [hsources, List.map_map]
      exact hasc.imp fun hlt => hlt.ne
    · obtain ⟨r, hr, rfl⟩ := hmem x hx
      exact (hrow r hr).2.congr rfl
    · obtain ⟨r, hr, rfl⟩ := hmem x hx
      rfl
    · obtain ⟨r, hr, rfl⟩ := hmem x hx
      refine hmeta.describes rfl rfl rfl fun text htext => ?_
      show (args.templateText world).getD "" = text
      rw [htext]
      rfl

/-- The records of the parts of a careful merge are distinct rows. -/
theorem merge_sources {args : PrepareArgs} {s : DataDir} (hs : Sound sha256 s)
    (hcareful : ∀ k < args.mergeShards.toNat, ∀ lines, s.part k = some lines →
      ∀ x ∈ lines, PartOf world args s k x.origin) :
    let sources := (List.range args.mergeShards.toNat).flatMap fun k =>
      lineSources ((s.part k).getD [])
    (sources.map (·.1)).Nodup ∧
      ∀ x ∈ sources, RowOf s x.1 ∧ ∃ k, PartOf world args s k x.2 := by
  have hpart : ∀ k < args.mergeShards.toNat, ∀ x ∈ lineSources ((s.part k).getD []),
      Owned s x ∧ PartOf world args s k x.2 := by
    intro k hk x hx
    cases hlines : s.part k with
    | none =>
        rw [hlines] at hx
        cases hx
    | some lines =>
        rw [hlines] at hx
        refine ⟨hs.owned k lines hlines x hx, ?_⟩
        obtain ⟨y, hy, hxy⟩ := List.mem_filterMap.mp hx
        have hy' := hcareful k hk lines hlines y hy
        obtain ⟨line, origin⟩ := y
        cases line with
        | record r =>
            cases hxy
            exact hy'
        | blank => cases hxy
        | torn r n => cases hxy
  refine ⟨?_, fun x hx => ?_⟩
  · rw [List.map_flatMap, List.nodup_flatMap]
    refine ⟨fun k _ => ?_, ?_⟩
    · cases hlines : s.part k with
      | none => exact List.nodup_nil
      | some lines =>
          have hasc := hs.ascending k lines hlines
          exact (List.pairwise_map.mpr hasc).imp fun hlt => hlt.ne
    · -- the rows of different parts differ modulo the number of shards
      refine List.Pairwise.imp_of_mem ?_ (List.pairwise_lt_range (n := args.mergeShards.toNat))
      intro j k hj hk hlt i hi hi'
      obtain ⟨x, hx, rfl⟩ := List.mem_map.mp hi
      obtain ⟨y, hy, hxy⟩ := List.mem_map.mp hi'
      obtain ⟨hox, hpx⟩ := hpart j (List.mem_range.mp hj) x hx
      obtain ⟨hoy, hpy⟩ := hpart k (List.mem_range.mp hk) y hy
      have hjx : x.1 % args.mergeShards.toNat = j := by rw [← hpx.numShards, hox.mod, hpx.shard]
      have hky : y.1 % args.mergeShards.toNat = k := by rw [← hpy.numShards, hoy.mod, hpy.shard]
      rw [hxy, hjx] at hky
      exact absurd hky hlt.ne
  · obtain ⟨k, hk, hx⟩ := List.mem_flatMap.mp hx
    obtain ⟨ho, hp⟩ := hpart k (List.mem_range.mp hk) x hx
    exact ⟨ho.row hp.generation, k, hp⟩

theorem keeps_sound_mergeBranch {args : PrepareArgs} {revision : Option String} {tok : Tokenizer}
    {s : DataDir} (hs : Sound sha256 s) (hload : loadTokenizer world args = .ok (revision, tok))
    (hcareful : ∀ k < args.mergeShards.toNat, ∀ lines, s.part k = some lines →
      ∀ x ∈ lines, PartOf world args s k x.origin) :
    wp (mergeBranch sha256 world args revision tok) (fun _ => Sound sha256)
      (fun _ => Sound sha256) (Sound sha256) s := by
  refine wp_bind (wp_mono (wp_mergeShards args.mergeShards.toNat s) ?_
    (fun _ t ht => hs.aside ht) (fun t ht => hs.aside ht))
  rintro _ t ⟨records, hrecords, ht, hdump⟩
  refine keeps_sound_runPriors (hs.aside ht) fun lines info hlines hmeta => ?_
  obtain ⟨hnodup, hrow⟩ := merge_sources hs hcareful
  rw [hdump] at hlines
  cases hlines
  have hsources : (lineSources (scoredLines (mergeDumpRecords records))).Perm
      ((List.range args.mergeShards.toNat).flatMap fun k => lineSources ((s.part k).getD [])) := by
    rw [lineSources_scoredLines, ← readParts_eq_ok hrecords]
    exact mergeDumpRecords_sources records
  refine ⟨hmeta.nSamples, (hsources.map _).nodup_iff.mpr hnodup, fun x hx => ?_, fun x hx => ?_,
    fun x hx => ?_⟩
  · exact (hrow x (hsources.mem_iff.mp hx)).1.congr ht.manifest
  · obtain ⟨_, k, hp⟩ := hrow x (hsources.mem_iff.mp hx)
    exact hp.generation.trans ht.generation.symm
  · obtain ⟨_, k, hp⟩ := hrow x (hsources.mem_iff.mp hx)
    obtain ⟨hrev, htok⟩ := hp.model revision tok hload
    exact hmeta.describes hp.modelPath hrev htok hp.chatTemplate

theorem sound_prepareMain {args : PrepareArgs} {s : DataDir} (hs : Sound sha256 s)
    (hcareful : Careful s (.prepare world args)) :
    wp (prepareMain sha256 world args) (fun _ => Sound sha256) (fun _ => Sound sha256)
      (Sound sha256) s := by
  refine wp_bind (wp_read (fun _ => hs) hs fun loaded hloaded => ?_)
  split
  · rename_i hmerge
    exact keeps_sound_mergeBranch hs hloaded (hcareful hmerge)
  · exact keeps_sound_dumpBranch args loaded.1 loaded.2 s hs

end Prepare

/-! ## Whole runs -/

theorem keeps_sound_freqMain (sha256 : Digest) (world : World) (args : FreqArgs) :
    Keeps (Sound sha256) (freqMain sha256 world args) := by
  have haside : ∀ f : DataDir → DataDir, (∀ s, Aside s (f s)) →
      ∀ s, Sound sha256 s → Sound sha256 (f s) := fun f hf s hs => hs.aside (hf s)
  have htemp : ∀ b s, Aside s { s with temp := b } :=
    fun b s => ⟨rfl, rfl, rfl, rfl, rfl, rfl, fun _ => .inl rfl⟩
  refine keeps_bind (keeps_read _) fun payload => ?_
  refine keeps_bind (keeps_atomic (haside _ (htemp true))) fun _ => keeps_tryExcept ?_ fun e => ?_
  · refine keeps_bind (keeps_atomic fun _ hs => hs) fun _ => keeps_atomic (haside _ fun s => ?_)
    exact ⟨rfl, rfl, rfl, rfl, rfl, rfl, fun _ => .inl rfl⟩
  · exact keeps_bind (keeps_atomic (haside _ (htemp false))) fun _ => keeps_raise e

theorem sound_command {sha256 : Digest} {s : DataDir} {command : Command}
    (hcareful : Careful s command) (hs : Sound sha256 s) :
    wp (command.script sha256) (fun _ => Sound sha256) (fun _ => Sound sha256)
      (Sound sha256) s := by
  cases command with
  | build hub pool args =>
      exact keeps_bind (keeps_sound_downloadStage hub args)
        (fun _ => keeps_sound_prepareStage pool) s hs
  | prepare world args => exact sound_prepareMain hs hcareful
  | freqTable world args => exact keeps_sound_freqMain sha256 world args s hs
  | launch world env => exact wp_read (fun _ => hs) hs fun _ _ => hs

theorem Reaches.sound {sha256 : Digest} {s₀ s : DataDir} (h : Reaches sha256 Careful s₀ s)
    (hfresh : Fresh s₀) : Sound sha256 s :=
  h.invariant hfresh.sound fun _ _ hok hs => sound_command hok hs

end LookAway.Priors
