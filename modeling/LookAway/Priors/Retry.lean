/-
  Retrying `prepare_priors --merge-shards N`.

  The command publishes the merged dump, removes its parts and only then builds the priors, which
  can fail; run again, it insists on every part. A stop leaves each part as it was or gone
  (`keeps_partsLeft`), so the second run gives what an uninterrupted one gives exactly when the
  first has stopped before it removed a part (`merge_retry_iff`).
-/
import LookAway.Priors.Provenance

namespace LookAway.Priors

open LookAway.Base LookAway.Base.Script LookAway.Data

/-! ## Parts -/

/-- Every part of `s` is there as it was, or gone. -/
def PartsLeft (s t : DataDir) : Prop := ∀ k, t.part k = s.part k ∨ t.part k = none

/-- All the parts of a merge are there. -/
def PartsThere (n : ℕ) (t : DataDir) : Prop := ∀ k < n, (t.part k).isSome = true

/-- Reading the parts needs all of them. -/
theorem parts_of_readParts {s : DataDir} {ks : List ℕ} {records : List (DumpRecord × Origin)}
    (h : readParts s ks = .ok records) : ∀ k ∈ ks, (s.part k).isSome = true := by
  induction ks generalizing records with
  | nil => simp
  | cons k ks ih =>
      obtain ⟨lines, hlines, h⟩ := except_bind_ok.mp h
      obtain ⟨here, -, h⟩ := except_bind_ok.mp h
      obtain ⟨rest, hrest, -⟩ := except_bind_ok.mp h
      intro j hj
      rcases List.mem_cons.mp hj with rfl | hj
      · cases hpart : s.part j with
        | none =>
            rw [hpart] at hlines
            cases hlines
        | some lines => rfl
      · exact ih hrest j hj

theorem readParts_congr {s t : DataDir} {ks : List ℕ} (h : ∀ k ∈ ks, t.part k = s.part k) :
    readParts t ks = readParts s ks := by
  induction ks with
  | nil => rfl
  | cons k ks ih =>
      unfold readParts
      rw [h k (by simp), ih fun j hj => h j (by simp [hj])]

/-- What is left of the parts of a complete set is all of it, or too little to read. -/
theorem PartsLeft.eq {s t : DataDir} {n : ℕ} (h : PartsLeft s t) (hthere : PartsThere n t) :
    ∀ k ∈ List.range n, t.part k = s.part k := by
  intro k hk
  have hsome := hthere k (List.mem_range.mp hk)
  rcases h k with heq | hnone
  · exact heq
  · rw [hnone] at hsome
    cases hsome

/-! ## The command -/

section Command

variable {sha256 : Digest} {world : World} {args : PrepareArgs}

theorem PartsLeft.of_part {s t u : DataDir} (h : PartsLeft s t) (hpart : u.part = t.part) :
    PartsLeft s u := by
  intro k
  rw [hpart]
  exact h k

theorem PartsLeft.remove {s t : DataDir} (h : PartsLeft s t) (k : ℕ) :
    PartsLeft s { t with part := Function.update t.part k none } := update_none h k

theorem keeps_partsLeft_runPriors (s : DataDir) (revision : Option String) (tok : Tokenizer) :
    Keeps (PartsLeft s) (runPriors sha256 world args revision tok) := by
  refine keeps_bind (keeps_read _) fun file => keeps_tryFinally ?_ ?_
  · refine keeps_bind (keeps_atomic fun _ h => h.of_part rfl) fun _ => ?_
    exact keeps_bind (keeps_atomic fun _ h => h) fun _ => keeps_atomic fun _ h => h.of_part rfl
  · exact keeps_atomic fun _ h => h.of_part rfl

theorem keeps_partsLeft (s : DataDir) (hmerge : 0 < args.mergeShards) :
    Keeps (PartsLeft s) (prepareMain sha256 world args) := by
  refine keeps_bind (keeps_read _) fun loaded => ?_
  rw [if_pos hmerge]
  refine keeps_bind ?_ fun _ => keeps_partsLeft_runPriors s _ _
  refine keeps_bind (keeps_read _) fun records => ?_
  refine keeps_bind (keeps_atomic fun _ h => h) fun _ => ?_
  refine keeps_bind (keeps_atomic fun _ h => h.of_part rfl) fun _ => ?_
  refine keeps_bind (keeps_forEach fun k _ => keeps_atomic fun _ h => h.remove k) fun _ => ?_
  exact keeps_atomic fun _ h => h.of_part rfl

/-- A merge that has returned has removed its parts. -/
theorem wp_mergeShards_removed (n : ℕ) (s : DataDir) :
    wp (mergeShards n) (fun _ t => ∀ k ∈ List.range n, t.part k = none) (fun _ _ => True)
      (fun _ => True) s := by
  refine wp_bind (wp_read (fun _ => trivial) trivial fun records _ => ?_)
  refine wp_bind (wp_atomic (fun _ => trivial) trivial ?_)
  refine wp_bind (wp_atomic (fun _ => trivial) trivial ?_)
  refine wp_bind (wp_mono (wp_forEach (fun pre t => ∀ k ∈ pre, t.part k = none) ?_ (by simp)) ?_
    (fun _ _ h => h) (fun _ h => h))
  · intro pre k post t _ ht
    refine wp_atomic (fun _ => trivial) trivial ?_
    intro j hj
    show Function.update t.part k none j = none
    by_cases hjk : j = k
    · subst hjk
      exact Function.update_self ..
    · rw [Function.update_of_ne hjk]
      exact ht j (by simpa [hjk] using hj)
  · intro _ t ht
    exact wp_atomic (fun _ => trivial) trivial ht

/-- What the command leaves when it returns: the merge of the parts and the priors of it. -/
structure MergeDone (sha256 : Digest) (world : World) (args : PrepareArgs) (s u : DataDir)
    (revision : Option String) (tok : Tokenizer) (records : List (DumpRecord × Origin))
    (file : PriorsFile) : Prop where
  loaded : loadTokenizer world args = .ok (revision, tok)
  parts : readParts s (List.range args.mergeShards.toNat) = .ok records
  dump : u.dump = some (scoredLines (mergeDumpRecords records))
  priors : u.priors = some file
  file : priorsFile sha256 world args revision tok
    { s with dump := some (scoredLines (mergeDumpRecords records)) } = .ok file

/-- The priors read the dump, the manifest and the parquet. -/
theorem priorsFile_congr {s t : DataDir} (hdump : t.dump = s.dump)
    (hmanifest : t.manifest = s.manifest) (hparquet : t.parquet = s.parquet)
    (revision : Option String) (tok : Tokenizer) :
    priorsFile sha256 world args revision tok t = priorsFile sha256 world args revision tok s := by
  unfold priorsFile readDump priorsOf
  rw [hdump, hmanifest, hparquet]

theorem wp_merge_done (hmerge : 0 < args.mergeShards) (s : DataDir) :
    wp (prepareMain sha256 world args)
      (fun _ u => ∃ revision tok records file,
        MergeDone sha256 world args s u revision tok records file)
      (fun _ _ => True) (fun _ => True) s := by
  refine wp_bind (wp_read (fun _ => trivial) trivial fun loaded hload => ?_)
  obtain ⟨revision, tok⟩ := loaded
  rw [if_pos hmerge]
  refine wp_bind (wp_mono (wp_mergeShards _ s) ?_ (fun _ _ _ => trivial) (fun _ _ => trivial))
  rintro _ t ⟨records, hrecords, ht, hdump⟩
  refine wp_mono (wp_runPriors sha256 world args revision tok t) ?_ (fun _ _ _ => trivial)
    (fun _ _ => trivial)
  rintro _ u ⟨file, hfile, b, rfl⟩
  refine ⟨revision, tok, records, file, hload, hrecords, hdump, rfl, ?_⟩
  rw [← hfile]
  have hdump' : t.dump = some (scoredLines (mergeDumpRecords records)) := hdump
  apply priorsFile_congr
  · exact hdump'.symm
  · exact ht.manifest.symm
  · exact ht.parquet.symm

/-- The command returns when it can read its parts and the priors of their merge can be built. -/
theorem finishes_merge (hmerge : 0 < args.mergeShards) {s : DataDir} {revision : Option String}
    {tok : Tokenizer} {records : List (DumpRecord × Origin)} {file : PriorsFile}
    (hload : loadTokenizer world args = .ok (revision, tok))
    (hparts : readParts s (List.range args.mergeShards.toNat) = .ok records)
    (hfile : priorsFile sha256 world args revision tok
      { s with dump := some (scoredLines (mergeDumpRecords records)) } = .ok file) :
    ∃ u, Finishes (prepareMain sha256 world args) s () u ∧
      u.dump = some (scoredLines (mergeDumpRecords records)) ∧ u.priors = some file := by
  obtain ⟨t, hmerged, ht, hdump⟩ := finishes_mergeShards hparts
  have hfile' : priorsFile sha256 world args revision tok t = .ok file := by
    rw [← hfile]
    have hdump' : t.dump = some (scoredLines (mergeDumpRecords records)) := hdump
    apply priorsFile_congr
    · exact hdump'
    · exact ht.manifest
    · exact ht.parquet
  have hbranch : Finishes (mergeBranch sha256 world args revision tok) s () _ :=
    hmerged.bind (finishes_runPriors hfile')
  have hmain : Finishes (prepareMain sha256 world args) s ()
      { t with temp := false, priors := some file } := by
    refine (finishes_read (g := fun _ => loadTokenizer world args) hload).bind ?_
    rw [if_pos hmerge]
    exact hbranch
  exact ⟨_, hmain, hdump, rfl⟩

end Command

/-! ## Running it again -/

/-- The directory after the cause is removed: with this manifest and this parquet. -/
def repaired (manifest : Option (Doc (List ResultRecord))) (parquet : Option ParquetFile)
    (s : DataDir) : DataDir := { s with manifest := manifest, parquet := parquet }

/-- Run again from `t`, the command leaves the merged dump and the priors of `u`. -/
def Retried (sha256 : Digest) (world : World) (args : PrepareArgs) (t u : DataDir) : Prop :=
  ∃ u', Finishes (prepareMain sha256 world args) t () u' ∧ u'.dump = u.dump ∧ u'.priors = u.priors

section Retry

variable {sha256 : Digest} {world : World} {args : PrepareArgs} {s t u : DataDir}
  {manifest : Option (Doc (List ResultRecord))} {parquet : Option ParquetFile}

theorem retried_of_parts (hmerge : 0 < args.mergeShards) (hleft : PartsLeft s t)
    (hthere : PartsThere args.mergeShards.toNat t)
    (hu : Finishes (prepareMain sha256 world args) (repaired manifest parquet s) () u) :
    Retried sha256 world args (repaired manifest parquet t) u := by
  obtain ⟨revision, tok, records, file, h⟩ := hu.post (wp_merge_done hmerge _)
  have hparts : readParts (repaired manifest parquet t) (List.range args.mergeShards.toNat) =
      .ok records := by
    rw [← h.parts]
    exact readParts_congr (hleft.eq hthere)
  have hfile : priorsFile sha256 world args revision tok
      { repaired manifest parquet t with
        dump := some (scoredLines (mergeDumpRecords records)) } = .ok file := by
    rw [← h.file]
    exact priorsFile_congr rfl rfl rfl revision tok
  obtain ⟨u', hu', hdump, hpriors⟩ := finishes_merge hmerge h.loaded hparts hfile
  exact ⟨u', hu', hdump.trans h.dump.symm, hpriors.trans h.priors.symm⟩

/-- Without one of its parts the command does not return. -/
theorem parts_of_retried (hmerge : 0 < args.mergeShards)
    (h : Retried sha256 world args (repaired manifest parquet t) u) :
    PartsThere args.mergeShards.toNat t := by
  obtain ⟨u', hu', -, -⟩ := h
  obtain ⟨_, _, records, _, hdone⟩ := hu'.post (wp_merge_done hmerge _)
  exact fun k hk => parts_of_readParts hdone.parts k (List.mem_range.mpr hk)

end Retry

/-- **When a merge can be retried.** For every run of the command, at whatever step it raises or
    stops, and every repair with which an uninterrupted run returns: running it again gives the
    same merged dump and the same priors if and only if no part has been removed yet. -/
theorem merge_retry_iff (sha256 : Digest) (world world' : World) (args : PrepareArgs)
    (s u : DataDir) (faults : List (Verdict PyError))
    (manifest : Option (Doc (List ResultRecord))) (parquet : Option ParquetFile)
    (hmerge : 0 < args.mergeShards)
    (hu : Finishes (prepareMain sha256 world' args) (repaired manifest parquet s) () u) :
    Retried sha256 world' args
        (repaired manifest parquet ((prepareMain sha256 world args).run faults s).state) u ↔
      PartsThere args.mergeShards.toNat ((prepareMain sha256 world args).run faults s).state := by
  have hleft : PartsLeft s ((prepareMain sha256 world args).run faults s).state :=
    (keeps_partsLeft s hmerge s fun k => .inl rfl).state faults
  exact ⟨parts_of_retried hmerge, fun hthere => retried_of_parts hmerge hleft hthere hu⟩

/-- After the merge the parts are gone: a run that run_priors ends, by an exception or by a stop,
    cannot be retried. -/
theorem parts_gone_of_merged (sha256 : Digest) (world : World) (args : PrepareArgs)
    (revision : Option String) (tok : Tokenizer) {n : ℕ} (hn : 0 < n) {s t : DataDir}
    (hmerged : Finishes (mergeShards n) s () t) (faults : List (Verdict PyError)) :
    ¬PartsThere n ((runPriors sha256 world args revision tok).run faults t).state := by
  intro hthere
  have hgone : t.part 0 = none :=
    hmerged.post (wp_mergeShards_removed n s) 0 (List.mem_range.mpr hn)
  have hleft : PartsLeft t ((runPriors sha256 world args revision tok).run faults t).state :=
    (keeps_partsLeft_runPriors t _ _ t fun k => .inl rfl).state faults
  have hsome := hthere 0 hn
  rcases hleft 0 with heq | hnone
  · rw [heq, hgone] at hsome
    cases hsome
  · rw [hnone] at hsome
    cases hsome

/-- A stop between the publication and the removal of the first part. -/
theorem stops_mergeShards {n : ℕ} {s : DataDir} {records : List (DumpRecord × Origin)}
    (h : readParts s (List.range (n + 1)) = .ok records) :
    Stops (mergeShards (n + 1)) s
      { s with dump := some (scoredLines (mergeDumpRecords records)) } := by
  refine .bind_right (finishes_read h) (.bind_right (finishes_atomic id s)
    (.bind_right (finishes_atomic _ s) ?_))
  rw [List.range_succ_eq_map]
  exact (stops_atomic _ _).bind_left.bind_left

/-! ## Two parts -/

section Sample

/-- The directory of two finished dump processes, and what the command makes of it. -/
theorem sample_parts : ∃ s u : DataDir,
    Finishes (prepareMain (fun _ => "") twoModels mergeArgs) (repaired s.manifest s.parquet s)
      () u ∧
      PartsThere 2 s ∧ s.dump = none := by
  obtain ⟨record, -⟩ := sample_build
  obtain ⟨r, -, htokens, -, -⟩ :=
    sample_dump (fun _ => "") record (@rfl _ (twoModels.pathExists "models/qwen"))
  obtain ⟨u, -, hu, -⟩ := sample_merge (fun _ => "") "models/qwen" record htokens
  refine ⟨dumpedDir "models/qwen" record r, u, hu, fun k hk => ?_, rfl⟩
  have hk' : k = 0 ∨ k = 1 := by omega
  rcases hk' with rfl | rfl
  · rfl
  · rfl

/-- Stopped after it has published the merged dump and before it removes a part, the command can
    be run again. -/
theorem merge_retry_iff_sample : ∃ (s u : DataDir) (faults : List (Verdict PyError)),
    s.dump = none ∧
      ((prepareMain (fun _ => "") twoModels mergeArgs).run faults s).state.dump.isSome = true ∧
      Retried (fun _ => "") twoModels mergeArgs (repaired s.manifest s.parquet
        ((prepareMain (fun _ => "") twoModels mergeArgs).run faults s).state) u := by
  obtain ⟨s, u, hu, hparts, hnone⟩ := sample_parts
  have hmerge : 0 < mergeArgs.mergeShards := by decide
  obtain ⟨_, _, records, _, hdone⟩ := hu.post (wp_merge_done hmerge _)
  have hread : readParts s (List.range 2) = .ok records := hdone.parts
  have hload : Finishes (read fun _ => loadTokenizer twoModels mergeArgs) s
      (none, sampleTokenizer) s := finishes_read rfl
  have hstop : Stops (prepareMain (fun _ => "") twoModels mergeArgs) s
      { s with dump := some (scoredLines (mergeDumpRecords records)) } := by
    refine .bind_right hload ?_
    rw [if_pos hmerge]
    exact (stops_mergeShards hread).bind_left
  obtain ⟨faults, -, hstate⟩ := hstop.unfinished
  have hthere : PartsThere 2
      ((prepareMain (fun _ => "") twoModels mergeArgs).run faults s).state := by
    rw [hstate]
    exact hparts
  refine ⟨s, u, faults, hnone, by rw [hstate]; rfl, ?_⟩
  exact (merge_retry_iff (fun _ => "") twoModels twoModels mergeArgs s u faults s.manifest s.parquet
    hmerge hu).mpr hthere

/-- Without the parquet the command removes its parts and then raises; the parquet does not bring
    them back. -/
theorem merge_not_retried : ¬∀ (sha256 : Digest) (world : World) (args : PrepareArgs)
    (s u : DataDir) (faults : List (Verdict PyError))
    (manifest : Option (Doc (List ResultRecord))) (parquet : Option ParquetFile),
    0 < args.mergeShards → Unfinished ((prepareMain sha256 world args).run faults s) →
    Finishes (prepareMain sha256 world args) (repaired manifest parquet s) () u →
    Retried sha256 world args
      (repaired manifest parquet ((prepareMain sha256 world args).run faults s).state) u := by
  intro h
  obtain ⟨s, u, hu, -, -⟩ := sample_parts
  have hmerge : 0 < mergeArgs.mergeShards := by decide
  let s' := repaired s.manifest none s
  obtain ⟨_, _, records, _, hdone⟩ := hu.post (wp_merge_done hmerge _)
  have hparts : readParts s' (List.range 2) = .ok records := hdone.parts
  obtain ⟨t, hmerged, ht, -⟩ := finishes_mergeShards hparts
  -- the merge runs to its end, then run_priors does not find the parquet
  have hnever : wp (prepareMain (fun _ => "") twoModels mergeArgs) (fun _ _ => False)
      (fun _ _ => True) (fun _ => True) s' := by
    refine wp_mono (wp_merge_done hmerge s') ?_ (fun _ _ h => h) (fun _ h => h)
    rintro _ _ ⟨_, _, _, _, hdone'⟩
    obtain ⟨_, _, _, _, _, hmeta⟩ := priorsFile_eq_ok hdone'.file
    obtain ⟨_, hparquet, _⟩ := hmeta.parquet
    cases hparquet
  have hload : Finishes (read fun _ => loadTokenizer twoModels mergeArgs) s'
      (none, sampleTokenizer) s' := finishes_read rfl
  obtain ⟨f, hf⟩ := hload
  obtain ⟨g, hg⟩ := hmerged
  have hrun : (prepareMain (fun _ => "") twoModels mergeArgs).run (f ++ (g ++ [])) s' =
      (runPriors (fun _ => "") twoModels mergeArgs none sampleTokenizer).run [] t := by
    refine (run_bind_done (hf (g ++ []))).trans ?_
    rw [if_pos hmerge]
    exact run_bind_done (hg [])
  have hretried := h (fun _ => "") twoModels mergeArgs s' u (f ++ (g ++ [])) s.manifest s.parquet
    hmerge (fun a ha => hnever.done ha) hu
  refine parts_gone_of_merged (fun _ => "") twoModels mergeArgs none sampleTokenizer (n := 2)
    (by decide) ⟨g, hg⟩ [] ?_
  rw [← hrun]
  exact parts_of_retried hmerge hretried

end Sample

end LookAway.Priors
