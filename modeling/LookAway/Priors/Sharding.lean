/-
  A sharded dump, merged, is the dump of one process.

  The records of a row do not depend on the shard that scores it, so the parts hold the records of
  a partition of the rows (`strides_perm`), and the merge brings them back into the order of the
  rows (`map_mergeSort_eq`). The numbers `n` are assigned anew, so they are positions again.
  Without shards (`--num-shards 1`) the process writes the dump itself and leaves nothing to merge.
-/
import LookAway.Base.RoundRobin
import LookAway.Priors.FreqSpec
import LookAway.Priors.Provenance

namespace LookAway.Priors

open LookAway.Base LookAway.Base.Script LookAway.Data

/-! ## Numbered records -/

/-- The lines of records that are numbered by their position. -/
def numbered (records : List DumpRecord) : List DumpLine :=
  records.mapIdx fun n r => .record { r with n := n }

/-- A record without its number. -/
def bare (r : DumpRecord) : DumpRecord := { r with n := 0 }

theorem numbered_map_bare (records : List DumpRecord) :
    numbered (records.map bare) = numbered records := by
  unfold numbered
  refine List.ext_getElem? fun i => ?_
  rw [List.getElem?_mapIdx, List.getElem?_mapIdx, List.getElem?_map, Option.map_map]
  rfl

theorem dumpLines_dumpedLines (origin : Origin) (records : List DumpRecord) :
    dumpLines (dumpedLines origin records) = numbered records := by
  unfold dumpLines dumpedLines numbered
  refine List.ext_getElem? fun i => ?_
  rw [List.getElem?_map, List.getElem?_mapIdx, List.getElem?_mapIdx, Option.map_map]
  rfl

/-- The merged dump numbers the records in the order of the rows. -/
theorem dumpLines_merged (records : List (DumpRecord × Origin)) :
    dumpLines (scoredLines (mergeDumpRecords records)) =
      numbered ((records.mergeSort fun a b => decide (a.1.idx ≤ b.1.idx)).map (bare ·.1)) := by
  rw [← Function.comp_def, ← List.map_map, numbered_map_bare]
  unfold dumpLines scoredLines mergeDumpRecords numbered
  refine List.ext_getElem? fun i => ?_
  rw [List.getElem?_map, List.getElem?_map, List.getElem?_mapIdx, List.getElem?_mapIdx,
    List.getElem?_map, Option.map_map, Option.map_map, Option.map_map]
  rfl

/-! ## The records of the rows -/

/-- The record of row `i`, if scoring it gives one. -/
def foundAt (args : DumpArgs) (rows : List SourceRow) (s : DataDir) (i : ℕ) : Option DumpRecord :=
  ((rowRecord args rows s i).toOption).getD none

/-- The row can be scored. -/
def Scorable (args : DumpArgs) (rows : List SourceRow) (s : DataDir) (i : ℕ) : Prop :=
  ∃ r, rowRecord args rows s i = .ok r

section Rows

variable {args : DumpArgs} {rows : List SourceRow} {s : DataDir}

/-- What a dump has scored is the records of its rows. -/
theorem Scores.eq_map {pre : List ℕ} {found : List (Option DumpRecord)}
    (h : Scores args rows s pre found) :
    found = pre.map (foundAt args rows s) ∧ ∀ i ∈ pre, Scorable args rows s i := by
  induction h with
  | nil => exact ⟨rfl, by simp⟩
  | @cons i r pre found hr _ ih =>
      have hfound : foundAt args rows s i = r := by
        unfold foundAt
        rw [hr]
        rfl
      refine ⟨by rw [List.map_cons, hfound, ← ih.1], ?_⟩
      intro j hj
      rcases List.mem_cons.mp hj with rfl | hj
      · exact ⟨r, hr⟩
      · exact ih.2 j hj

theorem scores_of_scorable {pre : List ℕ} (h : ∀ i ∈ pre, Scorable args rows s i) :
    Scores args rows s pre (pre.map (foundAt args rows s)) := by
  induction pre with
  | nil => exact .nil
  | cons i pre ih =>
      obtain ⟨r, hr⟩ := h i (by simp)
      refine .cons ?_ (ih fun j hj => h j (by simp [hj]))
      unfold foundAt
      rw [hr]
      rfl

theorem reduceOption_map_found (pre : List ℕ) :
    (pre.map (foundAt args rows s)).reduceOption = pre.filterMap (foundAt args rows s) := by
  unfold List.reduceOption
  rw [List.filterMap_map]
  rfl

theorem foundAt_eq_some {i : ℕ} {r : DumpRecord} (h : foundAt args rows s i = some r) :
    rowRecord args rows s i = .ok (some r) := by
  unfold foundAt at h
  cases hr : rowRecord args rows s i with
  | error e =>
      rw [hr] at h
      cases h
  | ok found =>
      rw [hr] at h
      exact congrArg Except.ok h

/-- A record carries the index of its row and no number yet. -/
theorem foundAt_fields {i : ℕ} {r : DumpRecord} (h : foundAt args rows s i = some r) :
    r.idx = i ∧ bare r = r := by
  have hrow := foundAt_eq_some h
  refine ⟨rowRecord_idx hrow, ?_⟩
  obtain ⟨row, _, hrow⟩ := except_bind_ok.mp hrow
  unfold scoreRow at hrow
  obtain ⟨question, _, hrow⟩ := except_bind_ok.mp hrow
  obtain ⟨answer, _, hrow⟩ := except_bind_ok.mp hrow
  split at hrow
  · cases hrow
  · obtain ⟨views, _, hrow⟩ := except_bind_ok.mp hrow
    obtain ⟨student, _, hrow⟩ := except_bind_ok.mp hrow
    obtain ⟨pos, _, hrow⟩ := except_bind_ok.mp hrow
    obtain ⟨neg, _, hrow⟩ := except_bind_ok.mp hrow
    cases hrow
    rfl

/-- The records of ascending rows are ascending. -/
theorem pairwise_found {pre : List ℕ} (h : pre.Pairwise (· < ·)) :
    (pre.filterMap (foundAt args rows s)).Pairwise fun a b => a.idx < b.idx := by
  rw [List.pairwise_filterMap]
  refine h.imp ?_
  intro i j hij a ha b hb
  rw [(foundAt_fields ha).1, (foundAt_fields hb).1]
  exact hij

end Rows

/-! ## What a process dumps -/

/-- The process of shard `k` of `n`. -/
def DumpArgs.ofShard (args : DumpArgs) (n k : ℕ) : DumpArgs :=
  { args with numShards := n, shard := k }

/-- One process for all the rows. -/
def DumpArgs.whole (args : DumpArgs) : DumpArgs := { args with numShards := 1, shard := 0 }

/-- The rows a dump with this `--limit` runs over. -/
def DumpRows (limit : ℤ) (s : DataDir) (rows : List SourceRow) : Prop :=
  ∃ allRows results, readRows s = .ok allRows ∧ s.manifest = some (.complete results) ∧
    AlignedManifest results allRows.length ∧
    rows = if 0 < limit then allRows.take limit.toNat else allRows

theorem DumpRows.unique {limit : ℤ} {s : DataDir} {rows rows' : List SourceRow}
    (h : DumpRows limit s rows) (h' : DumpRows limit s rows') : rows = rows' := by
  obtain ⟨allRows, _, hread, _, _, rfl⟩ := h
  obtain ⟨allRows', _, hread', _, _, rfl⟩ := h'
  rw [hread] at hread'
  cases hread'
  rfl

theorem dumpPlan_iff {args : DumpArgs} {s : DataDir} {plan : List SourceRow × List ℕ} :
    dumpPlan args s = .ok plan ↔ DumpRows args.limit s plan.1 ∧
      shardRowIndices plan.1.length args.shard args.numShards = .ok plan.2 := by
  constructor
  · intro h
    obtain ⟨allRows, results, hread, hmanifest, haligned, hrows, htargets⟩ := dumpPlan_eq_ok h
    exact ⟨⟨allRows, results, hread, hmanifest, haligned, hrows⟩, htargets⟩
  · rintro ⟨⟨allRows, results, hread, hmanifest, haligned, hrows⟩, htargets⟩
    unfold dumpPlan
    rw [hread, hmanifest]
    refine except_bind_ok.mpr ⟨_, rfl, except_bind_ok.mpr ⟨_, rfl, except_bind_ok.mpr ⟨_, rfl, ?_⟩⟩⟩
    rw [if_pos haligned]
    dsimp only
    rw [← hrows]
    exact except_bind_ok.mpr ⟨plan.2, htargets, rfl⟩

theorem shardRowIndices_ofShard {total n k : ℕ} (hk : k < n) :
    shardRowIndices total k n = .ok (strideOf total n k) := by
  unfold shardRowIndices
  have hn : ¬(n : ℤ) < 1 := by omega
  have hspec : ¬¬((0 : ℤ) ≤ k ∧ (k : ℤ) < n) := by omega
  rw [if_neg hn, if_neg hspec]
  rfl

/-- The lines a process dumps for these targets. -/
def targetLines (args : DumpArgs) (rows : List SourceRow) (s : DataDir) (targets : List ℕ) :
    List Scored :=
  dumpedLines (args.origin s) (targets.filterMap (foundAt args rows s))

/-- A dump returns with the lines of its targets. -/
theorem wp_runDump_targets (args : DumpArgs) (s : DataDir) :
    wp (runDump args)
      (fun _ t => ∃ rows targets, DumpRows args.limit s rows ∧
        shardRowIndices rows.length args.shard args.numShards = .ok targets ∧
        (∀ i ∈ targets, Scorable args rows s i) ∧
        t = setDump (some (targetLines args rows s targets)) s args.part?)
      (fun _ _ => True) (fun _ => True) s := by
  refine wp_mono (wp_runDump args s) ?_ (fun _ _ _ => trivial) (fun _ _ => trivial)
  rintro _ t ⟨plan, found, hplan, hfound, ht⟩
  obtain ⟨hrows, htargets⟩ := dumpPlan_iff.mp hplan
  obtain ⟨hmap, hscorable⟩ := hfound.eq_map
  refine ⟨plan.1, plan.2, hrows, htargets, hscorable, ?_⟩
  rw [ht, hmap, reduceOption_map_found]
  rfl

theorem finishes_runDump_targets {args : DumpArgs} {s : DataDir} {rows : List SourceRow}
    {targets : List ℕ} (hrows : DumpRows args.limit s rows)
    (htargets : shardRowIndices rows.length args.shard args.numShards = .ok targets)
    (hscorable : ∀ i ∈ targets, Scorable args rows s i) :
    Finishes (runDump args) s ()
      (setDump (some (targetLines args rows s targets)) s args.part?) := by
  have hplan : dumpPlan args s = .ok (rows, targets) := dumpPlan_iff.mpr ⟨hrows, htargets⟩
  have h := finishes_runDump hplan (scores_of_scorable hscorable)
  rw [reduceOption_map_found] at h
  exact h

/-! ## The shards -/

/-- The processes of the shards, one after the other in some order, and the merge. -/
def shardedDump (args : DumpArgs) (n : ℕ) (order : List ℕ) : Py Unit := do
  forEach order fun k => runDump (args.ofShard n k)
  mergeShards n

section Shards

variable {args : DumpArgs} {n : ℕ} {s : DataDir}

theorem part?_ofShard (hn : 2 ≤ n) (k : ℕ) : (args.ofShard n k).part? = some k := by
  unfold DumpArgs.part? DumpArgs.ofShard
  dsimp only
  rw [if_pos (by omega)]
  rfl

/-- The shards `pre` are done: only parts have changed, and theirs are complete. -/
def ShardsDone (args : DumpArgs) (n : ℕ) (s : DataDir) (pre : List ℕ) (t : DataDir) : Prop :=
  ∃ part, t = { s with part := part } ∧ ∀ k ∈ pre, ∃ rows, DumpRows args.limit s rows ∧
    (∀ i ∈ strideOf rows.length n k, Scorable args rows s i) ∧
    part k = some (targetLines (args.ofShard n k) rows s (strideOf rows.length n k))

/-- One more shard. -/
theorem ShardsDone.dumped {pre : List ℕ} {k : ℕ} {t : DataDir} {rows : List SourceRow}
    (h : ShardsDone args n s pre t) (hn : 2 ≤ n) (hrows : DumpRows args.limit s rows)
    (hscorable : ∀ i ∈ strideOf rows.length n k, Scorable args rows s i) :
    ShardsDone args n s (pre ++ [k]) (setDump (some (targetLines (args.ofShard n k) rows s
      (strideOf rows.length n k))) t (args.ofShard n k).part?) := by
  obtain ⟨part, rfl, hparts⟩ := h
  rw [part?_ofShard hn]
  refine ⟨_, rfl, fun j hj => ?_⟩
  by_cases hjk : j = k
  · subst hjk
    exact ⟨rows, hrows, hscorable, Function.update_self ..⟩
  · have hmem : j ∈ pre := by simpa [hjk] using hj
    obtain ⟨rows', hrows', hscorable', hpart⟩ := hparts j hmem
    exact ⟨rows', hrows', hscorable', (Function.update_of_ne hjk ..).trans hpart⟩

theorem wp_shards (hn : 2 ≤ n) {order : List ℕ} (horder : ∀ k ∈ order, k < n) :
    wp (forEach order fun k => runDump (args.ofShard n k))
      (fun _ => ShardsDone args n s order) (fun _ _ => True) (fun _ => True) s := by
  refine wp_forEach (ShardsDone args n s) ?_ ⟨s.part, rfl, by simp⟩
  intro pre k post t hsplit hdone
  have hk : k < n := horder k (by simp [hsplit])
  refine wp_mono (wp_runDump_targets (args.ofShard n k) t) ?_ (fun _ _ h => h) (fun _ h => h)
  rintro _ t' ⟨rows, targets, hrows, htargets, hscorable, rfl⟩
  have htargets' : targets = strideOf rows.length n k :=
    Except.ok.inj (htargets.symm.trans (shardRowIndices_ofShard hk))
  subst htargets'
  obtain ⟨part, rfl, hparts⟩ := id hdone
  exact hdone.dumped hn hrows hscorable

end Shards

/-! ## The merge -/

theorem partRecords_scoredLines (records : List (DumpRecord × Origin)) :
    partRecords (scoredLines records) = .ok records := by
  induction records with
  | nil => rfl
  | cons r records ih =>
      unfold scoredLines at ih ⊢
      rw [List.map_cons]
      exact except_bind_ok.mpr ⟨r.1, rfl, except_bind_ok.mpr ⟨records, ih, rfl⟩⟩

theorem readParts_of_parts {t : DataDir} {ks : List ℕ} {parts : ℕ → List (DumpRecord × Origin)}
    (h : ∀ k ∈ ks, t.part k = some (scoredLines (parts k))) :
    readParts t ks = .ok (ks.flatMap parts) := by
  induction ks with
  | nil => rfl
  | cons k ks ih =>
      have hk := h k (by simp)
      have hrest := ih fun j hj => h j (by simp [hj])
      refine except_bind_ok.mpr ⟨_, ?_, except_bind_ok.mpr ⟨_, partRecords_scoredLines (parts k),
        except_bind_ok.mpr ⟨_, hrest, rfl⟩⟩⟩
      rw [hk]
      rfl

/-- The records of a dump file, with their numbers. -/
def numberedFrom (origin : Origin) (records : List DumpRecord) : List (DumpRecord × Origin) :=
  records.mapIdx fun n r => ({ r with n := n }, origin)

theorem dumpedLines_eq (origin : Origin) (records : List DumpRecord) :
    dumpedLines origin records = scoredLines (numberedFrom origin records) := by
  unfold dumpedLines scoredLines numberedFrom
  refine List.ext_getElem? fun i => ?_
  rw [List.getElem?_map, List.getElem?_mapIdx, List.getElem?_mapIdx, Option.map_map]
  rfl

theorem numberedFrom_bare {origin : Origin} {records : List DumpRecord}
    (h : ∀ r ∈ records, bare r = r) :
    (numberedFrom origin records).map (bare ·.1) = records := by
  unfold numberedFrom
  refine List.ext_getElem? fun i => ?_
  rw [List.getElem?_map, List.getElem?_mapIdx, Option.map_map]
  cases hi : records[i]? with
  | none => rfl
  | some r => exact congrArg some (h r (List.mem_of_getElem? hi))

section Merge

variable {args : DumpArgs} {n : ℕ} {s t : DataDir}

/-- The records of all the rows, as one process numbers them. -/
def wholeLines (args : DumpArgs) (rows : List SourceRow) (s : DataDir) : List DumpLine :=
  numbered ((List.range rows.length).filterMap (foundAt args rows s))

/-- The parts of all the shards, merged, hold what one process dumps. -/
theorem merged_parts (hn : 2 ≤ n) {order : List ℕ} (horder : order.Perm (List.range n))
    (h : ShardsDone args n s order t) :
    ∃ rows records, DumpRows args.limit s rows ∧
      (∀ i < rows.length, Scorable args rows s i) ∧
      readParts t (List.range n) = .ok records ∧
      dumpLines (scoredLines (mergeDumpRecords records)) = wholeLines args rows s := by
  obtain ⟨part, rfl, hparts⟩ := h
  obtain ⟨rows, hrows, -, -⟩ := hparts 0 (horder.mem_iff.mpr (List.mem_range.mpr (by omega)))
  have hpart : ∀ k < n, (∀ i ∈ strideOf rows.length n k, Scorable args rows s i) ∧
      part k = some (targetLines (args.ofShard n k) rows s (strideOf rows.length n k)) := by
    intro k hk
    obtain ⟨rows', hrows', hscorable, hpart⟩ :=
      hparts k (horder.mem_iff.mpr (List.mem_range.mpr hk))
    rw [hrows'.unique hrows] at hscorable hpart
    exact ⟨hscorable, hpart⟩
  let found := foundAt args rows s
  let parts : ℕ → List (DumpRecord × Origin) := fun k =>
    numberedFrom ((args.ofShard n k).origin s) ((strideOf rows.length n k).filterMap found)
  have hread : readParts { s with part := part } (List.range n) =
      .ok ((List.range n).flatMap parts) := by
    apply readParts_of_parts
    intro k hk
    exact (hpart k (List.mem_range.mp hk)).2.trans (congrArg some (dumpedLines_eq _ _))
  refine ⟨rows, _, hrows, fun i hi => ?_, hread, ?_⟩
  · have hlt := Nat.mod_lt i (show 0 < n by omega)
    exact (hpart _ hlt).1 i ((mem_strideOf hlt).mpr ⟨hi, rfl⟩)
  · have hbare : ∀ pre : List ℕ, ∀ r ∈ pre.filterMap found, bare r = r := by
      intro pre r hr
      obtain ⟨i, _, hi⟩ := List.mem_filterMap.mp hr
      exact (foundAt_fields hi).2
    have hperm : (((List.range n).flatMap parts).map (bare ·.1)).Perm
        ((List.range rows.length).filterMap found) := by
      rw [List.map_flatMap]
      simp only [parts, numberedFrom_bare (hbare _)]
      rw [← List.filterMap_flatMap]
      exact (strides_perm (show 0 < n by omega)).filterMap found
    rw [dumpLines_merged]
    exact congrArg numbered (map_mergeSort_eq (·.idx) hperm
      (pairwise_found List.pairwise_lt_range))

/-- What both ways leave: the dump of the rows of `s`, next to what was there. -/
structure DumpedWhole (args : DumpArgs) (s t : DataDir) (rows : List SourceRow) : Prop where
  dumpRows : DumpRows args.limit s rows
  scorable : ∀ i < rows.length, Scorable args rows s i
  lines : t.dump.map dumpLines = some (wholeLines args rows s)
  manifest : t.manifest = s.manifest
  parquet : t.parquet = s.parquet

theorem wp_shardedDump (hn : 2 ≤ n) {order : List ℕ} (horder : order.Perm (List.range n)) :
    wp (shardedDump args n order) (fun _ t => ∃ rows, DumpedWhole args s t rows)
      (fun _ _ => True) (fun _ => True) s := by
  have hlt : ∀ k ∈ order, k < n := fun k hk => List.mem_range.mp (horder.mem_iff.mp hk)
  refine wp_bind (wp_mono (wp_shards hn hlt) ?_ (fun _ _ h => h) (fun _ h => h))
  intro _ t hdone
  obtain ⟨rows, records, hrows, hscorable, hread, hlines⟩ := merged_parts hn horder hdone
  obtain ⟨part, rfl, -⟩ := hdone
  refine wp_mono (wp_mergeShards n _) ?_ (fun _ _ _ => trivial) (fun _ _ => trivial)
  rintro _ t' ⟨records', hread', haside, hdump⟩
  rw [hread] at hread'
  cases hread'
  refine ⟨rows, hrows, hscorable, ?_, haside.manifest, haside.parquet⟩
  rw [hdump]
  exact congrArg some hlines

theorem wp_wholeDump :
    wp (runDump args.whole) (fun _ t => ∃ rows, DumpedWhole args s t rows)
      (fun _ _ => True) (fun _ => True) s := by
  refine wp_mono (wp_runDump_targets args.whole s) ?_ (fun _ _ h => h) (fun _ h => h)
  rintro _ t ⟨rows, targets, hrows, htargets, hscorable, rfl⟩
  have htargets' : targets = List.range rows.length :=
    Except.ok.inj (htargets.symm.trans (shardRowIndices_one _))
  subst htargets'
  refine ⟨rows, hrows, fun i hi => hscorable i (List.mem_range.mpr hi), ?_, rfl, rfl⟩
  exact congrArg some (dumpLines_dumpedLines _ _)

/-- The shards and the merge return when every row can be scored. -/
theorem finishes_shardedDump (hn : 2 ≤ n) {order : List ℕ} (horder : order.Perm (List.range n))
    {rows : List SourceRow} (hrows : DumpRows args.limit s rows)
    (hscorable : ∀ i < rows.length, Scorable args rows s i) :
    ∃ t, Finishes (shardedDump args n order) s () t := by
  have hlt : ∀ k ∈ order, k < n := fun k hk => List.mem_range.mp (horder.mem_iff.mp hk)
  have hloop : ∀ ks : List ℕ, (∀ k ∈ ks, k < n) → ∀ part, ∃ part',
      Finishes (forEach ks fun k => runDump (args.ofShard n k)) { s with part := part } ()
        { s with part := part' } := by
    intro ks
    induction ks with
    | nil => exact fun _ part => ⟨part, finishes_pure () _⟩
    | cons k ks ih =>
        intro hks part
        have hk : k < n := hks k (by simp)
        have hfirst : Finishes (runDump (args.ofShard n k)) { s with part := part } () _ :=
          finishes_runDump_targets hrows (shardRowIndices_ofShard hk)
            fun i hi => hscorable i ((mem_strideOf hk).mp hi).1
        rw [part?_ofShard hn] at hfirst
        obtain ⟨part', hrest⟩ := ih (fun j hj => hks j (by simp [hj])) (Function.update part k
          (some (targetLines (args.ofShard n k) rows { s with part := part }
            (strideOf rows.length n k))))
        exact ⟨part', hfirst.bind hrest⟩
  obtain ⟨part, hshards⟩ := hloop order hlt s.part
  have hdone : ShardsDone args n s order { s with part := part } :=
    hshards.post (wp_shards hn hlt)
  obtain ⟨rows', records, -, -, hread, -⟩ := merged_parts hn horder hdone
  obtain ⟨t, hmerge, -, -⟩ := finishes_mergeShards hread
  exact ⟨t, hshards.bind hmerge⟩

theorem finishes_wholeDump {rows : List SourceRow} (hrows : DumpRows args.limit s rows)
    (hscorable : ∀ i < rows.length, Scorable args rows s i) :
    ∃ u, Finishes (runDump args.whole) s () u :=
  ⟨_, finishes_runDump_targets hrows (shardRowIndices_one _)
    fun i hi => hscorable i (List.mem_range.mp hi)⟩

end Merge

/-! ## What is built from a dump -/

/-- Reading the same lines gives the same records. -/
theorem loads_related {xs ys : List Scored} (h : dumpLines xs = dumpLines ys) :
    Related (fun a b : List (DumpRecord × Origin) => a.map (·.1) = b.map (·.1))
      (xs.mapM fun scored => do
        let record ← loadsDumpLine scored.line
        return (record, scored.origin))
      (ys.mapM fun scored => do
        let record ← loadsDumpLine scored.line
        return (record, scored.origin)) := by
  induction xs generalizing ys with
  | nil =>
      rw [List.map_eq_nil_iff.mp h.symm]
      exact .ok rfl
  | cons x xs ih =>
      obtain ⟨y, ys, rfl, hline, hrest⟩ := List.map_eq_cons_iff.mp h.symm
      have hline' : x.line = y.line := hline.symm
      rw [List.mapM_cons, List.mapM_cons, hline']
      have hhere : Related (fun a b : DumpRecord × Origin => a.1 = b.1)
          (do let record ← loadsDumpLine y.line; return (record, x.origin))
          (do let record ← loadsDumpLine y.line; return (record, y.origin)) :=
        (Related.refl (loadsDumpLine y.line)).bind fun a b hab => .ok hab
      refine hhere.bind fun a b hab => (ih hrest.symm).bind fun as bs habs => ?_
      refine .ok ?_
      rw [List.map_cons, List.map_cons, hab, habs]

/-- Two directories whose dumps have the same lines. -/
structure SameDump (t u : DataDir) : Prop where
  lines : ∃ lines, t.dump.map dumpLines = some lines ∧ u.dump.map dumpLines = some lines
  manifest : t.manifest = u.manifest
  parquet : t.parquet = u.parquet

section Built

variable {t u : DataDir}

theorem SameDump.dumps (h : SameDump t u) :
    ∃ xs ys, t.dump = some xs ∧ u.dump = some ys ∧ dumpLines xs = dumpLines ys := by
  obtain ⟨lines, ht, hu⟩ := h.lines
  obtain ⟨xs, hxs, rfl⟩ := Option.map_eq_some_iff.mp ht
  obtain ⟨ys, hys, hlines⟩ := Option.map_eq_some_iff.mp hu
  exact ⟨xs, ys, hxs, hys, hlines.symm⟩

/-- run_priors writes the same priors from either. -/
theorem SameDump.priors (h : SameDump t u) (sha256 : Digest) (world : World) (args : PrepareArgs)
    (revision : Option String) (tok : Tokenizer) :
    (priorsFile sha256 world args revision tok t).map (·.content) =
      (priorsFile sha256 world args revision tok u).map (·.content) := by
  obtain ⟨xs, ys, hxs, hys, hlines⟩ := h.dumps
  have hread : Related (fun a b : List (DumpRecord × Origin) => a.map (·.1) = b.map (·.1))
      (readDump t) (readDump u) := by
    unfold readDump
    rw [hxs, hys]
    exact loads_related hlines
  apply Related.map_eq
  unfold priorsFile
  refine hread.bind fun a b hab => ?_
  have hof : priorsOf sha256 world args revision tok (a.map (·.1)) t =
      priorsOf sha256 world args revision tok (b.map (·.1)) u := by
    rw [hab]
    unfold priorsOf
    rw [h.manifest, h.parquet]
  rw [hof]
  refine (Related.refl _).bind fun p q hpq => .ok ?_
  rw [hpq]

theorem dumpIds_congr (tok : Tokenizer) {xs ys : List Scored} (h : dumpLines xs = dumpLines ys) :
    dumpIds tok xs = dumpIds tok ys := by
  induction xs generalizing ys with
  | nil =>
      rw [List.map_eq_nil_iff.mp h.symm]
  | cons x xs ih =>
      obtain ⟨y, ys, rfl, hline, hrest⟩ := List.map_eq_cons_iff.mp h.symm
      have hline' : x.line = y.line := hline.symm
      unfold dumpIds
      rw [ih hrest.symm, hline']

/-- build_freq_table writes the same table from either. -/
theorem SameDump.freq (h : SameDump t u) (sha256 : Digest) (world : World) (args : FreqArgs) :
    freqTable sha256 world args t = freqTable sha256 world args u := by
  obtain ⟨xs, ys, hxs, hys, hlines⟩ := h.dumps
  have hlength : xs.length = ys.length := by
    simpa [dumpLines] using congrArg List.length hlines
  unfold freqTable
  rw [hxs, hys]
  dsimp only
  simp only [dumpIds_congr _ hlines]
  unfold freqPayload
  rw [hlines, hlength]

end Built

/-- **A merged dump is the dump of one process.** For every dataset, limit and scorer and two or
    more shards, run in any order: the shards and the merge return if and only if one process
    would, and then both dumps have the same lines, and with them the same priors and the same
    frequency table. -/
theorem sharded_dump_eq (args : DumpArgs) (n : ℕ) (order : List ℕ) (s : DataDir) (hn : 2 ≤ n)
    (horder : order.Perm (List.range n)) :
    ((∃ t, Finishes (shardedDump args n order) s () t) ↔
      ∃ u, Finishes (runDump args.whole) s () u) ∧
    ∀ faults faults', ((shardedDump args n order).run faults s).outcome = .done () →
      ((runDump args.whole).run faults' s).outcome = .done () →
      SameDump ((shardedDump args n order).run faults s).state
          ((runDump args.whole).run faults' s).state ∧
        ∀ sha256 world,
          (∀ prepare revision tok, (priorsFile sha256 world prepare revision tok
              ((shardedDump args n order).run faults s).state).map (·.content) =
            (priorsFile sha256 world prepare revision tok
              ((runDump args.whole).run faults' s).state).map (·.content)) ∧
          ∀ freq, freqTable sha256 world freq ((shardedDump args n order).run faults s).state =
            freqTable sha256 world freq ((runDump args.whole).run faults' s).state := by
  refine ⟨⟨?_, ?_⟩, fun faults faults' ht hu => ?_⟩
  · rintro ⟨t, ht⟩
    obtain ⟨rows, h⟩ := ht.post (wp_shardedDump hn horder)
    exact finishes_wholeDump h.dumpRows h.scorable
  · rintro ⟨u, hu⟩
    obtain ⟨rows, h⟩ := hu.post wp_wholeDump
    exact finishes_shardedDump hn horder h.dumpRows h.scorable
  · obtain ⟨rows, h⟩ := (wp_shardedDump hn horder).done ht
    obtain ⟨rows', h'⟩ := wp_wholeDump.done hu
    have hrows := h'.dumpRows.unique h.dumpRows
    subst hrows
    have hsame : SameDump ((shardedDump args n order).run faults s).state
        ((runDump args.whole).run faults' s).state :=
      ⟨⟨_, h.lines, h'.lines⟩, h.manifest.trans h'.manifest.symm, h.parquet.trans h'.parquet.symm⟩
    exact ⟨hsame, fun sha256 world => ⟨fun prepare revision tok =>
      hsame.priors sha256 world prepare revision tok, fun freq => hsame.freq sha256 world freq⟩⟩

/-! ## Five rows -/

section Sample

theorem sample_scorable (record : TrainRecord) :
    DumpRows (shardDump "models/qwen" 0).limit (builtDir record)
      [sampleRow "<image>What color is the car?"] ∧
    ∀ i < [sampleRow "<image>What color is the car?"].length, Scorable (shardDump "models/qwen" 0)
      [sampleRow "<image>What color is the car?"] (builtDir record) i := by
  have hplan : dumpPlan (shardDump "models/qwen" 0) (builtDir record) =
      .ok ([sampleRow "<image>What color is the car?"], [0]) := sample_plan _ rfl rfl rfl
  refine ⟨(dumpPlan_iff.mp hplan).1, fun i hi => ?_⟩
  have hzero : i = 0 := by simpa using hi
  subst hzero
  exact ⟨_, rfl⟩

/-- A model that answers with the image it sees, and nothing to an empty question. -/
def echoModel : VisionModel where
  promptIds _ question _ := .ok [question.length]
  generate image ids := if ids = [0] then [] else [(image.headD 0).toNat, 40]
  logSoftmax image _ t _ := -((image.headD 0).toNat + t) / 8

def echoRow (i : ℕ) : SourceRow where
  problem := some (if i = 3 then "<image>" else "<image>What color is the car?")
  images := some [["images", imageName i]]
  teacherImages := some [["teacher_images", imageName i]]
  originalImages := none
  bbox := none
  answer := some (intText i)
  extraInfo := none

/-- Five rows, each with its own images; row 3 gets no answer. -/
def echoDir : DataDir :=
  { DataDir.empty sampleRoot with
    jsonl := some ((List.range 5).map fun i => .row (echoRow i))
    files := fun path => ((List.range 5).find? fun i : ℕ =>
      decide (path.getLast? = some (imageName i))).map fun i => [UInt8.ofNat (10 * i)]
    teacherNeg := some ((List.range 5).foldl
      (fun images (i : ℕ) => images.insert (imageName i) [UInt8.ofNat (100 + i)]) ∅)
    manifest := some (.complete ((List.range 5).map fun i => { sampleResult with idx := i })) }

def echoArgs : DumpArgs := { shardDump "models/qwen" 0 with model := echoModel }

theorem echo_rows : DumpRows echoArgs.limit echoDir ((List.range 5).map echoRow) :=
  ⟨_, _, rfl, rfl, by decide, rfl⟩

theorem echo_scorable :
    ∀ i < ((List.range 5).map echoRow).length,
      Scorable echoArgs ((List.range 5).map echoRow) echoDir i := by
  have hall : ∀ i < 5, (rowRecord echoArgs ((List.range 5).map echoRow) echoDir
      i).toOption.isSome := by decide +kernel
  intro i hi
  cases hrow : rowRecord echoArgs ((List.range 5).map echoRow) echoDir i with
  | ok r => exact ⟨r, hrow⟩
  | error e =>
      have hsome := hall i hi
      rw [hrow] at hsome
      cases hsome

/-- Three shards of five rows, the last one first: four records, in the order of the rows. -/
theorem sharded_dump_eq_sample : ∃ faults faults' t,
    ((shardedDump echoArgs 3 [2, 0, 1]).run faults echoDir).state = t ∧
      SameDump t ((runDump echoArgs.whole).run faults' echoDir).state ∧
      ((runDump echoArgs.whole).run faults' echoDir).state.dump.map (·.length) = some 4 := by
  have hwhole : Finishes (runDump echoArgs.whole) echoDir () _ :=
    finishes_runDump_targets echo_rows (shardRowIndices_one _)
      fun i hi => echo_scorable i (List.mem_range.mp hi)
  have hmain := sharded_dump_eq echoArgs 3 [2, 0, 1] echoDir (by decide) (by decide)
  obtain ⟨t, ht⟩ := hmain.1.mpr ⟨_, hwhole⟩
  obtain ⟨faults, hdone, -⟩ := ht.run
  obtain ⟨faults', hdone', hstate⟩ := hwhole.run
  refine ⟨faults, faults', _, rfl, (hmain.2 faults faults' hdone hdone').1, ?_⟩
  rw [hstate]
  decide +kernel

/-- With one shard there is no part to merge: the process has written the dump itself, and the
    merge exits. -/
theorem one_shard_not_merged : ¬∀ (args : DumpArgs) (n : ℕ) (order : List ℕ) (s : DataDir), 1 ≤ n →
    order.Perm (List.range n) → (∃ u, Finishes (runDump args.whole) s () u) →
      ∃ t, Finishes (shardedDump args n order) s () t := by
  intro h
  obtain ⟨record, -⟩ := sample_build
  obtain ⟨hrows, hscorable⟩ := sample_scorable record
  obtain ⟨t, ht⟩ := h (shardDump "models/qwen" 0) 1 [0] (builtDir record) (by decide) (by decide)
    (finishes_wholeDump hrows hscorable)
  have hnever : wp (shardedDump (shardDump "models/qwen" 0) 1 [0]) (fun _ _ => False)
      (fun _ _ => True) (fun _ => True) (builtDir record) := by
    refine wp_bind (wp_bind (wp_mono (wp_runDump_targets _ _) ?_ (fun _ _ h => h) (fun _ h => h)))
    rintro _ t ⟨rows, targets, -, -, -, rfl⟩
    refine wp_pure (wp_bind (wp_read (fun _ => trivial) trivial fun records hrecords => ?_))
    -- no part has been written
    obtain ⟨lines, hlines, -⟩ := except_bind_ok.mp hrecords
    cases hlines
  exact ht.post hnever

end Sample

end LookAway.Priors
