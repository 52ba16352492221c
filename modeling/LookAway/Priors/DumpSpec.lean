/-
  What a dump, a merge and run_priors leave at each of their exits.

  `wp_runDump`: the dump file holds the records of a prefix of the targets, in order, and perhaps
  a torn line. `wp_mergeShards`: the merged dump holds the records of the parts. `wp_runPriors`:
  the priors are those of the dump in place.
-/
import Mathlib.Data.List.Forall2
import Mathlib.Data.List.ReduceOption
import LookAway.Data.Parquet
import LookAway.Priors.Frozen

namespace LookAway.Priors

open LookAway.Base LookAway.Base.Script LookAway.Data

/-! ## The rows of a shard -/

/-- The indices of a shard are in range, ascending and congruent to the shard. -/
structure ShardRows (total shard numShards : ℕ) (targets : List ℕ) : Prop where
  lt : ∀ i ∈ targets, i < total
  mod : ∀ i ∈ targets, i % numShards = shard
  ascending : targets.Pairwise (· < ·)

theorem shardRowIndices_eq_ok {total : ℕ} {shard numShards : ℤ} {targets : List ℕ}
    (h : shardRowIndices total shard numShards = .ok targets) :
    0 ≤ shard ∧ shard < numShards ∧
      targets = List.range' shard.toNat
        ((total - shard.toNat + numShards.toNat - 1) / numShards.toNat) numShards.toNat := by
  unfold shardRowIndices at h
  split at h
  · cases h
  · split at h
    · cases h
    · rename_i _ hspec
      rw [not_not] at hspec
      cases h
      exact ⟨hspec.1, hspec.2, rfl⟩

theorem shardRowIndices_rows {total : ℕ} {shard numShards : ℤ} {targets : List ℕ}
    (h : shardRowIndices total shard numShards = .ok targets) :
    ShardRows total shard.toNat numShards.toNat targets := by
  obtain ⟨h0, hlt, rfl⟩ := shardRowIndices_eq_ok h
  have hstep : 0 < numShards.toNat := by omega
  have hmod : shard.toNat < numShards.toNat := by omega
  refine ⟨fun i hi => ?_, fun i hi => ?_, List.pairwise_lt_range' _ hstep⟩
  · obtain ⟨j, hj, rfl⟩ := List.mem_range'.mp hi
    have hle : (j + 1) * numShards.toNat ≤ total - shard.toNat + numShards.toNat - 1 :=
      (Nat.le_div_iff_mul_le hstep).mp hj
    rw [Nat.add_mul, Nat.one_mul, Nat.mul_comm] at hle
    omega
  · obtain ⟨j, _, rfl⟩ := List.mem_range'.mp hi
    rw [Nat.add_mul_mod_self_left, Nat.mod_eq_of_lt hmod]

/-- One process without shards dumps every row. -/
theorem shardRowIndices_one (total : ℕ) : shardRowIndices total 0 1 = .ok (List.range total) := by
  show Except.ok (List.range' 0 ((total - 0 + 1 - 1) / 1) 1) = _
  rw [Nat.sub_zero, Nat.add_sub_cancel, Nat.div_one, List.range_eq_range']

/-- What a dump that gets past its checks has found. -/
theorem dumpPlan_eq_ok {args : DumpArgs} {s : DataDir} {plan : List SourceRow × List ℕ}
    (h : dumpPlan args s = .ok plan) :
    ∃ allRows results, readRows s = .ok allRows ∧ s.manifest = some (.complete results) ∧
      AlignedManifest results allRows.length ∧
      plan.1 = (if 0 < args.limit then allRows.take args.limit.toNat else allRows) ∧
      shardRowIndices plan.1.length args.shard args.numShards = .ok plan.2 := by
  unfold dumpPlan at h
  obtain ⟨allRows, hrows, h⟩ := except_bind_ok.mp h
  obtain ⟨manifest, hmanifest, h⟩ := except_bind_ok.mp h
  obtain ⟨results, hresults, h⟩ := except_bind_ok.mp h
  cases hm : s.manifest with
  | none =>
      rw [hm] at hmanifest
      cases hmanifest
  | some m =>
      rw [hm] at hmanifest
      cases hmanifest
      split at h
      · rename_i haligned
        obtain ⟨targets, htargets, h⟩ := except_bind_ok.mp h
        cases h
        exact ⟨allRows, results, hrows, by rw [Doc.parse_eq_ok hresults], haligned, rfl, htargets⟩
      · cases h

theorem AlignedManifest.length_eq {results : List ResultRecord} {n : ℕ}
    (h : AlignedManifest results n) : results.length = n := by
  rw [← List.length_map (f := (·.idx)), h.1, List.length_range]

/-! ## The dump file -/

/-- The records, numbered, as the lines of a dump. -/
def dumpedLines (origin : Origin) (records : List DumpRecord) : List Scored :=
  records.mapIdx fun n r => ⟨.record { r with n := n }, origin⟩

/-- The rows `pre` have been scored, with these results. -/
def Scores (args : DumpArgs) (rows : List SourceRow) (s : DataDir) (pre : List ℕ)
    (found : List (Option DumpRecord)) : Prop :=
  List.Forall₂ (fun i r => rowRecord args rows s i = .ok r) pre found

/-- A dump that has returned. -/
def Dumped (args : DumpArgs) (s t : DataDir) : Prop :=
  ∃ plan found, dumpPlan args s = .ok plan ∧ Scores args plan.1 s plan.2 found ∧
    t = setDump (some (dumpedLines (args.origin s) found.reduceOption)) s args.part?

/-- A line its writer did not finish. -/
def Torn (origin : Origin) (x : Scored) : Prop := ∃ r n, x = ⟨.torn r n, origin⟩

/-- A dump that has raised or stopped: nothing has happened, or the file holds the records of a
    prefix of the targets. -/
def DumpExit (args : DumpArgs) (s t : DataDir) : Prop :=
  t = s ∨ ∃ plan pre found torn, dumpPlan args s = .ok plan ∧ pre <+: plan.2 ∧
    Scores args plan.1 s pre found ∧ (∀ x ∈ torn, Torn (args.origin s) x) ∧
    t = setDump (some (dumpedLines (args.origin s) found.reduceOption ++ torn)) s args.part?

theorem Dumped.exit {args : DumpArgs} {s t : DataDir} (h : Dumped args s t) :
    DumpExit args s t := by
  obtain ⟨plan, found, hplan, hfound, ht⟩ := h
  exact .inr ⟨plan, plan.2, found, [], hplan, List.prefix_rfl, hfound, by simp,
    by rw [List.append_nil]; exact ht⟩

section SetDump

variable (lines : Option (List Scored)) (s : DataDir) (part? : Option ℕ)

@[simp] theorem getDump_setDump : getDump (setDump lines s part?) part? = lines := by
  cases part? with
  | none => rfl
  | some k => exact Function.update_self ..

@[simp] theorem setDump_setDump (lines' : Option (List Scored)) :
    setDump lines' (setDump lines s part?) part? = setDump lines' s part? := by
  cases part? with
  | none => rfl
  | some k =>
      show { s with part := Function.update (Function.update s.part k lines) k lines' } = _
      rw [Function.update_idem]
      rfl

theorem rowRecord_setDump (args : DumpArgs) (rows : List SourceRow) (i : ℕ) :
    rowRecord args rows (setDump lines s part?) i = rowRecord args rows s i := by
  cases part? <;> rfl

theorem origin_setDump (args : DumpArgs) : args.origin (setDump lines s part?) = args.origin s := by
  cases part? <;> rfl

end SetDump

theorem length_dumpedLines (origin : Origin) (records : List DumpRecord) :
    (dumpedLines origin records).length = records.length := by
  unfold dumpedLines
  rw [List.length_mapIdx]

theorem dumpedLines_concat (origin : Origin) (records : List DumpRecord) (r : DumpRecord) :
    dumpedLines origin (records ++ [r]) =
      dumpedLines origin records ++ [⟨.record { r with n := records.length }, origin⟩] := by
  unfold dumpedLines
  rw [List.mapIdx_concat]

theorem appendScored_setDump (lines : List Scored) (s : DataDir) (part? : Option ℕ)
    (line : DumpLine) (origin : Origin) :
    appendScored part? line origin (setDump (some lines) s part?) =
      setDump (some (lines ++ [⟨line, origin⟩])) s part? := by
  unfold appendScored
  rw [getDump_setDump, setDump_setDump]
  rfl

/-- One round of the loop appends at most one record. -/
theorem wp_dumpRow {args : DumpArgs} {rows : List SourceRow} {i : ℕ} {s t : DataDir}
    {records : List DumpRecord}
    (ht : t = setDump (some (dumpedLines (args.origin s) records)) s args.part?) :
    wp (dumpRow args rows i)
      (fun _ t' => ∃ r, rowRecord args rows s i = .ok r ∧
        t' = setDump (some (dumpedLines (args.origin s) (records ++ r.toList))) s args.part?)
      (fun _ t' => ∃ torn, (∀ x ∈ torn, Torn (args.origin s) x) ∧
        t' = setDump (some (dumpedLines (args.origin s) records ++ torn)) s args.part?)
      (fun t' => ∃ torn, (∀ x ∈ torn, Torn (args.origin s) x) ∧
        t' = setDump (some (dumpedLines (args.origin s) records ++ torn)) s args.part?) t := by
  have hnone : ∃ torn, (∀ x ∈ torn, Torn (args.origin s) x) ∧
      t = setDump (some (dumpedLines (args.origin s) records ++ torn)) s args.part? :=
    ⟨[], by simp, by rw [List.append_nil, ht]⟩
  refine wp_bind (wp_read (fun _ => hnone) hnone fun scored hscored => ?_)
  obtain ⟨record, hrecord, hscored⟩ := except_bind_ok.mp hscored
  cases hscored
  rw [ht, rowRecord_setDump] at hrecord
  dsimp only
  cases record with
  | none =>
      refine wp_pure ⟨none, hrecord, ?_⟩
      rw [Option.toList_none, List.append_nil, ht]
  | some r =>
      have htorn : ∀ n, ∃ torn, (∀ x ∈ torn, Torn (args.origin s) x) ∧
          (if n = 0 then t else appendScored args.part? (.torn { r with
              n := ((getDump t args.part?).getD []).length } n) (args.origin t) t) =
            setDump (some (dumpedLines (args.origin s) records ++ torn)) s args.part? := by
        intro n
        split
        · exact hnone
        · rw [ht, origin_setDump, appendScored_setDump]
          refine ⟨[⟨.torn _ n, args.origin s⟩], fun x hx => ?_, rfl⟩
          rw [List.mem_singleton.mp hx]
          exact ⟨_, _, rfl⟩
      refine wp_write (fun _ n => htorn n) (fun n => htorn n) ⟨some r, hrecord, ?_⟩
      dsimp only
      rw [Option.toList_some, dumpedLines_concat, ht, origin_setDump, appendScored_setDump,
        getDump_setDump, Option.getD_some, length_dumpedLines]

theorem wp_runDump (args : DumpArgs) (s : DataDir) :
    wp (runDump args) (fun _ => Dumped args s) (fun _ => DumpExit args s) (DumpExit args s) s := by
  refine wp_bind (wp_read (fun _ => .inl rfl) (.inl rfl) fun plan hplan => ?_)
  refine wp_bind (wp_atomic (fun _ => .inl rfl) (.inl rfl) ?_)
  -- the file holds the records of the rows that are done
  refine wp_mono (wp_forEach (fun pre t => ∃ found, Scores args plan.1 s pre found ∧
      t = setDump (some (dumpedLines (args.origin s) found.reduceOption)) s args.part?) ?_
    ⟨[], .nil, rfl⟩) ?_ (fun _ _ h => h) (fun _ h => h)
  · rintro pre i post t hsplit ⟨found, hfound, ht⟩
    have hexit : ∀ t', (∃ torn, (∀ x ∈ torn, Torn (args.origin s) x) ∧
        t' = setDump (some (dumpedLines (args.origin s) found.reduceOption ++ torn)) s
          args.part?) → DumpExit args s t' := by
      rintro t' ⟨torn, htorn, ht'⟩
      exact .inr ⟨plan, pre, found, torn, hplan, ⟨i :: post, hsplit.symm⟩, hfound, htorn, ht'⟩
    refine wp_mono (wp_dumpRow ht) ?_ (fun _ => hexit) hexit
    rintro _ t' ⟨r, hr, ht'⟩
    refine ⟨found ++ [r], List.rel_append hfound (.cons hr .nil), ?_⟩
    rw [ht', List.reduceOption_append, List.reduceOption_singleton]
  · rintro _ t ⟨found, hfound, ht⟩
    exact ⟨plan, found, hplan, hfound, ht⟩

theorem finishes_dumpRow {args : DumpArgs} {rows : List SourceRow} {i : ℕ} {s : DataDir}
    {r : Option DumpRecord} (hr : rowRecord args rows s i = .ok r) (records : List DumpRecord) :
    Finishes (dumpRow args rows i)
      (setDump (some (dumpedLines (args.origin s) records)) s args.part?) ()
      (setDump (some (dumpedLines (args.origin s) (records ++ r.toList))) s args.part?) := by
  refine .bind (a := (r, args.origin s)) (finishes_read ?_) ?_
  · rw [rowRecord_setDump, hr, origin_setDump]
    rfl
  · cases r with
    | none =>
        rw [Option.toList_none, List.append_nil]
        exact finishes_pure () _
    | some r =>
        have h := finishes_write (ε := PyError) (fun t => appendScored args.part? (.record { r with
            n := ((getDump t args.part?).getD []).length }) (args.origin s) t)
          (fun k t => if k = 0 then t else appendScored args.part? (.torn { r with
            n := ((getDump t args.part?).getD []).length } k) (args.origin s) t)
          (setDump (some (dumpedLines (args.origin s) records)) s args.part?)
        rw [appendScored_setDump, getDump_setDump, Option.getD_some, length_dumpedLines,
          ← dumpedLines_concat] at h
        exact h

/-- A dump whose rows can be scored returns. -/
theorem finishes_runDump {args : DumpArgs} {s : DataDir} {plan : List SourceRow × List ℕ}
    {found : List (Option DumpRecord)} (hplan : dumpPlan args s = .ok plan)
    (hfound : Scores args plan.1 s plan.2 found) :
    Finishes (runDump args) s ()
      (setDump (some (dumpedLines (args.origin s) found.reduceOption)) s args.part?) := by
  obtain ⟨rows, targets⟩ := plan
  refine (finishes_read hplan).bind ((finishes_atomic _ s).bind ?_)
  have hloop : ∀ records, Finishes (forEach targets (dumpRow args rows))
      (setDump (some (dumpedLines (args.origin s) records)) s args.part?) ()
      (setDump (some (dumpedLines (args.origin s) (records ++ found.reduceOption))) s
        args.part?) := by
    change Scores args rows s targets found at hfound
    clear hplan
    induction hfound with
    | nil =>
        intro records
        rw [List.reduceOption_nil, List.append_nil]
        exact finishes_pure () _
    | @cons i r is found hr _ ih =>
        intro records
        have hrest := ih (records ++ r.toList)
        have hcons : records ++ (r :: found).reduceOption =
            records ++ r.toList ++ found.reduceOption := by
          cases r with
          | none => rw [List.reduceOption_cons_of_none, Option.toList_none, List.append_nil]
          | some r =>
              rw [List.reduceOption_cons_of_some, Option.toList_some, List.append_assoc]
              rfl
        rw [hcons]
        exact (finishes_dumpRow hr records).bind hrest
  exact hloop []

/-! ## Sources -/

/-- The row and the origin of each record of a dump file. -/
def lineSources (lines : List Scored) : List (ℕ × Origin) :=
  lines.filterMap fun x => match x.line with
    | .record r => some (r.idx, x.origin)
    | _ => none

theorem lineSources_append (xs ys : List Scored) :
    lineSources (xs ++ ys) = lineSources xs ++ lineSources ys := List.filterMap_append ..

theorem lineSources_dumpedLines (origin : Origin) (records : List DumpRecord) :
    lineSources (dumpedLines origin records) = records.map fun r => (r.idx, origin) := by
  induction records using List.reverseRecOn with
  | nil => rfl
  | append_singleton records r ih =>
      rw [dumpedLines_concat, lineSources_append, ih, List.map_append]
      rfl

theorem lineSources_torn {origin : Origin} {torn : List Scored}
    (h : ∀ x ∈ torn, Torn origin x) : lineSources torn = [] := by
  unfold lineSources
  rw [List.filterMap_eq_nil_iff]
  intro x hx
  obtain ⟨r, n, rfl⟩ := h x hx
  rfl

/-- A record carries the index of its row. -/
theorem rowRecord_idx {args : DumpArgs} {rows : List SourceRow} {s : DataDir} {i : ℕ}
    {r : DumpRecord} (h : rowRecord args rows s i = .ok (some r)) : r.idx = i := by
  obtain ⟨row, _, h⟩ := except_bind_ok.mp h
  unfold scoreRow at h
  obtain ⟨question, _, h⟩ := except_bind_ok.mp h
  obtain ⟨answer, _, h⟩ := except_bind_ok.mp h
  split at h
  · cases h
  · obtain ⟨views, _, h⟩ := except_bind_ok.mp h
    obtain ⟨student, _, h⟩ := except_bind_ok.mp h
    obtain ⟨pos, _, h⟩ := except_bind_ok.mp h
    obtain ⟨neg, _, h⟩ := except_bind_ok.mp h
    cases h
    rfl

/-- The rows that have a record, in their order. -/
theorem Scores.sublist {args : DumpArgs} {rows : List SourceRow} {s : DataDir} {pre : List ℕ}
    {found : List (Option DumpRecord)} (h : Scores args rows s pre found) :
    (found.reduceOption.map (·.idx)).Sublist pre := by
  induction h with
  | nil => exact .slnil
  | @cons i r pre found hr _ ih =>
      cases r with
      | none => exact ih.cons i
      | some r =>
          rw [List.reduceOption_cons_of_some, List.map_cons, rowRecord_idx hr]
          exact ih.cons_cons i

theorem lineSources_scoredLines (records : List (DumpRecord × Origin)) :
    lineSources (scoredLines records) = records.map fun r => (r.1.idx, r.2) := by
  unfold lineSources scoredLines
  rw [List.filterMap_map]
  exact congrFun (List.filterMap_eq_map' (f := fun r : DumpRecord × Origin => (r.1.idx, r.2))) _

/-! ## Merging -/

theorem lineSources_of_partRecords {lines : List Scored} {records : List (DumpRecord × Origin)}
    (h : partRecords lines = .ok records) :
    records.map (fun r => (r.1.idx, r.2)) = lineSources lines := by
  induction lines generalizing records with
  | nil =>
      cases h
      rfl
  | cons x lines ih =>
      obtain ⟨line, origin⟩ := x
      cases line with
      | blank => exact ih h
      | torn r n => cases h
      | record r =>
          obtain ⟨record, hrecord, h⟩ := except_bind_ok.mp h
          obtain ⟨rest, hrest, h⟩ := except_bind_ok.mp h
          cases hrecord
          cases h
          rw [List.map_cons, ih hrest]
          rfl

/-- The records of the parts, one part after the other. -/
theorem readParts_eq_ok {s : DataDir} {ks : List ℕ} {records : List (DumpRecord × Origin)}
    (h : readParts s ks = .ok records) :
    records.map (fun r => (r.1.idx, r.2)) =
      ks.flatMap fun k => lineSources ((s.part k).getD []) := by
  induction ks generalizing records with
  | nil =>
      cases h
      rfl
  | cons k ks ih =>
      obtain ⟨lines, hlines, h⟩ := except_bind_ok.mp h
      obtain ⟨here, hhere, h⟩ := except_bind_ok.mp h
      obtain ⟨rest, hrest, h⟩ := except_bind_ok.mp h
      cases h
      cases hpart : s.part k with
      | none =>
          rw [hpart] at hlines
          cases hlines
      | some part =>
          rw [hpart] at hlines
          cases hlines
          rw [List.map_append, lineSources_of_partRecords hhere, ih hrest, List.flatMap_cons, hpart]
          rfl

theorem mergeDumpRecords_sources (records : List (DumpRecord × Origin)) :
    ((mergeDumpRecords records).map fun r => (r.1.idx, r.2)).Perm
      (records.map fun r => (r.1.idx, r.2)) := by
  have hidx : (mergeDumpRecords records).map (fun r => (r.1.idx, r.2)) =
      (records.mergeSort fun a b => decide (a.1.idx ≤ b.1.idx)).map fun r => (r.1.idx, r.2) := by
    unfold mergeDumpRecords
    refine List.ext_getElem? fun i => ?_
    rw [List.getElem?_map, List.getElem?_mapIdx, List.getElem?_map, Option.map_map]
    rfl
  rw [hidx]
  exact (List.mergeSort_perm ..).map _

/-- Everything a launch or a dump reads is that of `s`, except that parts may be gone. -/
structure Aside (s t : DataDir) : Prop where
  root : t.root = s.root
  view : t.view = s.view
  manifest : t.manifest = s.manifest
  parquet : t.parquet = s.parquet
  priors : t.priors = s.priors
  generation : t.generation = s.generation
  part : ∀ k, t.part k = s.part k ∨ t.part k = none

theorem Aside.refl (s : DataDir) : Aside s s := ⟨rfl, rfl, rfl, rfl, rfl, rfl, fun _ => .inl rfl⟩

/-- One more part is gone. -/
theorem update_none {α : Type} {f g : ℕ → Option α} (h : ∀ k, g k = f k ∨ g k = none) (k j : ℕ) :
    Function.update g k none j = f j ∨ Function.update g k none j = none := by
  by_cases hj : j = k
  · subst hj
    exact .inr (Function.update_self ..)
  · rw [Function.update_of_ne hj]
    exact h j

theorem Aside.dropPart {s t : DataDir} (h : Aside s t) (k : ℕ) :
    Aside s { t with part := Function.update t.part k none } :=
  ⟨h.root, h.view, h.manifest, h.parquet, h.priors, h.generation, update_none h.part k⟩

/-- The dump in place holds these records. -/
def DumpOf (records : List (DumpRecord × Origin)) (t : DataDir) : Prop :=
  t.dump = some (scoredLines (mergeDumpRecords records))

theorem wp_mergeShards (n : ℕ) (s : DataDir) :
    wp (mergeShards n)
      (fun _ t => ∃ records, readParts s (List.range n) = .ok records ∧ Aside s t ∧
        DumpOf records t)
      (fun _ => Aside s) (Aside s) s := by
  have h0 := Aside.refl s
  refine wp_bind (wp_read (fun _ => h0) h0 fun records hrecords => ?_)
  refine wp_bind (wp_atomic (fun _ => h0) h0 ?_)
  refine wp_bind (wp_atomic (fun _ => h0) h0 ?_)
  refine wp_bind (wp_mono (wp_forEach (fun _ t => Aside s t ∧ DumpOf records t) ?_
    ⟨⟨rfl, rfl, rfl, rfl, rfl, rfl, fun _ => .inl rfl⟩, rfl⟩) ?_ (fun _ _ h => h) (fun _ h => h))
  · rintro _ k _ t _ ⟨ht, hdump⟩
    exact wp_atomic (fun _ => ht) ht ⟨ht.dropPart k, hdump⟩
  · rintro _ t ⟨ht, hdump⟩
    exact wp_atomic (fun _ => ht) ht ⟨records, hrecords,
      ⟨ht.root, ht.view, ht.manifest, ht.parquet, ht.priors, ht.generation, ht.part⟩, hdump⟩

/-- A merge that can read its parts returns. -/
theorem finishes_mergeShards {n : ℕ} {s : DataDir} {records : List (DumpRecord × Origin)}
    (h : readParts s (List.range n) = .ok records) :
    ∃ t, Finishes (mergeShards n) s () t ∧ Aside s t ∧ DumpOf records t := by
  have hround : ∀ k ∈ List.range n, ∀ s : DataDir, Finishes (ε := PyError)
      (atomic fun s => { s with part := Function.update s.part k none }) s ()
      { s with part := Function.update s.part k none } := fun k _ s => finishes_atomic _ s
  have hloop := fun s : DataDir => finishes_forEach hround s
  have hfirst := finishes_read (g := fun s => readParts s (List.range n)) h
  have hfinish : Finishes (mergeShards n) s () _ :=
    hfirst.bind ((finishes_atomic id s).bind ((finishes_atomic _ _).bind
      ((hloop _).bind (finishes_atomic _ _))))
  obtain ⟨records', hrecords', haside, hdump⟩ := hfinish.post (wp_mergeShards n s)
  rw [h] at hrecords'
  cases hrecords'
  exact ⟨_, hfinish, haside, hdump⟩

/-! ## run_priors -/

/-- `t` is `s` with the priors of its dump. -/
def Published (sha256 : Digest) (world : World) (args : PrepareArgs) (revision : Option String)
    (tok : Tokenizer) (s t : DataDir) : Prop :=
  ∃ file, priorsFile sha256 world args revision tok s = .ok file ∧
    Tempered { s with priors := some file } t

theorem wp_runPriors (sha256 : Digest) (world : World) (args : PrepareArgs)
    (revision : Option String) (tok : Tokenizer) (s : DataDir) :
    wp (runPriors sha256 world args revision tok)
      (fun _ => Published sha256 world args revision tok s)
      (fun _ t => Tempered s t ∨ Published sha256 world args revision tok s t)
      (fun t => Tempered s t ∨ Published sha256 world args revision tok s t) s := by
  have h0 : Tempered s s ∨ Published sha256 world args revision tok s s := .inl (.refl s)
  refine wp_bind (wp_read (fun _ => h0) h0 fun file hfile => ?_)
  have htemp : Tempered s { s with temp := true } := ⟨true, rfl⟩
  refine wp_tryFinally_removeTemp (fun _ h => .inr h) ?_ ?_ ?_
  · rintro t ⟨file, hfile, ht⟩
    exact ⟨file, hfile, ht.remove⟩
  · rintro t (h | ⟨file, hfile, ht⟩)
    · exact .inl h.remove
    · exact .inr ⟨file, hfile, ht.remove⟩
  · refine wp_bind (wp_atomic (fun _ => h0) h0 ?_)
    refine wp_bind (wp_atomic (fun _ => .inl htemp) (.inl htemp) ?_)
    exact wp_atomic (fun _ => .inl htemp) (.inl htemp) ⟨file, hfile, false, rfl⟩

/-- The meta block names the command that ran, not where the records come from. -/
structure MetaOf (sha256 : Digest) (world : World) (args : PrepareArgs)
    (revision : Option String) (tok : Tokenizer) (s : DataDir) (count : ℕ) (info : PriorsMeta) :
    Prop where
  nSamples : info.nSamples = some count
  modelPath : info.modelPath = some args.modelPath
  modelRevision : info.modelRevision = revision
  tokenizer : info.tokenizerSha256 = some (tokenizerFingerprint sha256 tok)
  template : (args.chatTemplate = "" ∧ info.chatTemplateSha256 = none) ∨
    ∃ text, args.templateText world = some text ∧
      info.chatTemplateSha256 = some (sha256 (.template text))
  manifest : ∃ m, s.manifest = some m ∧
    info.generationResultsSha256 = some (sha256 (.manifest m))
  parquet : ∃ p, s.parquet = some p ∧
    info.trainParquetSha256 = some (sha256 (.parquet p.content))

/-- Every line that is read is a record. -/
theorem mapM_loads_sources {lines : List Scored} {records : List (DumpRecord × Origin)}
    (h : (lines.mapM fun scored => do
      let record ← loadsDumpLine scored.line
      return (record, scored.origin)) = .ok records) :
    records.map (fun r => (r.1.idx, r.2)) = lineSources lines := by
  induction lines generalizing records with
  | nil =>
      cases h
      rfl
  | cons x lines ih =>
      obtain ⟨line, origin⟩ := x
      rw [List.mapM_cons] at h
      obtain ⟨here, hhere, h⟩ := except_bind_ok.mp h
      obtain ⟨rest, hrest, h⟩ := except_bind_ok.mp h
      obtain ⟨record, hrecord, hhere⟩ := except_bind_ok.mp hhere
      cases h
      cases hhere
      cases line with
      | record r =>
          cases hrecord
          rw [List.map_cons, ih hrest]
          rfl
      | blank => cases hrecord
      | torn r n => cases hrecord

theorem readDump_eq_ok {s : DataDir} {records : List (DumpRecord × Origin)}
    (h : readDump s = .ok records) :
    ∃ lines, s.dump = some lines ∧
      records.map (fun r => (r.1.idx, r.2)) = lineSources lines := by
  obtain ⟨lines, hlines, h⟩ := except_bind_ok.mp h
  exact ⟨lines, openFile_eq_ok.mp hlines, mapM_loads_sources h⟩

/-- The source of the priors is the dump in place, record by record. -/
theorem priorsFile_eq_ok {sha256 : Digest} {world : World} {args : PrepareArgs}
    {revision : Option String} {tok : Tokenizer} {s : DataDir} {file : PriorsFile}
    (h : priorsFile sha256 world args revision tok s = .ok file) :
    ∃ lines blob, s.dump = some lines ∧ file.source = lineSources lines ∧
      file.content = .complete blob ∧
      MetaOf sha256 world args revision tok s file.source.length blob.info := by
  obtain ⟨records, hrecords, h⟩ := except_bind_ok.mp h
  obtain ⟨blob, hblob, h⟩ := except_bind_ok.mp h
  obtain ⟨lines, hlines, hsource⟩ := readDump_eq_ok hrecords
  cases h
  refine ⟨lines, blob, hlines, hsource, rfl, ?_⟩
  obtain ⟨tables, _, hblob⟩ := except_bind_ok.mp hblob
  obtain ⟨template, htemplate, hblob⟩ := except_bind_ok.mp hblob
  obtain ⟨manifest, hmanifest, hblob⟩ := except_bind_ok.mp hblob
  obtain ⟨parquet, hparquet, hblob⟩ := except_bind_ok.mp hblob
  cases hblob
  refine ⟨by rw [List.length_map, List.length_map], rfl, rfl, rfl, ?_,
    ⟨manifest, openFile_eq_ok.mp hmanifest, rfl⟩, ⟨parquet, openFile_eq_ok.mp hparquet, rfl⟩⟩
  unfold templateHash at htemplate
  split at htemplate
  · rename_i hempty
    cases htemplate
    exact .inl ⟨hempty, rfl⟩
  · obtain ⟨text, htext, htemplate⟩ := except_bind_ok.mp htemplate
    cases htemplate
    exact .inr ⟨text, openFile_eq_ok.mp htext, rfl⟩

/-! ## When run_priors returns -/

/-- No batch is empty. -/
theorem batches_ne_nil {α : Type} {recs batch : List α} (h : batch ∈ batches recs) :
    batch ≠ [] ∧ ∀ x ∈ batch, x ∈ recs := by
  obtain ⟨b, hb, rfl⟩ := List.mem_map.mp h
  have hlt : b * batchSize < recs.length := by
    have hb' := List.mem_range.mp hb
    have h16 : batchSize = 16 := rfl
    rw [h16] at hb' ⊢
    omega
  refine ⟨?_, fun x hx => List.mem_of_mem_drop (List.mem_of_mem_take hx)⟩
  rw [ne_eq, List.take_eq_nil_iff, List.drop_eq_nil_iff, not_or]
  exact ⟨by decide, by omega⟩

/-- Stage 2 returns on records with tokens. -/
theorem frozenTables_ok (percentile : List ℚ → ℕ → ℚ) (tok : Tokenizer)
    {records : List DumpRecord} (hne : records ≠ []) (htokens : ∀ r ∈ records, r.tokens ≠ []) :
    ∃ tables, frozenTables percentile tok records = .ok tables := by
  have hbatch : ∀ batch ∈ batches (records.map signals), ∃ flags,
      selectBatch percentile batch = .ok flags := by
    intro batch hbatch
    obtain ⟨hne, hmem⟩ := batches_ne_nil hbatch
    have hflat : batch.flatten ≠ [] := by
      obtain ⟨ts, hts⟩ := List.exists_mem_of_ne_nil batch hne
      obtain ⟨r, hr, rfl⟩ := List.mem_map.mp (hmem ts hts)
      intro hnil
      have hsignals := List.flatten_eq_nil_iff.mp hnil _ hts
      exact htokens r hr (List.map_eq_nil_iff.mp hsignals)
    unfold selectBatch
    dsimp only
    rw [if_neg hflat]
    exact ⟨_, rfl⟩
  obtain ⟨flagged, hflagged⟩ := mapM_exists hbatch
  unfold frozenTables
  dsimp only
  rw [if_neg (by rwa [ne_eq, List.map_eq_nil_iff] at *), hflagged]
  exact ⟨_, rfl⟩

theorem readDump_scoredLines {s : DataDir} {records : List (DumpRecord × Origin)}
    (h : s.dump = some (scoredLines records)) : readDump s = .ok records := by
  refine except_bind_ok.mpr ⟨_, openFile_eq_ok.mpr h, ?_⟩
  clear h
  induction records with
  | nil => rfl
  | cons r records ih =>
      unfold scoredLines at ih ⊢
      rw [List.map_cons, List.mapM_cons]
      exact except_bind_ok.mpr ⟨r, rfl, except_bind_ok.mpr ⟨records, ih, rfl⟩⟩

theorem priorsFile_ok (sha256 : Digest) (world : World) (args : PrepareArgs)
    (revision : Option String) (tok : Tokenizer) {s : DataDir}
    {records : List (DumpRecord × Origin)} {text : String} {m : Doc (List ResultRecord)}
    {p : ParquetFile} (hdump : readDump s = .ok records) (hne : records ≠ [])
    (htokens : ∀ r ∈ records, r.1.tokens ≠ []) (htext : args.templateText world = some text)
    (hm : s.manifest = some m) (hp : s.parquet = some p) :
    ∃ file, priorsFile sha256 world args revision tok s = .ok file := by
  obtain ⟨tables, htables⟩ := frozenTables_ok world.percentile tok
    (show records.map (·.1) ≠ [] by rwa [ne_eq, List.map_eq_nil_iff]) (by
      intro r hr
      obtain ⟨x, hx, rfl⟩ := List.mem_map.mp hr
      exact htokens x hx)
  have htemplate : templateHash sha256 world args = .ok (some (sha256 (.template text))) := by
    unfold templateHash
    rw [if_neg, htext]
    · rfl
    · intro hempty
      unfold PrepareArgs.templateText at htext
      rw [if_pos hempty] at htext
      cases htext
  have hblob : ∃ blob, priorsOf sha256 world args revision tok (records.map (·.1)) s =
      .ok blob := by
    unfold priorsOf
    rw [htables, htemplate, hm, hp]
    exact ⟨_, rfl⟩
  obtain ⟨blob, hblob⟩ := hblob
  unfold priorsFile
  rw [hdump]
  exact ⟨_, except_bind_ok.mpr ⟨records, rfl, except_bind_ok.mpr ⟨blob, hblob, rfl⟩⟩⟩

theorem finishes_runPriors {sha256 : Digest} {world : World} {args : PrepareArgs}
    {revision : Option String} {tok : Tokenizer} {s : DataDir} {file : PriorsFile}
    (h : priorsFile sha256 world args revision tok s = .ok file) :
    Finishes (runPriors sha256 world args revision tok) s ()
      { s with temp := false, priors := some file } :=
  (finishes_read h).bind (.tryFinally ((finishes_atomic _ s).bind ((finishes_atomic id _).bind
    (finishes_atomic _ _))) (finishes_atomic _ _))

end LookAway.Priors
