/-
  Every row keeps its identity from its source to the training file and the dump.

  Three scripts recompute the mapping from rows to files: the workers name negatives by the row
  index, convert_to_parquet and run_dump count lines, the importer names student and positive
  images by sample_id and negatives by the new index. `row_identity`: they agree.
-/
import LookAway.Data.Copies
import LookAway.Data.Digest
import LookAway.Data.Generations
import LookAway.Data.ImportSafety
import LookAway.Data.Progress
import LookAway.Data.Scheduling
import LookAway.Priors.Dataset
import LookAway.Priors.Runs

namespace LookAway.Priors

open LookAway.Base LookAway.Base.Script LookAway.Data

/-! ## One row -/

/-- The record is that of `row`, scored under these views. -/
def ScoredFrom (args : DumpArgs) (s : DataDir) (row : SourceRow) (views : Views) (r : DumpRecord) :
    Prop :=
  r.gt = row.answer.getD "" ∧ ∃ question answer student pos neg,
    row.problem = some question ∧ rollout args s row question = .ok answer ∧
    scoreView args s views.student question answer r.idx "student" = .ok student ∧
    scoreView args s views.pos question answer r.idx "pos" = .ok pos ∧
    scoreView args s views.neg question answer r.idx "neg" = .ok neg ∧
    r.tokens = (List.range answer.length).map fun j => {
      tok := args.tokenizer.tokenText (answer.getD j 0)
      lpS := round4 (student.getD j 0)
      dPlus := round4 (pos.getD j 0 - student.getD j 0)
      dMinus := round4 (neg.getD j 0 - student.getD j 0) }

/-- The manifest record and the training record of row `i`, and the images run_dump scores for
    it, are those of `row`. -/
structure SameRow (s : DataDir) (row : SourceRow) (i : ℕ) (result : ResultRecord)
    (record : TrainRecord) (views : Views) : Prop where
  index : result.idx = i
  found : rowViews s.root.1 row i = .ok views
  built : buildRecord row s.root.1 (some views.neg) = .ok record
  student : record.images = [views.student]
  positive : record.bboxImages = [views.pos]
  negative : record.negBboxImages = [views.neg]

/-- The jsonl, the manifest and the parquet have the same rows in the same order. -/
structure RowsMatch (s : DataDir) (rows : List SourceRow) (results : List ResultRecord)
    (records : List TrainRecord) : Prop where
  jsonl : s.jsonl = some (rows.map .row)
  manifest : s.manifest = some (.complete results)
  parquet : ∃ parquet, s.parquet = some parquet ∧ parquet.content = .complete records
  results_length : results.length = rows.length
  records_length : records.length = rows.length
  row : ∀ i row result record, rows[i]? = some row → results[i]? = some result →
    records[i]? = some record → ∃ views, SameRow s row i result record views

/-! ## The training records -/

theorem resolvePath_of_safe {root p q : Path} (h : safeDatasetPath root p = .ok q) :
    q = resolvePath root p := by
  unfold safeDatasetPath at h
  dsimp only at h
  split at h
  · exact (Except.ok.inj h).symm
  · cases h

/-- The images of a training record are the views run_dump scores. -/
theorem buildRecord_views {root : Path} {row : SourceRow} {i : ℕ} {record : TrainRecord}
    (h : buildRecord row root (some (negativePath root i)) = .ok record) :
    ∃ views, rowViews root row i = .ok views ∧ views.neg = negativePath root i ∧
      record.images = [views.student] ∧ record.bboxImages = [views.pos] ∧
      record.negBboxImages = [views.neg] := by
  obtain ⟨problem, _, h⟩ := except_bind_ok.mp h
  obtain ⟨image, himage, h⟩ := except_bind_ok.mp h
  obtain ⟨student, hstudent, h⟩ := except_bind_ok.mp h
  obtain ⟨teacher, hteacher, h⟩ := except_bind_ok.mp h
  obtain ⟨pos, hpos, h⟩ := except_bind_ok.mp h
  cases h
  refine ⟨⟨resolvePath root image, resolvePath root teacher, negativePath root i⟩,
    ?_, rfl, ?_, ?_, rfl⟩
  · exact except_bind_ok.mpr ⟨image, himage, except_bind_ok.mpr ⟨teacher, hteacher, rfl⟩⟩
  · rw [resolvePath_of_safe hstudent]
  · rw [resolvePath_of_safe hpos]

/-- Record `j` of the loop of convert_to_parquet comes from line `j`. -/
theorem buildRecords_getElem? {root : Path} {k : ℕ} {lines : List JsonlLine}
    {records : List TrainRecord} (h : buildRecords root k lines = .ok records) {j : ℕ}
    {line : JsonlLine} {record : TrainRecord} (hline : lines[j]? = some line)
    (hrecord : records[j]? = some record) :
    ∃ row, loadsLine line = .ok row ∧
      buildRecord row root (some (negativePath root (k + j))) = .ok record := by
  induction lines generalizing k records j with
  | nil => cases hline
  | cons head lines ih =>
      unfold buildRecords at h
      obtain ⟨item, hitem, h⟩ := except_bind_ok.mp h
      obtain ⟨built, hbuilt, h⟩ := except_bind_ok.mp h
      obtain ⟨rest, hrest, h⟩ := except_bind_ok.mp h
      cases h
      cases j with
      | zero =>
          cases hline
          cases hrecord
          exact ⟨item, hitem, hbuilt⟩
      | succ j =>
          rw [List.getElem?_cons_succ] at hline hrecord
          have hj := ih hrest hline hrecord
          rwa [show k + 1 + j = k + (j + 1) by omega] at hj

theorem sourceRows_map (rows : List SourceRow) :
    sourceRows (rows.map .row) = rows.map .row := by
  unfold sourceRows
  refine List.filter_eq_self.mpr fun line hline => ?_
  obtain ⟨row, _, rfl⟩ := List.mem_map.mp hline
  rfl

/-- The rows readRows reads are the lines. -/
theorem lines_of_readRows {s : DataDir} {rows : List SourceRow} (h : readRows s = .ok rows) :
    s.jsonl = some (rows.map .row) := by
  unfold readRows at h
  cases hlines : s.jsonl with
  | none =>
      rw [hlines] at h
      cases h
  | some lines =>
      rw [hlines] at h
      dsimp only at h
      clear hlines
      congr 1
      induction lines generalizing rows with
      | nil =>
          cases h
          rfl
      | cons line lines ih =>
          rw [List.mapM_cons] at h
          obtain ⟨row, hrow, h⟩ := except_bind_ok.mp h
          obtain ⟨rest, hrest, h⟩ := except_bind_ok.mp h
          cases h
          rw [List.map_cons, ← ih hrest]
          cases line with
          | row r =>
              cases hrow
              rfl
          | blank => cases hrow
          | malformed => cases hrow

/-- A conversion matches the rows of the jsonl with the results it is given. -/
theorem Converted.rowsMatch {rows : List SourceRow} {results : List ResultRecord} {s t : DataDir}
    (h : Converted results s t) (hjsonl : s.jsonl = some (rows.map .row))
    (hmanifest : s.manifest = some (.complete results)) :
    ∃ records, RowsMatch t rows results records := by
  obtain ⟨lines, records, hlines, hrecords, b, rfl⟩ := h
  rw [hjsonl] at hlines
  cases hlines
  unfold parquetRecords at hrecords
  rw [sourceRows_map] at hrecords
  split at hrecords
  · rename_i hcomplete
    have hlength := hcomplete.length_eq
    rw [List.length_map] at hlength
    have hrecords_length := buildRecords_length hrecords
    rw [List.length_map] at hrecords_length
    refine ⟨records, hjsonl, hmanifest, ⟨_, rfl, rfl⟩, hlength, hrecords_length, ?_⟩
    intro i row result record hrow hresult hrecord
    have hline : (rows.map JsonlLine.row)[i]? = some (.row row) := by
      rw [List.getElem?_map, hrow]
      rfl
    obtain ⟨row', hloads, hbuilt⟩ := buildRecords_getElem? hrecords hline hrecord
    cases hloads
    rw [Nat.zero_add] at hbuilt
    obtain ⟨views, hviews, hneg, hstudent, hpos, hnegative⟩ := buildRecord_views hbuilt
    refine ⟨views, ?_, hviews, hneg ▸ hbuilt, hstudent, hpos, hnegative⟩
    have hidx := congrArg (·[i]?) hcomplete.1
    simp only [List.getElem?_map, hresult, Option.map_some, List.length_map] at hidx
    have hi : i < rows.length := (List.getElem?_eq_some_iff.mp hrow).1
    rw [List.getElem?_range hi] at hidx
    exact Option.some.inj hidx
  · cases hrecords

theorem RowsMatch.sameSet {s t : DataDir} {rows : List SourceRow} {results : List ResultRecord}
    {records : List TrainRecord} (h : RowsMatch s rows results records) (hst : SameSet s t) :
    RowsMatch t rows results records where
  jsonl := (congrArg DatasetView.jsonl hst.view).trans h.jsonl
  manifest := hst.manifest.trans h.manifest
  parquet := hst.parquet ▸ h.parquet
  results_length := h.results_length
  records_length := h.records_length
  row i row result record hrow hresult hrecord := by
    obtain ⟨views, hviews⟩ := h.row i row result record hrow hresult hrecord
    refine ⟨views, hviews.index, ?_, ?_, hviews.student, hviews.positive, hviews.negative⟩
    · rw [hst.root]
      exact hviews.found
    · rw [hst.root]
      exact hviews.built

/-! ## The dump -/

theorem eq_some_of_require {α : Type} {key : String} {x : Option α} {a : α}
    (h : require key x = .ok a) : x = some a := by
  cases x with
  | none => cases h
  | some b => exact congrArg some (Except.ok.inj h)

theorem scoreRow_eq_some {args : DumpArgs} {s : DataDir} {row : SourceRow} {i : ℕ}
    {r : DumpRecord} (h : scoreRow args s row i = .ok (some r)) :
    r.idx = i ∧ ∃ views, rowViews s.root.1 row i = .ok views ∧ ScoredFrom args s row views r := by
  obtain ⟨question, hquestion, h⟩ := except_bind_ok.mp h
  obtain ⟨answer, hanswer, h⟩ := except_bind_ok.mp h
  split at h
  · cases h
  · obtain ⟨views, hviews, h⟩ := except_bind_ok.mp h
    obtain ⟨student, hstudent, h⟩ := except_bind_ok.mp h
    obtain ⟨pos, hpos, h⟩ := except_bind_ok.mp h
    obtain ⟨neg, hneg, h⟩ := except_bind_ok.mp h
    cases h
    exact ⟨rfl, views, hviews, rfl, question, answer, student, pos, neg,
      eq_some_of_require hquestion, hanswer, hstudent, hpos, hneg, rfl⟩

/-- Each record of the file scores the row with its index. -/
def DumpMatches (args : DumpArgs) (s : DataDir) (rows : List SourceRow) (lines : List Scored) :
    Prop :=
  ∀ x ∈ lines, ∀ r, x.line = .record r → ∃ row views, rows[r.idx]? = some row ∧
    rowViews s.root.1 row r.idx = .ok views ∧ ScoredFrom args s row views r

theorem rowRecord_eq_some {args : DumpArgs} {rows : List SourceRow} {s : DataDir} {i : ℕ}
    {r : DumpRecord} (h : rowRecord args rows s i = .ok (some r)) :
    r.idx = i ∧ ∃ row views, rows[i]? = some row ∧ rowViews s.root.1 row i = .ok views ∧
      ScoredFrom args s row views r := by
  obtain ⟨row, hrow, h⟩ := except_bind_ok.mp h
  obtain ⟨hidx, views, hviews, hscored⟩ := scoreRow_eq_some h
  refine ⟨hidx, row, views, ?_, hviews, hscored⟩
  cases hget : rows[i]? with
  | none =>
      rw [hget] at hrow
      cases hrow
  | some row' =>
      rw [hget] at hrow
      cases hrow
      rfl

theorem Scores.matches {args : DumpArgs} {rows : List SourceRow} {s : DataDir} {pre : List ℕ}
    {found : List (Option DumpRecord)} (h : Scores args rows s pre found) :
    DumpMatches args s rows (dumpedLines (args.origin s) found.reduceOption) := by
  intro x hx r hr
  unfold dumpedLines at hx
  obtain ⟨n, hn, rfl⟩ := List.mem_mapIdx.mp hx
  cases hr
  have hmem := List.getElem_mem hn
  generalize found.reduceOption[n] = record at hmem
  clear hx hn
  rw [List.reduceOption_mem_iff] at hmem
  unfold Scores at h
  induction h with
  | nil => cases hmem
  | @cons i result pre found hresult _ ih =>
      rcases List.mem_cons.mp hmem with rfl | hmem
      · obtain ⟨hidx, row, views, hrow, hviews, hscored⟩ := rowRecord_eq_some hresult
        subst hidx
        exact ⟨row, views, hrow, hviews, hscored⟩
      · exact ih hmem

/-- Whatever becomes of a run of run_dump, it has not touched the dump, or the records of the
    file score the rows with their indices. -/
theorem runDump_matches {rows : List SourceRow} {args : DumpArgs} {s : DataDir}
    (hrows : s.jsonl = some (rows.map .row)) (faults : List (Verdict PyError)) :
    ((runDump args).run faults s).state = s ∨
      DumpMatches args s rows
        ((getDump ((runDump args).run faults s).state args.part?).getD []) := by
  have hexit : ∀ t, DumpExit args s t →
      t = s ∨ DumpMatches args s rows ((getDump t args.part?).getD []) := by
    rintro t (rfl | ⟨plan, pre, found, torn, hplan, _, hfound, htorn, rfl⟩)
    · exact .inl rfl
    · refine .inr fun x hx r hr => ?_
      rw [getDump_setDump, Option.getD_some] at hx
      rcases List.mem_append.mp hx with hx | hx
      · obtain ⟨row, views, hrow, h⟩ := hfound.matches x hx r hr
        refine ⟨row, views, ?_, h⟩
        obtain ⟨allRows, _, hread, _, _, hplanned, _⟩ := dumpPlan_eq_ok hplan
        have hlines := lines_of_readRows hread
        rw [hrows] at hlines
        have hall : allRows = rows := by
          refine (List.map_injective_iff.mpr ?_ (Option.some.inj hlines)).symm
          intro a b hab
          cases hab
          rfl
        rw [hplanned, hall] at hrow
        split at hrow
        · rw [List.getElem?_take] at hrow
          split at hrow
          · exact hrow
          · cases hrow
        · exact hrow
      · obtain ⟨r', n, rfl⟩ := htorn x hx
        cases hr
  exact (wp_mono (wp_runDump args s) (fun _ t ht => hexit t ht.exit) (fun _ => hexit) hexit).state
    faults

/-! ## build_trainset -/

/-- The negative of row `i` has been rendered from the geometry of `row`, and the record says
    so: `image?` is what the worker saw. -/
def NegativeFrom {ρ : Type} (sha256 : Digest) (im : Imaging ρ) (image? : Path → Option Bytes)
    (s : DataDir) (row : SourceRow) (i : ℕ) (result : ResultRecord) : Prop :=
  ∃ r, renderNegative im s.root.1 image? row i = .ok r ∧
    reportNegative sha256 im image? r i (some r.bytes) = .ok result ∧
    s.openImage (negativePath s.root.1 i) = .ok r.bytes

/-- A finished build: the rows match, and each negative comes from its own row. The workers saw
    the images of the dataset. -/
structure BuiltRows {ρ : Type} (sha256 : Digest) (im : Imaging ρ) (s : DataDir)
    (rows : List SourceRow) (results : List ResultRecord) (records : List TrainRecord) : Prop where
  aligned : RowsMatch s rows results records
  negatives : ∃ image? : Path → Option Bytes,
    (∀ path, path.dropLast ≠ s.root.1 ++ ["teacher_neg"] → image? path = s.files path) ∧
    ∀ i row result, rows[i]? = some row → results[i]? = some result →
      NegativeFrom sha256 im image? s row i result

section Build

variable {ρ : Type} {sha256 : Digest} {im : Imaging ρ}

theorem GeneratedFrom.negatives {image? : Path → Option Bytes} {rows : List SourceRow}
    {t : DataDir} (h : GeneratedFrom sha256 im image? rows t) {i : ℕ} {row : SourceRow}
    {result : ResultRecord} (hrow : rows[i]? = some row)
    (hresult : (negativeResults sha256 im t.root.1 image? rows)[i]? = some result) :
    NegativeFrom sha256 im image? t row i result := by
  obtain ⟨hi, rfl⟩ := List.getElem?_eq_some_iff.mp hrow
  have hrange : (List.range rows.length)[i]? = some i := List.getElem?_range hi
  unfold negativeResults at hresult
  rw [List.getElem?_map, hrange] at hresult
  cases hresult
  exact h.rendered hi

/-- What a conversion keeps. -/
theorem Converted.same {results : List ResultRecord} {s t : DataDir} (h : Converted results s t) :
    t.root = s.root ∧ t.files = s.files ∧ t.teacherNeg = s.teacherNeg := by
  obtain ⟨_, _, _, _, b, rfl⟩ := h
  exact ⟨rfl, rfl, rfl⟩

theorem openImage_congr {s t : DataDir} (hroot : t.root = s.root) (hfiles : t.files = s.files)
    (hneg : t.teacherNeg = s.teacherNeg) (path : Path) : t.openImage path = s.openImage path := by
  unfold DataDir.openImage DataDir.image?
  rw [hroot, hfiles, hneg]

theorem openImage_sameSet {s t : DataDir} (h : SameSet s t) (path : Path) :
    t.openImage path = s.openImage path :=
  openImage_congr h.root (congrArg DatasetView.files h.view)
    (congrArg DatasetView.teacherNeg h.view)
    path

theorem BuiltRows.sameSet {s t : DataDir} {rows : List SourceRow} {results : List ResultRecord}
    {records : List TrainRecord} (h : BuiltRows sha256 im s rows results records)
    (hst : SameSet s t) : BuiltRows sha256 im t rows results records := by
  obtain ⟨image?, hsame, hneg⟩ := h.negatives
  refine ⟨h.aligned.sameSet hst, image?, ?_, fun i row result hrow hresult => ?_⟩
  · have hfiles : t.files = s.files := congrArg DatasetView.files hst.view
    rw [hst.root, hfiles]
    exact hsame
  · obtain ⟨r, hrender, hreport, hopen⟩ := hneg i row result hrow hresult
    refine ⟨r, ?_, hreport, ?_⟩
    · rw [hst.root]
      exact hrender
    · rw [openImage_sameSet hst, hst.root]
      exact hopen

/-- A run of build_trainset that returns keeps every row apart from the others. -/
theorem wp_build_rows (hub : Hub) (pool : PoolRun) (args : BuildArgs) (s : DataDir)
    (hpool : Scheduled sha256 im s.root.1 pool) :
    wp (buildTrainsetMain hub pool args)
      (fun _ t => ∃ rows results records, BuiltRows sha256 im t rows results records)
      (fun _ _ => True) (fun _ => True) s := by
  refine wp_bind (wp_mono (keeps_root_downloadStage hub args s.root s rfl) ?_
    (fun _ _ _ => trivial) fun _ _ => trivial)
  intro _ s₁ hroot
  refine wp_bind (wp_mono (wp_generateNegativeViews s₁ (hroot ▸ hpool)) ?_
    (fun _ _ _ => trivial) fun _ _ => trivial)
  rintro out s₂ ⟨rows, _, rfl, _, hgenerated⟩
  refine wp_bind (wp_mono (wp_convertToParquet _ s₂) ?_ (fun _ _ _ => trivial) fun _ _ => trivial)
  intro _ s₃ hconverted
  obtain ⟨records, hrows⟩ := Converted.rowsMatch hconverted (lines_of_readRows hgenerated.jsonl)
    hgenerated.manifest
  obtain ⟨hroot', hfiles, hneg⟩ := Converted.same hconverted
  have hbuilt : BuiltRows sha256 im s₃ rows
      (negativeResults sha256 im s₂.root.1 s₁.image? rows) records := by
    refine ⟨hrows, s₁.image?, ?_, ?_⟩
    · rw [hroot', hfiles]
      exact hgenerated.unchanged
    · intro i row result hrow hresult
      obtain ⟨r, hrender, hreport, hopen⟩ := GeneratedFrom.negatives hgenerated hrow hresult
      refine ⟨r, ?_, hreport, ?_⟩
      · rw [hroot']
        exact hrender
      · rw [openImage_congr hroot' hfiles hneg, hroot']
        exact hopen
  refine wp_bind (wp_atomic (fun _ => trivial) trivial (wp_atomic (fun _ => trivial) trivial ?_))
  exact ⟨rows, _, records, hbuilt.sameSet ⟨rfl, rfl, rfl, rfl⟩⟩

end Build

/-! ## import_crop_release -/

/-- The images of the views are those of the release sample. -/
structure ImagesFrom (args : ImportArgs) (s : DataDir) (row : ReleaseRow) (views : Views) :
    Prop where
  student : ∃ b, args.sourceImages ["student", imageName row.sampleId] = some b ∧
    s.openImage views.student = .ok b
  positive : ∃ b, args.sourceImages ["teacher_pos", imageName row.sampleId] = some b ∧
    s.openImage views.pos = .ok b
  negative : ∃ b, args.sourceImages ["teacher_neg", imageName row.sampleId] = some b ∧
    s.openImage views.neg = .ok b

/-- A finished import: the rows match, and line `i`, record `i` and the three images of row `i`
    are those of sample `i` of the kept rows. -/
structure ImportedRows (args : ImportArgs) (s : DataDir) (rows : List ReleaseRow)
    (records : List TrainRecord) : Prop where
  aligned : RowsMatch s (rows.map makeJsonlRow) (importResults rows) records
  row : ∀ i row, rows[i]? = some row → (rows.map makeJsonlRow)[i]? = some (makeJsonlRow row) ∧
    (importResults rows)[i]? = some (makeResultRow row i) ∧
    ∃ views, rowViews s.root.1 (makeJsonlRow row) i = .ok views ∧ ImagesFrom args s row views

section Import

variable {args : ImportArgs} {sha256 : Digest}

theorem ImportedRows.sameSet {s t : DataDir} {rows : List ReleaseRow} {records : List TrainRecord}
    (h : ImportedRows args s rows records) (hst : SameSet s t) :
    ImportedRows args t rows records := by
  refine ⟨h.aligned.sameSet hst, fun i row hrow => ?_⟩
  obtain ⟨hline, hresult, views, hviews, himages⟩ := h.row i row hrow
  refine ⟨hline, hresult, views, hst.root ▸ hviews, ?_, ?_, ?_⟩
  · rw [openImage_sameSet hst]
    exact himages.student
  · rw [openImage_sameSet hst]
    exact himages.positive
  · rw [openImage_sameSet hst]
    exact himages.negative

theorem importResults_getElem? {rows : List ReleaseRow} {i : ℕ} {row : ReleaseRow}
    (h : rows[i]? = some row) : (importResults rows)[i]? = some (makeResultRow row i) := by
  unfold importResults
  rw [List.getElem?_map, List.getElem?_zipIdx, h, Nat.zero_add]
  rfl

/-- A name inside an image directory resolves to the file there. -/
theorem resolvePath_image (root : RootPath) (dir : ImageDir) (n : ℤ) :
    resolvePath root.1 [dir.name, imageName n] = root.1 ++ [dir.name, imageName n] := by
  have hdir : PlainComponent dir.name := by
    cases dir <;> exact ⟨by decide, by decide, by decide⟩
  have hplain : ∀ c ∈ [dir.name, imageName n], PlainComponent c := by
    intro c hc
    rcases List.mem_cons.mp hc with rfl | hc
    · exact hdir
    · rw [List.mem_singleton.mp hc]
      exact imageName_plain n
  have hhead : [dir.name, imageName n].head? ≠ some "" := fun h => hdir.1 (Option.some.inj h)
  unfold resolvePath
  rw [if_neg hhead, normpath_append hplain, root.2]

theorem openImage_image {s : DataDir} {dir : ImageDir} {n : ℤ} {b : Bytes}
    (h : (Destination.image dir (imageName n)).get s = some b) :
    s.openImage (s.root.1 ++ [dir.name, imageName n]) = .ok b := by
  have hdir : (s.root.1 ++ [dir.name, imageName n]).dropLast ≠ s.root.1 ++ ["teacher_neg"] := by
    rw [List.dropLast_append_of_ne_nil (List.cons_ne_nil _ _)]
    intro heq
    have hname : dir.name = "teacher_neg" := List.head_eq_of_cons_eq (List.append_cancel_left heq)
    cases dir <;> exact absurd hname (by decide)
  have himage : s.image? (s.root.1 ++ [dir.name, imageName n]) = some b := (if_neg hdir).trans h
  unfold DataDir.openImage
  rw [himage]

theorem openImage_negative {s : DataDir} {i : ℕ} {b : Bytes}
    (h : (Destination.negative (imageName i)).get s = some b) :
    s.openImage (negativePath s.root.1 i) = .ok b := by
  have himage : s.image? (negativePath s.root.1 i) = some b := (image?_negativePath s i).trans h
  unfold DataDir.openImage
  rw [himage]

/-- A copied row has the images of its sample. -/
theorem imagesFrom_copies {s : DataDir} {row : ReleaseRow} {i : ℕ}
    (h : ∀ p ∈ copies (row, i), Copied args s p) :
    ∃ views, rowViews s.root.1 (makeJsonlRow row) i = .ok views ∧ ImagesFrom args s row views := by
  simp only [copies, List.forall_mem_cons, List.not_mem_nil, false_imp_iff, implies_true,
    and_true] at h
  obtain ⟨⟨b, hb, hstudent⟩, ⟨c, hc, hpos⟩, ⟨d, hd, hneg⟩⟩ := h
  refine ⟨_, rfl, ⟨b, hb, ?_⟩, ⟨c, hc, ?_⟩, ⟨d, hd, openImage_negative hneg⟩⟩
  · exact (congrArg s.openImage (resolvePath_image s.root .images row.sampleId)).trans
      (openImage_image hstudent)
  · exact (congrArg s.openImage (resolvePath_image s.root .teacherImages row.sampleId)).trans
      (openImage_image hpos)

/-- A run of the importer that returns keeps every sample apart from the others. -/
theorem wp_import_rows (args : ImportArgs) (s : DataDir) :
    wp (importMain sha256 args)
      (fun _ t => ∃ rows records, keptRows args = .ok rows ∧ ImportedRows args t rows records)
      (fun _ _ => True) (fun _ => True) s := by
  refine wp_bind (wp_read (fun _ => trivial) trivial ?_)
  intro rows hrows
  refine wp_bind (wp_atomic (fun _ => trivial) trivial ?_)
  refine wp_bind (wp_mono (wp_importRows (s := s)) ?_ (fun _ _ _ => trivial) fun _ _ => trivial)
  rintro _ t ⟨_, hjsonl, _, hcopied⟩
  refine wp_bind (wp_atomic (fun _ => trivial) trivial ?_)
  refine wp_bind (wp_write (fun _ _ => trivial) (fun _ => trivial) ?_)
  refine wp_mono (wp_convertToParquet _ _) ?_ (fun _ _ _ => trivial) fun _ _ => trivial
  intro _ u hconverted
  have hlines : t.jsonl = some ((rows.map makeJsonlRow).map .row) := by
    rw [hjsonl, List.map_map]
    rfl
  obtain ⟨records, haligned⟩ := Converted.rowsMatch hconverted hlines rfl
  obtain ⟨hroot, hfiles, hneg⟩ := Converted.same hconverted
  refine ⟨rows, records, hrows, haligned, fun i row hrow => ⟨?_, importResults_getElem? hrow, ?_⟩⟩
  · rw [List.getElem?_map, hrow]
    rfl
  · refine imagesFrom_copies fun p hp => ?_
    have hmem : (row, i) ∈ rows.zipIdx := List.mem_zipIdx_iff_getElem?.mpr hrow
    obtain ⟨b, hb, hget⟩ := hcopied _ hmem p hp
    refine ⟨b, hb, ?_⟩
    cases hdst : p.2 with
    | image dir name =>
        rw [hdst] at hget
        show u.files (u.root.1 ++ [dir.name, name]) = some b
        rw [hroot, hfiles]
        exact hget
    | negative name =>
        rw [hdst] at hget
        show u.teacherNeg.bind (·.lookup name) = some b
        rw [hneg]
        exact hget

end Import

/-! ## Row identity -/

/-- The commands that derive artifacts from a dataset and leave it as it is. -/
def Command.Derives : Command → Prop
  | .build _ _ _ => False
  | .prepare _ _ => True
  | .freqTable _ _ => True
  | .launch _ _ => True

/-- From `t` on, through any run of the commands that derive artifacts: `P` holds, and every dump
    scores each row under its own index. -/
def Lasting (sha256 : Digest) (rows : List SourceRow) (P : DataDir → Prop) (t : DataDir) : Prop :=
  ∀ u, Reaches sha256 (fun _ command => command.Derives) t u → P u ∧ ∀ args faults,
    ((runDump args).run faults u).state = u ∨ DumpMatches args u rows
      ((getDump ((runDump args).run faults u).state args.part?).getD [])

section Identity

variable {sha256 : Digest}

theorem Reaches.sameSet {t u : DataDir}
    (h : Reaches sha256 (fun _ command => command.Derives) t u) : SameSet t u := by
  refine h.invariant (SameSet.refl t) fun v command hderives hv => ?_
  cases command with
  | build hub pool args => exact hderives.elim
  | prepare world args => exact keeps_sameSet_prepareMain sha256 world args t v hv
  | freqTable world args => exact keeps_sameSet_freqMain sha256 world args t v hv
  | launch world env => exact keeps_read _ v hv

theorem lasting {rows : List SourceRow} {P : DataDir → Prop} {t : DataDir}
    (hP : ∀ u, SameSet t u → P u) (hrows : t.jsonl = some (rows.map .row)) :
    Lasting sha256 rows P t := by
  intro u hu
  have hsame := Reaches.sameSet hu
  exact ⟨hP u hsame, fun args faults =>
    runDump_matches ((congrArg DatasetView.jsonl hsame.view).trans hrows) faults⟩

/-- **Row identity.** Two pools that run `_worker`, on any number of processes and in any order,
    give one run of generate_negative_views, and a run that returns publishes the negatives and
    the records of the rows. After a build, and after an import, that returned, line `i` of the
    jsonl, record `i` of the manifest, record `i` of the parquet and the three images that
    run_dump scores for row `i` are those of one source row: a build renders the negative from the
    geometry of the row, an import copies it from the sample. -/
theorem row_identity {ρ : Type} (sha256 : Digest) (im : Imaging ρ) (s : DataDir) :
    (∀ pool, Scheduled sha256 im s.root.1 pool →
      (∀ pool', Scheduled sha256 im s.root.1 pool' →
        (generateNegativeViews pool).run [] s = (generateNegativeViews pool').run [] s) ∧
      ∀ faults out, ((generateNegativeViews pool).run faults s).outcome = .done out →
        ∃ rows, readRows s = .ok rows ∧
          GeneratedFrom sha256 im s.image? rows ((generateNegativeViews pool).run faults s).state) ∧
    (∀ hub pool args faults, Scheduled sha256 im s.root.1 pool →
      ((buildTrainsetMain hub pool args).run faults s).outcome = .done () →
        ∃ rows results records, Lasting sha256 rows
          (fun u => BuiltRows sha256 im u rows results records)
          ((buildTrainsetMain hub pool args).run faults s).state) ∧
    ∀ args faults, ((importMain sha256 args).run faults s).outcome = .done () →
      ∃ rows records, keptRows args = .ok rows ∧ Lasting sha256 (rows.map makeJsonlRow)
        (fun u => ImportedRows args u rows records)
        ((importMain sha256 args).run faults s).state := by
  refine ⟨fun pool hpool => ⟨fun pool' hpool' => ?_, fun faults out hdone => ?_⟩, ?_, ?_⟩
  · refine run_generateNegativeViews_congr (fun rows => ?_) fun rows =>
      stagedSet_schedules (hpool rows s.image?) (hpool' rows s.image?)
    rw [sortResults_schedules (hpool rows s.image?), sortResults_schedules (hpool' rows s.image?)]
  · obtain ⟨rows, hrows, _, _, hgenerated⟩ := (wp_generateNegativeViews s hpool).done hdone
    exact ⟨rows, hrows, hgenerated⟩
  · intro hub pool args faults hpool hdone
    obtain ⟨rows, results, records, hbuilt⟩ := (wp_build_rows hub pool args s hpool).done hdone
    exact ⟨rows, results, records, lasting (fun _ => hbuilt.sameSet) hbuilt.aligned.jsonl⟩
  · intro args faults hdone
    obtain ⟨rows, records, hrows, himported⟩ := (wp_import_rows args s).done hdone
    exact ⟨rows, records, hrows, lasting (fun _ => himported.sameSet) himported.aligned.jsonl⟩

end Identity

/-! ## Seventeen rows, and an import of two samples -/

section Sample

def uniform (w h : ℕ) (p : Rgb) : Image := ⟨w, h, List.replicate h (List.replicate w p)⟩

/-- The colour of an image that has one. -/
def Image.colour (image : Image) : Rgb := (image.rows.headD []).headD ⟨0, 0, 0⟩

/-- Images of one colour, which every call keeps. -/
def colourImaging : Imaging Unit where
  decode
    | [b] => .ok (uniform 4 4 ⟨b.toNat, b.toNat, b.toNat⟩)
    | _ => .error (.library "UnidentifiedImageError" "cannot identify image file")
  crop image box := .ok (uniform (box.right - box.left).toNat (box.bottom - box.top).toNat
    (Image.colour image))
  rectangle image _ := .ok image
  lanczos image size := .ok (uniform size.1.toNat size.2.toNat (Image.colour image))
  resizeBox image size := .ok (uniform size.1.toNat size.2.toNat (Image.colour image))
  encode image := .ok [UInt8.ofNat (Image.colour image).red]
  frameMask _ _ _ := .ok [255]
  dilate mask := mask
  bestMatch _ _ _ := .ok (0, 0)
  random _ := ()
  draw _ hi rng := (hi, rng)

def colourRow (i : ℕ) : SourceRow where
  problem := some "<image>\nWhich shade of grey is it?"
  images := some [["images", imageName i]]
  teacherImages := some [["teacher_images", imageName i]]
  originalImages := some [["original_images", imageName i]]
  bbox := some [0, 0, 1, 1]
  answer := some (intText i)
  extraInfo := none

/-- One row more than a chunk of the pool. -/
def colourRows : List SourceRow := (List.range 17).map colourRow

/-- The images of row `i` have the shade `i`. -/
def colourDir : DataDir :=
  { DataDir.empty sampleRoot with
    jsonl := some (colourRows.map .row)
    files := fun path => ((List.range 17).find? fun i : ℕ =>
      decide (path.getLast? = some (imageName i))).map fun i => [UInt8.ofNat i] }

theorem toOption_eq_some {ε α : Type} {x : Except ε α} {a : α} (h : x.toOption = some a) :
    x = .ok a := by
  cases x with
  | error e => cases h
  | ok b => exact congrArg Except.ok (Option.some.inj h)

/-- The worker of a row renders its shade. -/
theorem colourRow_rendered {i : ℕ} (hi : i < 17) :
    ∃ r shown inCrop,
      startRow colourImaging colourDir.root.1 colourDir.image? colourRows i = .ok r ∧
      r.bytes = [UInt8.ofNat i] ∧ colourDir.image? r.srcPositive = some [UInt8.ofNat i] ∧
      iou r.negativeBbox.evaluated r.target.evaluated = .ok shown ∧
      (r.target.evaluated.relativeTo r.geometry.positiveCropWindow).values = .ok inCrop := by
  have hall : ∀ i < 17, ∃ r ∈ (startRow colourImaging colourDir.root.1 colourDir.image? colourRows
      i).toOption, r.bytes = [UInt8.ofNat i] ∧
        colourDir.image? r.srcPositive = some [UInt8.ofNat i] ∧
        Except.toOption (iou r.negativeBbox.evaluated r.target.evaluated) =
          some (.float (Binary64.ofRat 0)) ∧
        (r.target.evaluated.relativeTo r.geometry.positiveCropWindow).values.toOption =
          some ⟨0, 0, 1, 1⟩ := by
    decide +kernel
  obtain ⟨r, hr, hbytes, hopen, hshown, hcrop⟩ := hall i hi
  exact ⟨r, _, _, toOption_eq_some hr, hbytes, hopen, toOption_eq_some hshown,
    toOption_eq_some hcrop⟩

theorem colourRow_result (sha256 : Digest) {i : ℕ} (hi : i < 17) :
    (rowResult sha256 colourImaging colourDir.root.1 colourDir.image? colourRows i).ok = true := by
  obtain ⟨r, shown, inCrop, hr, -, hopen, hshown, hcrop⟩ := colourRow_rendered hi
  rw [rowResult_of_rendered hr]
  have hreport : ∃ result, reportNegative sha256 colourImaging colourDir.image? r i (some r.bytes) =
      .ok result ∧ result.ok = true := by
    unfold reportNegative
    rw [hopen, hshown, hcrop]
    exact ⟨_, rfl, rfl⟩
  obtain ⟨result, hresult, hok⟩ := hreport
  unfold negativeJob
  dsimp only
  rw [hresult]
  exact hok

theorem colourRows_complete (sha256 : Digest) : CompleteResults
    (negativeResults sha256 colourImaging colourDir.root.1 colourDir.image? colourRows)
      colourRows.length := by
  refine ⟨?_, fun result hresult => ?_⟩
  · unfold negativeResults
    rw [List.map_map]
    exact (List.map_congr_left fun i _ => rowResult_idx i).trans (List.map_id _)
  · obtain ⟨i, hi, rfl⟩ := List.mem_map.mp hresult
    exact colourRow_result sha256 (List.mem_range.mp hi)

theorem colourRows_built : ∃ records,
    buildRecords colourDir.root.1 0 (colourRows.map .row) = .ok records := by
  have hsome : (buildRecords colourDir.root.1 0 (colourRows.map .row)).toOption.isSome := by
    decide +kernel
  obtain ⟨records, hrecords⟩ := Option.isSome_iff_exists.mp hsome
  exact ⟨records, toOption_eq_some hrecords⟩

/-- A sample of the release, with the hashes of its crops. -/
def shadeRelease (sha256 : Digest) (sampleId : ℕ) (label : String) : ReleaseRow :=
  { sampleId := sampleId
    question := "Which shade of grey is it?"
    answer := intText sampleId
    legacyQualityLabel := some label
    sourceBbox := [10, 10, 20, 20]
    negativeBbox := [40, 40, 50, 50]
    negativeCropWindow := [30, 30, 60, 60]
    originalSize := [100, 100]
    outputSize := [60, 60]
    targetBboxInCrop := [10, 10, 20, 20]
    bboxIou := 0
    sharedFrameMaskSha256 := none
    generationVersion := some "2.0.0"
    positiveSha256 := some (sha256 (.bytes [1, UInt8.ofNat sampleId]))
    negativeSha256 := some (sha256 (.bytes [2, UInt8.ofNat sampleId])) }

/-- Three samples out of order, one of which is not kept. -/
def shadeImport (sha256 : Digest) : ImportArgs where
  snapshot := "snapshots/main"
  shards := [[shadeRelease sha256 7 "healthy", shadeRelease sha256 5 "broken"],
    [shadeRelease sha256 3 "healthy"]]
  sourceImages := fun path => ((List.range 8).find? fun i : ℕ =>
    decide (path.getLast? = some (imageName i))).map fun i =>
      [if path.head? = some "teacher_pos" then 1 else if path.head? = some "teacher_neg" then 2
        else 0, UInt8.ofNat i]
  qualityLabels := "healthy"

theorem shadeImport_kept (sha256 : Digest) : keptRows (shadeImport sha256) =
    .ok [shadeRelease sha256 3 "healthy", shadeRelease sha256 7 "healthy"] := by
  have hload : loadReleaseRows (shadeImport sha256) = .ok [shadeRelease sha256 3 "healthy",
      shadeRelease sha256 5 "broken", shadeRelease sha256 7 "healthy"] := by
    unfold loadReleaseRows shadeImport
    simp [List.mergeSort, shadeRelease]
  have hlabels : allowedLabels "healthy" = ["healthy"] := by decide +kernel
  refine except_bind_ok.mpr ⟨_, hload, ?_⟩
  unfold filterRows
  rw [show (shadeImport sha256).qualityLabels = "healthy" from rfl, hlabels]
  rfl

/-- An import with verified images and a table for the parquet returns. -/
theorem finishes_importMain {sha256 : Digest} {args : ImportArgs} {rows : List ReleaseRow}
    {records : List TrainRecord} {s : DataDir} (hrows : keptRows args = .ok rows)
    (hverified : ∀ row ∈ rows, Verified sha256 args row)
    (hrecords : parquetRecords s.root.1 (importLines rows) (importResults rows) = .ok records) :
    ∃ t, Finishes (importMain sha256 args) s () t := by
  obtain ⟨t, hloop⟩ : ∃ t, Finishes (forEach rows.zipIdx (importRow sha256 args))
      { s with jsonl := some [] } () t :=
    finishes_importRows (fun entry he => hverified _ (List.fst_mem_of_mem_zipIdx he)) _
  obtain ⟨hcopying, hjsonl, _⟩ := hloop.post wp_importRows
  rw [← hcopying.root] at hrecords
  have hread : Finishes (read fun _ => keptRows args : Py (List ReleaseRow)) s rows s :=
    finishes_read hrows
  exact ⟨_, hread.bind ((finishes_atomic _ s).bind (hloop.bind
    ((finishes_atomic _ t).bind ((finishes_write _ _ _).bind
      (finishes_convertToParquet hjsonl hrecords)))))⟩

theorem shadeRelease_verified (sha256 : Digest) {sampleId : ℕ} (h : sampleId < 8)
    (label : String) :
    Verified sha256 (shadeImport sha256) (shadeRelease sha256 sampleId label) := by
  have hsource : ∀ i : ℕ, i < 8 →
      (shadeImport (fun _ => "")).sourceImages ["student", imageName i] =
      some [0, UInt8.ofNat i] ∧
      (shadeImport (fun _ => "")).sourceImages ["teacher_pos", imageName i] =
        some [1, UInt8.ofNat i] ∧
      (shadeImport (fun _ => "")).sourceImages ["teacher_neg", imageName i] =
        some [2, UInt8.ofNat i] := by
    decide +kernel
  obtain ⟨hstudent, hpositive, hnegative⟩ := hsource sampleId h
  exact {
    student := ⟨_, hstudent⟩
    positive := ⟨_, hpositive, fun d hd => Option.some.inj hd⟩
    negative := ⟨_, hnegative, fun d hd => Option.some.inj hd⟩ }

theorem shadeImport_finishes (sha256 : Digest) :
    ∃ t, Finishes (importMain sha256 (shadeImport sha256)) colourDir () t := by
  have hsome : (buildRecords colourDir.root.1 0 (importLines
      [shadeRelease (fun _ => "") 3 "healthy",
        shadeRelease (fun _ => "") 7 "healthy"])).toOption.isSome := by
    decide +kernel
  obtain ⟨records, hrecords⟩ := Option.isSome_iff_exists.mp hsome
  refine finishes_importMain (shadeImport_kept sha256) ?_ (toOption_eq_some hrecords)
  intro row hrow
  simp only [List.mem_cons, List.not_mem_nil, or_false] at hrow
  rcases hrow with rfl | rfl
  · exact shadeRelease_verified sha256 (by decide) _
  · exact shadeRelease_verified sha256 (by decide) _

end Sample

/-- A build of seventeen rows, the last of which is finished first, and an import. -/
theorem row_identity_sample : ∃ sha256 : Digest, Function.Injective sha256 ∧
    (∃ pool faults, Scheduled sha256 colourImaging colourDir.root.1 pool ∧
      (poolResults (pool colourRows colourDir.image?)).map (·.idx) = 16 :: List.range 16 ∧
      ((buildTrainsetMain sampleHub pool (sampleArgs true)).run faults colourDir).outcome =
        .done () ∧
      ∃ rows results records, Lasting sha256 rows
        (fun u => BuiltRows sha256 colourImaging u rows results records)
        ((buildTrainsetMain sampleHub pool (sampleArgs true)).run faults colourDir).state) ∧
    ∃ faults, ((importMain sha256 (shadeImport sha256)).run faults colourDir).outcome = .done () ∧
      ∃ rows records, keptRows (shadeImport sha256) = .ok rows ∧
        Lasting sha256 (rows.map makeJsonlRow)
          (fun u => ImportedRows (shadeImport sha256) u rows records)
          ((importMain sha256 (shadeImport sha256)).run faults colourDir).state := by
  obtain ⟨sha256, hinj⟩ := exists_collisionFree
  obtain ⟨pool, hpool, horder⟩ := exists_scheduled sha256 colourImaging colourDir.root.1
  obtain ⟨-, hbuilds, himports⟩ := row_identity sha256 colourImaging colourDir
  have hevents := hpool colourRows colourDir.image?
  have hcomplete := colourRows_complete sha256
  obtain ⟨records, hbuilt⟩ := colourRows_built
  have hrecords : parquetRecords colourDir.root.1 (colourRows.map .row)
      (sortResults (poolResults (pool colourRows colourDir.image?))) = .ok records := by
    unfold parquetRecords
    rw [sortResults_schedules hevents, sourceRows_map, List.length_map, if_pos hcomplete, hbuilt]
  have hread : readRows colourDir = .ok colourRows := rfl
  have hstage := finishes_prepareStage (s := colourDir) rfl hread (List.cons_ne_nil _ _)
    (poolComplete_of_schedules hevents hcomplete) hrecords
  have hbuild : Finishes (buildTrainsetMain sampleHub pool (sampleArgs true)) colourDir () _ :=
    (finishes_pure () colourDir).bind hstage
  obtain ⟨faults, hdone, _⟩ := hbuild.run
  obtain ⟨t, himport⟩ := shadeImport_finishes sha256
  obtain ⟨faults', hdone', _⟩ := himport.run
  refine ⟨sha256, hinj, ⟨pool, faults, hpool, ?_, hdone, hbuilds sampleHub pool (sampleArgs true)
    faults hpool hdone⟩, faults', hdone', himports _ faults' hdone'⟩
  rw [horder, List.map_map]
  refine (List.map_congr_left fun i _ => rowResult_idx i).trans ?_
  decide +kernel

end LookAway.Priors
