/-
  The copies of the importer: while they run the files of the old dataset's launch stay
  (`Copying`), and when they are done every kept row has its line and its three images
  (`wp_importRows`).
-/
import LookAway.Data.ImportRelease

namespace LookAway.Data

open LookAway.Base LookAway.Base.Script

variable {sha256 : Digest} {args : ImportArgs} {s : DataDir}

/-! ## What the copies need -/

/-- Every image the kept rows name is in the source workspace, with its recorded hash. -/
structure Verified (sha256 : Digest) (args : ImportArgs) (row : ReleaseRow) : Prop where
  student : ∃ b, args.sourceImages ["student", imageName row.sampleId] = some b
  positive : ∃ b, args.sourceImages ["teacher_pos", imageName row.sampleId] = some b ∧
    ∀ d ∈ row.positiveSha256, sha256 (.bytes b) = d
  negative : ∃ b, args.sourceImages ["teacher_neg", imageName row.sampleId] = some b ∧
    ∀ d ∈ row.negativeSha256, sha256 (.bytes b) = d

/-- The lines the import writes. -/
def importLines (rows : List ReleaseRow) : List JsonlLine :=
  rows.map fun row => .row (makeJsonlRow row)

/-! ## The old launch files -/

/-- The directory while images are copied: the launch files and the root are those of `s`. -/
structure Copying (s t : DataDir) : Prop where
  root : t.root = s.root
  manifest : t.manifest = s.manifest
  parquet : t.parquet = s.parquet
  priors : t.priors = s.priors
  freqCounts : t.freqCounts = s.freqCounts
  dump : t.dump = s.dump

theorem Copying.refl (s : DataDir) : Copying s s := ⟨rfl, rfl, rfl, rfl, rfl, rfl⟩

theorem Copying.killed {t : DataDir} (n : ℕ) (h : Copying s t) : Copying s (killed n t) :=
  ⟨h.root, h.manifest, h.parquet, h.priors, h.freqCounts, h.dump⟩

theorem Copying.put {t : DataDir} (h : Copying s t) (bytes : Bytes) (dst : Destination) :
    Copying s (dst.put bytes t) := by
  cases dst with
  | image dir name => exact ⟨h.root, h.manifest, h.parquet, h.priors, h.freqCounts, h.dump⟩
  | negative name => exact ⟨h.root, h.manifest, h.parquet, h.priors, h.freqCounts, h.dump⟩

theorem Copying.makeDir {t : DataDir} (h : Copying s t) (dst : Destination) :
    Copying s (dst.makeDir t) := by
  cases dst with
  | image dir name => exact h
  | negative name => exact ⟨h.root, h.manifest, h.parquet, h.priors, h.freqCounts, h.dump⟩

/-- A streaming step that keeps `Copying`. -/
theorem wp_streaming {α : Type} {f : DataDir → Except PyError (α × DataDir)}
    {torn : ℕ → DataDir → DataDir} {Q : α → DataDir → Prop} {t : DataDir}
    (htorn : ∀ n, Copying s (torn n t)) (ht : Copying s t)
    (hok : ∀ a t', f t = .ok (a, t') → Q a t') :
    wp (streaming f torn) Q (fun _ => Copying s) (Copying s) t :=
  wp_act (fun _ n => htorn n) (fun _ => (htorn _).killed _) hok fun _ _ => ht

/-! ## The copied files -/

theorem ImageDir.name_injective : Function.Injective ImageDir.name := by
  intro a b h
  cases a <;> cases b <;> first | rfl | exact absurd h (by decide)

/-- The copied file reads back. -/
theorem Destination.get_put {dst : Destination} {bytes : Bytes} {t : DataDir}
    (h : dst.makeDir t = t) : dst.get (dst.put bytes t) = some bytes := by
  cases dst with
  | image dir name => exact Function.update_self ..
  | negative name =>
      have hneg : t.teacherNeg = some (t.teacherNeg.getD ∅) := (congrArg DataDir.teacherNeg h).symm
      show (t.teacherNeg.map (·.insert name bytes)).bind (·.lookup name) = _
      rw [hneg]
      exact Finmap.lookup_insert _

theorem Destination.put_jsonl (dst : Destination) (bytes : Bytes) (t : DataDir) :
    (dst.put bytes (dst.makeDir t)).jsonl = t.jsonl := by
  cases dst <;> rfl

theorem Destination.makeDir_idem (dst : Destination) (t : DataDir) :
    dst.makeDir (dst.makeDir t) = dst.makeDir t := by
  cases dst <;> rfl

theorem Destination.get_makeDir (dst dst' : Destination) (t : DataDir) :
    dst'.get (dst.makeDir t) = dst'.get t := by
  cases dst with
  | image dir name => rfl
  | negative name =>
      cases dst' with
      | image dir' name' => rfl
      | negative name' =>
          show (some (t.teacherNeg.getD ∅)).bind (·.lookup name') =
            t.teacherNeg.bind (·.lookup name')
          cases t.teacherNeg with
          | none => exact Finmap.lookup_empty name'
          | some images => rfl

/-- The other files stay. -/
theorem Destination.get_put_of_ne {dst dst' : Destination} (h : dst' ≠ dst) (bytes : Bytes)
    (t : DataDir) : dst'.get (dst.put bytes t) = dst'.get t := by
  cases dst with
  | image dir name =>
      cases dst' with
      | negative name' => rfl
      | image dir' name' =>
          refine Function.update_of_ne (fun hpath => h ?_) _ _
          have hnames := List.append_cancel_left hpath
          simp only [List.cons.injEq, and_true] at hnames
          rw [ImageDir.name_injective hnames.1, hnames.2]
  | negative name =>
      cases dst' with
      | image dir' name' => rfl
      | negative name' =>
          have hname : name' ≠ name := fun hname => h (by rw [hname])
          show (t.teacherNeg.map (·.insert name bytes)).bind (·.lookup name') = _
          rw [Option.bind_map]
          exact congrArg _ (funext fun images => Finmap.lookup_insert_of_ne images hname)

/-- The file at `p.2` is the image `p.1` of the source workspace. -/
def Copied (args : ImportArgs) (t : DataDir) (p : Path × Destination) : Prop :=
  ∃ b, args.sourceImages p.1 = some b ∧ p.2.get t = some b

/-- A copy to a destination that has one source keeps the copies made before. -/
theorem Copied.put {t : DataDir} {p : Path × Destination} {src : Path} {dst : Destination}
    {b : Bytes} (h : Copied args t p) (hsrc : args.sourceImages src = some b)
    (hp : p.2 = dst → p.1 = src) : Copied args (dst.put b (dst.makeDir t)) p := by
  obtain ⟨b', hsource, hget⟩ := h
  by_cases hdst : p.2 = dst
  · refine ⟨b, hp hdst ▸ hsrc, ?_⟩
    rw [hdst]
    exact Destination.get_put (dst.makeDir_idem t)
  · refine ⟨b', hsource, ?_⟩
    rw [Destination.get_put_of_ne hdst, Destination.get_makeDir]
    exact hget

/-- What one round of the loop copies. -/
def copies (entry : ReleaseRow × ℕ) : List (Path × Destination) :=
  let name := imageName entry.1.sampleId
  [(["student", name], .image .images name),
    (["teacher_pos", name], .image .teacherImages name),
    (["teacher_neg", name], .negative (imageName entry.2))]

/-- Rows with one number are one row, so a destination has one source. -/
theorem copies_source {e e' : ReleaseRow × ℕ} (he : e.2 = e'.2 → e = e')
    {p q : Path × Destination} (hp : p ∈ copies e) (hq : q ∈ copies e') (h : p.2 = q.2) :
    p.1 = q.1 := by
  simp only [copies, List.mem_cons, List.not_mem_nil, or_false] at hp hq
  obtain rfl | rfl | rfl := hp <;> obtain rfl | rfl | rfl := hq <;>
    simp only [Destination.image.injEq, Destination.negative.injEq, reduceCtorEq, false_and,
      true_and] at h
  · rw [h]
  · rw [h]
  · rw [he (by exact_mod_cast imageName_injective h)]

/-! ## The loop -/

/-- A copy that returns has found its source, with the expected hash. -/
structure CopyDone (sha256 : Digest) (args : ImportArgs) (src : Path) (dst : Destination)
    (expected : Option String) (t t' : DataDir) : Prop where
  jsonl : t'.jsonl = t.jsonl
  source : ∃ b, args.sourceImages src = some b ∧ ∀ d ∈ expected, sha256 (.bytes b) = d
  copied : Copied args t' (src, dst)
  kept : ∀ p, Copied args t p → (p.2 = dst → p.1 = src) → Copied args t' p

theorem copyDone {src : Path} {dst : Destination} {expected : Option String} {t : DataDir}
    {b : Bytes} (hsource : args.sourceImages src = some b)
    (hdigest : ∀ d ∈ expected, sha256 (.bytes b) = d) :
    CopyDone sha256 args src dst expected t (dst.put b (dst.makeDir t)) where
  jsonl := dst.put_jsonl b t
  source := ⟨b, hsource, hdigest⟩
  copied := ⟨b, hsource, Destination.get_put (dst.makeDir_idem t)⟩
  kept _ h hp := h.put hsource hp

theorem wp_copyVerified {src : Path} {dst : Destination} {expected : Option String}
    {label : String} {t : DataDir} (ht : Copying s t) :
    wp (copyVerified sha256 args src dst expected label)
      (fun _ t' => Copying s t' ∧ CopyDone sha256 args src dst expected t t')
      (fun _ => Copying s) (Copying s) t := by
  refine wp_bind (wp_streaming (fun _ => ht) ht ?_)
  rintro _ t₁ h₁
  cases h₁
  have hdir := ht.makeDir dst
  refine wp_bind (wp_streaming (fun _ => hdir) hdir ?_)
  intro bytes t₂ h₂
  obtain ⟨b, hsource, hb⟩ : ∃ b, args.sourceImages src = some b ∧
      (b, dst.makeDir t) = (bytes, t₂) := by
    cases hsrc : args.sourceImages src with
    | none =>
        rw [hsrc] at h₂
        cases h₂
    | some b =>
        rw [hsrc] at h₂
        exact ⟨b, rfl, Except.ok.inj h₂⟩
  cases hb
  have hput := hdir.put bytes dst
  refine wp_bind (wp_streaming (fun n => hdir.put _ dst) hdir ?_)
  rintro _ t₃ h₃
  cases h₃
  cases expected with
  | none => exact wp_pure ⟨hput, copyDone hsource fun d hd => nomatch hd⟩
  | some digest =>
      refine wp_streaming (fun _ => hput) hput ?_
      rintro _ t₄ h₄
      rw [Destination.get_put (dst.makeDir_idem t)] at h₄
      have h₄' : (if sha256 (.bytes bytes) = digest then
          Except.ok ((), dst.put bytes (dst.makeDir t))
          else .error (hashMismatch label src.text digest (sha256 (.bytes bytes)))) =
          .ok ((), t₄) := h₄
      split at h₄'
      · rename_i hdigest
        cases h₄'
        refine ⟨hput, copyDone hsource fun d hd => ?_⟩
        cases hd
        exact hdigest
      · cases h₄'

/-- A round of the loop appends the line of its row and copies its images. -/
theorem wp_importRow {entry : ReleaseRow × ℕ} {t : DataDir} (ht : Copying s t) :
    wp (importRow sha256 args entry)
      (fun _ t' => Copying s t' ∧
        t'.jsonl = t.jsonl.map (· ++ [.row (makeJsonlRow entry.1)]) ∧
        Verified sha256 args entry.1 ∧ (∀ p ∈ copies entry, Copied args t' p) ∧
        ∀ p, Copied args t p → (∀ q ∈ copies entry, p.2 = q.2 → p.1 = q.1) → Copied args t' p)
      (fun _ => Copying s) (Copying s) t := by
  refine wp_bind (wp_streaming (fun _ => ht) ht ?_)
  rintro _ t₁ h₁
  cases h₁
  have happend : Copying s (appendLine (makeJsonlRow entry.1) t) :=
    ⟨ht.root, ht.manifest, ht.parquet, ht.priors, ht.freqCounts, ht.dump⟩
  refine wp_bind (wp_mono (wp_copyVerified happend) ?_ (fun _ _ h => h) (fun _ h => h))
  rintro _ t₂ ⟨ht₂, hstudent⟩
  refine wp_bind (wp_mono (wp_copyVerified ht₂) ?_ (fun _ _ h => h) (fun _ h => h))
  rintro _ t₃ ⟨ht₃, hpos⟩
  refine wp_mono (wp_copyVerified ht₃) ?_ (fun _ _ h => h) (fun _ h => h)
  rintro _ t₄ ⟨ht₄, hneg⟩
  have hself : ∀ p ∈ copies entry, ∀ q ∈ copies entry, p.2 = q.2 → p.1 = q.1 :=
    fun _ hp _ hq => copies_source (fun _ => rfl) hp hq
  simp only [copies, List.forall_mem_cons, List.not_mem_nil, false_imp_iff, implies_true,
    and_true] at hself ⊢
  refine ⟨ht₄, hneg.jsonl.trans (hpos.jsonl.trans hstudent.jsonl), ?_, ⟨?_, ?_, hneg.copied⟩, ?_⟩
  · obtain ⟨b, hb, _⟩ := hstudent.source
    exact ⟨⟨b, hb⟩, hpos.source, hneg.source⟩
  · exact hneg.kept _ (hpos.kept _ hstudent.copied hself.1.2.1) hself.1.2.2
  · exact hneg.kept _ hpos.copied hself.2.1.2.2
  · intro p hp hsame
    exact hneg.kept p (hpos.kept p (hstudent.kept p hp hsame.1) hsame.2.1) hsame.2.2

/-- Each number of `zipIdx` has one entry. -/
theorem zipIdx_entry {α : Type} {xs : List α} {e e' : α × ℕ} (he : e ∈ xs.zipIdx)
    (he' : e' ∈ xs.zipIdx) (h : e.2 = e'.2) : e = e' := by
  have hget := List.mem_zipIdx_iff_getElem?.mp he
  have hget' := List.mem_zipIdx_iff_getElem?.mp he'
  rw [h, hget'] at hget
  exact Prod.ext (Option.some.inj hget).symm h

/-- After the copies every kept row is verified and has its line and its images. -/
theorem wp_importRows {rows : List ReleaseRow} :
    wp (forEach rows.zipIdx (importRow sha256 args))
      (fun _ t => Copying s t ∧ t.jsonl = some (importLines rows) ∧
        (∀ row ∈ rows, Verified sha256 args row) ∧
        ∀ e ∈ rows.zipIdx, ∀ p ∈ copies e, Copied args t p)
      (fun _ => Copying s) (Copying s) { s with jsonl := some [] } := by
  have hstart : Copying s { s with jsonl := some [] } := ⟨rfl, rfl, rfl, rfl, rfl, rfl⟩
  refine wp_mono (wp_forEach (fun done t => Copying s t ∧
    t.jsonl = some (importLines (done.map (·.1))) ∧
    (∀ row ∈ done.map (·.1), Verified sha256 args row) ∧
    ∀ e ∈ done, ∀ p ∈ copies e, Copied args t p) ?_ ⟨hstart, rfl, by simp, by simp⟩) ?_
    (fun _ _ h => h) (fun _ h => h)
  · rintro done entry later t hsplit ⟨ht, hj, hdone, hcopied⟩
    refine wp_mono (wp_importRow ht) ?_ (fun _ _ h => h) (fun _ h => h)
    rintro _ t' ⟨ht', hj', hv, hnew, hkept⟩
    rw [List.map_append]
    refine ⟨ht', ?_, fun row hrow => ?_, fun e he p hp => ?_⟩
    · rw [hj', hj]
      simp [importLines]
    · rcases List.mem_append.mp hrow with hrow | hrow
      · exact hdone row hrow
      · rw [List.mem_singleton.mp hrow]
        exact hv
    · rcases List.mem_append.mp he with he | he
      · have hmem : e ∈ rows.zipIdx := hsplit ▸ List.mem_append_left _ he
        have hentry : entry ∈ rows.zipIdx := hsplit ▸ List.mem_append_right _ List.mem_cons_self
        exact hkept p (hcopied e he p hp) fun q hq =>
          copies_source (zipIdx_entry hmem hentry) hp hq
      · rw [List.mem_singleton.mp he] at hp
        exact hnew p hp
  · intro _ t h
    rw [List.zipIdx_map_fst] at h
    exact h

end LookAway.Data
