/-
  Which interrupted runs of build_trainset leave a launchable mixture of two datasets.

  The download overwrites the dataset in place, and the old artifacts are invalidated only after
  the negative views have been generated. `mixed_generation_iff`: a run that stops or raises is
  safe at every point exactly when it does not download, or the directory is not launchable in
  the first place, or the download rewrites nothing.
-/
import LookAway.Data.Launch
import LookAway.Data.NegativeViews

namespace LookAway.Data

open LookAway.Base LookAway.Base.Script

/-! ## The property -/

/-- The parquet, the priors and the manifest exist and agree by the hashes validate checks. -/
def AgreeByHashes (sha256 : Digest) (s : DataDir) : Prop :=
  ∃ manifest parquet priors p, s.manifest = some manifest ∧ s.parquet = some parquet ∧
    s.priors = some priors ∧ priors.content = .complete p ∧
    p.info.generationResultsSha256 = some (sha256 (.manifest manifest)) ∧
    p.info.trainParquetSha256 = some (sha256 (.parquet parquet.content))

/-- The parquet and every record behind the priors were made from the dataset in place. -/
def OneGeneration (s : DataDir) : Prop :=
  ∀ parquet priors, s.parquet = some parquet → s.priors = some priors →
    parquet.view = s.view ∧ ∀ x ∈ priors.source, x.2.view = s.view

/-- What can be launched is one generation. -/
def NoMixture (sha256 : Digest) (s : DataDir) : Prop := AgreeByHashes sha256 s → OneGeneration s

/-! ## The condition -/

/-- The file is in place with the content the hub ships. -/
def InPlace (s : DataDir) : SnapshotFile → Prop
  | .jsonl lines => s.jsonl = some lines
  | .image dir name bytes => s.files (s.root.1 ++ dir.name :: name) = some bytes
  | .bundle _ _ _ => True

/-- The members of the archives an image directory holds. -/
def shippedMembers (hub : Hub) (s : DataDir) (dir : ImageDir) : List Member :=
  (s.bundles dir).elim [] fun entries => hub.members ((archiveParts dir entries).map (·.2))

def archiveMembers (hub : Hub) (s : DataDir) (dirs : List ImageDir) : List (ImageDir × Member) :=
  dirs.flatMap fun dir => (shippedMembers hub s dir).map fun m => (dir, m)

/-- The files that are written before the first member that is rejected. -/
def extractable : List (ImageDir × Member) → List (Path × Bytes)
  | [] => []
  | (dir, .file name bytes) :: ms => (dir.name :: name, bytes) :: extractable ms
  | (_, .rejected _) :: _ => []

def imageDirs : List ImageDir := [.images, .teacherImages, .originalImages]

/-- The directory after snapshot_download. -/
def snapshotPlaced (hub : Hub) (repoId revision : String) (s : DataDir) : DataDir :=
  (hub.snapshot repoId revision).foldl placeSnapshotFile (beginGeneration s)

/-- The download rewrites nothing: what the hub ships is in place, and the archives hold only
    empty files that are in place. -/
structure Quiet (hub : Hub) (repoId revision : String) (s : DataDir) : Prop where
  shipped : ∀ f ∈ hub.snapshot repoId revision, InPlace s f
  extracted : ∀ x ∈ extractable
    (archiveMembers hub (snapshotPlaced hub repoId revision s) imageDirs),
    x.2 = [] ∧ s.files (s.root.1 ++ x.1) = some []

/-- The run does not download, or the download rewrites nothing. -/
def DownloadHarmless (hub : Hub) (args : BuildArgs) (s : DataDir) : Prop :=
  args.skipDownload = true ∨ ∀ revision,
    resolveDatasetRevision args.hfRepo args.hfRevision = .ok revision →
      Quiet hub args.hfRepo revision s

/-! ## What the download leaves alone -/

/-- The artifacts of a launch are those of `s`. -/
def SameArtifacts (s t : DataDir) : Prop :=
  t.manifest = s.manifest ∧ t.parquet = s.parquet ∧ t.priors = s.priors

/-- The artifacts and the dataset are those of `s`. -/
structure Still (s t : DataDir) : Prop where
  root : t.root = s.root
  view : t.view = s.view
  artifacts : SameArtifacts s t

theorem SameArtifacts.agree {sha256 : Digest} {s t : DataDir} (h : SameArtifacts s t) :
    AgreeByHashes sha256 t ↔ AgreeByHashes sha256 s := by
  obtain ⟨hm, hq, hp⟩ := h
  unfold AgreeByHashes
  rw [hm, hq, hp]

theorem Still.noMixture {sha256 : Digest} {s t : DataDir} (h : Still s t)
    (hs : NoMixture sha256 s) : NoMixture sha256 t := by
  intro ha
  have hone := hs (h.artifacts.agree.mp ha)
  intro parquet priors hq hp
  rw [h.view]
  exact hone parquet priors (h.artifacts.2.1 ▸ hq) (h.artifacts.2.2 ▸ hp)

theorem Scratch.still {s t : DataDir} (h : Scratch s t) : Still s t := by
  obtain ⟨a, b, c, d, rfl⟩ := h
  exact ⟨rfl, rfl, rfl, rfl, rfl⟩

theorem Still.trans {s t u : DataDir} (h : Still s t) (h' : Still t u) : Still s u :=
  ⟨h'.root.trans h.root, h'.view.trans h.view, h'.artifacts.1.trans h.artifacts.1,
    h'.artifacts.2.1.trans h.artifacts.2.1, h'.artifacts.2.2.trans h.artifacts.2.2⟩

theorem placeSnapshotFile_artifacts (t : DataDir) (f : SnapshotFile) :
    SameArtifacts t (placeSnapshotFile t f) := by
  cases f <;> exact ⟨rfl, rfl, rfl⟩

theorem placeSnapshotFile_root (t : DataDir) (f : SnapshotFile) :
    (placeSnapshotFile t f).root = t.root := by
  cases f <;> rfl

/-- An invariant of what a download does to the files is one of everything after its first step. -/
theorem keeps_downloadFiles {I : DataDir → Prop} (hplace : ∀ f t, I t → I (placeSnapshotFile t f))
    (hfile : ∀ path bytes t, I t → I (setFile path bytes t))
    (hbundles : ∀ b t, I t → I { t with bundles := b }) (hub : Hub) (files : List SnapshotFile)
    (dirs : List ImageDir) :
    Keeps I (forEach files (fun file => (atomic fun s => placeSnapshotFile s file : Py Unit)) >>=
      fun _ => forEach dirs (extractBundle hub)) := by
  refine keeps_bind (keeps_forEach fun f _ => keeps_atomic (hplace f)) fun _ =>
    keeps_forEach fun dir _ => keeps_bind (keeps_read _) fun found => ?_
  cases found.2 with
  | none => exact keeps_pure ()
  | some entries =>
      refine keeps_bind (keeps_forEach fun m _ => ?_) fun _ => keeps_forEach fun part _ =>
        keeps_atomic fun t ht => hbundles _ t ht
      cases m with
      | file name bytes => exact keeps_write (hfile _ bytes) fun n => hfile _ (bytes.take n)
      | rejected text => exact keeps_raise _

/-- An invariant of everything a download does to the directory is one of the download. -/
theorem keeps_download {I : DataDir → Prop} (hbegin : ∀ t, I t → I (beginGeneration t))
    (hplace : ∀ f t, I t → I (placeSnapshotFile t f))
    (hfile : ∀ path bytes t, I t → I (setFile path bytes t))
    (hbundles : ∀ b t, I t → I { t with bundles := b }) (hub : Hub) (repoId revision : String) :
    Keeps I (downloadDataset hub repoId revision) :=
  keeps_bind (keeps_atomic hbegin) fun _ => keeps_downloadFiles hplace hfile hbundles hub _ _

theorem keeps_downloadDataset (hub : Hub) (repoId revision : String) (s : DataDir) :
    Keeps (SameArtifacts s) (downloadDataset hub repoId revision) := by
  refine keeps_download (fun _ h => h) (fun f t h => ?_) (fun _ _ _ h => h) (fun _ _ h => h) hub
    repoId revision
  obtain ⟨hm, hq, hp⟩ := placeSnapshotFile_artifacts t f
  exact ⟨hm.trans h.1, hq.trans h.2.1, hp.trans h.2.2⟩

/-! ## After the download -/

theorem not_agree_of_parquet {sha256 : Digest} {s : DataDir} (h : s.parquet = none) :
    ¬AgreeByHashes sha256 s := by
  rintro ⟨_, _, _, _, _, hq, _⟩
  rw [h] at hq
  cases hq

theorem not_agree_of_priors {sha256 : Digest} {s : DataDir} (h : s.priors = none) :
    ¬AgreeByHashes sha256 s := by
  rintro ⟨_, _, _, _, _, _, hp, _⟩
  rw [h] at hp
  cases hp

theorem keeps_convertToParquet (results : List ResultRecord) :
    Keeps (fun t : DataDir => t.priors = none) (convertToParquet results) :=
  keeps_bind (keeps_read _) fun _ =>
    keeps_tryFinally (keeps_bind (keeps_atomic fun _ h => h) fun _ => keeps_atomic fun _ h => h)
      (keeps_atomic fun _ h => h)

/-- The exits after the download: nothing a launch reads has changed, or the artifacts do not
    agree. -/
def Guarded (sha256 : Digest) (s t : DataDir) : Prop := Still s t ∨ ¬AgreeByHashes sha256 t

theorem Interrupted.guarded {sha256 : Digest} {pool : PoolRun} {s t : DataDir}
    (h : Interrupted pool s t) : Guarded sha256 s t := by
  rcases h with h | ⟨rows, _, _, p, h⟩
  · exact .inl h.still
  · cases p with
    | untouched => exact .inl h.still
    | _ =>
        obtain ⟨a, b, c, d, rfl⟩ := h
        exact .inr (not_agree_of_parquet rfl)

theorem wp_prepareStage (sha256 : Digest) (pool : PoolRun) (s : DataDir) :
    wp (prepareStage pool) (fun _ t => ¬AgreeByHashes sha256 t) (fun _ => Guarded sha256 s)
      (Guarded sha256 s) s := by
  refine wp_bind (wp_mono (generateNegativeViews_phases pool s) ?_ (fun _ _ h => h.guarded)
    (fun _ h => h.guarded))
  rintro results t ⟨rows, _, _, _, a, b, c, d, rfl⟩
  have hpriors : ∀ u : DataDir, u.priors = none → Guarded sha256 s u :=
    fun u hu => .inr (not_agree_of_priors hu)
  refine wp_bind (wp_mono (keeps_convertToParquet results _ rfl) ?_ (fun _ => hpriors) hpriors)
  intro _ u hu
  refine wp_bind (wp_atomic (fun _ => hpriors u hu) (hpriors u hu) ?_)
  have hu' : (markPriorsStale u).priors = none := rfl
  exact wp_atomic (fun _ => hpriors _ hu') (hpriors _ hu') (not_agree_of_priors rfl)

/-! ## A quiet download -/

section QuietDownload

variable {hub : Hub} {repoId revision : String} {s : DataDir}

theorem Still.place {t : DataDir} {f : SnapshotFile} (h : Still s t) (hf : InPlace s f) :
    Still s (placeSnapshotFile t f) := by
  have hview := h.view
  obtain ⟨hm, hq, hp⟩ := placeSnapshotFile_artifacts t f
  refine ⟨(placeSnapshotFile_root t f).trans h.root, ?_, hm.trans h.artifacts.1,
    hq.trans h.artifacts.2.1, hp.trans h.artifacts.2.2⟩
  rw [← hview]
  cases f with
  | jsonl lines =>
      have hl : t.jsonl = some lines := (congrArg DatasetView.jsonl hview).trans hf
      show DatasetView.mk (some lines) t.files t.teacherNeg = _
      rw [← hl]
      rfl
  | image dir name bytes =>
      have hb : t.files (t.root.1 ++ dir.name :: name) = some bytes := by
        rw [h.root, show t.files = s.files from congrArg DatasetView.files hview]
        exact hf
      show DatasetView.mk t.jsonl (Function.update t.files _ (some bytes)) t.teacherNeg = _
      rw [← hb, Function.update_eq_self]
      rfl
  | bundle dir name bytes => rfl

theorem Still.fold {t : DataDir} {fs : List SnapshotFile} (h : Still s t)
    (hf : ∀ f ∈ fs, InPlace s f) : Still s (fs.foldl placeSnapshotFile t) := by
  induction fs generalizing t with
  | nil => exact h
  | cons f fs ih =>
      exact ih (h.place (hf f (by simp))) fun g hg => hf g (by simp [hg])

def Member.IsFile (m : Member) : Prop := ∃ name bytes, m = .file name bytes

theorem extractable_append {ms ms' : List (ImageDir × Member)} (h : ∀ m ∈ ms, m.2.IsFile) :
    extractable (ms ++ ms') = extractable ms ++ extractable ms' := by
  induction ms with
  | nil => rfl
  | cons m ms ih =>
      obtain ⟨dir, m⟩ := m
      obtain ⟨name, bytes, rfl⟩ : m.IsFile := h (dir, m) (by simp)
      rw [List.cons_append, extractable, extractable, ih (fun n hn => h n (by simp [hn]))]
      rfl

/-- Writing the empty file over an empty file. -/
theorem Still.emptyFile {t : DataDir} {path : Path} (h : Still s t)
    (hp : s.files path = some []) : Still s (setFile path [] t) := by
  have hfiles : t.files path = some [] := by
    rw [show t.files = s.files from congrArg DatasetView.files h.view]
    exact hp
  have : setFile path [] t = t := by
    unfold setFile
    rw [← hfiles, Function.update_eq_self]
  rw [this]
  exact h

/-- The bundles of the directories that have not been reached are those of `s₁`. -/
def BundlesFrom (s₁ : DataDir) (pre : List ImageDir) (t : DataDir) : Prop :=
  ∀ dir, dir ∉ pre → t.bundles dir = s₁.bundles dir

theorem archiveMembers_append (s₁ : DataDir) (dirs dirs' : List ImageDir) :
    archiveMembers hub s₁ (dirs ++ dirs') =
      archiveMembers hub s₁ dirs ++ archiveMembers hub s₁ dirs' := List.flatMap_append

theorem archiveMembers_singleton (s₁ : DataDir) (dir : ImageDir) :
    archiveMembers hub s₁ [dir] = (shippedMembers hub s₁ dir).map fun m => (dir, m) :=
  List.append_nil _

theorem shippedMembers_none {s₁ : DataDir} {dir : ImageDir} (h : s₁.bundles dir = none) :
    shippedMembers hub s₁ dir = [] := by
  unfold shippedMembers
  rw [h]
  rfl

theorem shippedMembers_some {s₁ : DataDir} {dir : ImageDir} {entries : List (String × Bytes)}
    (h : s₁.bundles dir = some entries) :
    shippedMembers hub s₁ dir = hub.members ((archiveParts dir entries).map (·.2)) := by
  unfold shippedMembers
  rw [h]
  rfl

theorem isFile_append {dir : ImageDir} {pre : List (ImageDir × Member)} {ms : List Member}
    (hpre : ∀ m ∈ pre, m.2.IsFile) (hms : ∀ m ∈ ms, m.IsFile) :
    ∀ m ∈ pre ++ ms.map (fun m => (dir, m)), m.2.IsFile := by
  intro m hm
  rcases List.mem_append.mp hm with hm | hm
  · exact hpre m hm
  · obtain ⟨m', hm', rfl⟩ := List.mem_map.mp hm
    exact hms m' hm'

/-- The members of one directory. Those written so far are files, and each was empty and in
place. -/
theorem wp_members_quiet {s₁ t : DataDir} {pre post : List ImageDir} {dir : ImageDir}
    (hx : ∀ x ∈ extractable (archiveMembers hub s₁ (pre ++ dir :: post)),
      x.2 = [] ∧ s.files (s.root.1 ++ x.1) = some [])
    (ht : Still s t) (hb : BundlesFrom s₁ pre t)
    (hpre : ∀ m ∈ archiveMembers hub s₁ pre, m.2.IsFile) :
    wp (forEach (shippedMembers hub s₁ dir) (extractMember t.root.1 dir))
      (fun _ t' => Still s t' ∧ BundlesFrom s₁ pre t' ∧
        ∀ m ∈ shippedMembers hub s₁ dir, m.IsFile)
      (fun _ => Still s) (Still s) t := by
  refine wp_forEach (fun (done : List Member) t' =>
    Still s t' ∧ BundlesFrom s₁ pre t' ∧ ∀ m ∈ done, m.IsFile) ?_ ⟨ht, hb, by simp⟩
  rintro done m later t' hms ⟨ht', hb', hdone⟩
  cases m with
  | rejected text => exact wp_raise ht'
  | file name bytes =>
      have hsplit : archiveMembers hub s₁ (pre ++ dir :: post) =
          (archiveMembers hub s₁ pre ++ done.map fun m => (dir, m)) ++
            (dir, .file name bytes) :: ((later.map fun m => (dir, m)) ++
              archiveMembers hub s₁ post) := by
        rw [show pre ++ dir :: post = pre ++ ([dir] ++ post) from rfl, archiveMembers_append,
          archiveMembers_append, archiveMembers_singleton, hms]
        simp
      obtain ⟨hnil, hplace⟩ := hx (dir.name :: name, bytes) (by
        rw [hsplit, extractable_append (isFile_append hpre hdone)]
        exact List.mem_append_right _ (List.mem_cons_self ..))
      dsimp only at hnil hplace
      subst hnil
      rw [← ht.root] at hplace
      have hset := ht'.emptyFile hplace
      refine wp_write (fun _ n => ?_) (fun n => ?_) ⟨hset, hb', ?_⟩
      · rw [List.take_nil]
        exact hset
      · rw [List.take_nil]
        exact hset
      · intro m hm
        rcases List.mem_append.mp hm with hm | hm
        · exact hdone m hm
        · rw [List.mem_singleton.mp hm]
          exact ⟨_, _, rfl⟩

/-- Removing the archive parts of one directory. -/
theorem wp_removeParts_quiet {s₁ t : DataDir} {pre : List ImageDir} {dir : ImageDir}
    (ht : Still s t) (hb : BundlesFrom s₁ pre t) (parts : List (String × Bytes)) :
    wp (forEach parts fun part => removeBundle dir part.1)
      (fun _ t' => Still s t' ∧ BundlesFrom s₁ (pre ++ [dir]) t') (fun _ => Still s)
      (Still s) t := by
  refine wp_forEach (fun _ t' => Still s t' ∧ BundlesFrom s₁ (pre ++ [dir]) t') ?_
    ⟨ht, fun dir' h => hb dir' fun hm => h (by simp [hm])⟩
  rintro _ part _ u _ ⟨hu, hbu⟩
  refine wp_atomic (fun _ => hu) hu ⟨⟨hu.root, hu.view, hu.artifacts⟩, fun dir' h => ?_⟩
  have hne : dir' ≠ dir := fun he => h (by simp [he])
  show Function.update u.bundles dir _ dir' = _
  rw [Function.update_of_ne hne]
  exact hbu dir' h

/-- The round of one directory, after the rounds of `pre`. -/
theorem wp_extractBundle_quiet {s₁ t : DataDir} {pre post : List ImageDir} {dir : ImageDir}
    (hx : ∀ x ∈ extractable (archiveMembers hub s₁ (pre ++ dir :: post)),
      x.2 = [] ∧ s.files (s.root.1 ++ x.1) = some [])
    (hdir : dir ∉ pre) (ht : Still s t) (hb : BundlesFrom s₁ pre t)
    (hpre : ∀ m ∈ archiveMembers hub s₁ pre, m.2.IsFile) :
    wp (extractBundle hub dir)
      (fun _ t' => Still s t' ∧ BundlesFrom s₁ (pre ++ [dir]) t' ∧
        ∀ m ∈ archiveMembers hub s₁ (pre ++ [dir]), m.2.IsFile)
      (fun _ => Still s) (Still s) t := by
  rw [archiveMembers_append, archiveMembers_singleton]
  refine wp_bind (wp_read (fun _ => ht) ht ?_)
  rintro found hfound
  cases hfound
  dsimp only
  rw [hb dir hdir]
  cases hentries : s₁.bundles dir with
  | none =>
      rw [shippedMembers_none hentries]
      exact wp_pure ⟨ht, fun dir' h => hb dir' fun hm => h (by simp [hm]),
        isFile_append hpre (by simp)⟩
  | some entries =>
      have hmembers := wp_members_quiet hx ht hb hpre
      rw [shippedMembers_some hentries] at hmembers ⊢
      refine wp_bind (wp_mono hmembers ?_ (fun _ _ h => h) (fun _ h => h))
      rintro _ t' ⟨ht', hb', hfiles⟩
      refine wp_mono (wp_removeParts_quiet ht' hb' _) ?_ (fun _ _ h => h) (fun _ h => h)
      rintro _ u ⟨hu, hbu⟩
      exact ⟨hu, hbu, isFile_append hpre hfiles⟩

/-- A quiet download leaves the dataset as it is, wherever it stops. -/
theorem wp_downloadDataset_quiet (h : Quiet hub repoId revision s) :
    wp (downloadDataset hub repoId revision) (fun _ => Still s) (fun _ => Still s) (Still s) s := by
  have h0 : Still s s := ⟨rfl, rfl, rfl, rfl, rfl⟩
  have hbegin : Still s (beginGeneration s) := ⟨rfl, rfl, rfl, rfl, rfl⟩
  refine wp_bind (wp_atomic (fun _ => h0) h0 ?_)
  refine wp_bind (wp_mono (wp_forEach (fun done t => t = done.foldl placeSnapshotFile
    (beginGeneration s)) ?_ rfl) ?_ (fun _ _ h => h) (fun _ h => h))
  · rintro done f later t hfs rfl
    have hdone : Still s (done.foldl placeSnapshotFile (beginGeneration s)) :=
      hbegin.fold fun g hg => h.shipped g (by simp [hfs, hg])
    refine wp_atomic (fun _ => hdone) hdone ?_
    rw [List.foldl_append]
    rfl
  · rintro _ t rfl
    have hplaced := hbegin.fold h.shipped
    refine wp_mono (wp_forEach (fun pre t => Still s t ∧
      BundlesFrom (snapshotPlaced hub repoId revision s) pre t ∧
      ∀ m ∈ archiveMembers hub (snapshotPlaced hub repoId revision s) pre, m.2.IsFile) ?_
      ⟨hplaced, fun _ _ => rfl, by simp [archiveMembers]⟩) (fun _ _ h => h.1) (fun _ _ h => h)
      (fun _ h => h)
    rintro pre dir post t hdirs ⟨ht, hb, hpre⟩
    have hdir : dir ∉ pre := by
      have hnodup : (pre ++ dir :: post).Nodup := hdirs ▸ (by decide)
      exact fun hm => (List.nodup_append.mp hnodup).2.2 dir hm dir (by simp) rfl
    have hx : ∀ x ∈ extractable (archiveMembers hub (snapshotPlaced hub repoId revision s)
        (pre ++ dir :: post)), x.2 = [] ∧ s.files (s.root.1 ++ x.1) = some [] := by
      rw [← hdirs]
      exact h.extracted
    exact wp_extractBundle_quiet hx hdir ht hb hpre

end QuietDownload

/-! ## A download that is not quiet -/

theorem mem_extractable {ms : List (ImageDir × Member)} {x : Path × Bytes}
    (hx : x ∈ extractable ms) : ∃ pre dir name bytes post,
      ms = pre ++ (dir, .file name bytes) :: post ∧ (∀ m ∈ pre, m.2.IsFile) ∧
        x = (dir.name :: name, bytes) := by
  induction ms with
  | nil => cases hx
  | cons m ms ih =>
      obtain ⟨dir, m⟩ := m
      cases m with
      | rejected text => cases hx
      | file name bytes =>
          rcases List.mem_cons.mp hx with rfl | hx
          · exact ⟨[], dir, name, bytes, ms, rfl, by simp, rfl⟩
          · obtain ⟨pre, d, n, b, post, rfl, hpre, hxe⟩ := ih hx
            refine ⟨(dir, .file name bytes) :: pre, d, n, b, post, rfl, ?_, hxe⟩
            intro m hm
            rcases List.mem_cons.mp hm with rfl | hm
            · exact ⟨_, _, rfl⟩
            · exact hpre m hm

theorem mem_extractable_append {ms ms' : List (ImageDir × Member)} {x : Path × Bytes}
    (hx : x ∈ extractable (ms ++ ms')) :
    x ∈ extractable ms ∨ (∀ m ∈ ms, m.2.IsFile) ∧ x ∈ extractable ms' := by
  induction ms with
  | nil => exact .inr ⟨by simp, hx⟩
  | cons m ms ih =>
      obtain ⟨dir, m⟩ := m
      cases m with
      | rejected text => exact .inl hx
      | file name bytes =>
          rcases List.mem_cons.mp hx with rfl | hx
          · exact .inl (List.mem_cons_self ..)
          · rcases ih hx with h | ⟨hms, h⟩
            · exact .inl (List.mem_cons_of_mem _ h)
            · refine .inr ⟨fun m hm => ?_, h⟩
              rcases List.mem_cons.mp hm with rfl | hm
              · exact ⟨_, _, rfl⟩
              · exact hms m hm

/-- The effect of one member. -/
def extracted (root : Path) (dir : ImageDir) (t : DataDir) : Member → DataDir
  | .file name bytes => setFile (root ++ dir.name :: name) bytes t
  | .rejected _ => t

theorem finishes_extractMember {root : Path} {dir : ImageDir} {m : Member} (h : m.IsFile)
    (t : DataDir) : Finishes (extractMember root dir m) t () (extracted root dir t m) := by
  obtain ⟨name, bytes, rfl⟩ := h
  exact finishes_write _ _ t

theorem extracted_fold (root : Path) (dir : ImageDir) (ms : List Member) (t : DataDir) :
    (ms.foldl (extracted root dir) t).root = t.root ∧
      (ms.foldl (extracted root dir) t).bundles = t.bundles := by
  induction ms generalizing t with
  | nil => exact ⟨rfl, rfl⟩
  | cons m ms ih =>
      obtain ⟨hr, hb⟩ := ih (extracted root dir t m)
      cases m with
      | file name bytes => exact ⟨hr, hb⟩
      | rejected text => exact ⟨hr, hb⟩

/-- The effect of removing one archive part. -/
def bundleRemoved (dir : ImageDir) (t : DataDir) (part : String × Bytes) : DataDir :=
  { t with
    bundles := Function.update t.bundles dir ((t.bundles dir).map (·.filter (·.1 ≠ part.1))) }

theorem bundleRemoved_fold (dir : ImageDir) (parts : List (String × Bytes)) (t : DataDir) :
    (parts.foldl (bundleRemoved dir) t).root = t.root ∧
      ∀ d, d ≠ dir → (parts.foldl (bundleRemoved dir) t).bundles d = t.bundles d := by
  induction parts generalizing t with
  | nil => exact ⟨rfl, fun _ _ => rfl⟩
  | cons part parts ih =>
      obtain ⟨hr, hb⟩ := ih (bundleRemoved dir t part)
      refine ⟨hr, fun d hd => (hb d hd).trans ?_⟩
      show Function.update t.bundles dir _ d = _
      exact Function.update_of_ne hd _ _

/-- One round finishes when no member is rejected, and leaves the other bundles alone. -/
theorem finishes_extractBundle {hub : Hub} {dir : ImageDir} {t : DataDir}
    (h : ∀ m ∈ shippedMembers hub t dir, m.IsFile) :
    ∃ t', Finishes (extractBundle hub dir) t () t' ∧ t'.root = t.root ∧
      ∀ d, d ≠ dir → t'.bundles d = t.bundles d := by
  have hread : Finishes (read fun s : DataDir => (.ok (s.root.1, s.bundles dir) :
      Except PyError _)) t (t.root.1, t.bundles dir) t := finishes_read rfl
  unfold shippedMembers at h
  cases hentries : t.bundles dir with
  | none =>
      refine ⟨t, hread.bind ?_, rfl, fun _ _ => rfl⟩
      dsimp only
      rw [hentries]
      exact finishes_pure () t
  | some entries =>
      rw [hentries] at h
      obtain ⟨hr, hb⟩ := extracted_fold t.root.1 dir
        (hub.members ((archiveParts dir entries).map (·.2))) t
      obtain ⟨hr', hb'⟩ := bundleRemoved_fold dir (archiveParts dir entries)
        ((hub.members ((archiveParts dir entries).map (·.2))).foldl (extracted t.root.1 dir) t)
      refine ⟨_, hread.bind ?_, hr'.trans hr, fun d hd => (hb' d hd).trans (congrFun hb d)⟩
      dsimp only
      rw [hentries]
      exact (finishes_forEach (fun m hm => finishes_extractMember (h m hm)) t).bind
        (finishes_forEach (fun part _ u => finishes_atomic _ u) _)

/-- Every file the archives hold up to the first rejected member is written, and the extraction
    can stop after any part of it. -/
theorem stops_at_member {hub : Hub} {s₁ : DataDir} {dirs : List ImageDir} (hnodup : dirs.Nodup)
    {x : Path × Bytes} (n : ℕ) {t : DataDir} (hb : ∀ d ∈ dirs, t.bundles d = s₁.bundles d)
    (hx : x ∈ extractable (archiveMembers hub s₁ dirs)) :
    ∃ t', Stops (forEach dirs (extractBundle hub)) t t' ∧
      t'.files (t.root.1 ++ x.1) = some (x.2.take n) := by
  induction dirs generalizing t with
  | nil => cases hx
  | cons dir dirs ih =>
      have hshipped : shippedMembers hub t dir = shippedMembers hub s₁ dir := by
        unfold shippedMembers
        rw [hb dir (by simp)]
      have hx' : x ∈ extractable ((shippedMembers hub t dir).map (fun m => (dir, m)) ++
          archiveMembers hub s₁ dirs) := hshipped ▸ hx
      rcases mem_extractable_append hx' with hx | ⟨hfiles, hx⟩
      · obtain ⟨pre, d, name, bytes, post, hms, hpre, rfl⟩ := mem_extractable hx
        obtain ⟨pre', rest, hms', rfl, hrest⟩ := List.map_eq_append_iff.mp hms
        obtain ⟨m, post', rfl, hm, rfl⟩ := List.map_eq_cons_iff.mp hrest
        cases hm
        have hpre' : ∀ m ∈ pre', ∀ u,
            Finishes (extractMember t.root.1 dir m) u () (extracted t.root.1 dir u m) :=
          fun m hm => finishes_extractMember (hpre (dir, m) (List.mem_map_of_mem hm))
        refine ⟨setFile (t.root.1 ++ dir.name :: name) (bytes.take n)
          (pre'.foldl (extracted t.root.1 dir) t), Stops.bind_left (Stops.bind_right
            (finishes_read rfl) ?_), Function.update_self ..⟩
        · dsimp only
          unfold shippedMembers at hms'
          cases hentries : t.bundles dir with
          | none =>
              rw [hentries] at hms'
              exact absurd hms'.symm (by simp)
          | some entries =>
              rw [hentries] at hms'
              have hms'' : hub.members ((archiveParts dir entries).map (·.2)) =
                pre' ++ .file name bytes :: post' := hms'
              have hwrite : Stops (extractMember t.root.1 dir (.file name bytes))
                  (pre'.foldl (extracted t.root.1 dir) t) (setFile (t.root.1 ++ dir.name :: name)
                    (bytes.take n) (pre'.foldl (extracted t.root.1 dir) t)) :=
                stops_write _ _ n _
              dsimp only
              rw [hms'']
              exact (stops_forEach hpre' hwrite).bind_left
      · have hall : ∀ m ∈ shippedMembers hub t dir, m.IsFile :=
          fun m hm => hfiles (dir, m) (List.mem_map_of_mem hm)
        obtain ⟨t₁, hfin, hroot, hrest⟩ := finishes_extractBundle hall
        have hnot : dir ∉ dirs := (List.nodup_cons.mp hnodup).1
        obtain ⟨t', hstop, hfile⟩ := ih (List.nodup_cons.mp hnodup).2
          (fun d hd => (hrest d (fun h => hnot (h ▸ hd))).trans (hb d (by simp [hd]))) hx
        exact ⟨t', .bind_right hfin hstop, hroot ▸ hfile⟩

theorem stops_extractBundle (hub : Hub) (dir : ImageDir) (t : DataDir) :
    Stops (extractBundle hub dir) t t := (stops_read _ t).bind_left

theorem placeSnapshotFile_fold_root (fs : List SnapshotFile) (t : DataDir) :
    (fs.foldl placeSnapshotFile t).root = t.root := by
  induction fs generalizing t with
  | nil => rfl
  | cons f fs ih => exact (ih _).trans (placeSnapshotFile_root t f)

/-- A file whose placement leaves the dataset as it is was in place. -/
theorem inPlace_of_view {s t : DataDir} {f : SnapshotFile} (hroot : t.root = s.root)
    (hview : (placeSnapshotFile t f).view = s.view) : InPlace s f := by
  cases f with
  | jsonl lines => exact (congrArg DatasetView.jsonl hview).symm
  | image dir name bytes =>
      have hfile := congrFun (congrArg DatasetView.files hview) (t.root.1 ++ dir.name :: name)
      rw [hroot] at hfile
      refine hfile.symm.trans ?_
      show Function.update t.files (t.root.1 ++ dir.name :: name) (some bytes) _ = _
      rw [hroot]
      exact Function.update_self ..
  | bundle dir name bytes => exact trivial

/-- When no stop of the download changes the dataset, the download is quiet. -/
theorem quiet_of_stops {hub : Hub} {repoId revision : String} {s : DataDir}
    (h : ∀ t, Stops (downloadDataset hub repoId revision) s t → t.view = s.view) :
    Quiet hub repoId revision s := by
  have hplace : ∀ fs : List SnapshotFile, ∀ f ∈ fs, ∀ t,
      Finishes (atomic (fun s => placeSnapshotFile s f) : Py Unit) t () (placeSnapshotFile t f) :=
    fun _ f _ t => finishes_atomic _ t
  have hround : ∀ xs ys, hub.snapshot repoId revision = xs ++ ys →
      (xs.foldl placeSnapshotFile (beginGeneration s)).view = s.view := by
    intro xs ys hxs
    refine h _ (.bind_right (finishes_atomic _ s) ?_)
    rw [hxs]
    exact stops_after_rounds (hplace xs) (fun f _ t => stops_atomic _ t)
      (fun t => (stops_extractBundle hub .images t).bind_left) _
  constructor
  · intro f hf
    obtain ⟨pre, post, hsplit⟩ := List.append_of_mem hf
    have hview := hround (pre ++ [f]) post (by simp [hsplit])
    rw [List.foldl_append] at hview
    have hroot : (pre.foldl placeSnapshotFile (beginGeneration s)).root = s.root :=
      placeSnapshotFile_fold_root pre _
    exact inPlace_of_view hroot hview
  · intro x hx
    have hplaced : Finishes (forEach (hub.snapshot repoId revision) fun file =>
        (atomic fun s => placeSnapshotFile s file : Py Unit)) (beginGeneration s) ()
        (snapshotPlaced hub repoId revision s) :=
      finishes_forEach (hplace _) _
    have hfile : ∀ n, s.files (s.root.1 ++ x.1) = some (x.2.take n) := by
      intro n
      have hdirs : imageDirs.Nodup := by decide
      obtain ⟨t', hstop, hfile⟩ := stops_at_member hdirs n (fun _ _ => rfl) hx
      have hview := h t' (.bind_right (finishes_atomic _ s) (.bind_right hplaced hstop))
      have hroot : (snapshotPlaced hub repoId revision s).root = s.root :=
        placeSnapshotFile_fold_root _ _
      rw [hroot] at hfile
      exact (congrFun (congrArg DatasetView.files hview) _).symm.trans hfile
    have hzero := hfile 0
    have hall := hfile x.2.length
    rw [List.take_zero] at hzero
    rw [List.take_length, hzero] at hall
    exact ⟨(Option.some.inj hall).symm, hzero⟩

/-! ## The condition is exact -/

theorem wp_downloadStage_harmless {hub : Hub} {args : BuildArgs} {s : DataDir}
    (h : DownloadHarmless hub args s) :
    wp (downloadStage hub args) (fun _ => Still s) (fun _ => Still s) (Still s) s := by
  have h0 : Still s s := ⟨rfl, rfl, rfl, rfl, rfl⟩
  unfold downloadStage
  cases hskip : args.skipDownload with
  | true => exact wp_pure h0
  | false =>
      refine wp_bind (wp_read (fun _ => h0) h0 fun revision hrev => ?_)
      rcases h with h | h
      · rw [hskip] at h
        cases h
      · exact wp_downloadDataset_quiet (h revision hrev)

/-- The download stage keeps what a download keeps. -/
theorem keeps_downloadStage_of {I : DataDir → Prop} {hub : Hub}
    (h : ∀ repoId revision, Keeps I (downloadDataset hub repoId revision)) (args : BuildArgs) :
    Keeps I (downloadStage hub args) := by
  unfold downloadStage
  split
  · exact keeps_pure ()
  · exact keeps_bind (keeps_read _) fun revision => h _ revision

theorem keeps_downloadStage (hub : Hub) (args : BuildArgs) (s : DataDir) :
    Keeps (SameArtifacts s) (downloadStage hub args) :=
  keeps_downloadStage_of (fun _ revision => keeps_downloadDataset hub _ revision s) args

theorem keeps_root_downloadStage (hub : Hub) (args : BuildArgs) (root : RootPath) :
    Keeps (fun t => t.root = root) (downloadStage hub args) :=
  keeps_downloadStage_of (keeps_download (fun _ h => h)
    (fun f t h => (placeSnapshotFile_root t f).trans h) (fun _ _ _ h => h) (fun _ _ h => h)
      hub) args

/-- **No mixed generation is launchable during data preparation, exactly when the download is
    harmless or nothing was launchable before.** -/
theorem mixed_generation_iff (sha256 : Digest) (hub : Hub) (pool : PoolRun) (args : BuildArgs)
    (s : DataDir) (hs : NoMixture sha256 s) :
    (∀ faults, Unfinished ((buildTrainsetMain hub pool args).run faults s) →
        NoMixture sha256 ((buildTrainsetMain hub pool args).run faults s).state) ↔
      DownloadHarmless hub args s ∨ ¬AgreeByHashes sha256 s := by
  constructor
  · intro h
    by_cases hagree : AgreeByHashes sha256 s
    swap
    · exact .inr hagree
    refine .inl ?_
    unfold DownloadHarmless
    cases hskip : args.skipDownload with
    | true => exact .inl rfl
    | false =>
        refine .inr fun revision hrev => quiet_of_stops fun t ht => ?_
        have hsame : SameArtifacts s t := by
          obtain ⟨faults, rest, hrun⟩ := ht
          have := wp.state
            (keeps_downloadDataset hub args.hfRepo revision s s ⟨rfl, rfl, rfl⟩) faults
          rw [hrun] at this
          exact this
        have hstop : Stops (buildTrainsetMain hub pool args) s t := by
          refine Stops.bind_left ?_
          unfold downloadStage
          rw [hskip]
          exact .bind_right (finishes_read hrev) ht
        obtain ⟨faults, hunfinished, rfl⟩ := hstop.unfinished
        have hmix := h faults hunfinished (hsame.agree.mpr hagree)
        have hone := hs hagree
        obtain ⟨_, parquet, priors, _, _, hq, hp, _⟩ := hagree
        have hbefore := (hone parquet priors hq hp).1
        have hafter := (hmix parquet priors (hsame.2.1.trans hq) (hsame.2.2.trans hp)).1
        exact hafter.symm.trans hbefore
  · rintro h faults -
    refine wp.state ?_ faults
    rcases h with h | h
    · have hstill : ∀ t, Still s t → NoMixture sha256 t := fun t ht => ht.noMixture hs
      have hguarded : ∀ t u, Still s t → Guarded sha256 t u → NoMixture sha256 u := by
        rintro t u ht (hu | hu)
        · exact hstill u (ht.trans hu)
        · exact fun ha => absurd ha hu
      refine wp_bind (wp_mono (wp_downloadStage_harmless h) ?_ (fun _ t => hstill t) hstill)
      exact fun _ t ht => wp_mono (wp_prepareStage sha256 pool t) (fun _ u hu ha => absurd ha hu)
        (fun _ u hu => hguarded t u ht hu) (fun u hu => hguarded t u ht hu)
    · have hno : ∀ t, SameArtifacts s t → NoMixture sha256 t :=
        fun t ht ha => absurd (ht.agree.mp ha) h
      have hguarded : ∀ t u, SameArtifacts s t → Guarded sha256 t u → NoMixture sha256 u := by
        rintro t u ht (hu | hu)
        · exact fun ha => absurd (ht.agree.mp (hu.artifacts.agree.mp ha)) h
        · exact fun ha => absurd ha hu
      refine wp_bind (wp_mono (keeps_downloadStage hub args s s ⟨rfl, rfl, rfl⟩) ?_
        (fun _ t => hno t) hno)
      exact fun _ t ht => wp_mono (wp_prepareStage sha256 pool t) (fun _ u hu ha => absurd ha hu)
        (fun _ u hu => hguarded t u ht hu) (fun u hu => hguarded t u ht hu)

/-! ## A launchable mixture -/

section Sample

def sampleRow (problem : String) : SourceRow where
  problem := some problem
  images := some [["images", "000000.png"]]
  teacherImages := some [["teacher_images", "000000.png"]]
  originalImages := some [["original_images", "000000.png"]]
  bbox := some [10, 10, 20, 20]
  answer := some "red"
  extraInfo := none

def sampleResult : ResultRecord where
  idx := 0
  ok := true
  reason := none
  generationVersion := some "2.0.0"
  generated := none

def sampleRecord : TrainRecord where
  dataSource := "zwz_rl_vqa_bbox_teacher"
  prompt := [("user", "<image>What color is the car?")]
  images := [["data", "images", "000000.png"]]
  bboxImages := [["data", "teacher_images", "000000.png"]]
  ability := "visual_question_answering"
  rewardStyle := "none"
  groundTruth := "red"
  answer := "red"
  question := "What color is the car?"
  sourceExtraInfo := []
  negBboxImages := [["data", "teacher_neg", "000000.png"]]

def sampleView : DatasetView where
  jsonl := some [.row (sampleRow "<image>What color is the car?")]
  files := fun path =>
    if path ∈ [["data", "images", "000000.png"], ["data", "teacher_images", "000000.png"],
      ["data", "original_images", "000000.png"]] then some [137, 80, 78, 71] else none
  teacherNeg := some (Finmap.singleton "000000.png" [137, 80])

def sampleOrigin : Origin where
  generation := 1
  view := sampleView
  modelPath := "models/qwen"
  modelRevision := none
  tokenizer := ⟨[("red", 0)], []⟩
  chatTemplate := "template"
  numShards := 1
  shard := 0

/-- A digest that tells the sample's files apart. -/
def sampleDigest : Digest
  | .manifest (.complete results) => "manifest of " ++ intText results.length
  | .manifest _ => "broken manifest"
  | .parquet (.complete records) => "parquet of " ++ intText records.length
  | .parquet _ => "broken parquet"
  | .dump lines => "dump of " ++ intText lines.length
  | .template text => "template " ++ text
  | .tokenizer p => "tokenizer of " ++ intText p.vocab.length
  | .bytes b => "image of " ++ intText b.length

variable (sha256 : Digest)

def sampleBlob : Priors where
  rate := [(0, 1 / 10)]
  tmpl := []
  info := {
    nSamples := some 1
    modelPath := some "models/qwen"
    modelRevision := none
    tokenizerNameOrPath := none
    tokenizerVocabSize := some 1
    tokenizerSha256 := some (sha256 (.tokenizer ⟨[("red", 0)], []⟩))
    chatTemplate := none
    chatTemplateSha256 := some (sha256 (.template "template"))
    generationResultsSha256 := some (sha256 (.manifest (.complete [sampleResult])))
    trainParquetSha256 := some (sha256 (.parquet (.complete [sampleRecord])))
    alpha := some 50
    base := some (1 / 10)
    tmplDfCut := some (1 / 4)
    rateCut := some (3 / 25)
    nRate := some 1
    nTmpl := some 0
    idMiss := some 0 }

def samplePriors : PriorsFile where
  content := .complete (sampleBlob sha256)
  source := [(0, sampleOrigin)]

def sampleRoot : RootPath := ⟨["data"], rfl⟩

/-- A prepared directory: one row, and priors built from it. -/
def sampleDir : DataDir :=
  { DataDir.empty sampleRoot with
    jsonl := sampleView.jsonl
    files := sampleView.files
    teacherNeg := sampleView.teacherNeg
    bundles := fun _ => some []
    manifest := some (.complete [sampleResult])
    parquet := some ⟨.complete [sampleRecord], 1, sampleView⟩
    priors := some (samplePriors sha256)
    generation := 1 }

theorem sampleDir_noMixture : NoMixture sha256 (sampleDir sha256) := by
  rintro - parquet priors hq hp
  cases hq
  cases hp
  refine ⟨rfl, fun x hx => ?_⟩
  rw [List.mem_singleton.mp hx]
  rfl

/-- A repository whose only change is the text of the question. -/
def sampleHub : Hub where
  snapshot _ _ := [.jsonl [.row (sampleRow "<image>What color is the bus?")]]
  members _ := []

def sampleArgs (skipDownload : Bool) : BuildArgs where
  hfRepo := defaultHfRepo
  hfRevision := some "main"
  skipDownload := skipDownload

end Sample

/-- A pool that renders the only row anew. -/
def otherPool : PoolRun := fun _ _ => [.staged (imageName 0) [137, 81], .result sampleResult]

/-- Without a download, the preparation of a prepared directory stops between the publication of
    the new negative views and that of their manifest. -/
def stoppedPreparation : Ran DataDir PyError Unit :=
  (buildTrainsetMain sampleHub otherPool (sampleArgs true)).run
    (List.replicate 14 .proceed ++ [.stop 0]) (sampleDir sampleDigest)

theorem mixed_generation_sample : stoppedPreparation.outcome = .stopped ∧
    stoppedPreparation.state.teacherNeg.bind (·.lookup "000000.png") = some [137, 81] ∧
    NoMixture sampleDigest stoppedPreparation.state := by
  have hstopped : stoppedPreparation.outcome = .stopped := by decide +kernel
  refine ⟨hstopped, by decide +kernel, ?_⟩
  refine (mixed_generation_iff sampleDigest sampleHub otherPool (sampleArgs true)
    (sampleDir sampleDigest) (sampleDir_noMixture _)).mpr (.inl (.inl rfl)) _ ?_
  intro out hout
  cases hstopped.symm.trans hout

/-- A run of main that stops right after the hub has put a new trainset_clean.jsonl in place. -/
theorem mixed_generation_launchable : ¬∃ sha256 : Digest, ∀ hub pool args s faults,
    NoMixture sha256 s → Unfinished ((buildTrainsetMain hub pool args).run faults s) →
      NoMixture sha256 ((buildTrainsetMain hub pool args).run faults s).state := by
  rintro ⟨sha256, h⟩
  have hrun : (buildTrainsetMain sampleHub (fun _ _ => []) (sampleArgs false)).run
      [.proceed, .proceed, .proceed, .stop 0] (sampleDir sha256) =
      ⟨.stopped, [], { sampleDir sha256 with
        jsonl := some [.row (sampleRow "<image>What color is the bus?")], generation := 2 }⟩ := rfl
  have hmix := h sampleHub (fun _ _ => []) (sampleArgs false) (sampleDir sha256)
    [.proceed, .proceed, .proceed, .stop 0] (sampleDir_noMixture sha256)
    (by rw [hrun]; exact fun _ ha => nomatch ha)
  rw [hrun] at hmix
  have hview := (hmix ⟨_, _, _, _, rfl, rfl, rfl, rfl, rfl, rfl⟩ _ _ rfl rfl).1
  have hne : sampleView.jsonl ≠ some [.row (sampleRow "<image>What color is the bus?")] := by decide
  exact hne (congrArg DatasetView.jsonl hview)

end LookAway.Data
