/-
  build_trainset.py as scripts over the data directory: the download, the generation of the
  negative views, the publication of a new dataset and the conversion to parquet.

  What snapshot_download ships, what an archive holds and what the worker pool does are
  parameters. An effect that the file system applies at once is `atomic`; a file that is written
  in place is `write`, and a write that is cut short leaves the first part of the content.
-/
import Mathlib.Data.Finset.Sort
import Mathlib.Data.String.Basic
import LookAway.Base.WorkPool
import LookAway.Data.Dir

namespace LookAway.Data

open LookAway.Base LookAway.Base.Script

/-! ## Atomic writes -/

/-- The `finally` of an atomic write: remove the temporary file if it is still there. -/
def removeTemp : Py Unit := atomic fun s => { s with temp := false }

/-- `write_json_atomic`, where `replace` puts the document under its name. -/
def writeJsonAtomic (replace : DataDir → DataDir) : Py Unit :=
  tryFinally
    (do
      atomic fun s => { s with temp := true }
      atomic id
      atomic fun s => replace { s with temp := false })
    removeTemp

/-! ## Stale artifacts -/

/-! `if os.path.exists(path): os.replace(path, f"{path}.stale")`, for each artifact. -/

def markParquetStale (s : DataDir) : DataDir :=
  { s with parquet := none, parquetStale := s.parquet <|> s.parquetStale }

def markPriorsStale (s : DataDir) : DataDir :=
  { s with priors := none, priorsStale := s.priors <|> s.priorsStale }

def markManifestStale (s : DataDir) : DataDir :=
  { s with manifest := none, manifestStale := s.manifest <|> s.manifestStale }

def markFreqCountsStale (s : DataDir) : DataDir :=
  { s with freqCounts := none, freqCountsStale := s.freqCounts <|> s.freqCountsStale }

/-- The run begins to replace the dataset. -/
def beginGeneration (s : DataDir) : DataDir := { s with generation := s.generation + 1 }

/-- Keep stale artifacts recoverable but impossible to launch accidentally. -/
def invalidateTrainingArtifacts : Py Unit := do
  atomic fun s => markParquetStale (beginGeneration s)
  atomic markPriorsStale
  atomic markManifestStale

/-! ## Negative views -/

/-- What the worker pool does, in order: a worker saves an image in the staging directory, or the
    pool hands a result to the main process. -/
abbrev PoolEvent := WorkPool.Event String Bytes ResultRecord

/-- The pool on the rows and the images the workers see. -/
abbrev PoolRun := List SourceRow → (Path → Option Bytes) → List PoolEvent

def readRows (s : DataDir) : Except PyError (List SourceRow) :=
  match s.jsonl with
  | none => .error (.fileNotFound "trainset_clean.jsonl")
  | some lines => lines.mapM loadsLine

/-- The loop over `pool.imap_unordered`. -/
def collectResults : List PoolEvent → List ResultRecord → Py (List ResultRecord)
  | [], results => pure results
  | .staged name bytes :: events, results => do
      write (fun s => { s with staging := s.staging.map (·.insert name bytes) })
        (fun n s => { s with staging := s.staging.map (·.insert name (bytes.take n)) })
      collectResults events results
  | .result r :: events, results => do
      atomic id
      collectResults events (results ++ [r])

/-- `results.sort(key=lambda r: r["idx"])`. -/
def sortResults (results : List ResultRecord) : List ResultRecord :=
  results.mergeSort fun a b => decide (a.idx ≤ b.idx)

/-- The files a complete run stages. -/
def expectedFiles (n : ℕ) : Finset String := (Finset.range n).image fun i : ℕ => imageName i

def writeFailedResults (results : List ResultRecord) : Py Unit :=
  writeJsonAtomic fun s => { s with resultsFailed := some (.complete results) }

def incompleteGeneration : PyError :=
  .runtimeError "Negative generation incomplete; inspect results.failed.json before retrying"

/-- The text lists at most five missing and five extra files. -/
def incompleteImageSet (missing extra : Finset String) : PyError :=
  let names (files : Finset String) :=
    ", ".intercalate (((files.sort (· ≤ ·)).take 5).map Json.quote)
  .runtimeError ("Negative image set is incomplete: missing=[" ++ names missing ++ "], extra=["
    ++ names extra ++ "]")

def stagedFiles (s : DataDir) : Finset String := (s.staging.getD ∅).keys

/-- The part of generate_negative_views that comes before the invalidation: run the pool into
    the staging directory and check that every row succeeded and every file is there. -/
def checkedResults (rows : List SourceRow) (pool : PoolRun) : Py (List ResultRecord) := do
  let events ← read fun s => .ok (pool rows s.image?)
  let collected ← collectResults events []
  let results := sortResults collected
  if CompleteResults results rows.length then
    let actualFiles ← read fun s => .ok (stagedFiles s)
    let expected := expectedFiles rows.length
    if actualFiles = expected then
      pure results
    else do
      writeFailedResults results
      raise (incompleteImageSet (expected \ actualFiles) (actualFiles \ expected))
  else do
    writeFailedResults results
    raise incompleteGeneration

/-- `os.replace(staging_dir, target_dir)`. -/
def moveStaging : Py Unit :=
  act (fun s => match s.staging with
      | none => .error (.fileNotFound ".teacher_neg")
      | some new => .ok ((), { s with teacherNeg := some new, staging := none }))
    (fun _ s => s) (fun _ s => s)

/-- mkdtemp, rmdir and the rename of the old set. -/
def moveTargetAway : Py Unit := do
  atomic fun s => { s with backup := some ∅ }
  atomic fun s => { s with backup := none }
  atomic fun s => { s with backup := s.teacherNeg, teacherNeg := none }

/-- The handler of a failed rename: put the old set back. -/
def restoreBackup (e : PyError) : Py Unit := do
  atomic fun s => { s with teacherNeg := s.backup, backup := none }
  raise e

/-- `shutil.rmtree(backup_dir)`; what it leaves when it is cut short is read by nothing. -/
def removeBackup : Py Unit := write (fun s => { s with backup := none }) (fun _ s => s)

def publishNegativeViews : Py Unit := do
  let hasTarget ← read fun s => .ok s.teacherNeg.isSome
  if hasTarget then do
    moveTargetAway
    tryExcept moveStaging PyError.isException restoreBackup
    removeBackup
  else
    tryExcept moveStaging PyError.isException raise

/-- `shutil.rmtree(staging_dir, ignore_errors=True)`. -/
def discardStaging : Py Unit :=
  tryExcept (write (fun s => { s with staging := none }) fun _ s => s) PyError.isException
    fun _ => pure ()

def writeManifest (results : List ResultRecord) : Py Unit :=
  writeJsonAtomic fun s => { s with manifest := some (.complete results) }

/-- From the invalidation to the end of generate_negative_views. -/
def publishResults (results : List ResultRecord) : Py (List ResultRecord) := do
  invalidateTrainingArtifacts
  publishNegativeViews
  writeManifest results
  atomic fun s => { s with resultsFailed := none }
  return results

/-- Read the rows and make the staging directory. -/
def startStaging : Py (List SourceRow) := do
  let rows ← read readRows
  if rows = [] then
    raise (.valueError "trainset_clean.jsonl is empty")
  else do
    atomic fun s => { s with staging := some ∅ }
    return rows

def generateNegativeViews (pool : PoolRun) : Py (List ResultRecord) := do
  let rows ← startStaging
  tryFinally (do
      let results ← checkedResults rows pool
      publishResults results)
    discardStaging

/-! ## Parquet -/

def convertToParquet (results : List ResultRecord) : Py Unit := do
  let records ← read fun s =>
    match s.jsonl with
    | none => .error (.systemExit "1")
    | some lines => parquetRecords s.root.1 lines results
  tryFinally
    (do
      atomic fun s => { s with temp := true }
      atomic fun s => { s with
        temp := false
        parquet := some ⟨.complete records, s.generation, s.view⟩ })
    removeTemp

/-! ## Download -/

def defaultHfRepo : String := "yuanqianhao/Vision-OPD-6K"
def defaultHfRevision : String := "eb5c1c2e7b9a7b6a619efe4161c7369c71bf8af4"

def resolveDatasetRevision (repoId : String) (revision : Option String) : Except PyError String :=
  match revision with
  | some r => if r ≠ "" then .ok r else fallback
  | none => fallback
where
  fallback : Except PyError String :=
    if repoId = defaultHfRepo then .ok defaultHfRevision
    else .error (.valueError "--hf-revision is required for a non-default dataset repository")

/-- A file of the dataset repository, of the kinds that are read later: the rows, an image, a part
    of an archive. Files of other kinds (a readme, a parquet or priors of the publisher) are left
    out. snapshot_download moves each into place whole. -/
inductive SnapshotFile where
  | jsonl (lines : List JsonlLine)
  | image (dir : ImageDir) (name : Path) (bytes : Bytes)
  | bundle (dir : ImageDir) (name : String) (bytes : Bytes)

/-- A member of an archive, as extract_tar_parts meets it: a regular file, or one it rejects. -/
inductive Member where
  | file (name : Path) (bytes : Bytes)
  | rejected (text : String)

/-- The hub and the archive format: the files of a repository at a revision, in the order they
    arrive, and the members in the concatenation of some archive parts. -/
structure Hub where
  snapshot : String → String → List SnapshotFile
  members : List Bytes → List Member

def setFile (path : Path) (bytes : Bytes) (s : DataDir) : DataDir :=
  { s with files := Function.update s.files path (some bytes) }

def placeSnapshotFile (s : DataDir) : SnapshotFile → DataDir
  | .jsonl lines => { s with jsonl := some lines }
  | .image dir name bytes =>
      setFile (s.root.1 ++ dir.name :: name) bytes
        { s with bundles := Function.update s.bundles dir (some ((s.bundles dir).getD [])) }
  | .bundle dir name bytes =>
      { s with
        bundles := Function.update s.bundles dir
          (some (((s.bundles dir).getD []).filter (·.1 ≠ name) ++ [(name, bytes)])) }

def bundlePrefix (dir : ImageDir) : String := dir.name ++ ".tar.gz"

/-- `sorted(f for f in os.listdir(d) if f.startswith(prefix))`, with the content of each part. -/
def archiveParts (dir : ImageDir) (entries : List (String × Bytes)) : List (String × Bytes) :=
  (entries.filter fun e => (bundlePrefix dir).toList.isPrefixOf e.1.toList).mergeSort
    fun a b => decide (a.1 ≤ b.1)

def extractMember (root : Path) (dir : ImageDir) : Member → Py Unit
  | .file name bytes =>
      write (setFile (root ++ dir.name :: name) bytes)
        (fun n => setFile (root ++ dir.name :: name) (bytes.take n))
  | .rejected text => raise (.valueError text)

def removeBundle (dir : ImageDir) (name : String) : Py Unit :=
  atomic fun s => { s with
    bundles := Function.update s.bundles dir ((s.bundles dir).map (·.filter (·.1 ≠ name))) }

/-- One round of the loop over the image bundles. -/
def extractBundle (hub : Hub) (dir : ImageDir) : Py Unit := do
  let found ← read fun s => .ok (s.root.1, s.bundles dir)
  match found.2 with
  | none => pure ()
  | some entries =>
      let tars := archiveParts dir entries
      forEach (hub.members (tars.map (·.2))) (extractMember found.1 dir)
      forEach tars fun part => removeBundle dir part.1

def downloadDataset (hub : Hub) (repoId revision : String) : Py Unit := do
  atomic beginGeneration
  forEach (hub.snapshot repoId revision) fun file => atomic fun s => placeSnapshotFile s file
  forEach [.images, .teacherImages, .originalImages] (extractBundle hub)

/-! ## main -/

structure BuildArgs where
  hfRepo : String
  hfRevision : Option String
  skipDownload : Bool

def downloadStage (hub : Hub) (args : BuildArgs) : Py Unit :=
  if args.skipDownload then pure ()
  else do
    let revision ← read fun _ => resolveDatasetRevision args.hfRepo args.hfRevision
    downloadDataset hub args.hfRepo revision

/-- What main does after the download. -/
def prepareStage (pool : PoolRun) : Py Unit := do
  let results ← generateNegativeViews pool
  convertToParquet results
  -- The training data just changed: derived artifacts are now stale.
  atomic markPriorsStale
  atomic markFreqCountsStale

def buildTrainsetMain (hub : Hub) (pool : PoolRun) (args : BuildArgs) : Py Unit := do
  downloadStage hub args
  prepareStage pool

end LookAway.Data
