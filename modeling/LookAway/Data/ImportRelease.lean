/-
  import_crop_release.py as a script over the data directory.

  trainset_clean.jsonl is written through one open stream: what a killed process leaves of it is
  any first part of the lines written so far (`flushed`); an exception closes the stream and
  leaves them all.
-/
import Mathlib.Data.Nat.Pairing
import LookAway.Data.Launch
import LookAway.Data.BuildTrainset

namespace LookAway.Data

open LookAway.Base LookAway.Base.Script

/-! ## The release -/

/-- A row of the published release. -/
structure ReleaseRow where
  sampleId : ℤ
  question : String
  answer : String
  legacyQualityLabel : Option String
  sourceBbox : List PyNumber
  negativeBbox : List PyNumber
  negativeCropWindow : List ℤ
  originalSize : List ℤ
  outputSize : List ℤ
  targetBboxInCrop : List PyNumber
  bboxIou : PyNumber
  positiveSha256 : Option String
  negativeSha256 : Option String
  sharedFrameMaskSha256 : Option String
  generationVersion : Option String

/-- What the importer is given: the tables of the release shards in the order of their sorted
    names, the images of the source workspace, and the labels to keep. -/
structure ImportArgs where
  snapshot : String
  shards : List (List ReleaseRow)
  sourceImages : Path → Option Bytes
  qualityLabels : String

def loadReleaseRows (args : ImportArgs) : Except PyError (List ReleaseRow) :=
  if args.shards = [] then
    .error (.systemExit ("No parquet shards under " ++ args.snapshot ++
      "/data -- not a release snapshot?"))
  else .ok (args.shards.flatten.mergeSort fun a b => decide (a.sampleId ≤ b.sampleId))

/-- The labels of a comma-separated list. -/
def allowedLabels (labels : String) : List String :=
  ((labels.toList.splitOn ',').map fun label => strip (String.ofList label)).filter (· ≠ "")

def filterRows (rows : List ReleaseRow) (labels : String) : Except PyError (List ReleaseRow) :=
  let allowed := allowedLabels labels
  let kept := rows.filter fun row => row.legacyQualityLabel.any allowed.contains
  if kept.isEmpty then
    let names := (allowed.dedup.mergeSort fun a b => decide (a ≤ b)).map Json.quote
    .error (.systemExit ("No rows with legacy quality label in [" ++ ", ".intercalate names ++ "]"))
  else .ok kept

def makeJsonlRow (row : ReleaseRow) : SourceRow where
  problem := some ("<image>\n" ++ row.question)
  images := some [["images", imageName row.sampleId]]
  teacherImages := some [["teacher_images", imageName row.sampleId]]
  originalImages := none
  bbox := none
  answer := some row.answer
  extraInfo := some [("answer", row.answer), ("question", row.question)]

def makeResultRow (row : ReleaseRow) (newIdx : ℕ) : ResultRecord where
  idx := newIdx
  ok := true
  reason := none
  generationVersion := row.generationVersion
  generated := some {
    gtBbox := row.sourceBbox
    negBbox := row.negativeBbox
    iou := row.bboxIou
    cropSize := row.outputSize
    negativeCropWindow := row.negativeCropWindow
    originalSize := row.originalSize
    targetBboxInCrop := row.targetBboxInCrop
    positiveSha256 := row.positiveSha256
    negativeSha256 := row.negativeSha256
    sharedFrameMaskSha256 := row.sharedFrameMaskSha256
    resampling := none
    renderer := none
    geometry := none
    alignmentVerified := some true }

/-! ## Copies -/

/-- What reaches the file when a process is killed after writing `lines` to an open stream: the
    first lines, and perhaps part of the next. -/
def flushed (n : ℕ) (lines : List JsonlLine) : List JsonlLine :=
  lines.take (n / 2) ++ if n % 2 = 1 ∧ n / 2 < lines.length then [.malformed] else []

/-- The directory a process leaves that is killed while trainset_clean.jsonl is open. -/
def killed (n : ℕ) (s : DataDir) : DataDir := { s with jsonl := s.jsonl.map (flushed n) }

/-- A step while trainset_clean.jsonl is open. -/
def streaming {α : Type} (f : DataDir → Except PyError (α × DataDir))
    (torn : ℕ → DataDir → DataDir) : Py α :=
  act f torn fun n s => killed n.unpair.2 (torn n.unpair.1 s)

/-- Where a copy goes: an image directory keyed by path, or teacher_neg/. -/
inductive Destination where
  | image (dir : ImageDir) (name : String)
  | negative (name : String)
  deriving DecidableEq

/-- `os.makedirs(os.path.dirname(dst), exist_ok=True)`. -/
def Destination.makeDir : Destination → DataDir → DataDir
  | .image _ _, s => s
  | .negative _, s => { s with teacherNeg := some (s.teacherNeg.getD ∅) }

def Destination.put (bytes : Bytes) : Destination → DataDir → DataDir
  | .image dir name, s => setFile (s.root.1 ++ [dir.name, name]) bytes s
  | .negative name, s => { s with teacherNeg := s.teacherNeg.map (·.insert name bytes) }

def Destination.get (s : DataDir) : Destination → Option Bytes
  | .image dir name => s.files (s.root.1 ++ [dir.name, name])
  | .negative name => s.teacherNeg.bind (·.lookup name)

def hashMismatch (label src expected actual : String) : PyError :=
  .systemExit (label ++ " hash mismatch for " ++ src ++ ": release says " ++ expected ++
    ", file is " ++ actual)

section Import

variable (sha256 : Digest)

/-- `copy_verified`: the copy is checked after it has been made. -/
def copyVerified (args : ImportArgs) (src : Path) (dst : Destination) (expected : Option String)
    (label : String) : Py Unit := do
  streaming (fun s => .ok ((), dst.makeDir s)) (fun _ s => s)
  let bytes ← streaming (fun s => (openFile src.text (args.sourceImages src)).map fun b => (b, s))
    (fun _ s => s)
  streaming (fun s => .ok ((), dst.put bytes s)) (fun n s => dst.put (bytes.take n) s)
  match expected with
  | none => pure ()
  | some digest =>
      streaming (fun s => do
          let copy ← openFile src.text (dst.get s)
          let actual := sha256 (.bytes copy)
          if actual = digest then .ok ((), s)
          else .error (hashMismatch label src.text digest actual))
        (fun _ s => s)

def appendLine (row : SourceRow) (s : DataDir) : DataDir :=
  { s with jsonl := s.jsonl.map (· ++ [.row row]) }

/-- One round of the loop over the kept rows. -/
def importRow (args : ImportArgs) (entry : ReleaseRow × ℕ) : Py Unit := do
  let row := entry.1
  let name := imageName row.sampleId
  streaming (fun s => .ok ((), appendLine (makeJsonlRow row) s)) (fun _ s => s)
  copyVerified sha256 args ["student", name] (.image .images name) none "student image"
  copyVerified sha256 args ["teacher_pos", name] (.image .teacherImages name) row.positiveSha256
    "positive crop"
  copyVerified sha256 args ["teacher_neg", name] (.negative (imageName entry.2)) row.negativeSha256
    "negative crop"

/-- The rows the import keeps. -/
def keptRows (args : ImportArgs) : Except PyError (List ReleaseRow) := do
  let rows ← loadReleaseRows args
  filterRows rows args.qualityLabels

/-- The manifest of the kept rows, renumbered. -/
def importResults (rows : List ReleaseRow) : List ResultRecord :=
  rows.zipIdx.map fun entry => makeResultRow entry.1 entry.2

/-- The manifest, written in place, and the parquet. -/
def publishImport (results : List ResultRecord) : Py Unit := do
  atomic fun s => { s with manifest := some (.cut results 0) }
  write (fun s => { s with manifest := some (.complete results) })
    (fun n s => { s with manifest := some (.cut results n) })
  convertToParquet results

def importMain (args : ImportArgs) : Py Unit := do
  let rows ← read fun _ => keptRows args
  atomic fun s => { s with jsonl := some [] }
  forEach rows.zipIdx (importRow sha256 args)
  publishImport (importResults rows)

end Import

end LookAway.Data
