/-
  The workers of generate_negative_views: what one row's worker computes, and the orders in which
  the pool can hand its work over.
-/
import LookAway.Data.BuildTrainset
import LookAway.Data.Geometry
import LookAway.Data.Launch

namespace LookAway.Data

open LookAway.Base

/-! ## One row -/

/-- What `_worker` holds when it has rendered the negative. -/
structure Rendered where
  srcPositive : Path
  gt : List PyNumber
  target : Box PyNumber
  originalSize : ℤ × ℤ
  officialSize : ℤ × ℤ
  geometry : CropGeometry
  negativeWindow : Box ℤ
  negativeBbox : Box PyNumber
  bytes : Bytes

section Row

variable {ρ : Type} (sha256 : Digest) (im : Imaging ρ) (root : Path) (image? : Path → Option Bytes)

/-- `_worker(i)` up to `negative.save`. -/
def renderNegative (row : SourceRow) (i : ℕ) : Except PyError Rendered := do
  let srcPositive ← safeDatasetPath root (← first "teacher_images" row.teacherImages)
  let originalPath ← safeDatasetPath root (← first "original_images" row.originalImages)
  let original ← im.decode (← openFile originalPath.text (image? originalPath))
  let official ← im.decode (← openFile srcPositive.text (image? srcPositive))
  let gt ← require "bbox" row.bbox
  let geometry ← recoverGeometry im original official gt
  let reconstructed ← renderTeacher im original geometry.positiveCropWindow geometry
  if reconstructed.rows ≠ official.rows then
    .error (.valueError "Official positive reconstruction is not pixel-exact")
  else do
    let target ← gtBox gt
    let sampled ← sampleNegativeWindow im target.evaluated geometry.positiveCropWindow
      (original.width, original.height) (im.random (9000 + i))
    let negativeBbox ← sampled.2.values
    let negative ← renderTeacher im original sampled.1 geometry
    let bytes ← im.encode negative
    return {
      srcPositive := srcPositive
      gt := gt
      target := target
      originalSize := (original.width, original.height)
      officialSize := (official.width, official.height)
      geometry := geometry
      negativeWindow := sampled.1
      negativeBbox := negativeBbox
      bytes := bytes }

/-- The rest of `_worker(i)`: `stored` is what it reads back from the file it has saved. -/
def reportNegative (r : Rendered) (i : ℕ) (stored : Option Bytes) :
    Except PyError ResultRecord := do
  let frame ← im.frameMask r.geometry.sourceCropSize r.geometry.frameBoxInCrop r.officialSize
  let positive ← openFile r.srcPositive.text (image? r.srcPositive)
  let negative ← openFile (imageName i) stored
  let shown ← iou r.negativeBbox.evaluated r.target.evaluated
  let inCrop ← (r.target.evaluated.relativeTo r.geometry.positiveCropWindow).values
  return {
    idx := i
    ok := true
    reason := none
    generationVersion := some "2.0.0"
    generated := some {
      gtBbox := r.gt
      negBbox := r.negativeBbox.toList
      iou := shown
      cropSize := [r.officialSize.1, r.officialSize.2]
      negativeCropWindow := r.negativeWindow.toList
      originalSize := [r.originalSize.1, r.originalSize.2]
      targetBboxInCrop := inCrop.toList
      positiveSha256 := some (sha256 (.bytes positive))
      negativeSha256 := some (sha256 (.bytes negative))
      sharedFrameMaskSha256 := some (sha256 (.bytes frame))
      resampling := some "PIL.LANCZOS"
      renderer := some "PIL.ImageDraw.rectangle"
      geometry := some r.geometry.toRecord
      alignmentVerified := none } }

/-- The record of a row whose worker raised. -/
def failedResult (i : ℕ) (e : PyError) : ResultRecord where
  idx := i
  ok := false
  reason := some ("exc:" ++ e.typeName ++ ":" ++ String.ofList (e.text.toList.take 180))
  generationVersion := none
  generated := none

/-- What `_worker(i)` returns: the record, or that of the exception. -/
def returned (i : ℕ) : Except PyError ResultRecord → ResultRecord
  | .ok result => result
  | .error e => failedResult i e

/-- The first part of `_worker(i)`, for any index. -/
def startRow (rows : List SourceRow) (i : ℕ) : Except PyError Rendered := do
  let row ← (rows[i]?).elim (.error .indexError) .ok
  renderNegative im root image? row i

/-- `_worker` as a job of the pool: it saves its image under the name of its row. -/
def negativeJob (rows : List SourceRow) : WorkPool.Job ℕ String Bytes Rendered ResultRecord where
  key i := imageName i
  start i := ((startRow im root image? rows i).map fun r => (r.bytes, r)).mapError (failedResult i)
  finish i r stored := returned i (reportNegative sha256 im image? r i stored)

/-! ## Schedules -/

/-- `pool.imap_unordered(_worker, range(len(rows)), chunksize=16)`, on a pool of some number of
    processes, can save images and hand results over in this order. -/
def Schedules (rows : List SourceRow) (events : List PoolEvent) : Prop :=
  ∃ nproc q, WorkPool.Runs (negativeJob sha256 im root image? rows)
    (.start nproc (WorkPool.chunks 16 (List.range rows.length))) events q ∧ q.Finished

end Row

/-- A pool whose runs are runs of `_worker`. -/
def Scheduled {ρ : Type} (sha256 : Digest) (im : Imaging ρ) (root : Path) (pool : PoolRun) : Prop :=
  ∀ rows image?, Schedules sha256 im root image? rows (pool rows image?)

end LookAway.Data
