/-
  The geometry of the teacher views in build_trainset.py: recover_geometry, recover_difficult,
  render_teacher and sample_negative_window.
-/
import LookAway.Data.Imaging

namespace LookAway.Data

open LookAway.Base

/-! ## Boxes -/

/-- The coordinates of a box, as the operands of expressions. -/
def Box.evaluated (b : Box PyNumber) : Box Evaluated := b.map .ok

/-- `[x1, y1, x2, y2]`, each an expression. -/
def Box.values (b : Box Evaluated) : Except PyError (Box PyNumber) := do
  let left ← b.left
  let top ← b.top
  let right ← b.right
  let bottom ← b.bottom
  return ⟨left, top, right, bottom⟩

section Coordinates

variable {α : Type} [Coordinate α]

def iou (a b : Box α) : α :=
  let ix0 := max a.left b.left
  let iy0 := max a.top b.top
  let ix1 := min a.right b.right
  let iy1 := min a.bottom b.bottom
  let inter := max ((0 : ℤ) : α) (ix1 - ix0) * max ((0 : ℤ) : α) (iy1 - iy0)
  let ua := (a.right - a.left) * (a.bottom - a.top) + (b.right - b.left) * (b.bottom - b.top) -
    inter
  Coordinate.ifTruthy ua (inter / ua) (Coordinate.literal 0)

/-- The box, seen from the corner of a window. -/
def Box.relativeTo (b : Box α) (window : Box ℤ) : Box α :=
  ⟨b.left - (window.left : α), b.top - (window.top : α), b.right - (window.left : α),
    b.bottom - (window.top : α)⟩

end Coordinates

/-- `gt[0]`, `gt[1]`, `gt[2]`, `gt[3]`. -/
def gtBox (gt : List PyNumber) : Except PyError (Box PyNumber) := do
  let left ← item gt 0
  let top ← item gt 1
  let right ← item gt 2
  let bottom ← item gt 3
  return ⟨left, top, right, bottom⟩

/-- What recover_geometry finds: the positive crop, the frame in it and the size of the output. -/
structure CropGeometry where
  positiveCropWindow : Box ℤ
  frameBoxInCrop : Box ℤ
  sourceCropSize : ℤ × ℤ
  outputSize : ℤ × ℤ
  deriving DecidableEq

def CropGeometry.toRecord (g : CropGeometry) : Geometry where
  positiveCropWindow := g.positiveCropWindow.toList
  frameBoxInCrop := g.frameBoxInCrop.toList
  sourceCropSize := [g.sourceCropSize.1, g.sourceCropSize.2]
  outputSize := [g.outputSize.1, g.outputSize.2]
  resizeScale := [2, 2]
  frameWidth := frameWidth
  reconstructionExact := true

/-- The geometry of a crop at `(ox, oy)` with this frame. -/
def cropGeometry (official : Image) (ox oy : ℤ) (box : Box ℤ) : CropGeometry :=
  let cw := official.width / 2
  let ch := official.height / 2
  { positiveCropWindow := ⟨ox, oy, ox + cw, oy + ch⟩
    frameBoxInCrop := box
    sourceCropSize := (cw, ch)
    outputSize := (official.width, official.height) }

/-! ## Red pixels -/

def Rgb.isRed (p : Rgb) : Bool :=
  decide (245 < p.red) && decide (p.green < 25) && decide (p.blue < 25)

/-- Red dominates both other channels. -/
def Rgb.isStrong (p : Rgb) : Bool :=
  decide (3 * p.green < 2 * p.red) && decide (3 * p.blue < 2 * p.red) && decide (150 < p.red)

def countTrue (xs : List Bool) : ℕ := xs.count true

/-- `mask.sum(0)`. -/
def columnSums (mask : List (List Bool)) (width : ℕ) : List ℕ :=
  (List.range width).map fun x => countTrue (mask.map fun row => row.getD x false)

/-- `mask.sum(1)`. -/
def rowSums (mask : List (List Bool)) : List ℕ := mask.map countTrue

/-- The indices of the large values, in runs of neighbours. -/
def projectBands (values : List ℕ) : Except PyError (List (List ℕ)) :=
  match values.max? with
  | none => .error (.valueError
      "zero-size array to reduction operation maximum which has no identity")
  | some top =>
      let indices := (List.range values.length).filter fun k =>
        decide (13 * top ≤ 20 * values.getD k 0)
      .ok (indices.splitBy fun a b => decide (b ≤ a + 1))

/-- `int(xb[0][0])` and `int(xb[-1][-1])`. -/
def bandEnds (bands : List (List ℕ)) : ℕ × ℕ :=
  (((bands.head?.getD []).head?).getD 0, ((bands.getLast?.getD []).getLast?).getD 0)

/-! ## Recovery -/

section Recovery

variable {ρ : Type} (im : Imaging ρ) (original official : Image)

/-- The crop window, centred on the target and inside the image. -/
def windowStart (cw ch : ℕ) (target : Box PyNumber) : Except PyError (ℤ × ℤ) := do
  let g := target.evaluated
  let x ← Evaluated.toInt ((g.left + g.right - ((cw : ℤ) : Evaluated)) / ((2 : ℤ) : Evaluated))
  let y ← Evaluated.toInt ((g.top + g.bottom - ((ch : ℤ) : Evaluated)) / ((2 : ℤ) : Evaluated))
  return (max 0 (min (original.width - cw : ℤ) x), max 0 (min (original.height - ch : ℤ) y))

/-- Draw the frame on the crop, resize it, and compare it with the official view. -/
def rebuildsOfficial (crop : Image) (box : Box ℤ) : Except PyError Bool := do
  let drawn ← im.rectangle crop box
  let resized ← im.lanczos drawn (official.width, official.height)
  return resized.rows == official.rows

/-- The frames that recover_difficult tries for a crop at `(ox, oy)`. -/
def difficultBoxes (target : Box PyNumber) (ox oy : ℤ) : Except PyError (List (Box ℤ)) := do
  let g := target.evaluated
  let bw : Evaluated := .ok (← g.right - g.left)
  let bh : Evaluated := .ok (← g.bottom - g.top)
  let part : Evaluated := Coordinate.literal (1 / 20)
  let left ← Evaluated.toInt (g.left - bw * part)
  let top ← Evaluated.toInt (g.top - bh * part)
  let right ← Evaluated.toInt (g.right + bw * part)
  let bottom ← Evaluated.toInt (g.bottom + bh * part)
  let around (v : ℤ) : List ℤ := [v, v + 1, v - 1, v + 2, v - 2]
  return boxes ⟨around (left - ox), around (top - oy), around (right - ox), around (bottom - oy)⟩

/-- The offsets of recover_difficult that stay in the image. -/
def difficultOffsets (start size crop : ℤ) : List ℤ :=
  ([0, 1, -1, 2, -2].map (start + ·)).filter fun v => decide (0 ≤ v) && decide (v ≤ size - crop)

def recoverDifficult (gt : List PyNumber) : Except PyError CropGeometry := do
  let cw := official.width / 2
  let ch := official.height / 2
  let g ← gtBox gt
  let start ← windowStart original cw ch g
  let found ← firstResult (fun o : ℤ × ℤ => do
      let crop ← im.crop original ⟨o.1, o.2, o.1 + cw, o.2 + ch⟩
      let options ← difficultBoxes g o.1 o.2
      firstResult (fun box => do
          if box.right < box.left ∨ box.bottom < box.top then return none
          else do
            let exact ← rebuildsOfficial im official crop box
            return if exact then some (cropGeometry official o.1 o.2 box) else none)
        options)
    (pairs (difficultOffsets start.1 original.width cw)
      (difficultOffsets start.2 original.height ch))
  match found with
  | some geometry => return geometry
  | none => .error (.valueError "No exact transform found for difficult sample")

/-- The frame that the bands of red pixels show. -/
def bandBox (xb yb : List (List ℕ)) : Box ℤ :=
  let x := bandEnds xb
  let y := bandEnds yb
  ⟨x.1 / 2, y.1 / 2,
    if x.2 + 1 = official.width then (official.width / 2 : ℕ) else x.2 / 2,
    if y.2 + 1 = official.height then (official.height / 2 : ℕ) else y.2 / 2⟩

/-- Natural red content can move a threshold edge by one pixel. -/
def correctedBoxes (box : Box ℤ) : List (Box ℤ) :=
  let around (v : ℤ) : List ℤ := [v, v - 1, v + 1]
  boxes ⟨around box.left, around box.top, around box.right, around box.bottom⟩

/-- recover_geometry, from a crop that a template match has placed at `(ox, oy)`. -/
def recoverAt (gt : List PyNumber) (box : Box ℤ) (ox oy : ℤ) : Except PyError CropGeometry := do
  let cw := official.width / 2
  let ch := official.height / 2
  let sourceCrop ← im.crop original ⟨ox, oy, ox + cw, oy + ch⟩
  if ← rebuildsOfficial im official sourceCrop box then
    return cropGeometry official ox oy box
  else do
    let found ← firstResult (fun candidate => do
        let exact ← rebuildsOfficial im official sourceCrop candidate
        return if exact then some (cropGeometry official ox oy candidate) else none)
      (correctedBoxes box)
    match found with
    | some geometry => return geometry
    | none => recoverDifficult im original official gt

/-- The pixels a template match may use: those away from strong red. -/
def validPixels (small : Image) : List (List Bool) :=
  (im.dilate (small.rows.map (·.map Rgb.isStrong))).map (·.map (!·))

def recoverGeometry (gt : List PyNumber) : Except PyError CropGeometry := do
  if official.width % 2 = 1 ∨ official.height % 2 = 1 then
    .error (.valueError "Official teacher dimensions must match the verified 2x pipeline")
  else do
    let cw := official.width / 2
    let ch := official.height / 2
    let red := official.rows.map (·.map Rgb.isRed)
    let xb ← projectBands (columnSums red official.width)
    let yb ← projectBands (rowSums red)
    if xb.length < 2 ∨ yb.length < 2 then recoverDifficult im original official gt
    else do
      let g ← gtBox gt
      let start ← windowStart original cw ch g
      let small ← im.resizeBox official (cw, ch)
      let valid := validPixels im small
      let sx := max 0 (start.1 - 4)
      let sy := max 0 (start.2 - 4)
      if countTrue valid.flatten = 0 then recoverDifficult im original official gt
      else do
        let search ← im.crop original ⟨sx, sy, min original.width (start.1 + cw + 5),
          min original.height (start.2 + ch + 5)⟩
        let loc ← im.bestMatch search small valid
        recoverAt im original official gt (bandBox official xb yb) (sx + loc.1) (sy + loc.2)

end Recovery

/-! ## Rendering and sampling -/

section Views

variable {ρ : Type} (im : Imaging ρ)

def renderTeacher (original : Image) (window : Box ℤ) (g : CropGeometry) :
    Except PyError Image := do
  let crop ← im.crop original window
  if ((crop.width : ℤ), (crop.height : ℤ)) ≠ g.sourceCropSize then
    .error (.valueError "Crop size differs from the official positive template")
  else do
    let drawn ← im.rectangle crop g.frameBoxInCrop
    im.lanczos drawn g.outputSize

variable {α : Type} [Coordinate α]

/-- The target, moved with the window from the positive one to `(x, y)`. -/
def movedTarget (gt : Box α) (positive : Box ℤ) (x y : ℤ) : Box α :=
  ⟨gt.left + (x : α) - (positive.left : α), gt.top + (y : α) - (positive.top : α),
    gt.right + (x : α) - (positive.left : α), gt.bottom + (y : α) - (positive.top : α)⟩

/-- Whether the window at `(x, y)` shows little enough of the target. -/
def admissible (gt : Box α) (positive : Box ℤ) (x y : ℤ) : Except PyError Bool :=
  Coordinate.lt (iou (movedTarget gt positive x y) gt) (Coordinate.literal negIouLimit)

/-- The random candidates, at most `n`, one after the other. -/
def sampleCandidates (gt : Box α) (positive : Box ℤ) (maxX maxY : ℤ) :
    ℕ → ρ → Except PyError (Option (ℤ × ℤ))
  | 0, _ => .ok none
  | n + 1, rng => do
      let x ← im.randint 0 maxX rng
      let y ← im.randint 0 maxY x.2
      if ← admissible gt positive x.1 y.1 then return some (x.1, y.1)
      else sampleCandidates gt positive maxX maxY n y.2

/-- The corners, which are tried last. -/
def firstCorner (gt : Box α) (positive : Box ℤ) (maxX maxY : ℤ) :
    Except PyError (Option (ℤ × ℤ)) :=
  firstResult (fun c : ℤ × ℤ => do
      let shows ← admissible gt positive c.1 c.2
      return if shows then some c else none)
    (pairs [0, maxX] [0, maxY])

/-- `itertools.chain(candidates, corners)`, up to the first that is admissible. -/
def firstAdmissible (gt : Box α) (positive : Box ℤ) (maxX maxY : ℤ) (rng : ρ) :
    Except PyError (Option (ℤ × ℤ)) := do
  match ← sampleCandidates im gt positive maxX maxY 2000 rng with
  | some c => return some c
  | none => firstCorner gt positive maxX maxY

/-- Translate the whole official crop, preserving every within-crop coordinate. -/
def sampleNegativeWindow (gt : Box α) (positive : Box ℤ) (size : ℤ × ℤ) (rng : ρ) :
    Except PyError (Box ℤ × Box α) := do
  let cw := positive.right - positive.left
  let ch := positive.bottom - positive.top
  match ← firstAdmissible im gt positive (size.1 - cw) (size.2 - ch) rng with
  | some (x, y) => return (⟨x, y, x + cw, y + ch⟩, movedTarget gt positive x y)
  | none => .error (.valueError "No geometry-preserving negative window satisfies IoU < 0.1")

end Views

end LookAway.Data
