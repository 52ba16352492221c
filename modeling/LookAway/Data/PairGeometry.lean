/-
  The geometry of every generated pair.

  Whichever path of recover_geometry places the crop, the window is inside the original image:
  the difficult search filters its offsets, and a template match lands inside the clamped search
  area (`recoverGeometry_recovered`). The negative window is the positive one moved inside the
  image (`sampleNegativeWindow_found`), so both views have one layout if the box is one of integers
  (`worker_pair_geometry`); a float is rounded on the way (`float_layout_differs`).
-/
import LookAway.Data.NegativeWindow
import LookAway.Data.Scheduling

namespace LookAway.Data

open LookAway.Base

/-! ## The libraries keep sizes -/

/-- The sizes that the calls into the libraries give, where they return. -/
structure Imaging.KeepsSizes {ρ : Type} (im : Imaging ρ) : Prop where
  crop : ∀ image box result, im.crop image box = .ok result →
    (result.width : ℤ) = box.right - box.left ∧ (result.height : ℤ) = box.bottom - box.top
  lanczos : ∀ image size result, im.lanczos image size = .ok result →
    ((result.width : ℤ), (result.height : ℤ)) = size
  resizeBox : ∀ image size result, im.resizeBox image size = .ok result →
    ((result.width : ℤ), (result.height : ℤ)) = size
  /-- The template lies in the image at the best match. -/
  bestMatch : ∀ image template valid loc, im.bestMatch image template valid = .ok loc →
    (0 ≤ loc.1 ∧ loc.1 + template.width ≤ image.width) ∧
      0 ≤ loc.2 ∧ loc.2 + template.height ≤ image.height
  draw : im.DrawsInRange

/-! ## Recovery -/

/-- What a recovered geometry has to be: a crop of half the official size inside the original. -/
structure Recovered (original official : Image) (g : CropGeometry) : Prop where
  output : g.outputSize = ((official.width : ℤ), (official.height : ℤ))
  crop_size : g.sourceCropSize = (((official.width / 2 : ℕ) : ℤ), ((official.height / 2 : ℕ) : ℤ))
  window_size : (g.positiveCropWindow.right - g.positiveCropWindow.left,
    g.positiveCropWindow.bottom - g.positiveCropWindow.top) = g.sourceCropSize
  inside : g.positiveCropWindow.Inside (original.width, original.height)

section Recovery

variable {ρ : Type} {im : Imaging ρ} {original official : Image}

theorem cropGeometry_recovered {ox oy : ℤ} (box : Box ℤ)
    (hx : 0 ≤ ox ∧ ox + (official.width / 2 : ℕ) ≤ original.width)
    (hy : 0 ≤ oy ∧ oy + (official.height / 2 : ℕ) ≤ original.height) :
    Recovered original official (cropGeometry official ox oy box) where
  output := rfl
  crop_size := rfl
  window_size := by simp [cropGeometry]
  inside := by
    refine ⟨hx.1, hy.1, ?_, ?_, hx.2, hy.2⟩
    · show ox ≤ ox + (official.width / 2 : ℕ)
      omega
    · show oy ≤ oy + (official.height / 2 : ℕ)
      omega

/-- The filter of the difficult search keeps the crop in the image. -/
theorem difficultOffsets_range {start size crop v : ℤ} (h : v ∈ difficultOffsets start size crop) :
    0 ≤ v ∧ v + crop ≤ size := by
  have hv := (List.mem_filter.mp h).2
  simp only [Bool.and_eq_true, decide_eq_true_eq] at hv
  omega

theorem recoverDifficult_recovered {gt : List PyNumber} {g : CropGeometry}
    (h : recoverDifficult im original official gt = .ok g) : Recovered original official g := by
  unfold recoverDifficult at h
  obtain ⟨target, -, h⟩ := except_bind_ok.mp h
  obtain ⟨start, -, h⟩ := except_bind_ok.mp h
  obtain ⟨found, hfound, h⟩ := except_bind_ok.mp h
  cases found with
  | none => cases h
  | some geometry =>
      cases h
      obtain ⟨o, ho, hturn⟩ := exists_of_firstResult hfound
      obtain ⟨hox, hoy⟩ := mem_pairs.mp ho
      obtain ⟨crop, -, hturn⟩ := except_bind_ok.mp hturn
      obtain ⟨options, -, hturn⟩ := except_bind_ok.mp hturn
      obtain ⟨box, -, hbox⟩ := exists_of_firstResult hturn
      split at hbox
      · cases hbox
      · obtain ⟨same, -, hbox⟩ := except_bind_ok.mp hbox
        have hsome := Except.ok.inj hbox
        split at hsome
        · cases hsome
          exact cropGeometry_recovered box (difficultOffsets_range hox) (difficultOffsets_range hoy)
        · cases hsome

/-- A crop that a template match has placed inside the image stays there, whichever frame
    reproduces the official view. -/
theorem recoverAt_recovered {gt : List PyNumber} {box : Box ℤ} {ox oy : ℤ} {g : CropGeometry}
    (hx : 0 ≤ ox ∧ ox + (official.width / 2 : ℕ) ≤ original.width)
    (hy : 0 ≤ oy ∧ oy + (official.height / 2 : ℕ) ≤ original.height)
    (h : recoverAt im original official gt box ox oy = .ok g) : Recovered original official g := by
  unfold recoverAt at h
  obtain ⟨crop, -, h⟩ := except_bind_ok.mp h
  obtain ⟨same, -, h⟩ := except_bind_ok.mp h
  split at h
  · cases h
    exact cropGeometry_recovered box hx hy
  · obtain ⟨found, hfound, h⟩ := except_bind_ok.mp h
    cases found with
    | none => exact recoverDifficult_recovered h
    | some geometry =>
        cases h
        obtain ⟨candidate, -, hcandidate⟩ := exists_of_firstResult hfound
        obtain ⟨same, -, hcandidate⟩ := except_bind_ok.mp hcandidate
        have hsome := Except.ok.inj hcandidate
        split at hsome
        · cases hsome
          exact cropGeometry_recovered candidate hx hy
        · cases hsome

/-- **Recovery stays inside.** On every path the geometry is that of a crop of half the official
    size inside the original, and the official sizes are even. -/
theorem recoverGeometry_recovered (sizes : im.KeepsSizes) {gt : List PyNumber} {g : CropGeometry}
    (h : recoverGeometry im original official gt = .ok g) :
    Recovered original official g ∧ official.width % 2 = 0 ∧ official.height % 2 = 0 := by
  unfold recoverGeometry at h
  split at h
  · cases h
  · rename_i heven
    refine ⟨?_, by omega⟩
    dsimp only at h
    obtain ⟨xb, -, h⟩ := except_bind_ok.mp h
    obtain ⟨yb, -, h⟩ := except_bind_ok.mp h
    split at h
    · exact recoverDifficult_recovered h
    · obtain ⟨target, -, h⟩ := except_bind_ok.mp h
      obtain ⟨start, -, h⟩ := except_bind_ok.mp h
      obtain ⟨small, hsmall, h⟩ := except_bind_ok.mp h
      split at h
      · exact recoverDifficult_recovered h
      · obtain ⟨search, hsearch, h⟩ := except_bind_ok.mp h
        obtain ⟨loc, hloc, h⟩ := except_bind_ok.mp h
        have hcrop := sizes.crop _ _ _ hsearch
        have htemplate := Prod.mk.inj (sizes.resizeBox _ _ _ hsmall)
        obtain ⟨hx, hy⟩ := sizes.bestMatch _ _ _ _ hloc
        dsimp only at hcrop htemplate
        -- the search area ends at the image, and the template fits behind the match
        refine recoverAt_recovered ?_ ?_ h
        · omega
        · omega

end Recovery

/-! ## A generated pair -/

section Pair

variable {ρ : Type} {sha256 : Digest} {im : Imaging ρ} {root : Path}
  {image? : Path → Option Bytes}

/-- The image a field of the row names. -/
def namedImage (im : Imaging ρ) (root : Path) (image? : Path → Option Bytes) (key : String)
    (entries : Option (List Path)) : Except PyError Image := do
  let path ← safeDatasetPath root (← first key entries)
  im.decode (← openFile path.text (image? path))

/-- `_worker(i)`, when the file it reads back holds `stored`. -/
def workerResult (sha256 : Digest) (im : Imaging ρ) (root : Path) (image? : Path → Option Bytes)
    (rows : List SourceRow) (i : ℕ) (stored : Option Bytes) : ResultRecord :=
  returned i do
    let r ← startRow im root image? rows i
    reportNegative sha256 im image? r i stored

/-- The record of a row is what its worker returns when it reads back what it saved. -/
theorem rowResult_eq_workerResult (rows : List SourceRow) (i : ℕ) :
    rowResult sha256 im root image? rows i = workerResult sha256 im root image? rows i
      (rowNegative sha256 im root image? rows i) := by
  cases h : startRow im root image? rows i with
  | error e =>
      rw [rowResult_of_failed h]
      unfold workerResult
      rw [h]
      rfl
  | ok r =>
      rw [rowResult_of_rendered h, rowNegative_of_rendered h]
      unfold workerResult
      rw [h]
      rfl

/-- The target lies in the negative window as it lies in the positive one, by the record: `neg_bbox`
    minus the corner of its window is `target_bbox_in_crop`. -/
def Generated.SameLayout (record : Generated) : Prop :=
  List.zipWith (fun v (origin : ℤ) => (.ok v - (origin : Evaluated) : Evaluated)) record.negBbox
    (record.negativeCropWindow.take 2 ++ record.negativeCropWindow.take 2) =
      record.targetBboxInCrop.map .ok

instance (record : Generated) : Decidable record.SameLayout := inferInstanceAs (Decidable (_ = _))

/-- The geometry invariant of a pair: `record` is what the manifest holds of it, `target` and
    `moved` are the target box and where the negative window takes it, `inCrop` is the target seen
    from the corner of the positive window. -/
structure GeneratedPair (im : Imaging ρ) (original official : Image) (record : Generated)
    (geometry : CropGeometry) (negative : Box ℤ) (target moved inCrop : Box PyNumber) : Prop where
  geometry_eq : record.geometry = some geometry.toRecord
  negative_eq : record.negativeCropWindow = negative.toList
  gt_eq : gtBox record.gtBbox = .ok target
  neg_eq : record.negBbox = moved.toList
  in_crop_eq : record.targetBboxInCrop = inCrop.toList
  output_even : geometry.outputSize =
    (2 * geometry.sourceCropSize.1, 2 * geometry.sourceCropSize.2)
  positive_size : (geometry.positiveCropWindow.right - geometry.positiveCropWindow.left,
    geometry.positiveCropWindow.bottom - geometry.positiveCropWindow.top) = geometry.sourceCropSize
  negative_size : (negative.right - negative.left, negative.bottom - negative.top) =
    geometry.sourceCropSize
  positive_inside : geometry.positiveCropWindow.Inside (original.width, original.height)
  negative_inside : negative.Inside (original.width, original.height)
  moved_eq : movedTarget target.evaluated geometry.positiveCropWindow negative.left negative.top =
    moved.evaluated
  target_in_crop : target.evaluated.relativeTo geometry.positiveCropWindow = inCrop.evaluated
  /-- Integers are moved without rounding. -/
  same_layout : ∀ corners : Box ℤ, target = corners.map .int → record.SameLayout
  iou_eq : iou moved.evaluated target.evaluated = .ok record.iou
  iou_lt : record.iou.lt (.float (Binary64.ofRat negIouLimit)) = true
  exact : renderTeacher im original geometry.positiveCropWindow geometry = .ok official

/-- Rendering gives an image of the output size. -/
theorem renderTeacher_size (sizes : im.KeepsSizes) {original : Image} {window : Box ℤ}
    {g : CropGeometry} {result : Image} (h : renderTeacher im original window g = .ok result) :
    ((result.width : ℤ), (result.height : ℤ)) = g.outputSize := by
  unfold renderTeacher at h
  obtain ⟨crop, -, h⟩ := except_bind_ok.mp h
  split at h
  · cases h
  · obtain ⟨drawn, -, h⟩ := except_bind_ok.mp h
    exact sizes.lanczos _ _ _ h

theorem image_eq {a b : Image} (hw : a.width = b.width) (hh : a.height = b.height)
    (hrows : a.rows = b.rows) : a = b := by
  cases a
  cases b
  simp_all

theorem require_eq_some {α : Type} {key : String} {value? : Option α} {value : α} :
    require key value? = .ok value ↔ value? = some value := by
  cases value? with
  | none => simp [require]
  | some a => simp [require]

theorem Recovered.output_even {original official : Image} {g : CropGeometry}
    (h : Recovered original official g)
    (heven : official.width % 2 = 0 ∧ official.height % 2 = 0) :
    g.outputSize = (2 * g.sourceCropSize.1, 2 * g.sourceCropSize.2) := by
  rw [h.output, h.crop_size, Prod.mk.injEq]
  omega

theorem FoundWindow.size_eq {α : Type} [Coordinate α] {gt target : Box α} {positive window : Box ℤ}
    {size : ℤ × ℤ} (h : FoundWindow gt positive size window target) :
    (window.right - window.left, window.bottom - window.top) =
      (positive.right - positive.left, positive.bottom - positive.top) := by
  rw [h.width_eq, h.height_eq]

/-- The entries of a box are what its expressions give. -/
theorem values_eq_ok {b : Box Evaluated} {v : Box PyNumber} (h : b.values = .ok v) :
    b = v.evaluated := by
  unfold Box.values at h
  obtain ⟨left, hleft, h⟩ := except_bind_ok.mp h
  obtain ⟨top, htop, h⟩ := except_bind_ok.mp h
  obtain ⟨right, hright, h⟩ := except_bind_ok.mp h
  obtain ⟨bottom, hbottom, h⟩ := except_bind_ok.mp h
  cases h
  cases b
  cases hleft
  cases htop
  cases hright
  cases hbottom
  rfl

/-- A box of integers, moved with the window, lies in it as it lay in the other. -/
theorem moved_layout (corners positive negative : Box ℤ) :
    (movedTarget (corners.map .int).evaluated positive negative.left negative.top).relativeTo
        negative = (corners.map .int).evaluated.relativeTo positive := by
  unfold movedTarget Box.relativeTo Box.evaluated Box.map
  dsimp only
  simp only [Evaluated.intCast_eq, Evaluated.int_add, Evaluated.int_sub]
  congr 3 <;> omega

/-- The recorded layout is that of the boxes. -/
theorem sameLayout_iff {record : Generated} {negative : Box ℤ} {moved inCrop : Box PyNumber}
    (hnegative : record.negativeCropWindow = negative.toList)
    (hmoved : record.negBbox = moved.toList) (hcrop : record.targetBboxInCrop = inCrop.toList) :
    record.SameLayout ↔ moved.evaluated.relativeTo negative = inCrop.evaluated := by
  unfold Generated.SameLayout
  rw [hnegative, hmoved, hcrop]
  unfold Box.relativeTo Box.evaluated Box.map Box.toList
  simp

/-- What a worker holds after rendering. -/
theorem renderNegative_pair (sizes : im.KeepsSizes) {row : SourceRow} {i : ℕ} {r : Rendered}
    (h : renderNegative im root image? row i = .ok r) :
    ∃ original official,
      namedImage im root image? "original_images" row.originalImages = .ok original ∧
      namedImage im root image? "teacher_images" row.teacherImages = .ok official ∧
      row.bbox = some r.gt ∧ gtBox r.gt = .ok r.target ∧
      r.originalSize = ((original.width : ℤ), (original.height : ℤ)) ∧
      Recovered original official r.geometry ∧
      (official.width % 2 = 0 ∧ official.height % 2 = 0) ∧
      FoundWindow r.target.evaluated r.geometry.positiveCropWindow
        (original.width, original.height) r.negativeWindow r.negativeBbox.evaluated ∧
      renderTeacher im original r.geometry.positiveCropWindow r.geometry = .ok official := by
  unfold renderNegative at h
  obtain ⟨sourceEntry, hsourceEntry, h⟩ := except_bind_ok.mp h
  obtain ⟨srcPositive, hsource, h⟩ := except_bind_ok.mp h
  obtain ⟨originalEntry, horiginalEntry, h⟩ := except_bind_ok.mp h
  obtain ⟨originalPath, horiginalPath, h⟩ := except_bind_ok.mp h
  obtain ⟨originalBytes, horiginalBytes, h⟩ := except_bind_ok.mp h
  obtain ⟨original, horiginal, h⟩ := except_bind_ok.mp h
  obtain ⟨officialBytes, hofficialBytes, h⟩ := except_bind_ok.mp h
  obtain ⟨official, hofficial, h⟩ := except_bind_ok.mp h
  obtain ⟨gt, hgt, h⟩ := except_bind_ok.mp h
  obtain ⟨geometry, hgeometry, h⟩ := except_bind_ok.mp h
  obtain ⟨reconstructed, hreconstructed, h⟩ := except_bind_ok.mp h
  split at h
  · cases h
  · rename_i hrows
    obtain ⟨target, htarget, h⟩ := except_bind_ok.mp h
    obtain ⟨sampled, hsampled, h⟩ := except_bind_ok.mp h
    obtain ⟨negativeBbox, hbox, h⟩ := except_bind_ok.mp h
    obtain ⟨negative, -, h⟩ := except_bind_ok.mp h
    obtain ⟨bytes, -, h⟩ := except_bind_ok.mp h
    cases h
    obtain ⟨hrecovered, heven⟩ := recoverGeometry_recovered sizes hgeometry
    have hbbox : row.bbox = some gt := require_eq_some.mp hgt
    have hsame : reconstructed = official := by
      have hsize := (renderTeacher_size sizes hreconstructed).trans hrecovered.output
      simp only [Prod.mk.injEq, Nat.cast_inj] at hsize
      exact image_eq hsize.1 hsize.2 (not_not.mp hrows)
    rw [hsame] at hreconstructed
    refine ⟨original, official, ?_, ?_, hbbox, htarget, rfl, hrecovered, heven, ?_, hreconstructed⟩
    · exact except_bind_ok.mpr ⟨_, horiginalEntry, except_bind_ok.mpr ⟨_, horiginalPath,
        except_bind_ok.mpr ⟨_, horiginalBytes, horiginal⟩⟩⟩
    · exact except_bind_ok.mpr ⟨_, hsourceEntry, except_bind_ok.mpr ⟨_, hsource,
        except_bind_ok.mpr ⟨_, hofficialBytes, hofficial⟩⟩⟩
    · dsimp only
      rw [← values_eq_ok hbox]
      exact sampleNegativeWindow_found sizes.draw hrecovered.inside hsampled

/-- **The geometry invariant.** For every row on which the worker returns ok, whatever it reads
    back: the two windows have the source crop size, half the output size, and lie inside the
    original; the target, if it is one of integers, has one place in both; the IoU is below the
    limit; and the recorded frame and output size reproduce the official positive. -/
theorem worker_pair_geometry (sha256 : Digest) (im : Imaging ρ) (root : Path)
    (image? : Path → Option Bytes) (rows : List SourceRow) (i : ℕ) (stored : Option Bytes)
    (sizes : im.KeepsSizes)
    (hok : (workerResult sha256 im root image? rows i stored).ok = true) :
    ∃ row original official record geometry negative target moved inCrop, rows[i]? = some row ∧
      namedImage im root image? "original_images" row.originalImages = .ok original ∧
      namedImage im root image? "teacher_images" row.teacherImages = .ok official ∧
      row.bbox = some record.gtBbox ∧
      (workerResult sha256 im root image? rows i stored).generated = some record ∧
      GeneratedPair im original official record geometry negative target moved inCrop := by
  unfold workerResult at hok ⊢
  cases hresult : (do
      let r ← startRow im root image? rows i
      reportNegative sha256 im image? r i stored) with
  | error e =>
      rw [hresult] at hok
      cases hok
  | ok result =>
      obtain ⟨r, hstart, hreport⟩ := except_bind_ok.mp hresult
      unfold startRow at hstart
      obtain ⟨row, hrow, hrender⟩ := except_bind_ok.mp hstart
      obtain ⟨original, official, horiginal, hofficial, hbbox, htarget, hsize, hrecovered, heven,
        hnegative, hexact⟩ := renderNegative_pair sizes hrender
      obtain ⟨_, -, hreport⟩ := except_bind_ok.mp hreport
      obtain ⟨_, -, hreport⟩ := except_bind_ok.mp hreport
      obtain ⟨_, -, hreport⟩ := except_bind_ok.mp hreport
      obtain ⟨shown, hshown, hreport⟩ := except_bind_ok.mp hreport
      obtain ⟨inCrop, hcrop, hreport⟩ := except_bind_ok.mp hreport
      cases hreport
      refine ⟨row, original, official, _, r.geometry, r.negativeWindow, r.target, r.negativeBbox,
        inCrop, ?_, horiginal, hofficial, hbbox, rfl, ?_⟩
      · cases hget : rows[i]? with
        | none =>
            rw [hget] at hrow
            cases hrow
        | some row' =>
            rw [hget] at hrow
            cases hrow
            rfl
      · exact {
          geometry_eq := rfl
          negative_eq := rfl
          gt_eq := htarget
          neg_eq := rfl
          in_crop_eq := rfl
          output_even := hrecovered.output_even heven
          positive_size := hrecovered.window_size
          negative_size := hnegative.size_eq.trans hrecovered.window_size
          positive_inside := hrecovered.inside
          negative_inside := hnegative.inside
          moved_eq := hnegative.target_eq.symm
          target_in_crop := values_eq_ok hcrop
          same_layout := by
            intro corners hcorners
            rw [sameLayout_iff rfl rfl rfl, ← values_eq_ok hcrop, hnegative.target_eq, hcorners]
            exact moved_layout corners _ _
          iou_eq := hshown
          iou_lt := by
            have hlt := hnegative.iou_lt
            rw [hshown] at hlt
            exact Except.ok.inj hlt
          exact := hexact }

theorem grey_size {size : ℤ × ℤ} {result : Image} (h : grey size = .ok result) :
    ((result.width : ℤ), (result.height : ℤ)) = size := by
  unfold grey at h
  split at h
  · cases h
  · cases h
    rw [Prod.ext_iff]
    dsimp only
    omega

theorem greyImaging_keepsSizes : greyImaging.KeepsSizes where
  crop image box result h := Prod.mk.inj (grey_size h)
  lanczos image size result h := grey_size h
  resizeBox image size result h := grey_size h
  bestMatch image template valid loc h := by
    unfold greyImaging at h
    dsimp only at h
    split at h
    · cases h
    · cases h
      omega
  draw := greyImaging_draws

def greyRow : SourceRow where
  problem := some "<image>\nWhat color is the bus?"
  images := none
  teacherImages := some [["teacher_images", "000000.png"]]
  originalImages := some [["original_images", "000000.png"]]
  bbox := some [0, 0, 1, 1]
  answer := some "blue"
  extraInfo := none

/-- The difficult search reproduces a grey official view, and the negative is in the corner. -/
theorem worker_pair_geometry_sample :
    ∃ original official record geometry negative target moved inCrop,
      (workerResult (fun _ => "") greyImaging [] (fun _ => some []) [greyRow] 0
        (some [0])).generated = some record ∧
      GeneratedPair greyImaging original official record geometry negative target moved inCrop := by
  obtain ⟨_, original, official, record, geometry, negative, target, moved, inCrop, _, _, _, _,
    hrecord, hpair⟩ :=
      worker_pair_geometry (fun _ => "") greyImaging [] (fun _ => some []) [greyRow] 0 (some [0])
        greyImaging_keepsSizes (by decide +kernel)
  exact ⟨original, official, record, geometry, negative, target, moved, inCrop, hrecord, hpair⟩

/-- The box is `[0.1, 0.1, 1, 1]`. -/
def floatRow : SourceRow :=
  { greyRow with
    bbox := some [.float (Binary64.ofRat (1 / 10)), .float (Binary64.ofRat (1 / 10)), 1, 1] }

/-- The negative window is at `(2, 2)`: 0.1 + 2 is rounded to 2.1, and 2.1 - 2 is not 0.1. -/
theorem float_layout_differs :
    (workerResult (fun _ => "") greyImaging [] (fun _ => some []) [floatRow] 0 (some [0])).ok =
      true ∧
      ∀ record ∈ (workerResult (fun _ => "") greyImaging [] (fun _ => some []) [floatRow] 0
        (some [0])).generated, ¬record.SameLayout := by
  constructor
  · decide +kernel
  · decide +kernel

end Pair

end LookAway.Data
