/-
  Images, and what build_trainset.py takes from PIL, OpenCV and random.

  The library calls are parameters (`Imaging`): functions of their inputs that may raise. What
  the scripts compute themselves is on the values these return.
-/
import LookAway.Data.Coordinates

namespace LookAway.Data

open LookAway.Base

/-! ## Images -/

structure Rgb where
  red : ℕ
  green : ℕ
  blue : ℕ
  deriving DecidableEq

/-- A PIL image in mode RGB; `rows` is `np.array(image)`. -/
structure Image where
  width : ℕ
  height : ℕ
  rows : List (List Rgb)
  deriving DecidableEq

/-- `[x1, y1, x2, y2]`. -/
structure Box (α : Type) where
  left : α
  top : α
  right : α
  bottom : α
  deriving DecidableEq

def Box.toList {α : Type} (b : Box α) : List α := [b.left, b.top, b.right, b.bottom]

def Box.map {α β : Type} (f : α → β) (b : Box α) : Box β :=
  ⟨f b.left, f b.top, f b.right, f b.bottom⟩

/-- The box moved by an offset. -/
def Box.move {α : Type} [Add α] (b : Box α) (dx dy : α) : Box α :=
  ⟨b.left + dx, b.top + dy, b.right + dx, b.bottom + dy⟩

/-- `FRAME_WIDTH` -/
def frameWidth : ℤ := 5

/-- `NEG_IOU_LIMIT` -/
def negIouLimit : ℚ := 1 / 10

/-! ## The libraries -/

/-- The calls into PIL and OpenCV, and a random number generator with states `ρ`. -/
structure Imaging (ρ : Type) where
  /-- `Image.open(path).convert("RGB")` -/
  decode : Bytes → Except PyError Image
  /-- `image.crop(box)` -/
  crop : Image → Box ℤ → Except PyError Image
  /-- `ImageDraw.Draw(image).rectangle(box, outline=(255, 0, 0), width=FRAME_WIDTH)` -/
  rectangle : Image → Box ℤ → Except PyError Image
  /-- `image.resize(size, Image.Resampling.LANCZOS)` -/
  lanczos : Image → ℤ × ℤ → Except PyError Image
  /-- `image.resize(size, Image.Resampling.BOX)` -/
  resizeBox : Image → ℤ × ℤ → Except PyError Image
  /-- `image.save(path, compress_level=1)` -/
  encode : Image → Except PyError Bytes
  /-- The frame alone: `Image.new("L", crop_size, 0)` with the rectangle of this box in white,
      resized to the output size, as bytes. -/
  frameMask : ℤ × ℤ → Box ℤ → ℤ × ℤ → Except PyError Bytes
  /-- `cv2.dilate(mask, np.ones((7, 7)))` -/
  dilate : List (List Bool) → List (List Bool)
  /-- `cv2.minMaxLoc(cv2.matchTemplate(image, template, cv2.TM_SQDIFF, mask))`: its minimum -/
  bestMatch : Image → Image → List (List Bool) → Except PyError (ℤ × ℤ)
  /-- `random.Random(n)` -/
  random : ℤ → ρ
  /-- An integer from the range, both ends included. -/
  draw : ℤ → ℤ → ρ → ℤ × ρ

/-- `rng.randint(lo, hi)`. -/
def Imaging.randint {ρ : Type} (im : Imaging ρ) (lo hi : ℤ) (rng : ρ) : Except PyError (ℤ × ρ) :=
  if hi < lo then .error (.valueError ("empty range in randrange(" ++ intText lo ++ ", " ++
    intText (hi + 1) ++ ")"))
  else .ok (im.draw lo hi rng)

/-! ## Python -/

/-- `xs[k]`. -/
def item {α : Type} (xs : List α) (k : ℕ) : Except PyError α :=
  match xs[k]? with
  | some a => .ok a
  | none => .error .indexError

/-- `itertools.product`, the last list fastest. -/
def pairs {α : Type} (xs ys : List α) : List (α × α) := xs.flatMap fun x => ys.map fun y => (x, y)

/-- `itertools.product` of the choices for each edge. -/
def boxes (choices : Box (List ℤ)) : List (Box ℤ) :=
  (pairs choices.left choices.top).flatMap fun first =>
    (pairs choices.right choices.bottom).map fun last => ⟨first.1, first.2, last.1, last.2⟩

/-- The first result of a loop that returns, if it does. -/
def firstResult {α β : Type} (f : α → Except PyError (Option β)) :
    List α → Except PyError (Option β)
  | [] => .ok none
  | x :: xs => do
      match ← f x with
      | some b => return some b
      | none => firstResult f xs

end LookAway.Data
