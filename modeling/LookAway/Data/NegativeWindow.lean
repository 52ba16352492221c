/-
  The search for a negative window decides whether there is one.

  Whatever the arithmetic, what the search returns is in place (`sampleNegativeWindow_found`). Over
  the rationals the IoU of a box with its own translate depends on the two displacements through
  the overlap alone (`iou_move_lt_iff`), and the overlap falls as either grows
  (`overlap_antitone`). Over a rectangle of displacements it is least at one of the corners, so
  after the random candidates the four corners settle the question (`sampleNegativeWindow_exact`).
-/
import Mathlib.Algebra.Order.AbsoluteValue.Basic
import Mathlib.Tactic.FieldSimp
import Mathlib.Tactic.Ring
import LookAway.Data.Geometry

namespace LookAway.Data

open LookAway.Base

/-- The box lies in an image of this size. -/
structure Box.Inside (b : Box ℤ) (size : ℤ × ℤ) : Prop where
  left_nonneg : 0 ≤ b.left
  top_nonneg : 0 ≤ b.top
  left_le : b.left ≤ b.right
  top_le : b.top ≤ b.bottom
  right_le : b.right ≤ size.1
  bottom_le : b.bottom ≤ size.2

/-! ## What the search finds -/

theorem mem_pairs {α : Type} {xs ys : List α} {c : α × α} :
    c ∈ pairs xs ys ↔ c.1 ∈ xs ∧ c.2 ∈ ys := by
  unfold pairs
  simp only [List.mem_flatMap, List.mem_map]
  constructor
  · rintro ⟨x, hx, y, hy, rfl⟩
    exact ⟨hx, hy⟩
  · intro h
    exact ⟨c.1, h.1, c.2, h.2, rfl⟩

/-- What a loop returns is the result of one of its turns. -/
theorem exists_of_firstResult {α β : Type} {f : α → Except PyError (Option β)} {xs : List α} {b : β}
    (h : firstResult f xs = .ok (some b)) : ∃ x ∈ xs, f x = .ok (some b) := by
  induction xs with
  | nil => cases h
  | cons x xs ih =>
      unfold firstResult at h
      obtain ⟨result, hresult, h⟩ := except_bind_ok.mp h
      cases result with
      | some b' =>
          cases h
          exact ⟨x, List.mem_cons_self, hresult⟩
      | none =>
          obtain ⟨y, hy, hf⟩ := ih h
          exact ⟨y, List.mem_cons_of_mem _ hy, hf⟩

/-- `randint` draws from its range. -/
def Imaging.DrawsInRange {ρ : Type} (im : Imaging ρ) : Prop :=
  ∀ lo hi rng, lo ≤ hi → lo ≤ (im.draw lo hi rng).1 ∧ (im.draw lo hi rng).1 ≤ hi

/-- A position between the corners of the range. -/
def InRange (maxX maxY : ℤ) (c : ℤ × ℤ) : Prop := (0 ≤ c.1 ∧ c.1 ≤ maxX) ∧ 0 ≤ c.2 ∧ c.2 ≤ maxY

/-- A corner is in the range. -/
theorem corner_inRange {maxX maxY : ℤ} (hx : 0 ≤ maxX) (hy : 0 ≤ maxY) {c : ℤ × ℤ}
    (h : c ∈ pairs [0, maxX] [0, maxY]) : InRange maxX maxY c := by
  obtain ⟨h1, h2⟩ := mem_pairs.mp h
  simp only [List.mem_cons, List.not_mem_nil, or_false] at h1 h2
  unfold InRange
  omega

section Found

variable {ρ α : Type} [Coordinate α] {im : Imaging ρ} {gt : Box α} {positive : Box ℤ}

theorem randint_range (hdraw : im.DrawsInRange) {lo hi : ℤ} {rng : ρ} {drawn : ℤ × ρ}
    (h : im.randint lo hi rng = .ok drawn) : lo ≤ drawn.1 ∧ drawn.1 ≤ hi := by
  unfold Imaging.randint at h
  split at h
  · cases h
  · rename_i hle
    cases h
    exact hdraw lo hi rng (not_lt.mp hle)

/-- The random candidate that the search settles on is admissible and in range. -/
theorem sampleCandidates_found (hdraw : im.DrawsInRange) {maxX maxY : ℤ} {n : ℕ} {rng : ρ}
    {c : ℤ × ℤ} (h : sampleCandidates im gt positive maxX maxY n rng = .ok (some c)) :
    admissible gt positive c.1 c.2 = .ok true ∧ InRange maxX maxY c := by
  induction n generalizing rng with
  | zero => cases h
  | succ n ih =>
      unfold sampleCandidates at h
      obtain ⟨x, hx, h⟩ := except_bind_ok.mp h
      obtain ⟨y, hy, h⟩ := except_bind_ok.mp h
      obtain ⟨shows, hshows, h⟩ := except_bind_ok.mp h
      cases shows with
      | true =>
          cases h
          exact ⟨hshows, randint_range hdraw hx, randint_range hdraw hy⟩
      | false => exact ih h

theorem firstCorner_found {maxX maxY : ℤ} {c : ℤ × ℤ}
    (h : firstCorner gt positive maxX maxY = .ok (some c)) :
    admissible gt positive c.1 c.2 = .ok true ∧ c ∈ pairs [0, maxX] [0, maxY] := by
  obtain ⟨c', hc', hturn⟩ := exists_of_firstResult h
  obtain ⟨shows, hshows, hturn⟩ := except_bind_ok.mp hturn
  cases shows with
  | true =>
      cases hturn
      exact ⟨hshows, hc'⟩
  | false => cases hturn

theorem firstAdmissible_found (hdraw : im.DrawsInRange) {maxX maxY : ℤ} (hx : 0 ≤ maxX)
    (hy : 0 ≤ maxY) {rng : ρ} {c : ℤ × ℤ}
    (h : firstAdmissible im gt positive maxX maxY rng = .ok (some c)) :
    admissible gt positive c.1 c.2 = .ok true ∧ InRange maxX maxY c := by
  unfold firstAdmissible at h
  obtain ⟨sampled, hsampled, h⟩ := except_bind_ok.mp h
  cases sampled with
  | some c' =>
      cases h
      exact sampleCandidates_found hdraw hsampled
  | none =>
      obtain ⟨hadm, hc⟩ := firstCorner_found h
      exact ⟨hadm, corner_inRange hx hy hc⟩

/-- What the search returns: the positive window, moved inside the image to where it shows little
    enough of the target, and the target moved along. -/
structure FoundWindow (gt : Box α) (positive : Box ℤ) (size : ℤ × ℤ) (window : Box ℤ)
    (target : Box α) : Prop where
  inside : window.Inside size
  width_eq : window.right - window.left = positive.right - positive.left
  height_eq : window.bottom - window.top = positive.bottom - positive.top
  target_eq : target = movedTarget gt positive window.left window.top
  iou_lt : Coordinate.lt (iou target gt) (Coordinate.literal negIouLimit) = .ok true

theorem foundWindow_at {size : ℤ × ℤ} (hin : positive.Inside size) {c : ℤ × ℤ}
    (hc : InRange (size.1 - (positive.right - positive.left))
      (size.2 - (positive.bottom - positive.top)) c)
    (hadm : admissible gt positive c.1 c.2 = .ok true) :
    FoundWindow gt positive size
      ⟨c.1, c.2, c.1 + (positive.right - positive.left), c.2 + (positive.bottom - positive.top)⟩
      (movedTarget gt positive c.1 c.2) where
  inside := by
    have hw := hin.left_le
    have hh := hin.top_le
    refine ⟨hc.1.1, hc.2.1, ?_, ?_, ?_, ?_⟩ <;> dsimp only <;> unfold InRange at hc <;> omega
  width_eq := by dsimp only; omega
  height_eq := by dsimp only; omega
  target_eq := rfl
  iou_lt := hadm

/-- A positive window inside the image leaves room to move it. -/
theorem Box.Inside.room {size : ℤ × ℤ} (hin : positive.Inside size) :
    0 ≤ size.1 - (positive.right - positive.left) ∧
      0 ≤ size.2 - (positive.bottom - positive.top) := by
  have := hin.left_nonneg
  have := hin.right_le
  have := hin.top_nonneg
  have := hin.bottom_le
  omega

/-- **The search is sound**, whatever the arithmetic. -/
theorem sampleNegativeWindow_found (hdraw : im.DrawsInRange) {size : ℤ × ℤ}
    (hin : positive.Inside size) {rng : ρ} {window : Box ℤ} {target : Box α}
    (h : sampleNegativeWindow im gt positive size rng = .ok (window, target)) :
    FoundWindow gt positive size window target := by
  obtain ⟨hmaxX, hmaxY⟩ := hin.room
  unfold sampleNegativeWindow at h
  dsimp only at h
  obtain ⟨found, hfound, h⟩ := except_bind_ok.mp h
  cases found with
  | none => cases h
  | some c =>
      cases h
      obtain ⟨hadm, hc⟩ := firstAdmissible_found hdraw hmaxX hmaxY hfound
      exact foundWindow_at hin hc hadm

end Found

/-! ## A box and its translate -/

section Translate

/-- The area a box shares with its translate. -/
def overlap (b : Box ℚ) (dx dy : ℚ) : ℚ :=
  max 0 (b.right - b.left - |dx|) * max 0 (b.bottom - b.top - |dy|)

/-- The length two intervals share, one the translate of the other. -/
theorem min_sub_max_translate (l r d : ℚ) : min (r + d) r - max (l + d) l = r - l - |d| := by
  rcases le_total 0 d with h | h
  · rw [abs_of_nonneg h, min_eq_right (by linarith), max_eq_left (by linarith)]
    ring
  · rw [abs_of_nonpos h, min_eq_left (by linarith), max_eq_right (by linarith)]
    ring

/-- The IoU, without rounding. -/
theorem iou_eq (a b : Box ℚ) : iou a b =
    if (a.right - a.left) * (a.bottom - a.top) + (b.right - b.left) * (b.bottom - b.top) -
        max 0 (min a.right b.right - max a.left b.left) *
          max 0 (min a.bottom b.bottom - max a.top b.top) = 0 then 0
    else max 0 (min a.right b.right - max a.left b.left) *
        max 0 (min a.bottom b.bottom - max a.top b.top) /
      ((a.right - a.left) * (a.bottom - a.top) + (b.right - b.left) * (b.bottom - b.top) -
        max 0 (min a.right b.right - max a.left b.left) *
          max 0 (min a.bottom b.bottom - max a.top b.top)) := by
  unfold iou
  rw [Int.cast_zero]
  rfl

theorem iou_move (b : Box ℚ) (dx dy : ℚ) :
    iou (b.move dx dy) b =
      if 2 * ((b.right - b.left) * (b.bottom - b.top)) - overlap b dx dy = 0 then 0
      else overlap b dx dy / (2 * ((b.right - b.left) * (b.bottom - b.top)) - overlap b dx dy) := by
  rw [iou_eq]
  unfold Box.move
  dsimp only
  rw [min_sub_max_translate, min_sub_max_translate]
  have hunion : (b.right + dx - (b.left + dx)) * (b.bottom + dy - (b.top + dy)) +
      (b.right - b.left) * (b.bottom - b.top) - overlap b dx dy =
      2 * ((b.right - b.left) * (b.bottom - b.top)) - overlap b dx dy := by ring
  unfold overlap at hunion ⊢
  rw [hunion]

/-- The overlap falls as either displacement grows. -/
theorem overlap_antitone (b : Box ℚ) {dx dy dx' dy' : ℚ} (hx : |dx| ≤ |dx'|) (hy : |dy| ≤ |dy'|) :
    overlap b dx' dy' ≤ overlap b dx dy := by
  unfold overlap
  apply mul_le_mul
  · exact max_le_max_left 0 (by linarith)
  · exact max_le_max_left 0 (by linarith)
  · exact le_max_left _ _
  · exact le_max_left _ _

/-- A box without area shares none with its translate. -/
theorem overlap_of_empty {b : Box ℚ} (h : b.right ≤ b.left ∨ b.bottom ≤ b.top) (dx dy : ℚ) :
    overlap b dx dy = 0 := by
  unfold overlap
  rcases h with h | h
  · rw [max_eq_left (by linarith [abs_nonneg dx]), zero_mul]
  · rw [max_eq_left (a := (0 : ℚ)) (b := b.bottom - b.top - |dy|) (by linarith [abs_nonneg dy]),
      mul_zero]

theorem overlap_le_area {b : Box ℚ} (hw : b.left < b.right) (hh : b.top < b.bottom) (dx dy : ℚ) :
    overlap b dx dy ≤ (b.right - b.left) * (b.bottom - b.top) := by
  unfold overlap
  apply mul_le_mul
  · exact max_le (by linarith) (by linarith [abs_nonneg dx])
  · exact max_le (by linarith) (by linarith [abs_nonneg dy])
  · exact le_max_left _ _
  · linarith

/-- When the IoU of a box with its translate is below the limit: a degenerate or inverted box
    always is, by the convention on an empty union or because it shares nothing. -/
theorem iou_move_lt_iff (b : Box ℚ) (dx dy : ℚ) :
    iou (b.move dx dy) b < negIouLimit ↔
      (b.right ≤ b.left ∨ b.bottom ≤ b.top) ∨
        11 * overlap b dx dy < 2 * ((b.right - b.left) * (b.bottom - b.top)) := by
  rw [iou_move]
  unfold negIouLimit
  by_cases hempty : b.right ≤ b.left ∨ b.bottom ≤ b.top
  · rw [overlap_of_empty hempty]
    simp [hempty]
  · simp only [hempty, false_or]
    rw [not_or, not_le, not_le] at hempty
    have harea : 0 < (b.right - b.left) * (b.bottom - b.top) :=
      mul_pos (by linarith [hempty.1]) (by linarith [hempty.2])
    have hle := overlap_le_area hempty.1 hempty.2 dx dy
    have hunion : 0 < 2 * ((b.right - b.left) * (b.bottom - b.top)) - overlap b dx dy := by
      linarith
    rw [if_neg hunion.ne', div_lt_iff₀ hunion]
    constructor
    · intro h
      linarith
    · intro h
      linarith

/-- Of two displacements the larger one is admissible if the smaller one is. -/
theorem iou_move_lt_of_le {b : Box ℚ} {dx dy dx' dy' : ℚ} (hx : |dx| ≤ |dx'|) (hy : |dy| ≤ |dy'|)
    (h : iou (b.move dx dy) b < negIouLimit) : iou (b.move dx' dy') b < negIouLimit := by
  rw [iou_move_lt_iff] at h ⊢
  apply h.imp id
  intro hlt
  linarith [overlap_antitone b hx hy]

end Translate

/-! ## The corners -/

section Corners

variable {gt : Box ℚ} {positive : Box ℤ}

/-- The window at `(x, y)` shows little enough of the target. -/
def Admissible (gt : Box ℚ) (positive : Box ℤ) (x y : ℤ) : Prop :=
  iou (gt.move (x - positive.left) (y - positive.top)) gt < negIouLimit

instance (gt : Box ℚ) (positive : Box ℤ) (x y : ℤ) : Decidable (Admissible gt positive x y) :=
  inferInstanceAs (Decidable (_ < _))

theorem movedTarget_eq (gt : Box ℚ) (positive : Box ℤ) (x y : ℤ) :
    movedTarget gt positive x y = gt.move (x - positive.left) (y - positive.top) := by
  unfold movedTarget Box.move
  congr 1
  · exact add_sub_assoc _ _ _
  · exact add_sub_assoc _ _ _
  · exact add_sub_assoc _ _ _
  · exact add_sub_assoc _ _ _

theorem admissible_eq (gt : Box ℚ) (positive : Box ℤ) (x y : ℤ) :
    admissible gt positive x y = .ok (decide (Admissible gt positive x y)) := by
  unfold admissible
  rw [movedTarget_eq]
  rfl

/-- Of the two ends of a range, one is at least as far from `p` as `x` is. -/
theorem exists_far_end {x m : ℤ} (p : ℤ) (h0 : 0 ≤ x) (hm : x ≤ m) :
    ∃ c, (c = 0 ∨ c = m) ∧ |(x : ℚ) - p| ≤ |(c : ℚ) - p| := by
  by_cases hp : x ≤ p
  · refine ⟨0, .inl rfl, ?_⟩
    have hint : |x - p| ≤ |0 - p| := by
      rw [abs_of_nonpos (by omega), abs_of_nonpos (by omega)]
      omega
    exact_mod_cast hint
  · refine ⟨m, .inr rfl, ?_⟩
    have hint : |x - p| ≤ |m - p| := by
      rw [abs_of_nonneg (by omega), abs_of_nonneg (by omega)]
      omega
    exact_mod_cast hint

/-- An admissible position of the window has an admissible corner. -/
theorem admissible_corner {maxX maxY x y : ℤ} (hx0 : 0 ≤ x) (hx : x ≤ maxX) (hy0 : 0 ≤ y)
    (hy : y ≤ maxY) (h : Admissible gt positive x y) :
    ∃ c ∈ pairs [0, maxX] [0, maxY], Admissible gt positive c.1 c.2 := by
  obtain ⟨cx, hcx, hfarX⟩ := exists_far_end positive.left hx0 hx
  obtain ⟨cy, hcy, hfarY⟩ := exists_far_end positive.top hy0 hy
  refine ⟨(cx, cy), mem_pairs.mpr ⟨by simpa using hcx, by simpa using hcy⟩, ?_⟩
  exact iou_move_lt_of_le hfarX hfarY h

end Corners

/-! ## The search decides -/

section Search

variable {ρ : Type} {im : Imaging ρ} {gt : Box ℚ} {positive : Box ℤ}

theorem randint_ok {lo hi : ℤ} (h : lo ≤ hi) (rng : ρ) :
    im.randint lo hi rng = .ok (im.draw lo hi rng) := if_neg (not_lt.mpr h)

variable (im) in
/-- Without rounding the random candidates never raise. -/
theorem sampleCandidates_ok (gt : Box ℚ) (positive : Box ℤ) {maxX maxY : ℤ} (hx : 0 ≤ maxX)
    (hy : 0 ≤ maxY) (n : ℕ) (rng : ρ) :
    ∃ sampled, sampleCandidates im gt positive maxX maxY n rng = .ok sampled := by
  induction n generalizing rng with
  | zero => exact ⟨none, rfl⟩
  | succ n ih =>
      unfold sampleCandidates
      rw [randint_ok hx]
      simp only [bind, Except.bind]
      rw [randint_ok hy]
      dsimp only
      rw [admissible_eq]
      dsimp only
      split
      · exact ⟨_, rfl⟩
      · exact ih _

/-- A loop whose turns only test. -/
theorem firstResult_test {α : Type} (p : α → Bool) (xs : List α) :
    firstResult (fun x => .ok (if p x then some x else none)) xs = .ok (xs.find? p) := by
  induction xs with
  | nil => rfl
  | cons x xs ih =>
      unfold firstResult
      rw [List.find?_cons]
      cases hp : p x with
      | true => rfl
      | false => exact ih

theorem firstCorner_eq (gt : Box ℚ) (positive : Box ℤ) (maxX maxY : ℤ) :
    firstCorner gt positive maxX maxY = .ok ((pairs [0, maxX] [0, maxY]).find? fun c =>
      decide (Admissible gt positive c.1 c.2)) := by
  unfold firstCorner
  simp only [admissible_eq]
  exact firstResult_test _ _

variable (im) in
/-- If the search settles on no position, none of the corners is admissible. -/
theorem firstAdmissible_cases (gt : Box ℚ) (positive : Box ℤ) {maxX maxY : ℤ} (hx : 0 ≤ maxX)
    (hy : 0 ≤ maxY) (rng : ρ) :
    (∃ c, firstAdmissible im gt positive maxX maxY rng = .ok (some c)) ∨
      (firstAdmissible im gt positive maxX maxY rng = .ok none ∧
        ∀ c ∈ pairs [0, maxX] [0, maxY], ¬Admissible gt positive c.1 c.2) := by
  obtain ⟨sampled, hsampled⟩ := sampleCandidates_ok im gt positive hx hy 2000 rng
  unfold firstAdmissible
  rw [hsampled, firstCorner_eq]
  cases sampled with
  | some c => exact .inl ⟨c, rfl⟩
  | none =>
      cases hcorner : (pairs [0, maxX] [0, maxY]).find? fun c =>
          decide (Admissible gt positive c.1 c.2) with
      | some c => exact .inl ⟨c, rfl⟩
      | none => exact .inr ⟨rfl, by simpa using hcorner⟩

/-- What a negative window has to be: the positive one moved inside the image, with the target
    moved along and mostly out of view of itself. -/
structure NegativeWindow (gt : Box ℚ) (positive : Box ℤ) (size : ℤ × ℤ) (window : Box ℤ)
    (target : Box ℚ) : Prop where
  inside : window.Inside size
  width_eq : window.right - window.left = positive.right - positive.left
  height_eq : window.bottom - window.top = positive.bottom - positive.top
  target_eq : target = gt.move (window.left - positive.left) (window.top - positive.top)
  iou_lt : iou target gt < negIouLimit

theorem FoundWindow.negativeWindow {size : ℤ × ℤ} {window : Box ℤ} {target : Box ℚ}
    (h : FoundWindow gt positive size window target) :
    NegativeWindow gt positive size window target where
  inside := h.inside
  width_eq := h.width_eq
  height_eq := h.height_eq
  target_eq := h.target_eq.trans (movedTarget_eq _ _ _ _)
  iou_lt := of_decide_eq_true (Except.ok.inj h.iou_lt)

/-- **The search is sound and complete.** For every target, every positive window inside the image
    and every generator whose draws stay in their range: it returns a negative window, or it
    raises and no position of the window inside the image is admissible. -/
theorem sampleNegativeWindow_exact (im : Imaging ρ) (gt : Box ℚ) (positive : Box ℤ)
    (size : ℤ × ℤ) (rng : ρ) (hdraw : im.DrawsInRange) (hin : positive.Inside size) :
    (∃ window target, sampleNegativeWindow im gt positive size rng = .ok (window, target) ∧
      NegativeWindow gt positive size window target) ∨
    (sampleNegativeWindow im gt positive size rng =
        .error (.valueError "No geometry-preserving negative window satisfies IoU < 0.1") ∧
      ∀ window target, ¬NegativeWindow gt positive size window target) := by
  obtain ⟨hmaxX, hmaxY⟩ := hin.room
  obtain ⟨c, hc⟩ | ⟨hnone, hcorners⟩ := firstAdmissible_cases im gt positive hmaxX hmaxY rng
  · have hresult : ∃ window target,
        sampleNegativeWindow im gt positive size rng = .ok (window, target) := by
      unfold sampleNegativeWindow
      dsimp only
      rw [hc]
      exact ⟨_, _, rfl⟩
    obtain ⟨window, target, hok⟩ := hresult
    exact .inl ⟨window, target, hok, (sampleNegativeWindow_found hdraw hin hok).negativeWindow⟩
  · refine .inr ⟨?_, fun window target h => ?_⟩
    · unfold sampleNegativeWindow
      dsimp only
      rw [hnone]
      rfl
    · -- a window anywhere would make one of the corners admissible
      have hright := h.inside.right_le
      have hbottom := h.inside.bottom_le
      have hwidth := h.width_eq
      have hheight := h.height_eq
      have hx : window.left ≤ size.1 - (positive.right - positive.left) := by omega
      have hy : window.top ≤ size.2 - (positive.bottom - positive.top) := by omega
      have hadm : Admissible gt positive window.left window.top := by
        have hlt := h.iou_lt
        rw [h.target_eq] at hlt
        exact hlt
      obtain ⟨c, hc, hcadm⟩ := admissible_corner h.inside.left_nonneg hx h.inside.top_nonneg hy hadm
      exact hcorners c hc hcadm

/-- A grey image of this size, if it is one. -/
def grey (size : ℤ × ℤ) : Except PyError Image :=
  if size.1 < 0 ∨ size.2 < 0 then .error (.valueError "bad image size")
  else .ok ⟨size.1.toNat, size.2.toNat,
    List.replicate size.2.toNat (List.replicate size.1.toNat ⟨128, 128, 128⟩)⟩

/-- Libraries that only know grey images, drawn on with grey: what is left are the sizes. -/
def greyImaging : Imaging Unit where
  decode _ := grey (4, 4)
  crop _ box := grey (box.right - box.left, box.bottom - box.top)
  rectangle image _ := .ok image
  lanczos _ size := grey size
  resizeBox _ size := grey size
  encode _ := .ok [0]
  frameMask _ _ _ := .ok [255]
  dilate mask := mask
  bestMatch image template _ :=
    if image.width < template.width ∨ image.height < template.height then
      .error (.valueError "template larger than the image")
    else .ok (0, 0)
  random _ := ()
  draw _ hi rng := (hi, rng)

theorem greyImaging_draws : greyImaging.DrawsInRange := fun _ _ _ h => ⟨h, le_refl _⟩

theorem sampleNegativeWindow_exact_sample :
    (∃ window target,
      sampleNegativeWindow greyImaging (⟨0, 0, 1, 1⟩ : Box ℚ) ⟨0, 0, 2, 2⟩ (4, 4) () =
        .ok (window, target) ∧ NegativeWindow ⟨0, 0, 1, 1⟩ ⟨0, 0, 2, 2⟩ (4, 4) window target) ∨
      (sampleNegativeWindow greyImaging (⟨0, 0, 1, 1⟩ : Box ℚ) ⟨0, 0, 2, 2⟩ (4, 4) () =
          .error (.valueError "No geometry-preserving negative window satisfies IoU < 0.1") ∧
        ∀ window target, ¬NegativeWindow ⟨0, 0, 1, 1⟩ ⟨0, 0, 2, 2⟩ (4, 4) window target) :=
  sampleNegativeWindow_exact greyImaging ⟨0, 0, 1, 1⟩ ⟨0, 0, 2, 2⟩ (4, 4) () greyImaging_draws
    ⟨by decide, by decide, by decide, by decide, by decide, by decide⟩

end Search

end LookAway.Data
