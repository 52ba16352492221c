/-
  Rows of masked entries, packed into one list and spread out again.

  A batch of padded rows is flattened and its masked entries are dropped (`gather` at the indices
  of the mask); after some work on the packed list the values go back to their places (`scatter`).
  `gather_rows`: the packed list is the concatenation of the rows without their padding.
  `scatter_rows`: a value goes back to the row and the column it came from.
  `getElem?_roll`: inside a row, a packed list that is rolled by one has the next entry of the row.
-/
import Mathlib.Data.List.ChainOfFn
import Mathlib.Data.List.Basic
import Mathlib.Tactic.Common

namespace LookAway.Base.Packing

variable {α β : Type}

/-! ## Definitions -/

/-- The indices of the entries that the mask keeps. -/
def indices (mask : List Bool) : List ℕ := mask.findIdxs id

/-- `xs` at `is`, which are in range. -/
def gather (xs : List α) (is : List ℕ) : List α := is.filterMap (xs[·]?)

/-- `n` zeros, overwritten at `is` by the values. -/
def scatter [Zero β] (n : ℕ) (is : List ℕ) (values : List β) : List β :=
  (is.zip values).foldl (fun out e => out.set e.1 e.2) (List.replicate n 0)

/-- The entries that the mask keeps. -/
def kept (mask : List Bool) (xs : List α) : List α :=
  ((mask.zip xs).filter (·.1)).map (·.2)

/-- How many entries the mask keeps. -/
def count (mask : List Bool) : ℕ := mask.countP id

/-- `b` rows of length `w`. -/
def unflatten (b w : ℕ) (xs : List α) : List (List α) :=
  (List.range b).map fun i => (xs.drop (i * w)).take w

/-! ## Packing -/

@[simp] theorem count_append (mask mask' : List Bool) :
    count (mask ++ mask') = count mask + count mask' := List.countP_append

@[simp] theorem count_true (n : ℕ) : count (List.replicate n true) = n := by
  simp [count, List.countP_replicate]

@[simp] theorem count_false (n : ℕ) : count (List.replicate n false) = 0 := by
  simp [count, List.countP_replicate]

@[simp] theorem kept_nil (xs : List α) : kept [] xs = [] := by simp [kept]

theorem kept_cons (b : Bool) (mask : List Bool) (x : α) (xs : List α) :
    kept (b :: mask) (x :: xs) = if b then x :: kept mask xs else kept mask xs := by
  cases b <;> simp [kept]

theorem kept_append {mask mask' : List Bool} {xs xs' : List α} (h : mask.length = xs.length) :
    kept (mask ++ mask') (xs ++ xs') = kept mask xs ++ kept mask' xs' := by
  simp [kept, List.zip_append h]

theorem kept_true (xs : List α) : kept (List.replicate xs.length true) xs = xs := by
  induction xs with
  | nil => rfl
  | cons x xs ih => rw [List.length_cons, List.replicate_succ, kept_cons, ih, if_pos rfl]

theorem kept_false (xs : List α) : kept (List.replicate xs.length false) xs = [] := by
  induction xs with
  | nil => rfl
  | cons x xs ih =>
      rw [List.length_cons, List.replicate_succ, kept_cons, ih, if_neg Bool.false_ne_true]

/-- A mask of ones, then zeros, keeps what stands in front. -/
theorem kept_padded (xs ys : List α) :
    kept (List.replicate xs.length true ++ List.replicate ys.length false) (xs ++ ys) = xs := by
  rw [kept_append (by simp), kept_true, kept_false, List.append_nil]

/-- A mask of ones, then zeros, keeps as many entries as it has ones. -/
theorem kept_take {xs : List α} {n m : ℕ} (h : n + m = xs.length) :
    kept (List.replicate n true ++ List.replicate m false) xs = xs.take n := by
  have hfront : (xs.take n).length = n := by simp; omega
  have hback : (xs.drop n).length = m := by simp; omega
  have hkept := kept_padded (xs.take n) (xs.drop n)
  rwa [hfront, hback, List.take_append_drop] at hkept

theorem gather_map (f : α → β) (xs : List α) (is : List ℕ) :
    gather (xs.map f) is = (gather xs is).map f := by
  simp [gather, List.map_filterMap]

theorem mem_of_mem_gather {xs : List α} {is : List ℕ} {x : α} (h : x ∈ gather xs is) : x ∈ xs := by
  obtain ⟨i, -, hi⟩ := List.mem_filterMap.mp h
  exact List.mem_of_getElem? hi

/-- Gathering in range takes one entry for each index. -/
theorem getElem?_gather {xs : List α} {is : List ℕ} (h : ∀ i ∈ is, i < xs.length) (r : ℕ) :
    (gather xs is)[r]? = is[r]?.bind (xs[·]?) := by
  induction is generalizing r with
  | nil => simp [gather]
  | cons i is ih =>
      have hi : i < xs.length := h i (by simp)
      have hrest := ih fun j hj => h j (by simp [hj])
      unfold gather at hrest ⊢
      rw [List.filterMap_cons_some (List.getElem?_eq_getElem hi)]
      cases r with
      | zero => simp [hi]
      | succ r => simpa using hrest r

/-- Gathering at the indices of the mask drops the rest. -/
theorem gather_indices {mask : List Bool} {xs : List α} (h : mask.length = xs.length) :
    gather xs (indices mask) = kept mask xs := by
  suffices ∀ pre : List α, (mask.findIdxs id pre.length).filterMap ((pre ++ xs)[·]?) =
      kept mask xs from this []
  induction mask generalizing xs with
  | nil => intro pre; simp
  | cons b mask ih =>
      intro pre
      cases xs with
      | nil => simp at h
      | cons x xs =>
          have hlen : mask.length = xs.length := by simpa using h
          have ih' := ih hlen (pre ++ [x])
          simp only [List.length_append, List.length_singleton, List.append_assoc,
            List.singleton_append] at ih'
          cases b <;> simp [List.findIdxs_cons, kept_cons, ih']

/-- Both sides row by row. -/
theorem gather_rows {masks : List (List Bool)} {rows : List (List α)}
    (h : List.Forall₂ (fun mask row => mask.length = row.length) masks rows) :
    gather rows.flatten (indices masks.flatten) = (List.zipWith kept masks rows).flatten := by
  have hpacked : masks.flatten.length = rows.flatten.length ∧
      kept masks.flatten rows.flatten = (List.zipWith kept masks rows).flatten := by
    induction h with
    | nil => simp
    | cons hrow _ ih =>
        simp only [List.flatten_cons, List.length_append, List.zipWith_cons_cons]
        rw [kept_append hrow, ih.2]
        exact ⟨by omega, rfl⟩
  rw [gather_indices hpacked.1, hpacked.2]

/-! ## Spreading out -/

theorem getElem?_foldl_set {es : List (ℕ × β)} {m : ℕ} (h : m ∉ es.map (·.1)) (out : List β) :
    (es.foldl (fun out e => out.set e.1 e.2) out)[m]? = out[m]? := by
  induction es generalizing out with
  | nil => rfl
  | cons e es ih =>
      simp only [List.map_cons, List.mem_cons, not_or] at h
      rw [List.foldl_cons, ih h.2, List.getElem?_set_ne (Ne.symm h.1)]

theorem length_foldl_set (es : List (ℕ × β)) (out : List β) :
    (es.foldl (fun out e => out.set e.1 e.2) out).length = out.length := by
  induction es generalizing out with
  | nil => rfl
  | cons e es ih => rw [List.foldl_cons, ih, List.length_set]

theorem length_scatter [Zero β] (n : ℕ) (is : List ℕ) (values : List β) :
    (scatter n is values).length = n := by
  unfold scatter
  rw [length_foldl_set, List.length_replicate]

/-- A kept entry has the value with its number. -/
theorem getElem?_scatter [Zero β] {mask : List Bool} {values : List β}
    (hlen : values.length = count mask) {m : ℕ} (hm : mask[m]? = some true) :
    (scatter mask.length (indices mask) values)[m]? = values[count (mask.take m)]? := by
  obtain ⟨hlt, hget⟩ := List.getElem?_eq_some_iff.mp hm
  obtain ⟨pre, post, hmask, hpre⟩ : ∃ pre post, mask = pre ++ true :: post ∧ pre.length = m := by
    refine ⟨mask.take m, mask.drop (m + 1), ?_, by simp; omega⟩
    rw [← hget, ← List.drop_eq_getElem_cons hlt, List.take_append_drop]
  subst hmask
  have hcount : values.length = count pre + (1 + count post) := by
    simp [hlen, count]
    omega
  obtain ⟨before, rest, rfl, hbefore⟩ : ∃ before rest, values = before ++ rest ∧
      before.length = count pre :=
    ⟨_, _, (List.take_append_drop (count pre) values).symm, by simp; omega⟩
  cases rest with
  | nil => simp at hcount; omega
  | cons v rest =>
      have hindices : indices (pre ++ true :: post) =
          indices pre ++ m :: post.findIdxs id (m + 1) := by
        simp [indices, hpre]
      have hzip : (indices (pre ++ true :: post)).zip (before ++ v :: rest) =
          (indices pre).zip before ++ (m, v) :: (post.findIdxs id (m + 1)).zip rest := by
        rw [hindices, List.zip_append (by simp [indices, hbefore, count]), List.zip_cons_cons]
      have hafter : m ∉ ((post.findIdxs id (m + 1)).zip rest).map (·.1) := by
        intro hmem
        obtain ⟨e, he, rfl⟩ := List.mem_map.mp hmem
        have hge := List.ge_of_mem_findIdxs _ (List.of_mem_zip he).1
        omega
      unfold scatter
      rw [hzip, List.foldl_append, List.foldl_cons, getElem?_foldl_set hafter,
        List.getElem?_set_self (by rw [length_foldl_set, List.length_replicate]; exact hlt)]
      rw [← hpre, List.take_left, ← hbefore]
      simp

/-! ## Rows of one length -/

section Rows

variable {rows : List (List α)} {w : ℕ}

theorem take_flatten (h : ∀ row ∈ rows, row.length = w) {i j : ℕ} (hi : i < rows.length)
    (hj : j ≤ w) : rows.flatten.take (i * w + j) = (rows.take i).flatten ++ rows[i].take j := by
  induction rows generalizing i with
  | nil => simp at hi
  | cons row rows ih =>
      have hrow : row.length = w := h row (by simp)
      cases i with
      | zero =>
          simp only [List.flatten_cons, Nat.zero_mul, Nat.zero_add, List.take_zero,
            List.flatten_nil, List.nil_append, List.getElem_cons_zero]
          rw [List.take_append_of_le_length (by omega)]
      | succ i =>
          have hrest := ih (fun r hr => h r (by simp [hr])) (i := i) (by simpa using hi)
          rw [List.flatten_cons, Nat.succ_mul,
            show i * w + w + j = row.length + (i * w + j) by omega, List.take_length_add_append,
            hrest]
          simp

theorem getElem?_flatten_row (h : ∀ row ∈ rows, row.length = w) {i j : ℕ} (hi : i < rows.length)
    (hj : j < w) : rows.flatten[i * w + j]? = rows[i][j]? := by
  induction rows generalizing i with
  | nil => simp at hi
  | cons row rows ih =>
      have hrow : row.length = w := h row (by simp)
      cases i with
      | zero => simp [List.getElem?_append_left, hrow, hj]
      | succ i =>
          have hrest := ih (fun r hr => h r (by simp [hr])) (i := i) (by simpa using hi)
          rw [List.flatten_cons, Nat.succ_mul,
            show i * w + w + j = row.length + (i * w + j) by omega,
            List.getElem?_append_right (by omega), Nat.add_sub_cancel_left, hrest]
          simp

theorem length_flatten_rows (h : ∀ row ∈ rows, row.length = w) :
    rows.flatten.length = rows.length * w := by
  rw [List.length_flatten, List.map_congr_left h]
  simp

/-- The entry `k` of a row, in the concatenation. -/
theorem getElem?_flatten_offset {i k : ℕ} (hi : i < rows.length) (hk : k < rows[i].length) :
    rows.flatten[(rows.take i).flatten.length + k]? = rows[i][k]? := by
  induction rows generalizing i with
  | nil => simp at hi
  | cons row rows ih =>
      cases i with
      | zero =>
          have hrow : k < row.length := by simpa using hk
          simp [List.getElem?_append_left hrow]
      | succ i =>
          have hrest := ih (i := i) (by simpa using hi) (by simpa using hk)
          rw [List.take_succ_cons, List.flatten_cons, List.flatten_cons, List.length_append,
            Nat.add_assoc, List.getElem?_append_right (by omega), Nat.add_sub_cancel_left, hrest]
          simp

end Rows

@[simp] theorem length_unflatten (b w : ℕ) (xs : List α) : (unflatten b w xs).length = b := by
  simp [unflatten]

theorem getElem?_unflatten {b w i j : ℕ} (xs : List α) (hi : i < b) (hj : j < w) :
    ((unflatten b w xs)[i]?.bind (·[j]?)) = xs[i * w + j]? := by
  simp [unflatten, hi, hj]

theorem length_of_mem_unflatten {b w : ℕ} {xs : List α} (h : xs.length = b * w) :
    ∀ row ∈ unflatten b w xs, row.length = w := by
  intro row hrow
  obtain ⟨i, hi, rfl⟩ := List.mem_map.mp hrow
  have hmul : (i + 1) * w ≤ b * w := Nat.mul_le_mul_right w (List.mem_range.mp hi)
  rw [List.length_take, List.length_drop, h]
  rw [Nat.succ_mul] at hmul
  omega

/-- A value goes back to its row and its column. -/
theorem scatter_rows [Zero β] {masks : List (List Bool)} {w : ℕ}
    (h : ∀ mask ∈ masks, mask.length = w) {values : List β}
    (hlen : values.length = count masks.flatten) {i j : ℕ} (hi : i < masks.length)
    (hmask : masks[i][j]? = some true) :
    (scatter (masks.length * w) (indices masks.flatten) values)[i * w + j]? =
      values[count (masks.take i).flatten + count (masks[i].take j)]? := by
  have hj : j < w := by
    rw [← h masks[i] (List.getElem_mem hi)]
    exact (List.getElem?_eq_some_iff.mp hmask).1
  have hflat : masks.flatten[i * w + j]? = some true := by
    rw [getElem?_flatten_row h hi hj, hmask]
  rw [← length_flatten_rows h, getElem?_scatter hlen hflat, take_flatten h hi (by omega)]
  simp [count]

/-! ## Rolling -/

/-- `torch.roll(xs, shifts=-1)`. -/
def roll (xs : List α) : List α := xs.drop 1 ++ xs.take 1

theorem length_roll (xs : List α) : (roll xs).length = xs.length := by
  unfold roll
  simp
  omega

theorem getElem?_roll {xs : List α} {m : ℕ} (h : m + 1 < xs.length) :
    (roll xs)[m]? = xs[m + 1]? := by
  unfold roll
  rw [List.getElem?_append_left (by simp; omega), List.getElem?_drop, Nat.add_comm]

end LookAway.Base.Packing
