/-
  Taking the entries of a list in another order and putting them back. Nothing here names a
  program.

  An order is a list of indices. `gather_perm_range`: an order that holds every index once keeps the
  entries. `gather_inverse`: filling each index with its place gives the order that undoes it.
-/
import LookAway.Base.Packing
import LookAway.Base.SparseVector

namespace LookAway.Base.Packing

variable {α β : Type} {xs : List α} {is js : List ℕ} {n : ℕ}

/-! ## Gathering -/

@[simp] theorem gather_nil (xs : List α) : gather xs [] = [] := rfl

theorem gather_append (xs : List α) (is js : List ℕ) :
    gather xs (is ++ js) = gather xs is ++ gather xs js := List.filterMap_append

theorem gather_flatten (xs : List α) (iss : List (List ℕ)) :
    gather xs iss.flatten = (iss.map (gather xs)).flatten := by
  induction iss with
  | nil => rfl
  | cons is iss ih =>
      rw [List.flatten_cons, gather_append, ih, List.map_cons, List.flatten_cons]

theorem gather_perm (xs : List α) (h : is.Perm js) : (gather xs is).Perm (gather xs js) :=
  h.filterMap _

theorem length_gather (h : ∀ i ∈ is, i < xs.length) : (gather xs is).length = is.length := by
  induction is with
  | nil => rfl
  | cons i is ih =>
      unfold gather at ih ⊢
      rw [List.filterMap_cons_some (List.getElem?_eq_getElem (h i (by simp))), List.length_cons,
        ih fun j hj => h j (by simp [hj]), List.length_cons]

theorem gather_range (xs : List α) : gather xs (List.range xs.length) = xs := by
  have hin : ∀ i ∈ List.range xs.length, i < xs.length := fun i hi => List.mem_range.mp hi
  apply List.ext_getElem?
  intro i
  rw [getElem?_gather hin]
  rcases Nat.lt_or_ge i xs.length with hi | hi
  · rw [List.getElem?_range hi, Option.bind_some]
  · rw [List.getElem?_eq_none (by simpa using hi), List.getElem?_eq_none hi, Option.bind_none]

/-- Every entry once. -/
theorem gather_perm_range (h : is.Perm (List.range xs.length)) : (gather xs is).Perm xs := by
  have hperm := gather_perm xs h
  rwa [gather_range] at hperm

theorem lt_of_perm_range (h : is.Perm (List.range n)) : ∀ i ∈ is, i < n :=
  fun _ hi => List.mem_range.mp (h.subset hi)

/-! ## Undoing -/

theorem lookup_zipIdx {i j : ℕ} (hnodup : is.Nodup) (hi : is[i]? = some j) :
    is.zipIdx.lookup j = some i := by
  suffices ∀ start, (is.zipIdx start).lookup j = some (start + i) by
    simpa using this 0
  induction is generalizing i with
  | nil => simp at hi
  | cons k is ih =>
      intro start
      obtain ⟨hk, hrest⟩ := List.nodup_cons.mp hnodup
      rw [List.zipIdx_cons]
      cases i with
      | zero =>
          obtain rfl : k = j := by simpa using hi
          rw [List.lookup_cons_self, Nat.add_zero]
      | succ i =>
          have hmem : j ∈ is := List.mem_of_getElem? (by simpa using hi)
          have hne : j ≠ k := by
            rintro rfl
            exact hk hmem
          rw [lookup_cons_of_ne (k, start) hne, ih hrest (by simpa using hi) (start + 1)]
          congr 1
          omega

/-- Place `j` of the inverse: where `j` stands. -/
theorem getElem?_inverse {i j : ℕ} (h : is.Perm (List.range n)) (hi : is[i]? = some j) :
    (fill is is.zipIdx)[j]? = some i := by
  have hnodup : is.Nodup := h.nodup_iff.mpr List.nodup_range
  have hj : j < is.length := by
    have := lt_of_perm_range h j (List.mem_of_getElem? hi)
    rwa [h.length_eq, List.length_range]
  have hkeys : (is.zipIdx.map (·.1)).Nodup := by
    rw [List.zipIdx_map_fst]
    exact hnodup
  rw [getElem?_fill hkeys, lookup_zipIdx hnodup hi, List.getElem?_eq_getElem hj]
  rfl

/-- The inverse takes in range. -/
theorem lt_of_mem_inverse (h : is.Perm (List.range n)) : ∀ i ∈ fill is is.zipIdx, i < n := by
  intro i hi
  have hlength : is.length = n := by rw [h.length_eq, List.length_range]
  obtain ⟨j, hj⟩ := List.mem_iff_getElem?.mp hi
  have hjlt : j < n := by
    have := (List.getElem?_eq_some_iff.mp hj).1
    rwa [length_fill, hlength] at this
  obtain ⟨i', hi'⟩ := List.mem_iff_getElem?.mp (h.symm.subset (List.mem_range.mpr hjlt))
  have hplace := getElem?_inverse h hi'
  rw [hj] at hplace
  obtain rfl := Option.some.inj hplace
  rw [← hlength]
  exact (List.getElem?_eq_some_iff.mp hi').1

/-- What stands at `i` in the order goes back to the index that `i` has. -/
theorem getElem?_gather_inverse {vs : List β} {i j : ℕ} (h : is.Perm (List.range vs.length))
    (hi : is[i]? = some j) : (gather vs (fill is is.zipIdx))[j]? = vs[i]? := by
  rw [getElem?_gather (lt_of_mem_inverse h), getElem?_inverse h hi, Option.bind_some]

theorem length_gather_inverse {vs : List β} (h : is.Perm (List.range vs.length)) :
    (gather vs (fill is is.zipIdx)).length = vs.length := by
  rw [length_gather (lt_of_mem_inverse h), length_fill, h.length_eq, List.length_range]

/-- Values that belong to the entries in the order belong to the entries when put back. -/
theorem forall₂_gather_inverse {R : α → β → Prop} {vs : List β}
    (h : is.Perm (List.range xs.length)) (hvs : List.Forall₂ R (gather xs is) vs) :
    List.Forall₂ R xs (gather vs (fill is is.zipIdx)) := by
  have hin := lt_of_perm_range h
  have hlength : vs.length = xs.length := by
    rw [← hvs.length_eq, length_gather hin, h.length_eq, List.length_range]
  have h' : is.Perm (List.range vs.length) := by rwa [hlength]
  refine List.forall₂_iff_get.mpr ⟨by rw [length_gather_inverse h', hlength], ?_⟩
  intro j hj hj'
  obtain ⟨i, hi⟩ := List.mem_iff_getElem?.mp (h.symm.subset (List.mem_range.mpr hj))
  have hx : (gather xs is)[i]? = some xs[j] := by
    rw [getElem?_gather hin, hi, Option.bind_some, List.getElem?_eq_getElem hj]
  have hv : vs[i]? = some ((gather vs (fill is is.zipIdx)).get ⟨j, hj'⟩) := by
    rw [← getElem?_gather_inverse h' hi, List.getElem?_eq_getElem hj', List.get_eq_getElem]
  obtain ⟨hilt, hxi⟩ := List.getElem?_eq_some_iff.mp hx
  obtain ⟨hilt', hvi⟩ := List.getElem?_eq_some_iff.mp hv
  have hR := hvs.get hilt hilt'
  rw [List.get_eq_getElem, List.get_eq_getElem, hxi, hvi] at hR
  exact hR

/-! ## Places in a concatenation -/

section Concatenation

variable (f : α → List β) {x : α} {i k : ℕ}

theorem flatMap_split (hi : xs[i]? = some x) :
    xs.flatMap f = (xs.take i).flatMap f ++ (f x ++ (xs.drop (i + 1)).flatMap f) := by
  obtain ⟨hlt, rfl⟩ := List.getElem?_eq_some_iff.mp hi
  rw [← List.flatMap_cons, List.getElem_cons_drop, ← List.flatMap_append, List.take_append_drop]

theorem getElem?_flatMap (hi : xs[i]? = some x) (hk : k < (f x).length) :
    (xs.flatMap f)[((xs.take i).flatMap f).length + k]? = (f x)[k]? := by
  rw [flatMap_split f hi, List.getElem?_append_right (Nat.le_add_right _ _),
    Nat.add_sub_cancel_left, List.getElem?_append_left hk]

theorem take_flatMap (hi : xs[i]? = some x) (hk : k ≤ (f x).length) :
    (xs.flatMap f).take (((xs.take i).flatMap f).length + k) =
      (xs.take i).flatMap f ++ (f x).take k := by
  rw [flatMap_split f hi, List.take_length_add_append, List.take_append_of_le_length hk]

/-- Each place of a concatenation is a place of one of its parts. -/
theorem exists_place {xs : List α} {t : ℕ} (h : t < (xs.flatMap f).length) :
    ∃ i x k, xs[i]? = some x ∧ k < (f x).length ∧ t = ((xs.take i).flatMap f).length + k := by
  induction xs generalizing t with
  | nil => exact absurd h (Nat.not_lt_zero t)
  | cons y ys ih =>
      rw [List.flatMap_cons, List.length_append] at h
      rcases Nat.lt_or_ge t (f y).length with ht | ht
      · exact ⟨0, y, t, rfl, ht, by simp⟩
      · obtain ⟨i, x, k, hi, hk, heq⟩ := ih (t := t - (f y).length) (by omega)
        refine ⟨i + 1, x, k, hi, hk, ?_⟩
        rw [List.take_succ_cons, List.flatMap_cons, List.length_append]
        omega

theorem length_flatMap_congr {γ : Type} {f : α → List β} {g : α → List γ}
    (h : ∀ x ∈ xs, (f x).length = (g x).length) :
    (xs.flatMap f).length = (xs.flatMap g).length := by
  rw [List.length_flatMap, List.length_flatMap, List.map_congr_left h]

end Concatenation

/-! ## Splitting -/

theorem flatten_unflatten (b w : ℕ) (xs : List α) :
    (unflatten b w xs).flatten = xs.take (b * w) := by
  induction b generalizing xs with
  | zero => rw [Nat.zero_mul, List.take_zero]; rfl
  | succ b ih =>
      have hrest := ih (xs.drop w)
      unfold unflatten at hrest ⊢
      have hshift : ((fun i => (xs.drop (i * w)).take w) ∘ Nat.succ) =
          fun i => ((xs.drop w).drop (i * w)).take w := by
        funext i
        rw [Function.comp_apply, Nat.succ_mul, List.drop_drop, Nat.add_comm]
      rw [List.range_succ_eq_map, List.map_cons, List.map_map, List.flatten_cons, Nat.zero_mul,
        List.drop_zero, hshift, hrest, Nat.succ_mul, Nat.add_comm, List.take_add]

end LookAway.Base.Packing
