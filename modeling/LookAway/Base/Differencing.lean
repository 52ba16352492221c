/-
  Largest differencing: lists of sums in decreasing order, merged two at a time by adding the
  largest of one to the smallest of the other. Nothing here names a program.

  `popLeast` takes the least element of a queue, and `mergeRound` merges the two least ones
  (`merge_rounds`: the rounds end with one element, under every invariant a merge keeps).
  `Within.zipWith_reverse`: a merge does not widen the gap between the sums.
  `count_zipWith_reverse`: a merge leaves no place empty that the two together can fill.
-/
import LookAway.Base.Loop
import Mathlib.Algebra.Order.Monoid.Defs
import Mathlib.Data.List.Perm.Basic

namespace LookAway.Base.Differencing

/-! ## The queue -/

section Queue

variable {α : Type}

/-- The least element, and the others. -/
def popLeast (lt : α → α → Bool) : List α → Option (α × List α)
  | [] => none
  | x :: xs =>
      match popLeast lt xs with
      | none => some (x, [])
      | some (y, rest) => if lt y x then some (y, x :: rest) else some (x, y :: rest)

/-- The two least elements become one. There is no round with fewer than two. -/
def mergeRound (lt : α → α → Bool) (merge : α → α → α) (queue : List α) : Option (List α) := do
  let (x, queue) ← popLeast lt queue
  let (y, queue) ← popLeast lt queue
  return merge x y :: queue

variable {lt : α → α → Bool} {merge : α → α → α} {queue rest : List α} {x : α}

theorem popLeast_perm (h : popLeast lt queue = some (x, rest)) : queue.Perm (x :: rest) := by
  induction queue generalizing x rest with
  | nil => cases h
  | cons z queue ih =>
      rw [popLeast] at h
      cases hpop : popLeast lt queue with
      | none =>
          rw [hpop] at h
          cases h
          cases queue with
          | nil => exact .refl _
          | cons w queue =>
              rw [popLeast] at hpop
              split at hpop
              · cases hpop
              · split at hpop <;> cases hpop
      | some p =>
          obtain ⟨y, others⟩ := p
          have hperm := ih hpop
          rw [hpop] at h
          dsimp only at h
          split at h
          · cases h
            exact (hperm.cons z).trans (.swap _ z others)
          · cases h
            exact hperm.cons z

theorem popLeast_of_ne_nil (lt : α → α → Bool) (h : queue ≠ []) :
    ∃ x rest, popLeast lt queue = some (x, rest) := by
  cases queue with
  | nil => exact absurd rfl h
  | cons z queue =>
      rw [popLeast]
      split
      · exact ⟨_, _, rfl⟩
      · split
        · exact ⟨_, _, rfl⟩
        · exact ⟨_, _, rfl⟩

theorem mergeRound_some {queue' : List α} (h : mergeRound lt merge queue = some queue') :
    ∃ x y rest, queue.Perm (x :: y :: rest) ∧ queue' = merge x y :: rest := by
  obtain ⟨⟨x, others⟩, hx, h⟩ := Option.bind_eq_some_iff.mp h
  obtain ⟨⟨y, rest⟩, hy, h⟩ := Option.bind_eq_some_iff.mp h
  cases h
  exact ⟨x, y, rest, (popLeast_perm hx).trans ((popLeast_perm hy).cons x), rfl⟩

theorem mergeRound_none (h : mergeRound lt merge queue = none) : queue.length ≤ 1 := by
  by_contra hlength
  have hqueue : queue ≠ [] := by
    rintro rfl
    simp at hlength
  obtain ⟨x, others, hx⟩ := popLeast_of_ne_nil lt hqueue
  have hperm := (popLeast_perm hx).length_eq
  have hothers : others ≠ [] := by
    rintro rfl
    simp at hperm
    omega
  obtain ⟨y, rest, hy⟩ := popLeast_of_ne_nil lt hothers
  unfold mergeRound at h
  rw [hx, Option.bind_eq_bind, Option.bind_some] at h
  dsimp only at h
  rw [hy] at h
  cases h

/-- Merging until one element is left. -/
theorem merge_rounds (lt : α → α → Bool) (merge : α → α → α) (inv : List α → Prop)
    (hperm : ∀ q q', q.Perm q' → inv q → inv q')
    (hmerge : ∀ x y q, inv (x :: y :: q) → inv (merge x y :: q)) (hqueue : inv queue)
    (hne : queue ≠ []) {n : ℕ} (hn : queue.length ≤ n) :
    ∃ z, Loop.rounds (mergeRound lt merge) n queue = some [z] ∧ inv [z] := by
  have hround : ∀ q q', (inv q ∧ q ≠ []) → mergeRound lt merge q = some q' →
      (inv q' ∧ q' ≠ []) ∧ q'.length - 1 < q.length - 1 := by
    rintro q q' ⟨hq, -⟩ h
    obtain ⟨x, y, rest, hxy, rfl⟩ := mergeRound_some h
    refine ⟨⟨hmerge x y rest (hperm _ _ hxy hq), List.cons_ne_nil _ _⟩, ?_⟩
    rw [hxy.length_eq, List.length_cons, List.length_cons, List.length_cons]
    omega
  have hpos := List.length_pos_iff.mpr hne
  obtain ⟨q, hq, ⟨hinv, hq_ne⟩, -, hend⟩ := Loop.rounds_of_measure (fun q : List α => q.length - 1)
    hround ⟨hqueue, hne⟩ (show queue.length - 1 < n by omega)
  have hle := mergeRound_none hend
  have hq_pos := List.length_pos_iff.mpr hq_ne
  obtain ⟨z, rfl⟩ := List.length_eq_one_iff.mp (show q.length = 1 by omega)
  exact ⟨z, hq, hinv⟩

end Queue

/-! ## The gap between the sums -/

section Gap

theorem getElem_le_of_le {α : Type} [Preorder α] {xs : List α} (h : xs.Pairwise (· ≥ ·)) {i j : ℕ}
    (hij : i ≤ j) (hj : j < xs.length) : xs[j] ≤ xs[i] := by
  rcases Nat.lt_or_eq_of_le hij with hlt | rfl
  · exact List.pairwise_iff_getElem.mp h i j _ hj hlt
  · exact le_refl _

variable {α : Type} [AddCommMonoid α] [PartialOrder α] [IsOrderedAddMonoid α] {d : α}
  {xs ys : List α}

/-- No two entries are further apart than `d`. -/
def Within (d : α) (xs : List α) : Prop := ∀ x ∈ xs, ∀ y ∈ xs, x ≤ y + d

omit [IsOrderedAddMonoid α] in
theorem Within.perm (h : xs.Perm ys) (hxs : Within d xs) : Within d ys :=
  fun x hx y hy => hxs x (h.symm.subset hx) y (h.symm.subset hy)

/-- An entry, as often as there are entries, against the sum of them all. -/
theorem Within.length_nsmul_le (h : Within d xs) {x : α} (hx : x ∈ xs) :
    xs.length • x ≤ xs.sum + xs.length • d := by
  have hle : ∀ ys : List α, (∀ y ∈ ys, x ≤ y + d) → ys.length • x ≤ ys.sum + ys.length • d := by
    intro ys hys
    induction ys with
    | nil => simp
    | cons y ys ih =>
        obtain ⟨hy, hys⟩ := List.forall_mem_cons.mp hys
        rw [List.length_cons, succ_nsmul, succ_nsmul, List.sum_cons,
          add_comm (ys.length • d) d, add_add_add_comm, add_comm (ys.length • x) x]
        exact add_le_add hy (ih hys)
  exact hle xs fun y hy => h x hx y hy

theorem Within.zipWith_reverse (hx : xs.Pairwise (· ≥ ·)) (hy : ys.Pairwise (· ≥ ·))
    (hlength : xs.length = ys.length) (hxs : Within d xs) (hys : Within d ys) :
    Within d (List.zipWith (· + ·) xs ys.reverse) := by
  intro a ha b hb
  obtain ⟨i, hi, rfl⟩ := List.mem_iff_getElem.mp ha
  obtain ⟨j, hj, rfl⟩ := List.mem_iff_getElem.mp hb
  rw [List.length_zipWith, List.length_reverse] at hi hj
  rw [List.getElem_zipWith, List.getElem_zipWith, List.getElem_reverse, List.getElem_reverse]
  rcases Nat.le_total i j with hij | hji
  · calc xs[i] + ys[ys.length - 1 - i]
        ≤ (xs[j] + d) + ys[ys.length - 1 - j] :=
          add_le_add (hxs _ (List.getElem_mem _) _ (List.getElem_mem _))
            (getElem_le_of_le hy (by omega) (by omega))
      _ = xs[j] + ys[ys.length - 1 - j] + d := add_right_comm _ _ _
  · calc xs[i] + ys[ys.length - 1 - i]
        ≤ xs[j] + (ys[ys.length - 1 - j] + d) :=
          add_le_add (getElem_le_of_le hx hji (by omega))
            (hys _ (List.getElem_mem _) _ (List.getElem_mem _))
      _ = xs[j] + ys[ys.length - 1 - j] + d := (add_assoc _ _ _).symm

end Gap

/-! ## The empty places -/

section Places

variable {xs ys : List Bool}

/-- Filled places first. -/
theorem eq_replicate_append (h : xs.Pairwise fun a b => b = true → a = true) :
    xs = List.replicate (xs.count true) true ++
      List.replicate (xs.length - xs.count true) false := by
  induction xs with
  | nil => rfl
  | cons x xs ih =>
      obtain ⟨hfirst, hrest⟩ := List.pairwise_cons.mp h
      have hle : xs.count true ≤ xs.length := List.count_le_length
      cases x with
      | true =>
          rw [List.count_cons_self, List.length_cons, Nat.add_sub_add_right, List.replicate_succ,
            List.cons_append, ← ih hrest]
      | false =>
          have hnone : xs.count true = 0 := by
            rw [List.count_eq_zero]
            intro hmem
            exact absurd (hfirst true hmem rfl) (by decide)
          have hcount : (false :: xs).count true = 0 := by
            rw [List.count_cons_of_ne (by decide), hnone]
          have hih := ih hrest
          rw [hnone, List.replicate_zero, List.nil_append, Nat.sub_zero] at hih
          rw [hcount, List.replicate_zero, List.nil_append, Nat.sub_zero, List.length_cons,
            List.replicate_succ, ← hih]

theorem count_zipWith_reverse {k : ℕ} (hx : xs.Pairwise fun a b => b = true → a = true)
    (hy : ys.Pairwise fun a b => b = true → a = true) (hxk : xs.length = k)
    (hyk : ys.length = k) :
    (List.zipWith (· || ·) xs ys.reverse).count true = min k (xs.count true + ys.count true) := by
  have hxle : xs.count true ≤ k := hxk ▸ List.count_le_length
  have hyle : ys.count true ≤ k := hyk ▸ List.count_le_length
  have hxs := eq_replicate_append hx
  have hys := eq_replicate_append hy
  rw [hxk] at hxs
  rw [hyk] at hys
  generalize xs.count true = a at hxs hxle ⊢
  generalize ys.count true = b at hys hyle ⊢
  rw [hxs, hys, List.reverse_append, List.reverse_replicate, List.reverse_replicate]
  rcases Nat.le_total (a + b) k with hab | hab
  · -- both have room: the filled places do not meet
    have hleft : List.replicate (k - a) false =
        List.replicate (k - a - b) false ++ List.replicate b false := by
      rw [List.replicate_append_replicate]
      congr 1
      omega
    have hright : List.replicate (k - b) false =
        List.replicate a false ++ List.replicate (k - a - b) false := by
      rw [List.replicate_append_replicate]
      congr 1
      omega
    rw [hleft, hright, List.append_assoc, List.zipWith_append (by simp),
      List.zipWith_append (by simp), List.zipWith_replicate', List.zipWith_replicate',
      List.zipWith_replicate', List.count_append, List.count_append]
    simp only [Bool.or_false, Bool.false_or, List.count_replicate_self, Bool.or_self]
    rw [List.count_replicate, if_neg (by decide)]
    omega
  · -- no place is left empty
    have hall : List.zipWith (· || ·) (List.replicate a true ++ List.replicate (k - a) false)
        (List.replicate (k - b) false ++ List.replicate b true) = List.replicate k true := by
      apply List.ext_getElem
      · simp
        omega
      · intro i hi hi'
        rw [List.length_replicate] at hi'
        rw [List.getElem_zipWith, List.getElem_replicate]
        rcases Nat.lt_or_ge i a with hia | hia
        · rw [List.getElem_append_left (by simpa using hia), List.getElem_replicate, Bool.true_or]
        · have hright : (List.replicate (k - b) false).length ≤ i := by
            rw [List.length_replicate]
            omega
          rw [List.getElem_append_right hright, List.getElem_replicate, Bool.or_true]
    rw [hall, List.count_replicate_self]
    omega

end Places

end LookAway.Base.Differencing
