/-
  What the balanced partitions are, over every list of values.

  `getSeqlenBalancedPartitions_spec`: the partitions exist exactly when there is a positive number
  of them, a value for each and, with equal sizes, a whole number of values for each; then they are
  disjoint, cover every index, and none is empty, so none of the assertions of the source fires.
  `spread_le`: two of them differ by no more than the largest value (with equal sizes, by no more
  than two values that enter the heap together), and so each is that close to its share. Both come
  from `Balanced`, which a new state has and a merge keeps.
-/
import LookAway.Base.Control
import LookAway.Base.Reordering
import LookAway.Training.SeqlenBalancing
import Mathlib.Algebra.Order.BigOperators.Group.List
import Mathlib.Algebra.Order.Group.Nat

namespace LookAway.Training

open LookAway.Base LookAway.Base.Differencing

/-! ## Sets in decreasing order -/

namespace ItemSet

variable {s other : ItemSet}

theorem Before.sum_le (h : s.Before other) : other.sum ≤ s.sum := by
  have hkey := before_iff.mp h
  unfold key at hkey
  rw [Prod.Lex.toLex_le_toLex] at hkey
  omega

/-- The empty sets stand last. -/
theorem Before.items_ne_nil (h : s.Before other) (hother : other.items ≠ []) : s.items ≠ [] := by
  have hpos := List.length_pos_iff.mpr hother
  have hkey := before_iff.mp h
  unfold key at hkey
  rw [Prod.Lex.toLex_le_toLex, Prod.Lex.toLex_le_toLex] at hkey
  rintro hnil
  have hsum : s.sum = 0 := by rw [s.sum_eq, hnil]; rfl
  rw [hsum, hnil, List.length_nil] at hkey
  omega

theorem flatMap_zipWith_merge {xs ys : List ItemSet} (h : xs.length = ys.length) :
    ((List.zipWith merge xs ys).flatMap (·.items)).Perm
      (xs.flatMap (·.items) ++ ys.flatMap (·.items)) := by
  induction xs generalizing ys with
  | nil =>
      cases ys with
      | nil => exact .refl _
      | cons y ys => simp at h
  | cons x xs ih =>
      cases ys with
      | nil => simp at h
      | cons y ys =>
          have hlength : xs.length = ys.length := by simpa using h
          have hrest := ih hlength
          rw [List.zipWith_cons_cons, List.flatMap_cons, List.flatMap_cons, List.flatMap_cons]
          change (x.items ++ y.items ++ _).Perm _
          rw [List.append_assoc, List.append_assoc]
          refine List.Perm.append_left x.items ((hrest.append_left y.items).trans ?_)
          rw [← List.append_assoc, ← List.append_assoc]
          exact List.perm_append_comm.append_right _

end ItemSet

namespace State

variable {k : ℕ} {s t : State k} {d : ℕ} {equalSize : Bool}

/-- The rows of all sets. -/
def items (s : State k) : List (ℕ × ℕ) := s.sets.flatMap (·.items)

/-- Which sets have rows. -/
def filled (sets : List ItemSet) : List Bool := sets.map fun set => !set.items.isEmpty

theorem ofSets_perm {sets : List ItemSet} (h : sets.length = k) :
    (ofSets sets h).sets.Perm sets := List.perm_insertionSort _ _

theorem items_ofSets {sets : List ItemSet} (h : sets.length = k) :
    (ofSets sets h).items.Perm (sets.flatMap (·.items)) := (ofSets_perm h).flatMap_right _

theorem sets_merge (s t : State k) :
    (s.merge t).sets.Perm (List.zipWith ItemSet.merge s.sets t.sets.reverse) :=
  List.perm_insertionSort _ _

theorem items_merge (s t : State k) : (s.merge t).items.Perm (s.items ++ t.items) := by
  refine (items_ofSets _).trans ?_
  refine (ItemSet.flatMap_zipWith_merge ?_).trans ?_
  · rw [List.length_reverse, s.length_sets, t.length_sets]
  · exact List.Perm.append_left _ ((List.reverse_perm _).flatMap_right _)

theorem pairwise_sum (s : State k) : (s.sets.map (·.sum)).Pairwise (· ≥ ·) :=
  List.pairwise_map.mpr (s.decreasing.imp fun h => h.sum_le)

theorem pairwise_filled (s : State k) :
    (filled s.sets).Pairwise fun a b => b = true → a = true := by
  refine List.pairwise_map.mpr (s.decreasing.imp fun {a b} h hb => ?_)
  rw [Bool.not_eq_true', List.isEmpty_eq_false_iff] at hb ⊢
  exact h.items_ne_nil hb

/-- What a new state has and a merge keeps: as few empty sets as its rows allow, sums within `d`,
    and sets of one size when the partitions are to be equal. -/
structure Balanced (d : ℕ) (equalSize : Bool) (s : State k) : Prop where
  count_filled : (filled s.sets).count true = min k s.items.length
  within : Within d (s.sets.map (·.sum))
  equal : equalSize = true → ∃ m, ∀ set ∈ s.sets, set.items.length = m

theorem Balanced.merge (hs : Balanced d equalSize s) (ht : Balanced d equalSize t) :
    Balanced d equalSize (s.merge t) where
  count_filled := by
    have hmerged : filled (List.zipWith ItemSet.merge s.sets t.sets.reverse) =
        List.zipWith (· || ·) (filled s.sets) (filled t.sets).reverse := by
      unfold filled
      rw [List.map_zipWith, ← List.map_reverse, List.zipWith_map]
      congr 1
      funext a b
      change (!(a.items ++ b.items).isEmpty) = _
      cases a.items <;> cases b.items <;> rfl
    have hperm : (filled (s.merge t).sets).Perm (filled _) := (sets_merge s t).map _
    rw [hperm.count_eq, hmerged,
      count_zipWith_reverse (k := k) s.pairwise_filled t.pairwise_filled
        (by simp [filled, s.length_sets]) (by simp [filled, t.length_sets]),
      hs.count_filled, ht.count_filled, (items_merge s t).length_eq, List.length_append]
    omega
  within := by
    have hmerged : (List.zipWith ItemSet.merge s.sets t.sets.reverse).map (·.sum) =
        List.zipWith (· + ·) (s.sets.map (·.sum)) (t.sets.map (·.sum)).reverse := by
      rw [List.map_zipWith, ← List.map_reverse, List.zipWith_map]
      rfl
    refine Within.perm ((sets_merge s t).map _).symm ?_
    rw [hmerged]
    exact Within.zipWith_reverse s.pairwise_sum t.pairwise_sum
      (by simp [s.length_sets, t.length_sets]) hs.within ht.within
  equal := by
    intro h
    obtain ⟨m, hm⟩ := hs.equal h
    obtain ⟨m', hm'⟩ := ht.equal h
    refine ⟨m + m', fun set hset => ?_⟩
    obtain ⟨a, b, ha, hb, rfl⟩ : ∃ a b, a ∈ s.sets ∧ b ∈ t.sets ∧ set = a.merge b := by
      have hset' := (sets_merge s t).subset hset
      obtain ⟨i, hi, rfl⟩ := List.mem_iff_getElem.mp hset'
      exact ⟨_, _, List.getElem_mem _, List.mem_reverse.mp (List.getElem_mem _),
        List.getElem_zipWith⟩
    change (a.items ++ b.items).length = _
    rw [List.length_append, hm a ha, hm' b hb]

/-! ## New states -/

section New

variable {chunk : List (ℕ × ℕ)}

theorem singletons_eq (h : chunk.length ≤ k) :
    singletons chunk k = chunk.map (fun e => ItemSet.empty.add e.1 e.2) ++
      List.replicate (k - chunk.length) ItemSet.empty := by
  apply List.ext_getElem
  · simp [singletons]
    omega
  · intro i hi hi'
    unfold singletons at hi ⊢
    rw [List.getElem_map, List.getElem_range]
    rcases Nat.lt_or_ge i chunk.length with hlt | hge
    · rw [List.getElem_append_left (by simpa using hlt), List.getElem_map,
        List.getElem?_eq_getElem hlt]
      rfl
    · rw [List.getElem_append_right (by simpa using hge), List.getElem_replicate,
        List.getElem?_eq_none hge]
      rfl

theorem length_singletons (chunk : List (ℕ × ℕ)) (k : ℕ) : (singletons chunk k).length = k := by
  simp [singletons]

/-- A new state. -/
def new (chunk : List (ℕ × ℕ)) (k : ℕ) : State k :=
  ofSets (singletons chunk k) (length_singletons chunk k)

theorem init_eq (hk : 0 < k) (h : chunk.length = 1 ∨ chunk.length = k) :
    init chunk k = .ok (new chunk k) := by
  unfold init
  rw [check_pos h, raiseIf_neg (by omega)]
  rfl

theorem items_new (h : chunk.length ≤ k) : (new chunk k).items.Perm chunk := by
  refine (items_ofSets _).trans ?_
  have hrow : ∀ e ∈ chunk, (ItemSet.empty.add e.1 e.2).items = [e] := fun _ _ => rfl
  have hempty : (List.replicate (k - chunk.length) ItemSet.empty).flatMap (·.items) = [] :=
    List.flatMap_eq_nil_iff.mpr fun set hset => by rw [List.eq_of_mem_replicate hset]; rfl
  rw [singletons_eq h, List.flatMap_append, List.flatMap_map, List.flatMap_congr hrow, hempty,
    List.append_nil, List.flatMap_singleton']

theorem Balanced.new (h : chunk.length ≤ k) (hequal : equalSize = true → chunk.length = k)
    (hd : Within d (chunk.map (·.2) ++ List.replicate (k - chunk.length) 0)) :
    Balanced d equalSize (new chunk k) where
  count_filled := by
    have hperm : (filled (State.new chunk k).sets).Perm _ := (ofSets_perm _).map _
    rw [hperm.count_eq, (items_new h).length_eq, singletons_eq h, List.map_append, List.map_map,
      List.count_append, List.map_replicate]
    have hfull : chunk.map ((fun set : ItemSet => !set.items.isEmpty) ∘
        fun e => ItemSet.empty.add e.1 e.2) = List.replicate chunk.length true :=
      List.eq_replicate_iff.mpr ⟨by simp, by simp [ItemSet.empty, ItemSet.add]⟩
    rw [hfull, List.count_replicate_self, List.count_replicate, if_neg (by decide)]
    omega
  within := by
    refine Within.perm ((ofSets_perm _).map _).symm ?_
    rw [singletons_eq h, List.map_append, List.map_map, List.map_replicate]
    have hsum : ((fun set : ItemSet => set.sum) ∘ fun e : ℕ × ℕ => ItemSet.empty.add e.1 e.2) =
        (·.2) := by
      funext e
      exact Nat.zero_add e.2
    rw [hsum]
    exact hd
  equal := by
    intro heq
    refine ⟨1, fun set hset => ?_⟩
    have hset' := (ofSets_perm _).subset hset
    rw [singletons_eq h, hequal heq, Nat.sub_self, List.replicate_zero, List.append_nil] at hset'
    obtain ⟨e, -, rfl⟩ := List.mem_map.mp hset'
    rfl

end New

end State

/-! ## The heap -/

section Heap

variable {seqlenList : List ℕ} {k d : ℕ} {equalSize : Bool}

/-- The rows of each new state. -/
def chunks (seqlenList : List ℕ) (k : ℕ) (equalSize : Bool) : List (List (ℕ × ℕ)) :=
  if equalSize then
    Packing.unflatten (seqlenList.length / k) k (sortedSeqlenList seqlenList)
  else (sortedSeqlenList seqlenList).map ([·])

theorem sortedSeqlenList_perm (seqlenList : List ℕ) :
    (sortedSeqlenList seqlenList).Perm (seqlenList.zipIdx.map Prod.swap) :=
  (List.perm_insertionSort _ _).map _

theorem length_sortedSeqlenList (seqlenList : List ℕ) :
    (sortedSeqlenList seqlenList).length = seqlenList.length := by
  rw [(sortedSeqlenList_perm seqlenList).length_eq, List.length_map, List.length_zipIdx]

theorem flatten_chunks (hequal : equalSize = true → k ∣ seqlenList.length) :
    (chunks seqlenList k equalSize).flatten = sortedSeqlenList seqlenList := by
  unfold chunks
  split_ifs with h
  · rw [Packing.flatten_unflatten, Nat.div_mul_cancel (hequal h),
      ← length_sortedSeqlenList seqlenList, List.take_length]
  · induction sortedSeqlenList seqlenList with
    | nil => rfl
    | cons e es ih => rw [List.map_cons, List.flatten_cons, ih]; rfl

theorem length_of_mem_chunks (hequal : equalSize = true → k ∣ seqlenList.length) :
    ∀ chunk ∈ chunks seqlenList k equalSize,
      chunk.length = if equalSize then k else 1 := by
  unfold chunks
  split_ifs with h
  · apply Packing.length_of_mem_unflatten
    rw [length_sortedSeqlenList, Nat.div_mul_cancel (hequal h)]
  · intro chunk hchunk
    obtain ⟨e, -, rfl⟩ := List.mem_map.mp hchunk
    rfl

theorem initialStates_eq (hk : 0 < k) (hequal : equalSize = true → k ∣ seqlenList.length) :
    initialStates seqlenList k equalSize =
      .ok ((chunks seqlenList k equalSize).map (State.new · k)) := by
  have hlength := length_of_mem_chunks hequal
  unfold initialStates
  cases equalSize with
  | true =>
      change ∀ chunk ∈ Packing.unflatten _ k _, _ = k at hlength
      change _ = Except.ok ((Packing.unflatten _ k _).map _)
      rw [if_pos rfl, raiseIf_neg (by omega),
        check_pos (Nat.mod_eq_zero_of_dvd (hequal rfl)),
        mapM_eq_map (g := (State.new · k)) fun chunk hchunk =>
          State.init_eq hk (.inr (hlength chunk hchunk))]
      rfl
  | false =>
      change _ = Except.ok (((sortedSeqlenList seqlenList).map ([·])).map _)
      rw [if_neg Bool.false_ne_true,
        mapM_eq_map (g := fun e => State.new [e] k) fun e _ => State.init_eq hk (.inl rfl),
        List.map_map]
      rfl

/-- What is left on the heap after the loop. -/
theorem exists_finalState (hk : 0 < k) (hne : seqlenList ≠ [])
    (hequal : equalSize = true → k ∣ seqlenList.length) {P : State k → Prop}
    (hnew : ∀ chunk ∈ chunks seqlenList k equalSize, P (State.new chunk k))
    (hmerge : ∀ s t, P s → P t → P (s.merge t)) :
    ∃ z : State k, Loop.rounds (mergeRound State.lt State.merge)
        (((chunks seqlenList k equalSize).map (State.new · k)).length + 1)
        ((chunks seqlenList k equalSize).map (State.new · k)) = some [z] ∧
      z.items.Perm (sortedSeqlenList seqlenList) ∧ P z := by
  have hflatten := flatten_chunks hequal
  have hlength := length_of_mem_chunks hequal
  obtain ⟨z, hz, hperm, hP⟩ := merge_rounds State.lt State.merge
    (fun q : List (State k) =>
      (q.flatMap State.items).Perm (sortedSeqlenList seqlenList) ∧ ∀ s ∈ q, P s)
    (fun q q' hqq' ⟨hperm, hP⟩ =>
      ⟨(hqq'.symm.flatMap_right _).trans hperm, fun s hs => hP s (hqq'.symm.subset hs)⟩)
    (fun x y q ⟨hperm, hP⟩ => by
      refine ⟨?_, ?_⟩
      · refine List.Perm.trans ?_ hperm
        rw [List.flatMap_cons, List.flatMap_cons, List.flatMap_cons, ← List.append_assoc]
        exact (State.items_merge x y).append_right _
      · intro s hs
        rcases List.mem_cons.mp hs with rfl | hs
        · exact hmerge x y (hP x (by simp)) (hP y (by simp))
        · exact hP s (by simp [hs]))
    (by
      refine ⟨?_, ?_⟩
      · rw [← hflatten, List.flatMap_map, ← List.flatMap_id]
        refine List.Perm.flatMap_left _ fun chunk hchunk => State.items_new ?_
        have hle := hlength chunk hchunk
        split_ifs at hle <;> simp only [id_eq] <;> omega
      · intro s hs
        obtain ⟨chunk, hchunk, rfl⟩ := List.mem_map.mp hs
        exact hnew chunk hchunk)
    (by
      intro hnil
      rw [List.map_eq_nil_iff] at hnil
      rw [hnil] at hflatten
      have := congrArg List.length hflatten
      rw [length_sortedSeqlenList] at this
      exact hne (List.length_eq_zero_iff.mp this.symm))
    (Nat.le_succ _)
  refine ⟨z, hz, ?_, hP z (by simp)⟩
  simpa using hperm

end Heap

/-! ## The partitions -/

section Partitions

variable {seqlenList : List ℕ} {k d : ℕ} {equalSize : Bool} {parts : List (List ℕ)}

/-- `k` increasing lists, none of them empty, with every index once. -/
structure IsPartition (n k : ℕ) (parts : List (List ℕ)) : Prop where
  length : parts.length = k
  ne_nil : ∀ part ∈ parts, part ≠ []
  increasing : ∀ part ∈ parts, part.Pairwise (· < ·)
  perm : parts.flatten.Perm (List.range n)

/-- How far apart the sets of a new state may be: with equal sizes the `k` values of a chunk, which
    follow one another in the sorted list, else a value and an empty set. -/
def ValuesWithin (d k : ℕ) (equalSize : Bool) (seqlenList : List ℕ) : Prop :=
  if equalSize then ∀ chunk ∈ chunks seqlenList k equalSize, Within d (chunk.map (·.2))
  else ∀ v ∈ seqlenList, v ≤ d

theorem mem_sortedSeqlenList {e : ℕ × ℕ} :
    e ∈ sortedSeqlenList seqlenList ↔ seqlenList[e.1]? = some e.2 := by
  rw [(sortedSeqlenList_perm seqlenList).mem_iff, List.mem_map]
  constructor
  · rintro ⟨⟨v, i⟩, hmem, rfl⟩
    exact List.mem_zipIdx_iff_getElem?.mp hmem
  · intro h
    exact ⟨(e.2, e.1), List.mem_zipIdx_iff_getElem?.mpr h, rfl⟩

theorem sortedSeqlenList_indices (seqlenList : List ℕ) :
    ((sortedSeqlenList seqlenList).map (·.1)).Perm (List.range seqlenList.length) := by
  refine ((sortedSeqlenList_perm seqlenList).map _).trans ?_
  have hswap : ((·.1) ∘ Prod.swap : ℕ × ℕ → ℕ) = Prod.snd := rfl
  rw [List.map_map, hswap, List.zipIdx_map_snd, List.range_eq_range']

theorem mem_of_mem_chunk (hequal : equalSize = true → k ∣ seqlenList.length) {chunk : List (ℕ × ℕ)}
    (hchunk : chunk ∈ chunks seqlenList k equalSize) : ∀ v ∈ chunk.map (·.2), v ∈ seqlenList := by
  intro v hv
  obtain ⟨e, he, rfl⟩ := List.mem_map.mp hv
  have hmem : e ∈ sortedSeqlenList seqlenList := by
    rw [← flatten_chunks hequal]
    exact List.mem_flatten_of_mem hchunk he
  exact List.mem_of_getElem? (mem_sortedSeqlenList.mp hmem)

/-- Values that are all close are so in every chunk. -/
theorem valuesWithin_of_within (h : Within d seqlenList) (hdvd : k ∣ seqlenList.length) :
    ValuesWithin d k true seqlenList := by
  unfold ValuesWithin
  rw [if_pos rfl]
  intro chunk hchunk x hx y hy
  have hmem := mem_of_mem_chunk (fun _ => hdvd) hchunk
  exact h x (hmem x hx) y (hmem y hy)

theorem balanced_new (hd : ValuesWithin d k equalSize seqlenList)
    (hequal : equalSize = true → k ∣ seqlenList.length) (hk : 0 < k) {chunk : List (ℕ × ℕ)}
    (hchunk : chunk ∈ chunks seqlenList k equalSize) :
    State.Balanced d equalSize (State.new chunk k) := by
  have hlength := length_of_mem_chunks hequal chunk hchunk
  have hvalue := mem_of_mem_chunk hequal hchunk
  unfold ValuesWithin at hd
  cases equalSize with
  | true =>
      rw [if_pos rfl] at hd hlength
      refine State.Balanced.new (by omega) (fun _ => hlength) ?_
      rw [hlength, Nat.sub_self, List.replicate_zero, List.append_nil]
      exact hd chunk hchunk
  | false =>
      rw [if_neg Bool.false_ne_true] at hd hlength
      refine State.Balanced.new (by omega) (fun h => nomatch h) ?_
      intro x hx y _
      rcases List.mem_append.mp hx with hx | hx
      · exact (hd x (hvalue x hx)).trans (Nat.le_add_left d y)
      · rw [List.eq_of_mem_replicate hx]
        exact Nat.zero_le _

/-- The partitions of a state cover its rows. -/
theorem flatten_getPartitions (z : State k) : z.getPartitions.flatten = z.items.map (·.1) := by
  unfold State.getPartitions State.items
  rw [List.map_flatMap, List.flatMap_def]

theorem length_getPartitions (z : State k) : z.getPartitions.length = k := by
  unfold State.getPartitions
  rw [List.length_map, z.length_sets]

theorem State.Balanced.equal_length {z : State k} (hz : z.Balanced d true) {n : ℕ}
    (hn : z.items.length = n) : ∀ part ∈ z.getPartitions, part.length * k = n := by
  obtain ⟨m, hm⟩ := hz.equal rfl
  intro part hpart
  obtain ⟨set, hset, rfl⟩ := List.mem_map.mp hpart
  have hsum : z.items.length = z.sets.length * m := by
    unfold State.items
    rw [List.length_flatMap, List.map_congr_left (g := fun _ => m) hm, List.map_const',
      List.sum_replicate_nat]
  rw [List.length_map, hm set hset, ← hn, hsum, z.length_sets, Nat.mul_comm]

theorem State.Balanced.ne_nil {z : State k} (hz : z.Balanced d equalSize)
    (hk : k ≤ z.items.length) : ∀ part ∈ z.getPartitions, part ≠ [] := by
  intro part hpart
  obtain ⟨set, hset, rfl⟩ := List.mem_map.mp hpart
  have hall := hz.count_filled
  have hlength : (State.filled z.sets).length = k := by simp [State.filled, z.length_sets]
  have hfull := List.count_eq_length.mp ((hall.trans (Nat.min_eq_left hk)).trans hlength.symm) _
    (List.mem_map_of_mem hset)
  rw [Ne, List.map_eq_nil_iff]
  simpa using hfull.symm

theorem karmarkarKarp_ok (hk : 0 < k) (hkn : k ≤ seqlenList.length)
    (hequal : equalSize = true → k ∣ seqlenList.length)
    (hd : ValuesWithin d k equalSize seqlenList) :
    ∃ z : State k, karmarkarKarp seqlenList k equalSize = .ok z.getPartitions ∧
      z.items.Perm (sortedSeqlenList seqlenList) ∧ z.Balanced d equalSize := by
  have hne : seqlenList ≠ [] := by
    rintro rfl
    simp at hkn
    omega
  obtain ⟨z, hz, hperm, hbalanced⟩ := exists_finalState (P := State.Balanced d equalSize) hk hne
    hequal (fun _ hchunk => balanced_new hd hequal hk hchunk) fun _ _ hs ht => hs.merge ht
  refine ⟨z, ?_, hperm, hbalanced⟩
  have hchecks : z.getPartitions.forM (fun partition =>
      check (equalSize = true → partition.length * k = seqlenList.length)
        s!"{partition.length} * {k} != {seqlenList.length}") = .ok () := by
    refine forM_ok.mpr fun partition hpartition => check_pos fun h => ?_
    subst h
    exact hbalanced.equal_length (hperm.length_eq.trans (length_sortedSeqlenList _)) _ hpartition
  refine except_bind_ok.mpr ⟨_, initialStates_eq hk hequal, ?_⟩
  rw [hz]
  exact except_bind_ok.mpr ⟨(), hchecks, rfl⟩

theorem karmarkarKarp_zero : karmarkarKarp seqlenList 0 equalSize ≠ .ok parts := by
  intro h
  obtain ⟨states, hstates, h⟩ := except_bind_ok.mp h
  unfold initialStates at hstates
  cases equalSize with
  | true => cases hstates
  | false =>
      rw [if_neg Bool.false_ne_true] at hstates
      cases hsorted : sortedSeqlenList seqlenList with
      | nil =>
          rw [hsorted] at hstates
          cases hstates
          cases h
      | cons e es =>
          rw [hsorted, List.mapM_cons] at hstates
          obtain ⟨_, he, -⟩ := except_bind_ok.mp hstates
          cases he

theorem flatten_map_insertionSort (parts : List (List ℕ)) :
    (parts.map (·.insertionSort (· ≤ ·))).flatten.Perm parts.flatten := by
  rw [← List.flatMap_def, ← List.flatMap_id]
  exact List.Perm.flatMap_left _ fun part _ => List.perm_insertionSort _ part

theorem checkAndSortPartitions_ok {n : ℕ} (hlength : parts.length = k)
    (hne : ∀ part ∈ parts, part ≠ []) (hperm : parts.flatten.Perm (List.range n)) :
    checkAndSortPartitions n k parts = .ok (parts.map (·.insertionSort (· ≤ ·))) ∧
      IsPartition n k (parts.map (·.insertionSort (· ≤ ·))) := by
  have hsorted := (flatten_map_insertionSort parts).trans hperm
  refine ⟨?_, ?_⟩
  · have hchecks : parts.zipIdx.forM (fun e =>
        check (0 < e.1.length) s!"the {e.2}-th partition is empty") = .ok () := by
      refine forM_ok.mpr fun e he => check_pos (List.length_pos_iff.mpr (hne _ ?_))
      exact List.mem_of_getElem? (List.mem_zipIdx_iff_getElem?.mp he)
    unfold checkAndSortPartitions
    rw [check_pos hlength, hchecks,
      check_pos ((List.toFinset_eq_of_perm _ _ hperm).trans (by ext i; simp))]
    rfl
  · refine ⟨by rw [List.length_map, hlength], ?_, ?_, hsorted⟩
    · intro part hpart
      obtain ⟨p, hp, rfl⟩ := List.mem_map.mp hpart
      rw [← List.length_pos_iff, List.length_insertionSort, List.length_pos_iff]
      exact hne p hp
    · intro part hpart
      have hnodup : part.Nodup :=
        (List.nodup_flatten.mp (hsorted.nodup_iff.mpr List.nodup_range)).1 part hpart
      obtain ⟨p, hp, rfl⟩ := List.mem_map.mp hpart
      exact (List.pairwise_insertionSort (· ≤ ·) p).imp₂ (fun _ _ hle hne => lt_of_le_of_ne hle hne)
        hnodup

/-- The partitions, and the state they come from. -/
theorem exists_partitions (hk : 0 < k) (hkn : k ≤ seqlenList.length)
    (hequal : equalSize = true → k ∣ seqlenList.length)
    (hd : ValuesWithin d k equalSize seqlenList) :
    ∃ z : State k, getSeqlenBalancedPartitions seqlenList k equalSize =
        .ok (z.getPartitions.map (·.insertionSort (· ≤ ·))) ∧
      IsPartition seqlenList.length k (z.getPartitions.map (·.insertionSort (· ≤ ·))) ∧
      z.items.Perm (sortedSeqlenList seqlenList) ∧ z.Balanced d equalSize := by
  obtain ⟨z, hz, hperm, hbalanced⟩ := karmarkarKarp_ok hk hkn hequal hd
  have hlength : z.items.length = seqlenList.length :=
    hperm.length_eq.trans (length_sortedSeqlenList _)
  have hindices : z.getPartitions.flatten.Perm (List.range seqlenList.length) := by
    rw [flatten_getPartitions]
    exact (hperm.map _).trans (sortedSeqlenList_indices _)
  obtain ⟨hchecked, hpartition⟩ := checkAndSortPartitions_ok (length_getPartitions z)
    (hbalanced.ne_nil (hlength ▸ hkn)) hindices
  refine ⟨z, ?_, hpartition, hperm, hbalanced⟩
  unfold getSeqlenBalancedPartitions
  rw [check_pos hkn, hz]
  exact hchecked

theorem getSeqlenBalancedPartitions_some
    (h : getSeqlenBalancedPartitions seqlenList k equalSize = .ok parts) :
    0 < k ∧ k ≤ seqlenList.length ∧ (equalSize = true → k ∣ seqlenList.length) := by
  obtain ⟨_, hkn, h⟩ := except_bind_ok.mp h
  obtain ⟨partitions, hpartitions, -⟩ := except_bind_ok.mp h
  refine ⟨?_, check_ok hkn, ?_⟩
  · rcases Nat.eq_zero_or_pos k with rfl | hk
    · exact absurd hpartitions karmarkarKarp_zero
    · exact hk
  · rintro rfl
    obtain ⟨states, hstates, -⟩ := except_bind_ok.mp hpartitions
    unfold initialStates at hstates
    rw [if_pos rfl] at hstates
    obtain ⟨_, -, hstates⟩ := except_bind_ok.mp hstates
    obtain ⟨_, hmod, -⟩ := except_bind_ok.mp hstates
    exact Nat.dvd_of_mod_eq_zero (check_ok hmod)

theorem valuesWithin_sum (hequal : equalSize = true → k ∣ seqlenList.length) :
    ValuesWithin seqlenList.sum k equalSize seqlenList := by
  have hle : ∀ v ∈ seqlenList, v ≤ seqlenList.sum := fun v hv => List.single_le_sum (by simp) v hv
  cases equalSize with
  | true =>
      have hwithin : Within seqlenList.sum seqlenList :=
        fun x hx y _ => (hle x hx).trans (Nat.le_add_left _ y)
      exact valuesWithin_of_within hwithin (hequal rfl)
  | false => exact hle

theorem exists_getSeqlenBalancedPartitions (hk : 0 < k) (hkn : k ≤ seqlenList.length)
    (hequal : equalSize = true → k ∣ seqlenList.length) :
    ∃ parts, getSeqlenBalancedPartitions seqlenList k equalSize = .ok parts := by
  obtain ⟨z, hz, -⟩ := exists_partitions hk hkn hequal (valuesWithin_sum hequal)
  exact ⟨_, hz⟩

theorem getSeqlenBalancedPartitions_isPartition
    (h : getSeqlenBalancedPartitions seqlenList k equalSize = .ok parts) :
    IsPartition seqlenList.length k parts ∧
      (equalSize = true → ∀ part ∈ parts, part.length * k = seqlenList.length) := by
  obtain ⟨hk, hkn, hequal⟩ := getSeqlenBalancedPartitions_some h
  obtain ⟨z, hz, hpartition, hperm, hbalanced⟩ :=
    exists_partitions hk hkn hequal (valuesWithin_sum hequal)
  obtain rfl := Except.ok.inj (hz.symm.trans h)
  refine ⟨hpartition, ?_⟩
  rintro rfl part hpart
  obtain ⟨p, hp, rfl⟩ := List.mem_map.mp hpart
  rw [List.length_insertionSort]
  exact hbalanced.equal_length (hperm.length_eq.trans (length_sortedSeqlenList _)) p hp

/-- When there are partitions, and what they are. -/
theorem getSeqlenBalancedPartitions_spec (seqlenList : List ℕ) (k : ℕ) (equalSize : Bool) :
    ((∃ parts, getSeqlenBalancedPartitions seqlenList k equalSize = .ok parts) ↔
      0 < k ∧ k ≤ seqlenList.length ∧ (equalSize = true → k ∣ seqlenList.length)) ∧
    ∀ parts, getSeqlenBalancedPartitions seqlenList k equalSize = .ok parts →
      IsPartition seqlenList.length k parts ∧
        (equalSize = true → ∀ part ∈ parts, part.length * k = seqlenList.length) :=
  ⟨⟨fun ⟨_, h⟩ => getSeqlenBalancedPartitions_some h,
      fun ⟨hk, hkn, hequal⟩ => exists_getSeqlenBalancedPartitions hk hkn hequal⟩,
    fun _ => getSeqlenBalancedPartitions_isPartition⟩

/-- The values of a set, read back from the list. -/
theorem sum_gather {set : ItemSet} (h : ∀ e ∈ set.items, seqlenList[e.1]? = some e.2) :
    (Packing.gather seqlenList (set.items.map (·.1))).sum = set.sum := by
  rw [set.sum_eq]
  unfold Packing.gather
  rw [List.filterMap_map, List.filterMap_congr (g := some ∘ (·.2)) h,
    List.filterMap_eq_map]

/-- Two partitions differ by no more than the values do. -/
theorem within_sums (h : getSeqlenBalancedPartitions seqlenList k equalSize = .ok parts)
    (hd : ValuesWithin d k equalSize seqlenList) :
    Within d (parts.map fun part => (Packing.gather seqlenList part).sum) := by
  obtain ⟨hk, hkn, hequal⟩ := getSeqlenBalancedPartitions_some h
  obtain ⟨z, hz, -, hperm, hbalanced⟩ := exists_partitions hk hkn hequal hd
  obtain rfl := Except.ok.inj (hz.symm.trans h)
  have hsums : (z.getPartitions.map (·.insertionSort (· ≤ ·))).map
      (fun part => (Packing.gather seqlenList part).sum) = z.sets.map (·.sum) := by
    unfold State.getPartitions
    rw [List.map_map, List.map_map]
    refine List.map_congr_left fun set hset => ?_
    have hvalues : ∀ e ∈ set.items, seqlenList[e.1]? = some e.2 := fun e he =>
      mem_sortedSeqlenList.mp (hperm.subset (List.mem_flatMap.mpr ⟨set, hset, he⟩))
    rw [← sum_gather hvalues]
    exact (Packing.gather_perm _ (List.perm_insertionSort _ _)).sum_eq
  rw [hsums]
  exact hbalanced.within

/-- The sums over the parts add up to the sum over all. -/
theorem sum_parts {values : List ℕ} (h : parts.flatten.Perm (List.range values.length)) :
    (parts.map fun part => (Packing.gather values part).sum).sum = values.sum := by
  rw [← (Packing.gather_perm_range h).sum_eq, Packing.gather_flatten, List.sum_flatten,
    List.map_map]
  rfl

/-- No partition has much more than its share. -/
theorem spread_le (h : getSeqlenBalancedPartitions seqlenList k equalSize = .ok parts)
    (hd : ValuesWithin d k equalSize seqlenList) :
    Within d (parts.map fun part => (Packing.gather seqlenList part).sum) ∧
      ∀ part ∈ parts, k * (Packing.gather seqlenList part).sum ≤ seqlenList.sum + k * d := by
  have hwithin := within_sums h hd
  have hpartition := (getSeqlenBalancedPartitions_isPartition h).1
  refine ⟨hwithin, fun part hpart => ?_⟩
  have hshare := hwithin.length_nsmul_le (List.mem_map_of_mem hpart)
  rwa [List.length_map, hpartition.length, sum_parts hpartition.perm] at hshare

/-- Values that are far apart, but not those that enter the heap together. -/
theorem spread_le_four :
    Within 3 ([[1, 2], [0, 3]].map fun part => (Packing.gather [100, 0, 103, 1] part).sum) ∧
      ∀ part ∈ [[1, 2], [0, 3]], 2 * (Packing.gather [100, 0, 103, 1] part).sum ≤ 204 + 2 * 3 :=
  @spread_le [100, 0, 103, 1] 2 3 true _ (by decide)
    (show ∀ chunk ∈ [[(1, 0), (3, 1)], [(0, 100), (2, 103)]], Within 3 (chunk.map (·.2)) by
      unfold Within
      decide)

end Partitions

end LookAway.Training
