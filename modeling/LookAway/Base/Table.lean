/-
  Columns of one length, seen as rows. Nothing here names a program.

  A table gives a key its column. `rows n t` are the rows of a table whose columns have length `n`:
  a row gives a key its entry. What is done column by column is done to the rows: taking entries in
  an order (`rows_gather`), appending (`rows_append`), laying one table over another
  (`rows_overlay`).
-/
import LookAway.Base.Reordering

namespace LookAway.Base

open Packing

variable {κ α : Type} {t t' : κ → Option (List α)} {n m : ℕ}

/-- Every column has length `n`. -/
def HasLength (n : ℕ) (t : κ → Option (List α)) : Prop := ∀ k col, t k = some col → col.length = n

/-- The rows of a table. -/
def rows (n : ℕ) (t : κ → Option (List α)) : List (κ → Option α) :=
  (List.range n).map fun i k => (t k).bind (·[i]?)

@[simp] theorem length_rows (n : ℕ) (t : κ → Option (List α)) : (rows n t).length = n := by
  simp [rows]

theorem getElem?_rows {i : ℕ} (hi : i < n) :
    (rows n t)[i]? = some fun k => (t k).bind (·[i]?) := by
  unfold rows
  rw [List.getElem?_map, List.getElem?_range hi, Option.map_some]

theorem rows_gather {is : List ℕ} (ht : HasLength n t) (his : ∀ i ∈ is, i < n) :
    rows is.length (fun k => (t k).map (gather · is)) = gather (rows n t) is := by
  have hin : ∀ i ∈ is, i < (rows n t).length := by
    intro i hi
    rw [length_rows]
    exact his i hi
  apply List.ext_getElem?
  intro j
  rw [getElem?_gather hin]
  rcases Nat.lt_or_ge j is.length with hj | hj
  · rw [getElem?_rows hj, List.getElem?_eq_getElem hj, Option.bind_some,
      getElem?_rows (his _ (List.getElem_mem hj))]
    congr 1
    funext k
    cases hk : t k with
    | none => rfl
    | some col =>
        have hcol : ∀ i ∈ is, i < col.length := fun i hi => by rw [ht k col hk]; exact his i hi
        rw [Option.map_some, Option.bind_some, Option.bind_some, getElem?_gather hcol,
          List.getElem?_eq_getElem hj, Option.bind_some]
  · rw [List.getElem?_eq_none (by simpa using hj), List.getElem?_eq_none hj, Option.bind_none]

theorem rows_append (ht : HasLength n t)
    (hkeys : ∀ k, (t k).isSome = (t' k).isSome) :
    rows (n + m) (fun k => (t k).bind fun col => (t' k).map (col ++ ·)) =
      rows n t ++ rows m t' := by
  apply List.ext_getElem?
  intro j
  rcases Nat.lt_or_ge j n with hj | hj
  · rw [List.getElem?_append_left (by simpa using hj), getElem?_rows hj, getElem?_rows (by omega)]
    congr 1
    funext k
    have hk := hkeys k
    cases hcol : t k with
    | none => rfl
    | some col =>
        rw [hcol] at hk
        obtain ⟨col', hcol'⟩ := Option.isSome_iff_exists.mp hk.symm
        rw [hcol', Option.bind_some, Option.map_some, Option.bind_some, Option.bind_some,
          List.getElem?_append_left (by rw [ht k col hcol]; exact hj)]
  · rw [List.getElem?_append_right (by simpa using hj), length_rows]
    rcases Nat.lt_or_ge j (n + m) with hj' | hj'
    · rw [getElem?_rows hj', getElem?_rows (by omega)]
      congr 1
      funext k
      have hk := hkeys k
      cases hcol : t k with
      | none =>
          rw [hcol] at hk
          cases hcol' : t' k with
          | none => rfl
          | some col' => rw [hcol'] at hk; cases hk
      | some col =>
          rw [hcol] at hk
          obtain ⟨col', hcol'⟩ := Option.isSome_iff_exists.mp hk.symm
          have hlength := ht k col hcol
          rw [hcol', Option.bind_some, Option.map_some, Option.bind_some, Option.bind_some,
            List.getElem?_append_right (by omega), hlength]
    · rw [List.getElem?_eq_none (by simpa using hj'), List.getElem?_eq_none (by simp; omega)]

theorem rows_overlay (t : κ → Option (List α)) (ht' : HasLength n t') :
    rows n (fun k => (t' k).or (t k)) =
      List.zipWith (fun row row' k => (row' k).or (row k)) (rows n t) (rows n t') := by
  apply List.ext_getElem?
  intro j
  rw [List.getElem?_zipWith]
  rcases Nat.lt_or_ge j n with hj | hj
  · rw [getElem?_rows hj, getElem?_rows hj, getElem?_rows hj]
    simp only
    congr 1
    funext k
    cases hk : t' k with
    | none => rfl
    | some col =>
        have hlength := ht' k col hk
        rw [Option.some_or, Option.bind_some, List.getElem?_eq_getElem (by omega), Option.some_or]
  · rw [List.getElem?_eq_none (by simpa using hj), List.getElem?_eq_none (by simpa using hj)]

/-- The columns of several tables behind one another, for the keys they have. -/
def appendTables (keys : κ → Bool) (ts : List (κ → Option (List α))) : κ → Option (List α) :=
  fun k => cond (keys k) (some (ts.flatMap fun t => (t k).getD [])) none

theorem hasLength_appendTables {keys : κ → Bool} {ts : List (ℕ × (κ → Option (List α)))}
    (h : ∀ t ∈ ts, HasLength t.1 t.2 ∧ ∀ k, (t.2 k).isSome = keys k) :
    HasLength (ts.map (·.1)).sum (appendTables keys (ts.map (·.2))) := by
  intro k col hk
  unfold appendTables at hk
  cases hkey : keys k with
  | false => rw [hkey] at hk; cases hk
  | true =>
      rw [hkey] at hk
      obtain rfl := Option.some.inj hk
      rw [List.length_flatMap, List.map_map]
      congr 1
      refine List.map_congr_left fun t ht => ?_
      obtain ⟨hlength, hkeys⟩ := h t ht
      obtain ⟨col, hcol⟩ := Option.isSome_iff_exists.mp ((hkeys k).trans hkey)
      rw [Function.comp_apply, hcol]
      exact hlength k col hcol

theorem rows_appendTables {keys : κ → Bool} {ts : List (ℕ × (κ → Option (List α)))}
    (h : ∀ t ∈ ts, HasLength t.1 t.2 ∧ ∀ k, (t.2 k).isSome = keys k) :
    rows (ts.map (·.1)).sum (appendTables keys (ts.map (·.2))) =
      (ts.map fun t => rows t.1 t.2).flatten := by
  induction ts with
  | nil => rfl
  | cons t ts ih =>
      obtain ⟨hlength, hkeys⟩ := h t (by simp)
      have hrest := fun t' ht' => h t' (List.mem_cons_of_mem t ht')
      have htable : appendTables keys ((t :: ts).map (·.2)) = fun k =>
          (t.2 k).bind fun col => (appendTables keys (ts.map (·.2)) k).map (col ++ ·) := by
        funext k
        unfold appendTables
        have hk := hkeys k
        cases hkey : keys k with
        | false =>
            rw [hkey, Option.isSome_eq_false_iff, Option.isNone_iff_eq_none] at hk
            rw [hk]
            rfl
        | true =>
            rw [hkey] at hk
            obtain ⟨col, hcol⟩ := Option.isSome_iff_exists.mp hk
            rw [List.map_cons, List.flatMap_cons, hcol]
            rfl
      rw [htable, List.map_cons, List.sum_cons, rows_append hlength, ih hrest, List.map_cons,
        List.flatten_cons]
      intro k
      rw [hkeys k]
      unfold appendTables
      cases keys k <;> rfl

/-! ## Columns in a list -/

theorem lookup_map [BEq κ] (f : List α → List α) (columns : List (κ × List α)) (k : κ) :
    (columns.map fun c => (c.1, f c.2)).lookup k = (columns.lookup k).map f := by
  induction columns with
  | nil => rfl
  | cons c columns ih =>
      obtain ⟨k', col⟩ := c
      simp only [List.map_cons, List.lookup_cons]
      cases k == k' with
      | true => rfl
      | false => exact ih

theorem lookup_map_key [BEq κ] [LawfulBEq κ] (g : κ → List α) (columns : List (κ × List α))
    (k : κ) :
    (columns.map fun c => (c.1, g c.1)).lookup k = (columns.lookup k).map fun _ => g k := by
  induction columns with
  | nil => rfl
  | cons c columns ih =>
      obtain ⟨k', col⟩ := c
      simp only [List.map_cons, List.lookup_cons]
      cases hk : k == k' with
      | true => rw [eq_of_beq hk]; rfl
      | false => exact ih

/-- Assigning every entry of a dict. -/
theorem lookup_foldl_insertEntry [DecidableEq κ] {β : Type} {entries : List (κ × β)}
    (hnodup : (entries.map (·.1)).Nodup) (start : List (κ × β)) (k : κ) :
    (entries.foldl (fun d c => insertEntry d c.1 c.2) start).lookup k =
      (entries.lookup k).or (start.lookup k) := by
  induction entries generalizing start with
  | nil => rfl
  | cons c entries ih =>
      obtain ⟨hfresh, hrest⟩ := List.nodup_cons.mp hnodup
      rw [List.foldl_cons, ih hrest, lookup_insertEntry]
      by_cases hk : k = c.1
      · subst hk
        rw [lookup_eq_none.mpr hfresh, if_pos rfl, List.lookup_cons_self]
        rfl
      · rw [if_neg hk, lookup_cons_of_ne c hk]

theorem mem_foldl_insertEntry [DecidableEq κ] {β : Type} {entries start : List (κ × β)} {e : κ × β}
    (h : e ∈ entries.foldl (fun d c => insertEntry d c.1 c.2) start) :
    e ∈ start ∨ e ∈ entries := by
  induction entries generalizing start with
  | nil => exact .inl h
  | cons c entries ih =>
      rcases ih h with h | h
      · rcases mem_insertEntry h with h | h
        · exact .inr (h ▸ List.mem_cons_self)
        · exact .inl h
      · exact .inr (List.mem_cons_of_mem c h)

theorem nodup_foldl_insertEntry [DecidableEq κ] {β : Type} (entries start : List (κ × β))
    (h : (start.map (·.1)).Nodup) :
    ((entries.foldl (fun d c => insertEntry d c.1 c.2) start).map (·.1)).Nodup := by
  induction entries generalizing start with
  | nil => exact h
  | cons c entries ih => exact ih _ (nodup_insertEntry h c.1 c.2)

theorem lookup_filter_fresh [DecidableEq κ] {β : Type} (p : κ → Bool) (entries : List (κ × β))
    {k : κ} (hk : p k = true) :
    (entries.filter fun c => p c.1).lookup k = entries.lookup k := by
  induction entries with
  | nil => rfl
  | cons c entries ih =>
      by_cases hc : k = c.1
      · subst hc
        rw [List.filter_cons_of_pos (p := fun c : κ × β => p c.1) hk, List.lookup_cons_self,
          List.lookup_cons_self]
      · rw [lookup_cons_of_ne c hc]
        by_cases hp : p c.1 = true
        · rw [List.filter_cons_of_pos (p := fun c : κ × β => p c.1) hp, lookup_cons_of_ne c hc, ih]
        · rw [List.filter_cons_of_neg (p := fun c : κ × β => p c.1) hp, ih]

/-- Columns that are part of one list: pieces and slices. -/
theorem drop_take_eq_gather (xs : List α) (start stop : ℕ) :
    (xs.take stop).drop start = gather xs (List.range' start (min stop xs.length - start)) := by
  have hin : ∀ i ∈ List.range' start (min stop xs.length - start), i < xs.length := by
    intro i hi
    have := List.mem_range'_1.mp hi
    omega
  apply List.ext_getElem?
  intro j
  rw [getElem?_gather hin, List.getElem?_drop]
  rcases Nat.lt_or_ge j (min stop xs.length - start) with hj | hj
  · rw [List.getElem?_range' hj, Option.bind_some, List.getElem?_take_of_lt (by omega),
      Nat.one_mul]
  · rw [List.getElem?_eq_none (by simp; omega), List.getElem?_eq_none (by simpa using hj),
      Option.bind_none]

theorem gather_flatMap_replicate (xs : List α) (is : List ℕ) (times : ℕ) :
    gather xs (is.flatMap (List.replicate times)) =
      (gather xs is).flatMap (List.replicate times) := by
  induction is with
  | nil => rfl
  | cons i is ih =>
      have hone : gather xs (List.replicate times i) =
          (gather xs [i]).flatMap (List.replicate times) := by
        unfold gather
        cases hi : xs[i]? with
        | none =>
            rw [List.filterMap_cons_none hi, List.filterMap_nil, List.flatMap_nil]
            exact List.filterMap_eq_nil_iff.mpr fun j hj => by rw [List.eq_of_mem_replicate hj, hi]
        | some x =>
            rw [List.filterMap_cons_some hi, List.filterMap_nil, List.flatMap_singleton,
              List.filterMap_replicate_of_some hi]
      rw [List.flatMap_cons, gather_append, ih, hone, ← List.flatMap_append, ← gather_append]
      rfl

end LookAway.Base
