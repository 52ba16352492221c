/-
  Association lists in insertion order, as the dicts of a script. Nothing here names a program.

  `insertEntry` is an assignment: the value of a key it has is replaced in place, a new key goes to
  the end. What it does to `lookup`, to the keys and to the entries is one lemma each.
-/
import Mathlib.Data.List.Nodup
import Mathlib.Tactic.Common

namespace LookAway.Base

variable {κ β : Type*} [DecidableEq κ]

/-- The entry of `key` becomes `a`. -/
def replaceEntry (key : κ) (a : β) (entries : List (κ × β)) : List (κ × β) :=
  entries.map fun e => if e.1 = key then (key, a) else e

/-- The assignment of `a` to `key`. -/
def insertEntry (entries : List (κ × β)) (key : κ) (a : β) : List (κ × β) :=
  if key ∈ entries.map (·.1) then replaceEntry key a entries else entries ++ [(key, a)]

variable {entries : List (κ × β)} {key k : κ} {a : β}

theorem any_key : (entries.any fun e => e.1 == key) = true ↔ key ∈ entries.map (·.1) := by
  rw [List.any_eq_true, List.mem_map]
  simp only [beq_iff_eq]

/-! ## Looking up -/

theorem lookup_cons_of_ne (e : κ × β) (h : k ≠ e.1) :
    (e :: entries).lookup k = entries.lookup k := by
  rw [List.lookup_cons, beq_false_of_ne h]

theorem lookup_mem (h : entries.lookup key = some a) : (key, a) ∈ entries := by
  induction entries with
  | nil => simp at h
  | cons e entries ih =>
      obtain ⟨k, b⟩ := e
      by_cases hkey : key = k
      · subst hkey
        rw [List.lookup_cons_self] at h
        cases h
        simp
      · rw [lookup_cons_of_ne (k, b) hkey] at h
        exact List.mem_cons_of_mem _ (ih h)

theorem lookup_eq_none : entries.lookup key = none ↔ key ∉ entries.map (·.1) := by
  rw [List.lookup_eq_none_iff]
  constructor
  · intro h hmem
    obtain ⟨e, he, rfl⟩ := List.mem_map.mp hmem
    simpa using h e he
  · intro h e he
    have hne : key ≠ e.1 := fun heq => h (List.mem_map.mpr ⟨e, he, heq.symm⟩)
    simpa using hne

theorem lookup_of_mem (hnodup : (entries.map (·.1)).Nodup) (h : (key, a) ∈ entries) :
    entries.lookup key = some a := by
  induction entries with
  | nil => cases h
  | cons e entries ih =>
      obtain ⟨hfresh, hrest⟩ := List.nodup_cons.mp hnodup
      rcases List.mem_cons.mp h with rfl | h
      · exact List.lookup_cons_self
      · have hne : key ≠ e.1 := fun heq => hfresh (List.mem_map.mpr ⟨_, h, heq⟩)
        rw [lookup_cons_of_ne e hne]
        exact ih hrest h

/-- The table of a function. -/
theorem lookup_graph (f : κ → β) {keys : List κ} (h : key ∈ keys) :
    (keys.map fun k => (k, f k)).lookup key = some (f key) := by
  induction keys with
  | nil => cases h
  | cons k keys ih =>
      rw [List.map_cons]
      by_cases hkey : key = k
      · subst hkey
        exact List.lookup_cons_self
      · rw [lookup_cons_of_ne (k, f k) hkey]
        exact ih (List.mem_of_ne_of_mem hkey h)

/-! ## Replacing -/

theorem map_fst_replaceEntry (key : κ) (a : β) (entries : List (κ × β)) :
    (replaceEntry key a entries).map (·.1) = entries.map (·.1) := by
  unfold replaceEntry
  rw [List.map_map]
  apply List.map_congr_left
  intro e _
  by_cases h : e.1 = key
  · simp [h]
  · simp [h]

theorem mem_replaceEntry {e : κ × β} (h : e ∈ replaceEntry key a entries) :
    e = (key, a) ∨ e ∈ entries ∧ e.1 ≠ key := by
  unfold replaceEntry at h
  obtain ⟨e', he', rfl⟩ := List.mem_map.mp h
  by_cases hkey : e'.1 = key
  · simp [hkey]
  · simp [hkey, he']

theorem lookup_replaceEntry (key : κ) (a : β) (entries : List (κ × β)) (k : κ) :
    (replaceEntry key a entries).lookup k =
      if k = key then (entries.lookup key).map fun _ => a else entries.lookup k := by
  unfold replaceEntry
  induction entries with
  | nil => simp
  | cons e entries ih =>
      obtain ⟨k', b⟩ := e
      rw [List.map_cons]
      by_cases hkey : k' = key
      · subst hkey
        rw [if_pos rfl, List.lookup_cons_self]
        by_cases hk : k = k'
        · subst hk
          rw [List.lookup_cons_self, if_pos rfl]
          rfl
        · rw [lookup_cons_of_ne (k', a) hk, lookup_cons_of_ne (k', b) hk, ih]
          rw [if_neg hk, if_neg hk]
      · rw [if_neg hkey, lookup_cons_of_ne (k', b) (Ne.symm hkey)]
        by_cases hk : k = k'
        · subst hk
          rw [List.lookup_cons_self, List.lookup_cons_self, if_neg hkey]
        · rw [lookup_cons_of_ne (k', b) hk, lookup_cons_of_ne (k', b) hk, ih]

/-! ## Assigning -/

theorem insertEntry_of_fresh (h : key ∉ entries.map (·.1)) (a : β) :
    insertEntry entries key a = entries ++ [(key, a)] := by
  unfold insertEntry
  rw [if_neg h]

theorem map_fst_insertEntry (entries : List (κ × β)) (key : κ) (a : β) :
    (insertEntry entries key a).map (·.1) =
      if key ∈ entries.map (·.1) then entries.map (·.1) else entries.map (·.1) ++ [key] := by
  unfold insertEntry
  split
  · exact map_fst_replaceEntry key a entries
  · rw [List.map_append]
    rfl

theorem nodup_insertEntry (h : (entries.map (·.1)).Nodup) (key : κ) (a : β) :
    ((insertEntry entries key a).map (·.1)).Nodup := by
  rw [map_fst_insertEntry]
  split
  · exact h
  · rename_i hfresh
    rw [← List.concat_eq_append]
    exact h.concat hfresh

theorem mem_insertEntry {e : κ × β} (h : e ∈ insertEntry entries key a) :
    e = (key, a) ∨ e ∈ entries := by
  unfold insertEntry at h
  split at h
  · rcases mem_replaceEntry h with rfl | ⟨he, -⟩
    · exact .inl rfl
    · exact .inr he
  · rcases List.mem_append.mp h with he | he
    · exact .inr he
    · exact .inl (List.mem_singleton.mp he)

theorem insertEntry_ne_nil (entries : List (κ × β)) (key : κ) (a : β) :
    insertEntry entries key a ≠ [] := by
  intro hnil
  have hkeys := map_fst_insertEntry entries key a
  rw [hnil] at hkeys
  split at hkeys
  · rename_i hmem
    rw [← hkeys] at hmem
    cases hmem
  · simp at hkeys

/-- Assigning the value that is there. -/
theorem insertEntry_of_mem (hnodup : (entries.map (·.1)).Nodup) (h : (key, a) ∈ entries) :
    insertEntry entries key a = entries := by
  have hmem : key ∈ entries.map (·.1) := List.mem_map.mpr ⟨_, h, rfl⟩
  unfold insertEntry replaceEntry
  rw [if_pos hmem]
  conv_rhs => rw [← List.map_id entries]
  apply List.map_congr_left
  intro e he
  by_cases hkey : e.1 = key
  · rw [if_pos hkey]
    exact (List.inj_on_of_nodup_map hnodup he h hkey).symm
  · rw [if_neg hkey]
    rfl

theorem lookup_insertEntry (entries : List (κ × β)) (key : κ) (a : β) (k : κ) :
    (insertEntry entries key a).lookup k = if k = key then some a else entries.lookup k := by
  unfold insertEntry
  split
  · rename_i hmem
    have hsome : entries.lookup key ≠ none := fun hnone => lookup_eq_none.mp hnone hmem
    obtain ⟨b, hb⟩ := Option.ne_none_iff_exists'.mp hsome
    rw [lookup_replaceEntry, hb]
    rfl
  · rename_i hfresh
    rw [List.lookup_append]
    by_cases hk : k = key
    · subst hk
      rw [lookup_eq_none.mpr hfresh, if_pos rfl, List.lookup_cons_self]
      rfl
    · rw [if_neg hk, lookup_cons_of_ne (key, a) hk]
      simp

end LookAway.Base
