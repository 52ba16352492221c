/-
  A log of keyed entries that keeps one entry for each key. Nothing here names a program.

  An entry can be a failure. `keep` adds one entry: a later entry replaces an earlier one of its
  key, but a failure does not replace a success. `Compacts` says what the entries kept have to do
  with the log; `Compacts.keep` is its step. `Bests` says it exactly: the keys in the order of their
  first entries, each with its last success or, without one, its last entry.
-/
import LookAway.Base.Dict
import Mathlib.Data.List.Induction

namespace LookAway.Base

/-- The entries kept, in the order of their keys, and whether the log had more. -/
structure Kept (κ α : Type) where
  entries : List (κ × α)
  changed : Bool

section Keep

variable {κ α : Type} [DecidableEq κ] (failed : α → Bool)

def keep (kept : Kept κ α) (key : κ) (a : α) : Kept κ α :=
  match kept.entries.lookup key with
  | none => { kept with entries := kept.entries ++ [(key, a)] }
  | some previous => {
      entries :=
        if failed previous && !failed a then replaceEntry key a kept.entries
        else if failed previous == failed a then replaceEntry key a kept.entries
        else kept.entries
      changed := true }

/-- What the kept entries have to do with the log. -/
structure Compacts (log : List (κ × α)) (kept : Kept κ α) : Prop where
  nodup : (kept.entries.map (·.1)).Nodup
  mem : ∀ e ∈ kept.entries, e ∈ log
  covers : ∀ e ∈ log, e.1 ∈ kept.entries.map (·.1)
  success : ∀ e ∈ log, failed e.2 = false → ∀ a, (e.1, a) ∈ kept.entries → failed a = false
  unchanged : kept.changed = false → kept.entries = log

variable {failed} {log : List (κ × α)} {kept : Kept κ α} {key : κ} {a : α}

omit [DecidableEq κ] in
/-- An entry of a new key. -/
theorem Compacts.append (h : Compacts failed log kept) (hfresh : key ∉ kept.entries.map (·.1)) :
    Compacts failed (log ++ [(key, a)]) { kept with entries := kept.entries ++ [(key, a)] } where
  nodup := by
    rw [List.map_append, List.map_singleton, ← List.concat_eq_append]
    exact h.nodup.concat hfresh
  mem := by
    intro e he
    rcases List.mem_append.mp he with he | he
    · exact List.mem_append_left _ (h.mem e he)
    · exact List.mem_append_right _ he
  covers := by
    intro e he
    rw [List.map_append, List.mem_append]
    rcases List.mem_append.mp he with he | he
    · exact .inl (h.covers e he)
    · exact .inr (List.mem_map_of_mem he)
  success := by
    intro e he hs b hb
    rcases List.mem_append.mp hb with hb | hb
    · rcases List.mem_append.mp he with he | he
      · exact h.success e he hs b hb
      · rw [List.mem_singleton.mp he] at hb
        exact absurd (List.mem_map_of_mem hb) hfresh
    · cases List.mem_singleton.mp hb
      rcases List.mem_append.mp he with he | he
      · exact absurd (h.covers e he) hfresh
      · rw [List.mem_singleton.mp he] at hs
        exact hs
  unchanged := by
    intro hc
    rw [h.unchanged hc]

omit [DecidableEq κ] in
/-- A key that comes again is covered. -/
theorem Compacts.covers_again (h : Compacts failed log kept) {previous : α}
    (hprevious : (key, previous) ∈ kept.entries) :
    ∀ e ∈ log ++ [(key, a)], e.1 ∈ kept.entries.map (·.1) := by
  intro e he
  rcases List.mem_append.mp he with he | he
  · exact h.covers e he
  · rw [List.mem_singleton.mp he]
    exact List.mem_map.mpr ⟨_, hprevious, rfl⟩

/-- An entry that takes the place of the one of its key. -/
theorem Compacts.replace (h : Compacts failed log kept) {previous : α}
    (hprevious : (key, previous) ∈ kept.entries)
    (hbetter : failed previous = false → failed a = false) :
    Compacts failed (log ++ [(key, a)]) ⟨replaceEntry key a kept.entries, true⟩ where
  nodup := by
    rw [map_fst_replaceEntry]
    exact h.nodup
  mem := by
    intro e he
    rcases mem_replaceEntry he with rfl | ⟨he, -⟩
    · simp
    · exact List.mem_append_left _ (h.mem e he)
  covers := by
    intro e he
    rw [map_fst_replaceEntry]
    exact h.covers_again hprevious e he
  success := by
    intro e he hs b hb
    rcases mem_replaceEntry hb with hnew | ⟨hb, hkey⟩
    · obtain ⟨hkey, rfl⟩ := Prod.mk.inj hnew
      rcases List.mem_append.mp he with he | he
      · exact hbetter (h.success e he hs previous (hkey ▸ hprevious))
      · rw [List.mem_singleton.mp he] at hs
        exact hs
    · rcases List.mem_append.mp he with he | he
      · exact h.success e he hs b hb
      · rw [List.mem_singleton.mp he] at hkey
        exact absurd rfl hkey
  unchanged := by
    intro hc
    cases hc

omit [DecidableEq κ] in
/-- A failure after a success. -/
theorem Compacts.ignore (h : Compacts failed log kept) {previous : α}
    (hprevious : (key, previous) ∈ kept.entries) (hfailed : failed a = true) :
    Compacts failed (log ++ [(key, a)]) { kept with changed := true } where
  nodup := h.nodup
  mem e he := List.mem_append_left _ (h.mem e he)
  covers := h.covers_again hprevious
  success := by
    intro e he hs b hb
    rcases List.mem_append.mp he with he | he
    · exact h.success e he hs b hb
    · rw [List.mem_singleton.mp he, hfailed] at hs
      cases hs
  unchanged := by
    intro hc
    cases hc

theorem Compacts.keep (h : Compacts failed log kept) (key : κ) (a : α) :
    Compacts failed (log ++ [(key, a)]) (keep failed kept key a) := by
  unfold LookAway.Base.keep
  cases hlookup : kept.entries.lookup key with
  | none => exact h.append (lookup_eq_none.mp hlookup)
  | some previous =>
      have hprevious := lookup_mem hlookup
      dsimp only
      cases hp : failed previous with
      | true =>
          have hif : (if (true && !failed a) = true then replaceEntry key a kept.entries
              else if (true == failed a) = true then replaceEntry key a kept.entries
              else kept.entries) = replaceEntry key a kept.entries := by
            cases failed a <;> rfl
          rw [hif]
          exact h.replace hprevious (by simp [hp])
      | false =>
          cases ha : failed a with
          | true => exact h.ignore hprevious ha
          | false => exact h.replace hprevious fun _ => ha

omit [DecidableEq κ] in
theorem compacts_nil : Compacts failed ([] : List (κ × α)) ⟨[], false⟩ :=
  ⟨by simp, by simp, by simp, by simp, fun _ => rfl⟩

/-- Adding a whole log. -/
theorem Compacts.keepAll (h : Compacts failed log kept) (more : List (κ × α)) :
    Compacts failed (log ++ more)
      (more.foldl (fun kept e => LookAway.Base.keep failed kept e.1 e.2) kept) := by
  induction more generalizing log kept with
  | nil => simpa using h
  | cons e more ih =>
      have hnext := ih (h.keep e.1 e.2)
      rw [List.append_assoc, List.singleton_append] at hnext
      exact hnext

/-! ## The entries kept, exactly -/

/-- The values a log has for a key. -/
def valuesOf (key : κ) (log : List (κ × α)) : List α :=
  (log.filter fun e => e.1 == key).map (·.2)

/-- The last success; the last value, if all are failures. -/
def best (failed : α → Bool) (as : List α) : Option α :=
  (as.reverse.find? fun a => !failed a).or as.getLast?

/-- The better of the value so far and a later one. -/
def better (failed : α → Bool) : Option α → α → α
  | none, a => a
  | some previous, a => if !failed previous && failed a then previous else a

variable (failed) in
/-- The entries kept of a log. -/
structure Bests (log : List (κ × α)) (kept : Kept κ α) : Prop where
  keys : kept.entries.map (·.1) = (log.map (·.1)).eraseDups
  lookup : ∀ key, kept.entries.lookup key = best failed (valuesOf key log)

theorem valuesOf_append (key : κ) (xs ys : List (κ × α)) :
    valuesOf key (xs ++ ys) = valuesOf key xs ++ valuesOf key ys := by
  unfold valuesOf
  rw [List.filter_append, List.map_append]

theorem valuesOf_singleton_self (key : κ) (a : α) : valuesOf key [(key, a)] = [a] := by
  simp [valuesOf]

theorem valuesOf_singleton_of_ne {key k : κ} (h : k ≠ key) (a : α) :
    valuesOf key [(k, a)] = [] := by
  simp [valuesOf, h]

theorem mem_of_mem_valuesOf (h : a ∈ valuesOf key log) : (key, a) ∈ log := by
  obtain ⟨e, he, rfl⟩ := List.mem_map.mp h
  obtain ⟨hmem, hkey⟩ := List.mem_filter.mp he
  rw [← eq_of_beq hkey]
  exact hmem

omit [DecidableEq κ] in
/-- One more value. -/
theorem best_concat (as : List α) (a : α) :
    best failed (as ++ [a]) = some (better failed (best failed as) a) := by
  unfold best
  rw [List.reverse_append, List.reverse_singleton, List.singleton_append, List.getLast?_concat]
  cases ha : failed a with
  | false =>
      rw [List.find?_cons_of_pos (by simp [ha])]
      cases (as.reverse.find? fun a => !failed a).or as.getLast? with
      | none => rfl
      | some previous => simp [better, ha]
  | true =>
      rw [List.find?_cons_of_neg (by simp [ha])]
      cases hfind : as.reverse.find? fun a => !failed a with
      | some p =>
          have hp := List.find?_some hfind
          simp [better, hp, ha]
      | none =>
          cases hlast : as.getLast? with
          | none => rfl
          | some p =>
              have hmem := List.mem_reverse.mpr (List.mem_of_getLast? hlast)
              have hp : failed p = true := by simpa using List.find?_eq_none.mp hfind p hmem
              simp [better, hp]

omit [DecidableEq κ] in
theorem mem_of_best {as : List α} (h : best failed as = some a) : a ∈ as := by
  unfold best at h
  rcases Option.or_eq_some_iff.mp h with hfind | ⟨-, hlast⟩
  · exact List.mem_reverse.mp (List.mem_of_find?_eq_some hfind)
  · exact List.mem_of_getLast? hlast

/-- What `keep` does to the entries. -/
theorem lookup_keep (kept : Kept κ α) (key : κ) (a : α) (k : κ) :
    (keep failed kept key a).entries.lookup k =
      if k = key then some (better failed (kept.entries.lookup key) a)
      else kept.entries.lookup k := by
  unfold keep
  cases hlookup : kept.entries.lookup key with
  | none =>
      dsimp only
      rw [← insertEntry_of_fresh (lookup_eq_none.mp hlookup), lookup_insertEntry]
      rfl
  | some previous =>
      dsimp only
      by_cases hk : k = key
      · subst hk
        cases hp : failed previous <;> cases ha : failed a <;>
          simp [lookup_replaceEntry, hlookup, better, hp, ha]
      · rw [if_neg hk]
        split
        · rw [lookup_replaceEntry, if_neg hk]
        · split
          · rw [lookup_replaceEntry, if_neg hk]
          · rfl

/-- The keys after `keep`. -/
theorem map_fst_keep (kept : Kept κ α) (key : κ) (a : α) :
    (keep failed kept key a).entries.map (·.1) =
      if key ∈ kept.entries.map (·.1) then kept.entries.map (·.1)
      else kept.entries.map (·.1) ++ [key] := by
  unfold keep
  cases hlookup : kept.entries.lookup key with
  | none =>
      rw [if_neg (lookup_eq_none.mp hlookup)]
      simp
  | some previous =>
      rw [if_pos (List.mem_map.mpr ⟨_, lookup_mem hlookup, rfl⟩)]
      dsimp only
      split
      · exact map_fst_replaceEntry key a kept.entries
      · split
        · exact map_fst_replaceEntry key a kept.entries
        · rfl

theorem eraseDups_concat (keys : List κ) (key : κ) :
    (keys ++ [key]).eraseDups =
      if key ∈ keys.eraseDups then keys.eraseDups else keys.eraseDups ++ [key] := by
  rw [List.eraseDups_append]
  by_cases h : key ∈ keys
  · rw [if_pos (List.mem_eraseDups.mpr h)]
    simp [List.removeAll, h]
  · rw [if_neg fun hmem => h (List.mem_eraseDups.mp hmem)]
    simp [List.removeAll, h, List.eraseDups_cons]

theorem nodup_eraseDups (keys : List κ) : keys.eraseDups.Nodup := by
  induction keys using List.reverseRecOn with
  | nil => simp
  | append_singleton keys key ih =>
      rw [eraseDups_concat]
      split
      · exact ih
      · rename_i hfresh
        rw [← List.concat_eq_append]
        exact ih.concat hfresh

variable (failed) in
theorem bests_nil : Bests failed ([] : List (κ × α)) ⟨[], false⟩ := ⟨rfl, fun _ => rfl⟩

/-- Adding an entry. -/
theorem Bests.keep (h : Bests failed log kept) (key : κ) (a : α) :
    Bests failed (log ++ [(key, a)]) (keep failed kept key a) where
  keys := by
    rw [map_fst_keep, List.map_append, List.map_singleton, eraseDups_concat, h.keys]
  lookup := by
    intro k
    rw [lookup_keep, valuesOf_append]
    by_cases hk : k = key
    · subst hk
      rw [if_pos rfl, valuesOf_singleton_self, best_concat, h.lookup]
    · rw [if_neg hk, valuesOf_singleton_of_ne (Ne.symm hk), List.append_nil, h.lookup]

theorem Bests.nodup (h : Bests failed log kept) : (kept.entries.map (·.1)).Nodup := by
  rw [h.keys]
  exact nodup_eraseDups _

theorem Bests.mem (h : Bests failed log kept) {e : κ × α} (he : e ∈ kept.entries) : e ∈ log := by
  have hbest := lookup_of_mem h.nodup he
  rw [h.lookup] at hbest
  exact mem_of_mem_valuesOf (mem_of_best hbest)

/-- A success is not replaced by a failure. -/
theorem success_keep {k : κ} {previous : α} (hk : kept.entries.lookup k = some previous)
    (hs : failed previous = false) (key : κ) (a : α) :
    ∃ b, (LookAway.Base.keep failed kept key a).entries.lookup k = some b ∧ failed b = false := by
  rw [lookup_keep]
  by_cases hkey : k = key
  · subst hkey
    rw [if_pos rfl, hk]
    refine ⟨_, rfl, ?_⟩
    cases ha : failed a <;> simp [better, hs, ha]
  · rw [if_neg hkey]
    exact ⟨previous, hk, hs⟩

/-- A log of distinct keys is kept as it is. -/
theorem keepAll_nodup {more : List (κ × α)} (h : ((kept.entries ++ more).map (·.1)).Nodup) :
    more.foldl (fun kept e => LookAway.Base.keep failed kept e.1 e.2) kept =
      { kept with entries := kept.entries ++ more } := by
  induction more generalizing kept with
  | nil => simp
  | cons e more ih =>
      have hfresh : e.1 ∉ kept.entries.map (·.1) := by
        rw [List.map_append, List.map_cons] at h
        intro hmem
        exact List.disjoint_of_nodup_append h hmem (List.mem_cons_self ..)
      have hkeep : LookAway.Base.keep failed kept e.1 e.2 =
          { kept with entries := kept.entries ++ [e] } := by
        unfold LookAway.Base.keep
        rw [lookup_eq_none.mpr hfresh]
      rw [List.foldl_cons, hkeep, ih]
      · simp
      · simpa using h

end Keep

/-! ## Renaming the keys -/

section Rename

variable {κ κ' α : Type} [DecidableEq κ] [DecidableEq κ']

def Kept.mapKeys (f : κ → κ') (kept : Kept κ α) : Kept κ' α :=
  { kept with entries := kept.entries.map fun e => (f e.1, e.2) }

variable {f : κ → κ'} (hf : Function.Injective f)

include hf

theorem lookup_map_fst (entries : List (κ × α)) (key : κ) :
    (entries.map fun e => (f e.1, e.2)).lookup (f key) = entries.lookup key := by
  induction entries with
  | nil => rfl
  | cons e entries ih =>
      rw [List.map_cons]
      by_cases h : key = e.1
      · rw [h, List.lookup_cons_self, List.lookup_cons_self]
      · rw [lookup_cons_of_ne _ fun heq => h (hf heq), lookup_cons_of_ne e h, ih]

theorem replaceEntry_map_fst (key : κ) (a : α) (entries : List (κ × α)) :
    replaceEntry (f key) a (entries.map fun e => (f e.1, e.2)) =
      (replaceEntry key a entries).map fun e => (f e.1, e.2) := by
  unfold replaceEntry
  rw [List.map_map, List.map_map]
  apply List.map_congr_left
  intro e _
  by_cases h : e.1 = key
  · simp [h]
  · simp [h, hf.ne h]

theorem keep_mapKeys (failed : α → Bool) (kept : Kept κ α) (key : κ) (a : α) :
    keep failed (kept.mapKeys f) (f key) a = (keep failed kept key a).mapKeys f := by
  unfold keep Kept.mapKeys
  dsimp only
  rw [lookup_map_fst hf, replaceEntry_map_fst hf]
  cases kept.entries.lookup key with
  | none => simp
  | some previous => cases hp : failed previous <;> cases ha : failed a <;> simp [hp]

end Rename

end LookAway.Base
