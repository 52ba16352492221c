/-
  Where `find` and `search` stop, and what `strip` leaves: the text lemmas of the answer parsers.

  `find_append_cons`: a pattern that is not in a text is not found across its end either, when the
  next character cannot be inside the pattern. `search_mem`: a regular expression that reads a
  capital letter finds one of the text.
-/
import LookAway.Eval.Judge

namespace LookAway.Eval

open LookAway.Base LookAway.Base.Json LookAway.Data

/-! ## find -/

section Find

variable {pattern cs pre rest : List Char} {c : Char}

theorem find_cons_start (h : pattern <+: c :: cs) : find pattern (c :: cs) = some 0 := by
  unfold find
  rw [if_pos (List.isPrefixOf_iff_prefix.mpr h)]

theorem find_cons_skip (h : ¬ pattern <+: c :: cs) :
    find pattern (c :: cs) = (find pattern cs).map (· + 1) := by
  rw [find, if_neg (mt List.isPrefixOf_iff_prefix.mp h)]

theorem find_map_add (f : Option ℕ) (n : ℕ) :
    (f.map (· + n)).map (· + 1) = f.map (· + (n + 1)) := by
  rw [Option.map_map]
  rfl

theorem find_append_cons (hp : find pattern pre = none) (hc : c ∉ pattern.tail) :
    find pattern (pre ++ c :: rest) = (find pattern (c :: rest)).map (· + pre.length) := by
  induction pre with
  | nil => exact (Option.map_id' (x := find pattern (c :: rest))).symm
  | cons x pre ih =>
      have hx : ¬ pattern <+: x :: pre := by
        intro h
        rw [find_cons_start h] at hp
        cases hp
      rw [find_cons_skip hx] at hp
      have hskip : ¬ pattern <+: x :: (pre ++ c :: rest) := by
        intro h
        rcases List.prefix_or_prefix_of_prefix h
          (List.prefix_append (x :: pre) (c :: rest)) with hin | ⟨t, rfl⟩
        · exact hx hin
        · cases t with
          | nil => exact hx (by rw [List.append_nil])
          | cons d t =>
              rw [← List.cons_append, List.prefix_append_right_inj] at h
              have hd : d = c := (List.cons_prefix_cons.mp h).1
              apply hc
              simp [hd]
      rw [List.cons_append, find_cons_skip hskip, ih (by simpa using hp), find_map_add,
        List.length_cons]

/-- Characters that do not begin the pattern. -/
theorem find_skip (h : ∀ x ∈ pre, x ≠ c) : find (c :: cs) (pre ++ rest) =
    (find (c :: cs) rest).map (· + pre.length) := by
  induction pre with
  | nil => exact (Option.map_id' (x := find (c :: cs) rest)).symm
  | cons x pre ih =>
      have hx : ¬ c :: cs <+: x :: (pre ++ rest) := by
        intro hprefix
        exact h x (by simp) (List.cons_prefix_cons.mp hprefix).1.symm
      rw [List.cons_append, find_cons_skip hx, ih fun y hy => h y (by simp [hy]), find_map_add,
        List.length_cons]

theorem find_prefix (h : pattern <+: cs) : find pattern cs = some 0 := by
  cases cs with
  | nil =>
      rw [List.prefix_nil.mp h]
      rfl
  | cons c cs => exact find_cons_start h

/-- The pattern is in the text, at the place that is found. -/
theorem find_eq_some {k : ℕ} (h : find pattern cs = some k) : pattern <+: cs.drop k := by
  induction cs generalizing k with
  | nil =>
      unfold find at h
      split at h
      · rename_i hnil
        rw [hnil]
        exact List.nil_prefix
      · cases h
  | cons c cs ih =>
      by_cases hprefix : pattern <+: c :: cs
      · rw [find_cons_start hprefix] at h
        cases h
        exact hprefix
      · rw [find_cons_skip hprefix] at h
        obtain ⟨j, hj, rfl⟩ := Option.map_eq_some_iff.mp h
        exact ih hj

theorem find_eq_none (h : ¬ pattern <:+: cs) : find pattern cs = none := by
  cases hfind : find pattern cs with
  | none => rfl
  | some k => exact absurd ((find_eq_some hfind).isInfix.trans (List.drop_suffix k cs).isInfix) h

theorem find_of_infix (h : pattern <:+: cs) : ∃ k, find pattern cs = some k := by
  obtain ⟨before, after, rfl⟩ := h
  induction before with
  | nil => exact ⟨0, find_prefix ⟨after, rfl⟩⟩
  | cons x before ih =>
      rw [List.append_assoc] at ih
      rw [List.append_assoc, List.cons_append]
      by_cases hprefix : pattern <+: x :: (before ++ (pattern ++ after))
      · exact ⟨0, find_cons_start hprefix⟩
      · obtain ⟨k, hk⟩ := ih
        rw [find_cons_skip hprefix, hk]
        exact ⟨k + 1, rfl⟩

end Find

/-! ## search -/

section Search

variable {here : List Char → Option Char} {cs : List Char} {c : Char}

theorem search_cons_of_none (h : here (c :: cs) = none) :
    search here (c :: cs) = search here cs := by
  rw [search, h, Option.none_or]

theorem search_cons_of_some (h : here (c :: cs) = some c) : search here (c :: cs) = some c := by
  rw [search, h, Option.some_or]

theorem search_mem (hhere : ∀ cs c, here cs = some c → c ∈ cs ∧ c.isUpper = true)
    (h : search here cs = some c) : c ∈ cs ∧ c.isUpper = true := by
  induction cs with
  | nil => exact hhere [] c h
  | cons x cs ih =>
      rw [search] at h
      cases hx : here (x :: cs) with
      | some d =>
          rw [hx] at h
          cases h
          exact hhere _ _ hx
      | none =>
          rw [hx] at h
          obtain ⟨hmem, hupper⟩ := ih h
          exact ⟨List.mem_cons_of_mem _ hmem, hupper⟩

theorem parenthesized_mem (cs : List Char) (c : Char) (h : parenthesized cs = some c) :
    c ∈ cs ∧ c.isUpper = true := by
  unfold parenthesized at h
  split at h
  · split at h
    · rename_i hupper
      cases h
      exact ⟨by simp, hupper⟩
    · cases h
  · cases h

theorem delimited_mem (cs : List Char) (c : Char) (h : delimited cs = some c) :
    c ∈ cs ∧ c.isUpper = true := by
  unfold delimited at h
  split at h
  · split at h
    · rename_i hupper
      cases h
      rw [Bool.and_eq_true] at hupper
      exact ⟨by simp, hupper.1⟩
    · cases h
  · cases h

theorem capital_mem (cs : List Char) (c : Char) (h : capital cs = some c) :
    c ∈ cs ∧ c.isUpper = true := by
  unfold capital at h
  split at h
  · split at h
    · rename_i hupper
      cases h
      exact ⟨by simp, hupper⟩
    · cases h
  · cases h

/-- A capital letter is found. -/
theorem search_capital (hmem : c ∈ cs) (hupper : c.isUpper = true) :
    (search capital cs).isSome = true := by
  induction cs with
  | nil => cases hmem
  | cons x cs ih =>
      rw [search]
      by_cases hx : x.isUpper = true
      · simp [capital, hx]
      · rcases List.mem_cons.mp hmem with rfl | hmem
        · exact absurd hupper hx
        · rw [Option.isSome_or, ih hmem, Bool.or_true]

/-- The option is a capital letter of the text. -/
theorem extractFirstOption_mem {text : String} (h : extractFirstOption text = some c) :
    c ∈ text.toList ∧ c.isUpper = true := by
  unfold extractFirstOption at h
  rcases Option.or_eq_some_iff.mp h with h | ⟨-, h⟩
  · exact search_mem parenthesized_mem h
  · rcases Option.or_eq_some_iff.mp h with h | ⟨-, h⟩
    · exact search_mem delimited_mem h
    · exact search_mem capital_mem h

theorem extractFirstOption_isSome {text : String} (hmem : c ∈ text.toList)
    (hupper : c.isUpper = true) : (extractFirstOption text).isSome = true := by
  unfold extractFirstOption
  rw [Option.isSome_or, Option.isSome_or, search_capital hmem hupper, Bool.or_true, Bool.or_true]

end Search

/-! ## strip -/

section Strip

variable {cs mid : List Char} {c d : Char}

/-- No capital letter is white space. -/
theorem isSpace_of_isUpper (h : c.isUpper = true) : Data.isSpace c = false :=
  not_isSpace (by decide +kernel) h

/-- Only white space is stripped. -/
theorem mem_strip (hd : Data.isSpace d = false) :
    d ∈ (strip (String.ofList cs)).toList ↔ d ∈ cs := by
  have hdrop : ∀ xs : List Char, d ∈ xs.dropWhile Data.isSpace ↔ d ∈ xs := by
    intro xs
    constructor
    · exact fun h => (List.dropWhile_sublist _).subset h
    · intro h
      rw [← List.takeWhile_append_dropWhile (p := Data.isSpace) (l := xs)] at h
      rcases List.mem_append.mp h with h | h
      · rw [List.mem_takeWhile_imp h] at hd
        cases hd
      · exact h
  unfold strip
  rw [String.toList_ofList, String.toList_ofList, List.mem_reverse, hdrop, List.mem_reverse, hdrop]

/-- The white space at the end. -/
def rstrip (cs : List Char) : List Char := cs.rdropWhile Data.isSpace

theorem strip_eq_rstrip (hc : Data.isSpace c = false) (cs : List Char) :
    (strip (String.ofList (c :: cs))).toList = rstrip (c :: cs) := by
  unfold strip rstrip
  rw [String.toList_ofList, String.toList_ofList, List.dropWhile_cons_of_neg (by simp [hc])]
  rfl

/-- Up to a visible character nothing is stripped at the end. -/
theorem rstrip_append (hd : Data.isSpace d = false) (mid cs : List Char) :
    rstrip (mid ++ d :: cs) = mid ++ d :: rstrip cs := by
  induction cs using List.reverseRecOn with
  | nil =>
      unfold rstrip
      rw [List.rdropWhile_concat_neg _ _ _ (by simp [hd])]
      rfl
  | append_singleton cs x ih =>
      unfold rstrip at ih ⊢
      by_cases hx : Data.isSpace x = true
      · rw [← List.cons_append, ← List.append_assoc, List.rdropWhile_concat_pos _ _ _ hx,
          List.rdropWhile_concat_pos _ _ _ hx]
        exact ih
      · rw [← List.cons_append, ← List.append_assoc, List.rdropWhile_concat_neg _ _ _ hx,
          List.rdropWhile_concat_neg _ _ _ hx, List.append_assoc]
        rfl

theorem toList_strip (t : String) :
    (strip t).toList = rstrip (t.toList.dropWhile Data.isSpace) := by
  unfold strip rstrip
  rw [String.toList_ofList]
  rfl

/-- A stripped text begins with a visible character. -/
theorem head_of_strip {t : String} (h : strip t = t) (ht : t.toList = c :: cs) :
    Data.isSpace c = false := by
  rw [Bool.eq_false_iff]
  intro hc
  have hlist := toList_strip t
  rw [h, ht, List.dropWhile_cons_of_pos hc] at hlist
  have hle : (rstrip (cs.dropWhile Data.isSpace)).length ≤ cs.length :=
    (List.rdropWhile_prefix _ _).length_le.trans (List.dropWhile_sublist _).length_le
  rw [← hlist, List.length_cons] at hle
  omega

theorem strip_strip (t : String) : strip (strip t) = strip t := by
  apply String.toList_inj.mp
  rw [toList_strip (strip t), toList_strip t]
  have hhead : (rstrip (t.toList.dropWhile Data.isSpace)).dropWhile Data.isSpace =
      rstrip (t.toList.dropWhile Data.isSpace) := by
    cases hlist : rstrip (t.toList.dropWhile Data.isSpace) with
    | nil => rfl
    | cons c cs =>
        obtain ⟨ds, hds⟩ := List.rdropWhile_prefix Data.isSpace (t.toList.dropWhile Data.isSpace)
        have hsplit : t.toList.dropWhile Data.isSpace = c :: (cs ++ ds) := by
          rw [← hds]
          exact congrArg (· ++ ds) hlist
        have hc := List.head?_dropWhile_not Data.isSpace t.toList
        rw [hsplit] at hc
        exact List.dropWhile_cons_of_neg (by simpa using hc)
  rw [hhead]
  exact List.rdropWhile_idempotent _ _

/-- What strips to nothing is white space. -/
theorem space_of_strip {t : String} (h : strip t = "") (hd : d ∈ t.toList) :
    Data.isSpace d = true := by
  by_contra hspace
  have hmem : d ∈ (strip (String.ofList t.toList)).toList :=
    (mem_strip (by simpa using hspace)).mpr hd
  rw [String.ofList_toList, h] at hmem
  cases hmem

end Strip

end LookAway.Eval
