/-
  What `pope_extract` of judge_qwenlm.py reads, and where it raises.

  The marker is tested without regard to case and split off in lower case. `popeExtract_marked`:
  a marker in lower case is read from its end, any other one from the first "answer" after it, if
  there is one. `popeVerdict_cases` is the rest of the function; it raises on a text of asterisks
  and dots. `popeExtract_iff` is the result for both parts.
-/
import LookAway.Eval.Failures
import LookAway.Eval.TextSearch

namespace LookAway.Eval

open LookAway.Base LookAway.Base.Json LookAway.Data

/-- `str.lower` on ASCII characters, at the start of a text and in a whole text. -/
structure Unicode.LowersAscii (u : Unicode) : Prop where
  starts : ∀ m r : List Char, (∀ c ∈ m, c.toNat < 128) →
    ∃ rest, u.lower (String.ofList (m ++ r)) = String.ofList (m.map Char.toLower ++ rest)
  whole : ∀ m : List Char, (∀ c ∈ m, c.toNat < 128) →
    u.lower (String.ofList m) = String.ofList (m.map Char.toLower)

/-! ## The parts of pope_extract -/

/-- `text.lstrip("*").strip()`. -/
def popeBody (text : String) : String := strip (lstripChar '*' text)

/-- What follows the marker, `.lstrip(":").lstrip("*").strip()`. -/
def afterMarker (cs : List Char) : String :=
  strip (lstripChar '*' (lstripChar ':' (String.ofList cs)))

/-- `.rstrip(".").rstrip("*").strip()`. -/
def withoutMarks (t : String) : String := strip (rstripChar '*' (rstripChar '.' t))

/-- Asterisks, then dots, and at least one of them. -/
def OnlyMarks (t : String) : Prop :=
  t ≠ "" ∧ ∃ a b, t.toList = List.replicate a '*' ++ List.replicate b '.'

section Parts

variable (u : Unicode)

/-- The text after the marker, if there is one. -/
def popeMarked (t : String) : Except EvalError String :=
  if startsWith "answer" (u.lower t) then
    match find "answer".toList t.toList with
    | some k => .ok (afterMarker (t.toList.drop (k + 6)))
    | none => .error .indexError
  else .ok t

/-- The last word, without the marks around it. -/
def lastToken (t : String) : String :=
  u.lower (rstripChar '*' (lstripChar '*' (String.ofList
    ((withoutMarks t).toList.rtakeWhile fun c => !Data.isSpace c))))

/-- The verdict of a text, yes or no. -/
def popeVerdict (t : String) : Except EvalError (Option String) :=
  if startsWith "yes" (u.lower t) then .ok (some "yes")
  else if startsWith "no" (u.lower t) then .ok (some "no")
  else if strip t = "" then .ok none
  else if withoutMarks t = "" then .error .indexError
  else if lastToken u t = "yes" ∨ lastToken u t = "no" then .ok (some (lastToken u t))
  else .ok none

/-- The text begins or ends with the verdict. -/
def ReadsAs (verdict t : String) : Prop :=
  startsWith verdict (u.lower t) = true ∨
    startsWith "yes" (u.lower t) = false ∧ startsWith "no" (u.lower t) = false ∧
      lastToken u t = verdict

end Parts

variable {u : Unicode}

theorem lower_empty (hu : u.LowersAscii) : u.lower "" = "" := hu.whole [] (by simp)

/-- The rest of `pope_extract`, after the marker. -/
theorem verdict_or_text (hu : u.LowersAscii) (text t : String) : (do
    if startsWith "yes" (u.lower t) then return "yes"
    if startsWith "no" (u.lower t) then return "no"
    let last ← if strip t = "" then pure "" else lastWord (withoutMarks t)
    let last := u.lower (rstripChar '*' (lstripChar '*' last))
    if last = "yes" ∨ last = "no" then return last
    return strip text : Except EvalError String) = (do
      let v ← popeVerdict u t
      return v.getD (strip text)) := by
  unfold popeVerdict
  by_cases hyes : startsWith "yes" (u.lower t) = true
  · rw [if_pos hyes, if_pos hyes]
    rfl
  · rw [if_neg hyes, if_neg hyes]
    by_cases hno : startsWith "no" (u.lower t) = true
    · rw [if_pos hno, if_pos hno]
      rfl
    · rw [if_neg hno, if_neg hno]
      by_cases hempty : strip t = ""
      · rw [if_pos hempty, if_pos hempty]
        have hlast : u.lower (rstripChar '*' (lstripChar '*' "")) = "" := lower_empty hu
        show (if u.lower (rstripChar '*' (lstripChar '*' "")) = "yes" ∨
          u.lower (rstripChar '*' (lstripChar '*' "")) = "no" then _ else _) = _
        rw [hlast]
        rfl
      · rw [if_neg hempty, if_neg hempty]
        unfold lastWord
        by_cases hmarks : withoutMarks t = ""
        · rw [if_pos hmarks, if_pos hmarks]
          rfl
        · rw [if_neg hmarks, if_neg hmarks]
          show (if lastToken u t = "yes" ∨ lastToken u t = "no" then _ else _) = _
          by_cases hlast : lastToken u t = "yes" ∨ lastToken u t = "no"
          · rw [if_pos hlast, if_pos hlast]
            rfl
          · rw [if_neg hlast, if_neg hlast]
            rfl

theorem popeExtract_eq (hu : u.LowersAscii) {text : String} (h : text ≠ "") :
    popeExtract u text = (do
      let t ← popeMarked u (popeBody text)
      let v ← popeVerdict u t
      return v.getD (strip text)) := by
  unfold popeExtract popeMarked
  rw [if_neg h]
  change (if startsWith "answer" (u.lower (popeBody text)) = true then _ else _) = _
  by_cases hmarker : startsWith "answer" (u.lower (popeBody text)) = true
  · rw [if_pos hmarker, if_pos hmarker]
    cases hfind : find "answer".toList (popeBody text).toList with
    | none =>
        unfold popeBody at hfind
        simp only [hfind]
        rfl
    | some k =>
        have hfind' := hfind
        unfold popeBody at hfind'
        simp only [hfind']
        exact verdict_or_text hu text (afterMarker ((popeBody text).toList.drop (k + 6)))
  · rw [if_neg hmarker, if_neg hmarker]
    exact verdict_or_text hu text (popeBody text)

/-! ## Marks -/

section Marks

variable {t : String}

theorem toList_rstripChar (c : Char) (t : String) :
    (rstripChar c t).toList = t.toList.rdropWhile (· == c) := by
  unfold rstripChar
  rw [String.toList_ofList]

/-- What `rstrip(c)` takes away. -/
theorem rstripChar_split (c : Char) (t : String) :
    ∃ n, t.toList = (rstripChar c t).toList ++ List.replicate n c := by
  refine ⟨(t.toList.rtakeWhile (· == c)).length, ?_⟩
  rw [toList_rstripChar, ← List.eq_replicate_of_mem (a := c) (l := t.toList.rtakeWhile (· == c))]
  · exact List.rdropWhile_append_rtakeWhile.symm
  · intro d hd
    simpa using List.mem_rtakeWhile_imp hd

theorem rdropWhile_replicate (c : Char) (cs : List Char) (n : ℕ) :
    (cs ++ List.replicate n c).rdropWhile (· == c) = cs.rdropWhile (· == c) := by
  unfold List.rdropWhile
  rw [List.reverse_append, List.reverse_replicate, List.dropWhile_append_of_pos]
  intro d hd
  simpa using List.eq_of_mem_replicate hd

theorem withoutMarks_eq_empty (ht : strip t = t) :
    withoutMarks t = "" ↔ ∃ a b, t.toList = List.replicate a '*' ++ List.replicate b '.' := by
  constructor
  · intro h
    obtain ⟨b, hb⟩ := rstripChar_split '.' t
    obtain ⟨a, ha⟩ := rstripChar_split '*' (rstripChar '.' t)
    cases hrest : (rstripChar '*' (rstripChar '.' t)).toList with
    | nil =>
        rw [ha, hrest, List.nil_append] at hb
        exact ⟨a, b, hb⟩
    | cons c cs =>
        have hspace : Data.isSpace c = true := space_of_strip h (by rw [hrest]; simp)
        rw [ha, hrest, List.append_assoc, List.cons_append] at hb
        rw [head_of_strip ht hb] at hspace
        cases hspace
  · rintro ⟨a, b, hlist⟩
    have hdots : (rstripChar '.' t).toList = List.replicate a '*' := by
      rw [toList_rstripChar, hlist, rdropWhile_replicate]
      unfold List.rdropWhile
      rw [List.reverse_replicate, List.dropWhile_replicate]
      simp
    have hstars : (rstripChar '*' (rstripChar '.' t)).toList = [] := by
      have hdrop := rdropWhile_replicate '*' [] a
      rw [List.nil_append] at hdrop
      rw [toList_rstripChar, hdots, hdrop]
      rfl
    unfold withoutMarks
    rw [String.toList_inj.mp (hstars.trans rfl : _ = "".toList)]
    rfl

theorem OnlyMarks.mem (h : OnlyMarks t) {c : Char} (hc : c ∈ t.toList) : c = '*' ∨ c = '.' := by
  obtain ⟨-, a, b, hlist⟩ := h
  rw [hlist] at hc
  rcases List.mem_append.mp hc with hc | hc
  · exact .inl (List.eq_of_mem_replicate hc)
  · exact .inr (List.eq_of_mem_replicate hc)

/-- Marks have no case. -/
theorem OnlyMarks.lower_eq (hu : u.LowersAscii) (h : OnlyMarks t) : u.lower t = t := by
  have hascii : ∀ c ∈ t.toList, c.toNat < 128 := by
    intro c hc
    rcases h.mem hc with rfl | rfl
    · decide
    · decide
  have hsame : t.toList.map Char.toLower = t.toList := by
    conv_rhs => rw [← List.map_id t.toList]
    apply List.map_congr_left
    intro c hc
    rcases h.mem hc with rfl | rfl
    · rfl
    · rfl
  have hlower := hu.whole t.toList hascii
  rw [hsame, String.ofList_toList] at hlower
  exact hlower

theorem startsWith_mem {c : Char} {cs : List Char} {text : String}
    (h : startsWith (String.ofList (c :: cs)) text = true) : c ∈ text.toList := by
  unfold startsWith at h
  rw [List.isPrefixOf_iff_prefix, String.toList_ofList] at h
  exact h.subset (by simp)

theorem OnlyMarks.not_starts (hu : u.LowersAscii) (h : OnlyMarks t) {c : Char} {cs : List Char}
    (hstar : c ≠ '*') (hdot : c ≠ '.') :
    startsWith (String.ofList (c :: cs)) (u.lower t) = false := by
  rw [Bool.eq_false_iff]
  intro hstarts
  rw [h.lower_eq hu] at hstarts
  rcases h.mem (startsWith_mem hstarts) with heq | heq
  · exact hstar heq
  · exact hdot heq

end Marks

/-! ## The verdict -/

section Verdict

variable {t : String}

theorem lastToken_of_empty (hu : u.LowersAscii) (h : withoutMarks t = "") :
    lastToken u t = "" := by
  unfold lastToken
  rw [h]
  exact lower_empty hu

theorem not_yes_and_no (h : startsWith "yes" t = true) : startsWith "no" t = false := by
  rw [Bool.eq_false_iff]
  intro hno
  unfold startsWith at h hno
  rw [List.isPrefixOf_iff_prefix] at h hno
  obtain ⟨cs, hcs⟩ := h
  rw [← hcs] at hno
  exact absurd (List.cons_prefix_cons.mp hno).1 (by decide)

theorem popeVerdict_reads (hu : u.LowersAscii) (ht : strip t = t) {v : String}
    (hv : v = "yes" ∨ v = "no") : popeVerdict u t = .ok (some v) ↔ ReadsAs u v t := by
  have hempty : v ≠ "" := by
    rcases hv with rfl | rfl
    · decide
    · decide
  unfold popeVerdict ReadsAs
  by_cases hyes : startsWith "yes" (u.lower t) = true
  · rw [if_pos hyes]
    rcases hv with rfl | rfl
    · simp [hyes]
    · simp [hyes, not_yes_and_no hyes]
  · rw [if_neg hyes]
    rw [Bool.not_eq_true] at hyes
    by_cases hno : startsWith "no" (u.lower t) = true
    · rw [if_pos hno]
      rcases hv with rfl | rfl
      · simp [hyes, hno]
      · simp [hno]
    · rw [if_neg hno]
      rw [Bool.not_eq_true] at hno
      have hstarts : startsWith v (u.lower t) = false := by
        rcases hv with rfl | rfl
        · exact hyes
        · exact hno
      by_cases hstrip : strip t = ""
      · have hlast : lastToken u t = "" := by
          apply lastToken_of_empty hu
          rw [← ht, hstrip]
          rfl
        rw [if_pos hstrip]
        simp [hstarts, hlast, Ne.symm hempty]
      · rw [if_neg hstrip]
        by_cases hmarks : withoutMarks t = ""
        · rw [if_pos hmarks]
          simp [hstarts, lastToken_of_empty hu hmarks, Ne.symm hempty]
        · rw [if_neg hmarks]
          by_cases hlast : lastToken u t = "yes" ∨ lastToken u t = "no"
          · rw [if_pos hlast]
            simp [hstarts, hyes, hno]
          · rw [if_neg hlast]
            have hne : lastToken u t ≠ v := by
              rintro rfl
              exact hlast hv
            simp [hstarts, hne]

theorem popeVerdict_fails (hu : u.LowersAscii) (ht : strip t = t) :
    popeVerdict u t = .error .indexError ↔ OnlyMarks t := by
  constructor
  · intro h
    unfold popeVerdict at h
    split at h
    · cases h
    · split at h
      · cases h
      · split at h
        · cases h
        · rename_i hne
          split at h
          · rename_i hmarks
            exact ⟨ht ▸ hne, (withoutMarks_eq_empty ht).mp hmarks⟩
          · split at h
            · cases h
            · cases h
  · intro h
    have hyes : startsWith "yes" (u.lower t) = false := h.not_starts hu (by decide) (by decide)
    have hno : startsWith "no" (u.lower t) = false := h.not_starts hu (by decide) (by decide)
    unfold popeVerdict
    rw [hyes, hno, ht, if_neg Bool.false_ne_true, if_neg Bool.false_ne_true, if_neg h.1,
      if_pos ((withoutMarks_eq_empty ht).mpr h.2)]

/-- There are no other results. -/
theorem popeVerdict_cases (u : Unicode) (t : String) :
    popeVerdict u t = .error .indexError ∨ popeVerdict u t = .ok none ∨
      ∃ v, (v = "yes" ∨ v = "no") ∧ popeVerdict u t = .ok (some v) := by
  unfold popeVerdict
  split
  · exact .inr (.inr ⟨"yes", .inl rfl, rfl⟩)
  · split
    · exact .inr (.inr ⟨"no", .inr rfl, rfl⟩)
    · split
      · exact .inr (.inl rfl)
      · split
        · exact .inl rfl
        · split
          · rename_i hlast
            exact .inr (.inr ⟨_, hlast, rfl⟩)
          · exact .inr (.inl rfl)

end Verdict

/-! ## The marker -/

/-- "answer", in any capitalisation. -/
def Capitalisation (m : List Char) : Prop := m.map Char.toLower = "answer".toList

theorem toNat_lt_of_toLower {c : Char} (h : c.toLower.toNat < 128) : c.toNat < 128 := by
  unfold Char.toLower at h
  split at h
  · rename_i hupper
    have hle : c.val.toNat ≤ 'Z'.val.toNat := hupper.2
    exact lt_of_le_of_lt hle (by decide)
  · exact h

namespace Capitalisation

variable {m : List Char}

theorem ascii (h : Capitalisation m) : ∀ c ∈ m, c.toNat < 128 := by
  intro c hc
  have hall : ("answer".toList.all fun d => decide (d.toNat < 128)) = true := by decide
  have hlower : c.toLower ∈ m.map Char.toLower := List.mem_map_of_mem hc
  rw [h] at hlower
  exact toNat_lt_of_toLower (of_decide_eq_true (List.all_eq_true.mp hall _ hlower))

theorem length_eq (h : Capitalisation m) : m.length = 6 := by
  have hlength := congrArg List.length h
  rw [List.length_map] at hlength
  exact hlength

/-- Its first letter, and its last one. -/
theorem split (h : Capitalisation m) :
    ∃ first mid last, m = first :: (mid ++ [last]) ∧ first.toLower = 'a' ∧ last.toLower = 'r' ∧
      ∀ c ∈ mid ++ [last], c.toLower ≠ 'a' := by
  have hlist : m.map Char.toLower = 'a' :: (['n', 's', 'w', 'e'] ++ ['r']) := h
  obtain ⟨first, rest, rfl, hfirst, hrest⟩ := List.map_eq_cons_iff.mp hlist
  have hother : ∀ c ∈ rest, c.toLower ≠ 'a' := by
    intro c hc
    have hlower : c.toLower ∈ rest.map Char.toLower := List.mem_map_of_mem hc
    rw [hrest] at hlower
    intro heq
    rw [heq] at hlower
    exact absurd hlower (by decide)
  obtain ⟨mid, tail, rfl, -, htail⟩ := List.map_eq_append_iff.mp hrest
  obtain ⟨last, rfl, hlast⟩ := List.map_eq_singleton_iff.mp htail
  exact ⟨first, mid, last, rfl, hfirst, hlast, hother⟩

theorem visible {c : Char} (h : c.toLower = 'a' ∨ c.toLower = 'r') : Data.isSpace c = false := by
  have hletter : (c.toLower == 'a' || c.toLower == 'r') = true := by simpa using h
  exact not_isSpace (p := fun d => d.toLower == 'a' || d.toLower == 'r') (by decide +kernel) hletter

variable {r : List Char}

theorem toList_body (h : Capitalisation m) (r : List Char) :
    (popeBody (String.ofList (m ++ r))).toList = m ++ rstrip r := by
  obtain ⟨first, mid, last, rfl, hfirst, hlast, -⟩ := h.split
  have hstar : first ≠ '*' := by
    rintro rfl
    exact absurd hfirst (by decide)
  have hkept : lstripChar '*' (String.ofList (first :: (mid ++ [last]) ++ r)) =
      String.ofList (first :: (mid ++ last :: r)) := by
    unfold lstripChar
    rw [String.toList_ofList, List.cons_append, List.append_assoc, List.singleton_append,
      List.dropWhile_cons_of_neg (by simpa using hstar)]
  unfold popeBody
  rw [hkept, strip_eq_rstrip (visible (.inl hfirst)), ← List.cons_append,
    rstrip_append (visible (.inr hlast))]
  simp

theorem strip_eq (h : Capitalisation m) (r : List Char) :
    strip (String.ofList (m ++ r)) = String.ofList (m ++ rstrip r) := by
  obtain ⟨first, mid, last, rfl, hfirst, hlast, -⟩ := h.split
  apply String.toList_inj.mp
  rw [List.cons_append, List.append_assoc, List.singleton_append,
    strip_eq_rstrip (visible (.inl hfirst)), ← List.cons_append,
    rstrip_append (visible (.inr hlast)), String.toList_ofList]
  simp

theorem startsWith_answer (hu : u.LowersAscii) (h : Capitalisation m) (r : List Char) :
    startsWith "answer" (u.lower (popeBody (String.ofList (m ++ r)))) = true := by
  obtain ⟨rest, hrest⟩ := hu.starts m (rstrip r) h.ascii
  have hbody : popeBody (String.ofList (m ++ r)) = String.ofList (m ++ rstrip r) :=
    String.toList_inj.mp ((h.toList_body r).trans String.toList_ofList.symm)
  have hlist : (String.ofList ("answer".toList ++ rest)).toList = "answer".toList ++ rest :=
    String.toList_ofList
  unfold startsWith
  rw [hbody, hrest, h, hlist, List.isPrefixOf_iff_prefix]
  exact List.prefix_append _ _

/-- Another capitalisation is not found. -/
theorem find_answer (h : Capitalisation m) (hm : m ≠ "answer".toList) (r : List Char) :
    find "answer".toList (m ++ r) = (find "answer".toList r).map (· + 6) := by
  obtain ⟨first, mid, last, rfl, -, -, hother⟩ := h.split
  have hskip : ¬ "answer".toList <+: first :: ((mid ++ [last]) ++ r) := by
    intro hprefix
    have hwhole : "answer".toList <+: first :: (mid ++ [last]) :=
      List.prefix_of_prefix_length_le hprefix (List.prefix_append (first :: (mid ++ [last])) r)
        (by rw [h.length_eq]; decide)
    exact hm (hwhole.eq_of_length (by rw [h.length_eq]; rfl)).symm
  have hlength : (mid ++ [last]).length = 5 := by
    have h6 := h.length_eq
    rw [List.length_cons] at h6
    omega
  have hrest : find "answer".toList ((mid ++ [last]) ++ r) =
      (find "answer".toList r).map (· + (mid ++ [last]).length) :=
    find_skip fun c hc heq => hother c hc (by rw [heq]; rfl)
  rw [List.cons_append, find_cons_skip hskip, hrest, find_map_add, hlength]

end Capitalisation

/-! ## pope_extract -/

/-- What is read after a marker in lower case. -/
def fromMarker (u : Unicode) (r : List Char) : Except EvalError (Option String) :=
  popeVerdict u (afterMarker (rstrip r))

/-- What is read after another marker. -/
def fromLater (u : Unicode) (r : List Char) : Except EvalError (Option String) :=
  match find "answer".toList (rstrip r) with
  | some k => popeVerdict u (afterMarker ((rstrip r).drop (k + 6)))
  | none => .error .indexError

/-- `pope_extract` after a marker. -/
theorem popeExtract_marked (hu : u.LowersAscii) {m : List Char} (hm : Capitalisation m)
    (r : List Char) : popeExtract u (String.ofList (m ++ r)) =
      (if m = "answer".toList then fromMarker u r else fromLater u r).map
        fun v => v.getD (String.ofList (m ++ rstrip r)) := by
  have hne : String.ofList (m ++ r) ≠ "" := by
    intro hempty
    have hlist := String.toList_inj.mpr hempty
    rw [String.toList_ofList] at hlist
    have hlength := congrArg List.length hlist
    rw [List.length_append, hm.length_eq] at hlength
    simp at hlength
  have hmap : ∀ x : Except EvalError (Option String), (do
      let v ← x
      return v.getD (String.ofList (m ++ rstrip r)) : Except EvalError String) =
        x.map fun v => v.getD (String.ofList (m ++ rstrip r)) := by
    intro x
    cases x <;> rfl
  rw [popeExtract_eq hu hne, hm.strip_eq]
  unfold popeMarked
  rw [if_pos (hm.startsWith_answer hu r), hm.toList_body]
  by_cases hlower : m = "answer".toList
  · have hdrop : (m ++ rstrip r).drop (0 + 6) = rstrip r := List.drop_left' hm.length_eq
    rw [if_pos hlower, find_prefix ⟨rstrip r, by rw [hlower]⟩]
    dsimp only
    rw [hdrop]
    exact hmap (fromMarker u r)
  · have hdrop : ∀ k, (m ++ rstrip r).drop (k + 6 + 6) = (rstrip r).drop (k + 6) := by
      intro k
      rw [List.drop_append, hm.length_eq, Nat.add_sub_cancel,
        List.drop_eq_nil_of_le (by rw [hm.length_eq]; omega), List.nil_append]
    rw [if_neg hlower, hm.find_answer hlower]
    unfold fromLater
    cases find "answer".toList (rstrip r) with
    | none => rfl
    | some k =>
        dsimp only [Option.map_some]
        rw [hdrop]
        exact hmap _

/-- The texts on which `pope_extract` returns: one that begins with a marker has it in lower case,
    and what is read is not only marks. -/
structure Readable (u : Unicode) (text : String) : Prop where
  marker : startsWith "answer" (u.lower (popeBody text)) = true →
    "answer".toList <:+: (popeBody text).toList
  marked : startsWith "answer" (u.lower (popeBody text)) = true →
    ∀ k, find "answer".toList (popeBody text).toList = some k →
      ¬ OnlyMarks (afterMarker ((popeBody text).toList.drop (k + 6)))
  plain : startsWith "answer" (u.lower (popeBody text)) = false → ¬ OnlyMarks (popeBody text)

/-- What follows the marker reads the same from its start and from its first "answer" on: both yes,
    both no, or both unreadable. -/
inductive SameVerdict (u : Unicode) (r : List Char) : Prop where
  | reads (k : ℕ) (v : String) (hfind : find "answer".toList (rstrip r) = some k)
      (hv : v = "yes" ∨ v = "no") (first : ReadsAs u v (afterMarker (rstrip r)))
      (later : ReadsAs u v (afterMarker ((rstrip r).drop (k + 6))))
  | fails (first : OnlyMarks (afterMarker (rstrip r)))
      (later : ∀ k, find "answer".toList (rstrip r) = some k →
        OnlyMarks (afterMarker ((rstrip r).drop (k + 6))))

theorem popeVerdict_returns (hu : u.LowersAscii) {t : String} (ht : strip t = t) {text : String} :
    (∃ v, (do
      let v ← popeVerdict u t
      return v.getD text : Except EvalError String) = .ok v) ↔ ¬ OnlyMarks t := by
  rw [← popeVerdict_fails hu ht]
  rcases popeVerdict_cases u t with h | h | ⟨v, -, h⟩
  · rw [h]
    constructor
    · rintro ⟨v, hv⟩
      cases hv
    · intro hno
      exact absurd rfl hno
  · rw [h]
    exact ⟨fun _ => by simp, fun _ => ⟨_, rfl⟩⟩
  · rw [h]
    exact ⟨fun _ => by simp, fun _ => ⟨_, rfl⟩⟩

theorem popeExtract_returns (hu : u.LowersAscii) (text : String) :
    (∃ v, popeExtract u text = .ok v) ↔ Readable u text := by
  by_cases htext : text = ""
  · subst htext
    have hbody : popeBody "" = "" := rfl
    have hstarts : startsWith "answer" (u.lower (popeBody "")) = false := by
      rw [hbody, lower_empty hu]
      decide
    refine ⟨fun _ => ⟨fun h => ?_, fun h => ?_, fun _ h => h.1 hbody⟩, fun _ => ⟨"", rfl⟩⟩
    · rw [hstarts] at h
      cases h
    · rw [hstarts] at h
      cases h
  · have hbody : strip (popeBody text) = popeBody text := strip_strip _
    rw [popeExtract_eq hu htext]
    unfold popeMarked
    cases hmarker : startsWith "answer" (u.lower (popeBody text)) with
    | false =>
        rw [if_neg Bool.false_ne_true]
        refine (popeVerdict_returns hu hbody).trans
          ⟨fun h => ⟨fun hm => ?_, fun hm => ?_, fun _ => h⟩, fun h => h.plain hmarker⟩
        · rw [hmarker] at hm
          cases hm
        · rw [hmarker] at hm
          cases hm
    | true =>
        rw [if_pos rfl]
        cases hfind : find "answer".toList (popeBody text).toList with
        | none =>
            constructor
            · rintro ⟨v, hv⟩
              cases hv
            · intro h
              obtain ⟨k, hk⟩ := find_of_infix (h.marker hmarker)
              rw [hfind] at hk
              cases hk
        | some k =>
            have hafter : strip (afterMarker ((popeBody text).toList.drop (k + 6))) =
                afterMarker ((popeBody text).toList.drop (k + 6)) := strip_strip _
            refine (popeVerdict_returns hu hafter).trans ⟨fun h => ⟨fun _ => ?_, ?_, fun hm => ?_⟩,
              fun h => h.marked hmarker k hfind⟩
            · exact (find_eq_some hfind).isInfix.trans (List.drop_suffix k _).isInfix
            · intro _ k' hk'
              rw [hfind] at hk'
              cases hk'
              exact h
            · rw [hmarker] at hm
              cases hm

/-- A text with a marker is no verdict. -/
theorem Capitalisation.ne_verdict {m : List Char} (h : Capitalisation m) (cs : List Char)
    {v : String} (hv : v = "yes" ∨ v = "no") : String.ofList (m ++ cs) ≠ v := by
  intro heq
  have hlength := congrArg List.length (congrArg String.toList heq)
  rw [String.toList_ofList, List.length_append, h.length_eq] at hlength
  rcases hv with rfl | rfl
  · change 6 + cs.length = 3 at hlength
    omega
  · change 6 + cs.length = 2 at hlength
    omega

theorem fromLater_cases (u : Unicode) (r : List Char) :
    fromLater u r = .error .indexError ∨ fromLater u r = .ok none ∨
      ∃ v, (v = "yes" ∨ v = "no") ∧ fromLater u r = .ok (some v) := by
  unfold fromLater
  cases find "answer".toList (rstrip r) with
  | none => exact .inl rfl
  | some k => exact popeVerdict_cases u _

/-- The same verdict, in terms of the two readings. -/
theorem sameVerdict_iff (hu : u.LowersAscii) (r : List Char) :
    SameVerdict u r ↔ (fromMarker u r = .error .indexError ∧ fromLater u r = .error .indexError) ∨
      ∃ v, (v = "yes" ∨ v = "no") ∧ fromMarker u r = .ok (some v) ∧
        fromLater u r = .ok (some v) := by
  have hstripped : ∀ cs, strip (afterMarker cs) = afterMarker cs := fun cs => strip_strip _
  unfold fromMarker fromLater
  constructor
  · rintro (⟨k, v, hfind, hv, hfirst, hlater⟩ | ⟨hfirst, hlater⟩)
    · rw [hfind]
      exact .inr ⟨v, hv, (popeVerdict_reads hu (hstripped _) hv).mpr hfirst,
        (popeVerdict_reads hu (hstripped _) hv).mpr hlater⟩
    · refine .inl ⟨(popeVerdict_fails hu (hstripped _)).mpr hfirst, ?_⟩
      cases hfind : find "answer".toList (rstrip r) with
      | none => rfl
      | some k => exact (popeVerdict_fails hu (hstripped _)).mpr (hlater k hfind)
  · rintro (⟨hfirst, hlater⟩ | ⟨v, hv, hfirst, hlater⟩)
    · refine .fails ((popeVerdict_fails hu (hstripped _)).mp hfirst) fun k hk => ?_
      rw [hk] at hlater
      exact (popeVerdict_fails hu (hstripped _)).mp hlater
    · cases hfind : find "answer".toList (rstrip r) with
      | none =>
          rw [hfind] at hlater
          cases hlater
      | some k =>
          rw [hfind] at hlater
          exact .reads k v hfind hv ((popeVerdict_reads hu (hstripped _) hv).mp hfirst)
            ((popeVerdict_reads hu (hstripped _) hv).mp hlater)

/-- Two readings that fall back on different texts give the same only if they read the same verdict,
    or both fail. -/
theorem same_of_texts {x y : Except EvalError (Option String)} {a b : String} (hab : a ≠ b)
    (ha : ∀ v, v = "yes" ∨ v = "no" → a ≠ v) (hb : ∀ v, v = "yes" ∨ v = "no" → b ≠ v)
    (hx : x = .error .indexError ∨ x = .ok none ∨
      ∃ v, (v = "yes" ∨ v = "no") ∧ x = .ok (some v))
    (hy : y = .error .indexError ∨ y = .ok none ∨
      ∃ v, (v = "yes" ∨ v = "no") ∧ y = .ok (some v))
    (h : x.map (fun v => v.getD a) = y.map fun v => v.getD b) :
    (x = .error .indexError ∧ y = .error .indexError) ∨
      ∃ v, (v = "yes" ∨ v = "no") ∧ x = .ok (some v) ∧ y = .ok (some v) := by
  rcases hx with rfl | rfl | ⟨v, hv, rfl⟩
  · rcases hy with rfl | rfl | ⟨w, hw, rfl⟩
    · exact .inl ⟨rfl, rfl⟩
    · cases h
    · cases h
  · rcases hy with rfl | rfl | ⟨w, hw, rfl⟩
    · cases h
    · exact absurd (Except.ok.inj h) hab
    · exact absurd (Except.ok.inj h) (ha w hw)
  · rcases hy with rfl | rfl | ⟨w, hw, rfl⟩
    · cases h
    · exact absurd (Except.ok.inj h).symm (hb v hv)
    · obtain rfl : v = w := Except.ok.inj h
      exact .inr ⟨v, hv, rfl, rfl⟩

theorem same_result_iff (hu : u.LowersAscii) (r : List Char) :
    (∀ m m', Capitalisation m → Capitalisation m' →
      popeExtract u (String.ofList (m ++ r)) = popeExtract u (String.ofList (m' ++ r))) ↔
      SameVerdict u r := by
  rw [sameVerdict_iff hu]
  constructor
  · intro h
    have hlow : Capitalisation "answer".toList := rfl
    have hup : Capitalisation "ANSWER".toList := rfl
    have hsame := h _ _ hlow hup
    rw [popeExtract_marked hu hlow, popeExtract_marked hu hup, if_pos rfl,
      if_neg (by decide)] at hsame
    have hne : String.ofList ("answer".toList ++ rstrip r) ≠
        String.ofList ("ANSWER".toList ++ rstrip r) := by
      intro heq
      exact absurd (List.append_cancel_right (String.ofList_injective heq)) (by decide)
    exact same_of_texts hne (fun _ => hlow.ne_verdict _) (fun _ => hup.ne_verdict _)
      (popeVerdict_cases u _) (fromLater_cases u r) hsame
  · rintro (⟨hfirst, hlater⟩ | ⟨v, -, hfirst, hlater⟩) m m' hm hm'
    · rw [popeExtract_marked hu hm, popeExtract_marked hu hm', hfirst, hlater, ite_self, ite_self]
      rfl
    · rw [popeExtract_marked hu hm, popeExtract_marked hu hm', hfirst, hlater, ite_self, ite_self]
      rfl

/-- **Where `pope_extract` returns, and where it does not look at the case of the marker.** -/
theorem popeExtract_iff (hu : u.LowersAscii) :
    (∀ raw, (∃ v, popeExtract u (extractAnswer raw) = .ok v) ↔ Readable u (extractAnswer raw)) ∧
    ∀ r, (∀ m m', Capitalisation m → Capitalisation m' →
      popeExtract u (String.ofList (m ++ r)) = popeExtract u (String.ofList (m' ++ r))) ↔
      SameVerdict u r :=
  ⟨fun raw => popeExtract_returns hu (extractAnswer raw), same_result_iff hu⟩

/-! ## "Answer: Yes" -/

theorem asciiUnicode_lowers : asciiUnicode.LowersAscii where
  starts m r _ := by
    refine ⟨r.map Char.toLower, ?_⟩
    show String.ofList ((String.ofList (m ++ r)).toList.map Char.toLower) = _
    rw [String.toList_ofList, List.map_append]
  whole m _ := by
    show String.ofList ((String.ofList m).toList.map Char.toLower) = _
    rw [String.toList_ofList]

/-- "answer: yes" is read. -/
theorem popeExtract_iff_sample :
    ∃ v, popeExtract asciiUnicode (extractAnswer "answer: yes") = .ok v := by
  have hextract : extractAnswer "answer: yes" = "answer: yes" := by decide
  have hbody : popeBody "answer: yes" = "answer: yes" := by decide
  have hfind : find "answer".toList "answer: yes".toList = some 0 := by decide
  have hafter : afterMarker ("answer: yes".toList.drop 6) = "yes" := by decide
  refine ((popeExtract_iff asciiUnicode_lowers).1 "answer: yes").mpr ?_
  rw [hextract]
  refine ⟨fun _ => ?_, fun _ k hk hmarks => ?_, fun h => ?_⟩
  · rw [hbody]
    exact (find_eq_some hfind).isInfix
  · rw [hbody, hfind] at hk
    cases hk
    rw [hbody, hafter] at hmarks
    rcases hmarks.mem (c := 'y') (by decide) with h | h
    · cases h
    · cases h
  · rw [hbody] at h
    exact absurd h (by decide)

/-- "Answer: Yes" raises, where "answer: Yes" is read as yes. -/
theorem capital_marker_raises :
    (¬∀ raw, ∃ v, popeExtract asciiUnicode (extractAnswer raw) = .ok v) ∧
      ¬∀ (r m m' : List Char), Capitalisation m → Capitalisation m' →
        popeExtract asciiUnicode (String.ofList (m ++ r)) =
          popeExtract asciiUnicode (String.ofList (m' ++ r)) := by
  have hcapital : popeExtract asciiUnicode "Answer: Yes" = .error .indexError := rfl
  have hlower : popeExtract asciiUnicode "answer: Yes" = .ok "yes" := rfl
  constructor
  · intro h
    obtain ⟨v, hv⟩ := h "Answer: Yes"
    have hextract : extractAnswer "Answer: Yes" = "Answer: Yes" := by decide
    rw [hextract, hcapital] at hv
    cases hv
  · intro h
    have hsame : popeExtract asciiUnicode "Answer: Yes" = popeExtract asciiUnicode "answer: Yes" :=
      h ": Yes".toList "Answer".toList "answer".toList rfl rfl
    rw [hcapital, hlower] at hsame
    cases hsame

end LookAway.Eval
