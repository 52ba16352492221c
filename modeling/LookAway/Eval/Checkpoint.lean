/-
  Compacting an answer file whose lines are records of a benchmark: which records it keeps, and
  what a cut line does to it.
-/
import LookAway.Eval.Infer
import Mathlib.Data.List.DropRight

namespace LookAway.Eval

open LookAway.Base LookAway.Base.Json LookAway.Data

/-! ## Lines -/

theorem Printable.not_newline {cs : List Char} (h : Printable cs) : '\n' ∉ cs := by
  intro hc
  exact absurd (h _ hc) (by decide)

theorem Printable.not_return {cs : List Char} (h : Printable cs) : '\r' ∉ cs := by
  intro hc
  exact absurd (h _ hc) (by decide)

theorem splitLines_cons {c : Char} (h : c ≠ '\n') {cs line : List Char} {lines : List (List Char)}
    (hcs : splitLines cs = line :: lines) : splitLines (c :: cs) = (c :: line) :: lines := by
  conv_lhs => unfold splitLines
  rw [if_neg h, hcs]

theorem splitLines_line {line : List Char} (h : '\n' ∉ line) (rest : List Char) :
    splitLines (line ++ '\n' :: rest) = line :: splitLines rest := by
  induction line with
  | nil => rfl
  | cons c cs ih =>
      simp only [List.mem_cons, not_or] at h
      exact splitLines_cons (Ne.symm h.1) (ih h.2)

theorem splitLines_last {line : List Char} (h : '\n' ∉ line) :
    splitLines line = if line = [] then [] else [line] := by
  induction line with
  | nil => rfl
  | cons c cs ih =>
      simp only [List.mem_cons, not_or] at h
      rw [if_neg (by simp)]
      by_cases hcs : cs = []
      · subst hcs
        unfold splitLines
        rw [if_neg (Ne.symm h.1)]
        rfl
      · apply splitLines_cons (Ne.symm h.1)
        rw [ih h.2, if_neg hcs]

theorem universalNewlines_eq {cs : List Char} (h : '\r' ∉ cs) : universalNewlines cs = cs := by
  induction cs with
  | nil => rfl
  | cons c cs ih =>
      simp only [List.mem_cons, not_or] at h
      unfold universalNewlines
      split
      · rename_i heq
        cases heq
      · rename_i heq
        exact absurd (List.cons.inj heq).1.symm h.1
      · rename_i heq
        exact absurd (List.cons.inj heq).1.symm h.1
      · rename_i heq
        obtain ⟨rfl, rfl⟩ := List.cons.inj heq
        rw [ih h.2]

/-- The text of complete lines. -/
def linesText (lines : List (List Char)) : List Char := lines.flatMap (· ++ ['\n'])

theorem linesText_append (xs ys : List (List Char)) :
    linesText (xs ++ ys) = linesText xs ++ linesText ys := by
  unfold linesText
  rw [List.flatMap_append]

theorem linesText_singleton (line : List Char) : linesText [line] = line ++ ['\n'] := by
  simp [linesText]

theorem splitLines_linesText {lines : List (List Char)} (h : ∀ line ∈ lines, '\n' ∉ line)
    (rest : List Char) : splitLines (linesText lines ++ rest) = lines ++ splitLines rest := by
  induction lines with
  | nil => rfl
  | cons line lines ih =>
      have hstep := splitLines_line (h line (by simp)) (linesText lines ++ rest)
      rw [ih fun l hl => h l (by simp [hl])] at hstep
      simpa [linesText] using hstep

/-- The lines of a file that holds complete lines and a part of one. -/
theorem fileLines_utf8 {lines : List (List Char)} (h : ∀ line ∈ lines, Printable line)
    {last : List Char} (hlast : Printable last) :
    fileLines (utf8 (linesText lines ++ last)) =
      .ok (lines ++ if last = [] then [] else [last]) := by
  have hreturn : '\r' ∉ linesText lines ++ last := by
    intro hc
    rcases List.mem_append.mp hc with hc | hc
    · obtain ⟨line, hline, hc⟩ := List.mem_flatMap.mp hc
      rcases List.mem_append.mp hc with hc | hc
      · exact Printable.not_return (h line hline) hc
      · simp at hc
    · exact Printable.not_return hlast hc
  unfold fileLines
  rw [decodeUtf8_utf8]
  dsimp only
  rw [universalNewlines_eq hreturn,
    splitLines_linesText fun line hline => Printable.not_newline (h line hline),
    splitLines_last (Printable.not_newline hlast)]

/-! ## strip -/

/-- What starts with a visible character loses only white space at its end. -/
theorem strip_cons {c : Char} (hc : Data.isSpace c = false) (cs : List Char) :
    ∃ spaces, (strip (String.ofList (c :: cs))).toList ++ spaces = c :: cs ∧
      (strip (String.ofList (c :: cs))).toList ≠ [] := by
  have hstrip : (strip (String.ofList (c :: cs))).toList = (c :: cs).rdropWhile Data.isSpace := by
    unfold strip List.rdropWhile
    rw [String.toList_ofList, String.toList_ofList, List.dropWhile_cons_of_neg (by simp [hc])]
  obtain ⟨spaces, hspaces⟩ := List.rdropWhile_prefix Data.isSpace (l := c :: cs)
  refine ⟨spaces, by rw [hstrip, hspaces], ?_⟩
  rw [hstrip, Ne, List.rdropWhile_eq_nil_iff]
  intro hall
  have hspace := hall c (by simp)
  rw [hc] at hspace
  cases hspace

theorem strip_visible {c d : Char} (hc : Data.isSpace c = false) (hd : Data.isSpace d = false)
    (mid : List Char) :
    (strip (String.ofList (c :: (mid ++ [d])))).toList = c :: (mid ++ [d]) := by
  unfold strip
  rw [String.toList_ofList, String.toList_ofList, List.dropWhile_cons_of_neg (by simp [hc]),
    ← List.cons_append, List.reverse_append, List.reverse_singleton, List.singleton_append,
    List.dropWhile_cons_of_neg (by simp [hd])]
  simp

/-! ## One line -/

theorem makeSampleUid_ne_empty (sha1 : List UInt8 → String) (item : Fields) (benchmark : String) :
    makeSampleUid sha1 item benchmark ≠ "" := by
  unfold makeSampleUid
  split
  · rename_i uid huid
    obtain ⟨key, -, hkey⟩ := List.exists_of_findSome?_eq_some huid
    unfold uidOfKey at hkey
    split at hkey
    · cases hkey
    · split at hkey
      · cases hkey
      · cases hkey
        intro hcontra
        rw [String.append_eq_empty_iff] at hcontra
        have hcolon := hcontra.1
        rw [String.append_eq_empty_iff] at hcolon
        exact absurd hcolon.2 (by decide)
  · intro hcontra
    rw [String.append_eq_empty_iff] at hcontra
    exact absurd hcontra.1 (by decide)

theorem dumps_obj_starts (fields : Fields) : ∃ cs, dumps (.obj fields) = '\x7b' :: cs := by
  cases fields with
  | nil => exact ⟨_, rfl⟩
  | cons f fs => exact ⟨_, rfl⟩

theorem strip_dumps (fields : Fields) :
    (strip (String.ofList (dumps (.obj fields)))).toList = dumps (.obj fields) := by
  obtain ⟨cs, hcs⟩ := dumps_obj_starts fields
  obtain ⟨ds, hds⟩ := dumps_obj_ends fields
  cases ds with
  | nil =>
      rw [hds] at hcs
      exact absurd (List.cons.inj hcs).1 (by decide)
  | cons d ds =>
      have hd : d = '\x7b' := by
        rw [hds] at hcs
        exact (List.cons.inj hcs).1
      rw [hds, hd]
      exact strip_visible (by decide) (by decide) ds

section Line

variable (sha1 : List UInt8 → String) (benchmark : String)

/-- A whole record. -/
theorem compactLine_dumps (kept : Kept String Fields) {record : Fields}
    (h : WellFormed (.obj record)) {uid : String} (huid : uid ≠ "")
    (hrecord : (("sample_uid", .str uid) : String × Json) ∈ record) :
    compactLine sha1 benchmark kept (dumps (.obj record)) =
      .ok (keep shouldRetryExistingRecord kept uid record) := by
  have hset : setField record "sample_uid" (.str uid) = record := setField_self h.1 hrecord
  have hget : get record "sample_uid" = .str uid := by
    rw [← hset]
    exact get_setField_self _ _ _
  have hnonempty : dumps (.obj record) ≠ [] := by
    obtain ⟨cs, hcs⟩ := dumps_obj_starts record
    simp [hcs]
  have hrecordUid : recordUid sha1 record benchmark = uid := by
    unfold recordUid
    rw [hget]
    simp [truthy, pyStr, huid]
  unfold compactLine
  dsimp only
  rw [strip_dumps, if_neg hnonempty, loads_dumps h]
  dsimp only
  rw [hrecordUid, hset]

/-- A record that is cut. -/
theorem compactLine_cut (kept : Kept String Fields) {record : Fields}
    (h : WellFormed (.obj record)) {p q : List Char} (hpq : p ++ q = dumps (.obj record))
    (hp : p ≠ []) (hq : q ≠ []) :
    compactLine sha1 benchmark kept p = .ok { kept with changed := true } := by
  obtain ⟨cs, hcs⟩ := dumps_obj_starts record
  cases p with
  | nil => exact absurd rfl hp
  | cons c p =>
      have hc : c = '\x7b' := by
        rw [hcs] at hpq
        exact (List.cons.inj hpq).1
      subst hc
      obtain ⟨spaces, hspaces, hne⟩ := strip_cons (c := '\x7b') (by decide) p
      have hcut : (strip (String.ofList ('\x7b' :: p))).toList ++ (spaces ++ q) =
          dumps (.obj record) := by
        rw [← List.append_assoc, hspaces, hpq]
      obtain ⟨hloads, hlone⟩ := not_json fun lone => loadsWith_cut h hcut (by simp [hq])
      unfold compactLine
      dsimp only
      rw [if_neg hne, hloads, hlone]
      rfl

/-- Two records on one line. -/
theorem loadsWith_glued {first : Fields} (h : WellFormed (.obj first)) (second : Fields)
    (lone : Bool) : loadsWith lone (dumps (.obj first) ++ dumps (.obj second)) = none := by
  obtain ⟨s, hs, hsettle⟩ := loadsWith_eq_some.mp (loadsWith_dumps lone h)
  by_contra hsome
  obtain ⟨v, hv⟩ := Option.ne_none_iff_exists'.mp hsome
  obtain ⟨t, ht, -⟩ := loadsWith_eq_some.mp hv
  rw [run_append hs] at ht
  rcases settle_eq_done hsettle with rfl | ⟨hnumber, -⟩
  · obtain ⟨cs, hcs⟩ := dumps_obj_starts second
    have hspace := isSpace_of_run_done ht '\x7b' (by simp [hcs])
    exact absurd hspace (by decide)
  · exact hnumber

theorem compactLine_glued (kept : Kept String Fields) {first : Fields}
    (h : WellFormed (.obj first)) (second : Fields) :
    compactLine sha1 benchmark kept (dumps (.obj first) ++ dumps (.obj second)) =
      .ok { kept with changed := true } := by
  obtain ⟨cs, hcs⟩ := dumps_obj_starts first
  obtain ⟨ds, hds⟩ := dumps_obj_ends second
  have hstrip : (strip (String.ofList (dumps (.obj first) ++ dumps (.obj second)))).toList =
      dumps (.obj first) ++ dumps (.obj second) := by
    rw [hcs, hds, List.cons_append, ← List.append_assoc]
    exact strip_visible (by decide) (by decide) (cs ++ ds)
  have hne : dumps (.obj first) ++ dumps (.obj second) ≠ [] := by simp [hcs]
  obtain ⟨hloads, hlone⟩ := not_json (loadsWith_glued h second)
  unfold compactLine
  dsimp only
  rw [hstrip, if_neg hne, hloads, hlone]
  rfl

/-- A file of complete lines and a part of one. -/
theorem compactExistingOutput_utf8 {lines : List (List Char)} (h : ∀ line ∈ lines, Printable line)
    {last : List Char} (hlast : Printable last) :
    compactExistingOutput sha1 benchmark (utf8 (linesText lines ++ last)) =
      (lines ++ if last = [] then [] else [last]).foldlM (compactLine sha1 benchmark)
        ⟨[], false⟩ := by
  unfold compactExistingOutput
  rw [fileLines_utf8 h hlast]
  rfl

end Line

end LookAway.Eval
