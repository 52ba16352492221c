/-
  Restarts of infer.py over one answer file.

  A file holds the lines of a log and, after a kill, a part of one more line (`Holds`). Compacting
  it keeps one record for each uid, and no success is lost (`compacted_cases`). So a run that is
  killed and started again goes on from a log, unless the part is a whole record without its line
  end and nothing else in the file makes the compaction write it anew: then the run appends to that
  line (`Glues`), and both records are lost.
-/
import LookAway.Eval.Checkpoint

namespace LookAway.Eval

open LookAway.Base LookAway.Base.Json LookAway.Data

section Log

variable (sha1 : List UInt8 → String) (args : InferArgs)

/-! ## Logs -/

/-- An item with its answer. -/
abbrev Answer := Dict × String

def InferArgs.record (a : Answer) : Fields := args.answered sha1 a.1 a.2

def InferArgs.entry (a : Answer) : String × Fields := (args.uid sha1 a.1, args.record sha1 a)

def InferArgs.line (a : Answer) : List Char := dumps (.obj (args.record sha1 a))

def InferArgs.text (log : List Answer) : List Char := linesText (log.map (args.line sha1))

/-- What compacting the log leaves. -/
def InferArgs.kept (log : List Answer) : Kept String Fields :=
  (log.map (args.entry sha1)).foldl (fun kept e => keep shouldRetryExistingRecord kept e.1 e.2)
    ⟨[], false⟩

/-- A log of the benchmark, with one success at most for each uid. -/
structure InferArgs.Written (log : List Answer) : Prop where
  items : ∀ a ∈ log, a.1 ∈ args.totalData
  unique : ∀ a ∈ log, ∀ b ∈ log, args.uid sha1 a.1 = args.uid sha1 b.1 →
    shouldRetryExistingRecord (args.record sha1 a) = false →
    shouldRetryExistingRecord (args.record sha1 b) = false → a = b

/-- `kept` has one record for each uid of the log, a success if the log has one. -/
structure InferArgs.Keeps (log kept : List Answer) : Prop where
  mem : ∀ a ∈ kept, a ∈ log
  nodup : (kept.map fun a => args.uid sha1 a.1).Nodup
  covers : ∀ a ∈ log, args.uid sha1 a.1 ∈ kept.map fun a => args.uid sha1 a.1
  success : ∀ a ∈ log, shouldRetryExistingRecord (args.record sha1 a) = false →
    ∀ b ∈ kept, args.uid sha1 a.1 = args.uid sha1 b.1 →
      shouldRetryExistingRecord (args.record sha1 b) = false

/-- The bytes of a log, and of a part of the line after it. -/
structure InferArgs.Holds (bytes : List UInt8) (log : List Answer) (torn : List UInt8) : Prop where
  eq : bytes = utf8 (args.text sha1 log) ++ torn
  written : args.Written sha1 log
  torn : torn = [] ∨ ∃ a, torn <+: utf8 (args.line sha1 a) ∧ args.Written sha1 (log ++ [a])

/-- The file starts with complete lines, and the record's line is one of them. -/
def Wrote (file : Option (List UInt8)) (record : Fields) : Prop :=
  ∃ lines : List (List Char), (∀ line ∈ lines, '\n' ∉ line) ∧
    utf8 (linesText lines) <+: file.getD [] ∧ dumps (.obj record) ∈ lines

/-- The last line of the file has no end. -/
def Unended (bytes : List UInt8) : Prop := bytes ≠ [] ∧ bytes.getLast? ≠ some 10

/-- A run would append to the last line of the file: it has no end, the compaction finds nothing to
    change, and some item is left. -/
def InferArgs.Glues (bytes : List UInt8) : Prop :=
  Unended bytes ∧ ∃ kept, compactExistingOutput sha1 args.benchmark bytes = .ok kept ∧
    kept.changed = false ∧ args.todoData sha1 (doneIds kept.entries) ≠ []

/-! ## Records -/

theorem InferArgs.uid_ne_empty (item : Dict) : args.uid sha1 item ≠ "" :=
  makeSampleUid_ne_empty sha1 item.1 args.benchmark

theorem InferArgs.wellFormed_record (a : Answer) : WellFormed (.obj (args.record sha1 a)) := by
  have hstr : ∀ s : String, WellFormed (.str s) := fun _ => trivial
  apply wellFormed_setField _ _ (hstr _)
  apply wellFormed_setField _ _ (hstr _)
  exact wellFormed_setField a.1.2 _ (hstr _)

theorem InferArgs.lookup_uid (a : Answer) :
    (args.record sha1 a).lookup "sample_uid" = some (.str (args.uid sha1 a.1)) := by
  unfold InferArgs.record InferArgs.answered
  rw [lookup_setField_of_ne (by decide), lookup_setField_self]

theorem InferArgs.lookup_answer (a : Answer) :
    (args.record sha1 a).lookup "model_answer" = some (.str a.2) := by
  unfold InferArgs.record InferArgs.answered
  rw [lookup_setField_self]

variable {sha1} {args}

theorem InferArgs.record_inj {a b : Answer} (h : args.record sha1 a = args.record sha1 b) :
    args.uid sha1 a.1 = args.uid sha1 b.1 ∧ a.2 = b.2 := by
  have huid := args.lookup_uid sha1 a
  have hanswer := args.lookup_answer sha1 a
  rw [h, args.lookup_uid] at huid
  rw [h, args.lookup_answer] at hanswer
  constructor
  · simpa using huid.symm
  · simpa using hanswer.symm

theorem InferArgs.line_inj {a b : Answer} (h : args.line sha1 a = args.line sha1 b) :
    args.record sha1 a = args.record sha1 b := by
  have ha := loads_dumps (args.wellFormed_record sha1 a)
  unfold InferArgs.line at h
  rw [h, loads_dumps (args.wellFormed_record sha1 b)] at ha
  simpa using ha.symm

variable (sha1 args) in
theorem InferArgs.printable_line (a : Answer) : Printable (args.line sha1 a) :=
  printable_dumps _ (args.wellFormed_record sha1 a)

variable (sha1 args) in
theorem InferArgs.printable_lines (log : List Answer) :
    ∀ line ∈ log.map (args.line sha1), Printable line := by
  intro line hline
  obtain ⟨a, -, rfl⟩ := List.mem_map.mp hline
  exact args.printable_line sha1 a

theorem InferArgs.line_ne_nil (a : Answer) : args.line sha1 a ≠ [] := by
  obtain ⟨cs, hcs⟩ := dumps_obj_starts (args.record sha1 a)
  unfold InferArgs.line
  simp [hcs]

theorem InferArgs.text_append (xs ys : List Answer) :
    args.text sha1 (xs ++ ys) = args.text sha1 xs ++ args.text sha1 ys := by
  unfold InferArgs.text
  rw [List.map_append, linesText_append]

theorem InferArgs.text_singleton (a : Answer) :
    args.text sha1 [a] = args.line sha1 a ++ ['\n'] := by
  unfold InferArgs.text
  rw [List.map_singleton, linesText_singleton]

/-- The text of a log is that of its entries. -/
theorem InferArgs.text_eq (log : List Answer) :
    args.text sha1 log = (log.map (args.entry sha1)).flatMap fun e => recordLine e.2 := by
  unfold InferArgs.text linesText recordLine
  rw [List.flatMap_map, List.flatMap_map]
  rfl

theorem InferArgs.rewriteOutput_entries (log : List Answer) :
    rewriteOutput (log.map (args.entry sha1)) = utf8 (args.text sha1 log) := by
  unfold rewriteOutput
  rw [text_eq]

theorem unended_append_record (before : List UInt8) (record : Fields) :
    Unended (before ++ utf8 (dumps (.obj record))) := by
  obtain ⟨cs, hcs⟩ := dumps_obj_ends record
  have hlast : utf8 (dumps (.obj record)) = utf8 cs ++ [125] := by
    rw [hcs, utf8_append]
    rfl
  rw [hlast, ← List.append_assoc]
  constructor
  · simp
  · rw [List.getLast?_concat]
    decide

/-! ## What compacting keeps -/

theorem InferArgs.compactLine_line (kept : Kept String Fields) (a : Answer) :
    compactLine sha1 args.benchmark kept (args.line sha1 a) =
      .ok (keep shouldRetryExistingRecord kept (args.uid sha1 a.1) (args.record sha1 a)) :=
  compactLine_dumps sha1 args.benchmark kept (args.wellFormed_record sha1 a)
    (args.uid_ne_empty sha1 a.1) (lookup_mem (args.lookup_uid sha1 a))

theorem InferArgs.foldlM_lines (log : List Answer) (kept : Kept String Fields) :
    (log.map (args.line sha1)).foldlM (compactLine sha1 args.benchmark) kept =
      .ok ((log.map (args.entry sha1)).foldl
        (fun kept e => keep shouldRetryExistingRecord kept e.1 e.2) kept) := by
  induction log generalizing kept with
  | nil => rfl
  | cons a log ih =>
      rw [List.map_cons, List.foldlM_cons, compactLine_line]
      exact ih _

variable (sha1 args) in
/-- A log and a part of a line that can be read. -/
theorem InferArgs.compactExistingOutput_text (log : List Answer) {p : List Char}
    (hp : Printable p) :
    compactExistingOutput sha1 args.benchmark (utf8 (args.text sha1 log ++ p)) =
      (if p = [] then [] else [p]).foldlM (compactLine sha1 args.benchmark)
        (args.kept sha1 log) := by
  unfold InferArgs.text
  rw [compactExistingOutput_utf8 sha1 args.benchmark (args.printable_lines sha1 log) hp,
    List.foldlM_append, foldlM_lines]
  rfl

variable (sha1 args) in
theorem InferArgs.compact_log (log : List Answer) :
    compactExistingOutput sha1 args.benchmark (utf8 (args.text sha1 log)) =
      .ok (args.kept sha1 log) := by
  have h := args.compactExistingOutput_text sha1 log Printable.nil
  rw [List.append_nil] at h
  rw [h]
  rfl

variable (sha1 args) in
/-- The last record has no line end. -/
theorem InferArgs.compact_unended (log : List Answer) (a : Answer) :
    compactExistingOutput sha1 args.benchmark (utf8 (args.text sha1 log ++ args.line sha1 a)) =
      .ok (args.kept sha1 (log ++ [a])) := by
  rw [args.compactExistingOutput_text sha1 log (args.printable_line sha1 a),
    if_neg (line_ne_nil a), List.foldlM_cons, compactLine_line]
  unfold InferArgs.kept
  rw [List.map_append, List.foldl_append]
  rfl

/-- The last record is cut. -/
theorem InferArgs.compact_cut (log : List Answer) {a : Answer} {p q : List Char}
    (hpq : p ++ q = args.line sha1 a) (hp : p ≠ []) (hq : q ≠ []) :
    compactExistingOutput sha1 args.benchmark (utf8 (args.text sha1 log ++ p)) =
      .ok { args.kept sha1 log with changed := true } := by
  have hprintable : Printable p := by
    intro c hc
    apply args.printable_line sha1 a
    rw [← hpq]
    exact List.mem_append_left _ hc
  rw [args.compactExistingOutput_text sha1 log hprintable, if_neg hp, List.foldlM_cons,
    compactLine_cut sha1 args.benchmark _ (args.wellFormed_record sha1 a) hpq hp hq]
  rfl

theorem exists_map_eq {α β : Type} (f : α → β) (xs : List α) {ys : List β}
    (h : ∀ y ∈ ys, y ∈ xs.map f) : ∃ zs : List α, zs.map f = ys ∧ ∀ z ∈ zs, z ∈ xs := by
  induction ys with
  | nil => exact ⟨[], rfl, by simp⟩
  | cons y ys ih =>
      obtain ⟨zs, hzs, hmem⟩ := ih fun y' hy' => h y' (by simp [hy'])
      obtain ⟨x, hx, hxy⟩ := List.mem_map.mp (h y (by simp))
      refine ⟨x :: zs, by rw [List.map_cons, hxy, hzs], ?_⟩
      intro z hz
      rcases List.mem_cons.mp hz with rfl | hz
      · exact hx
      · exact hmem z hz

variable (sha1 args) in
theorem InferArgs.compacts (log : List Answer) :
    Compacts shouldRetryExistingRecord (log.map (args.entry sha1)) (args.kept sha1 log) := by
  have hnil : Compacts shouldRetryExistingRecord ([] : List (String × Fields)) ⟨[], false⟩ :=
    compacts_nil
  have h := hnil.keepAll (log.map (args.entry sha1))
  rw [List.nil_append] at h
  exact h

variable (sha1 args) in
theorem InferArgs.exists_keeps (log : List Answer) :
    ∃ kept, (args.kept sha1 log).entries = kept.map (args.entry sha1) ∧
      args.Keeps sha1 log kept := by
  have h := args.compacts sha1 log
  obtain ⟨kept, hkept, hmem⟩ := exists_map_eq (args.entry sha1) log h.mem
  have hfst : (args.kept sha1 log).entries.map (·.1) = kept.map fun a => args.uid sha1 a.1 := by
    rw [← hkept, List.map_map]
    rfl
  refine ⟨kept, hkept.symm, hmem, ?_, ?_, ?_⟩
  · rw [← hfst]
    exact h.nodup
  · intro a ha
    rw [← hfst]
    exact h.covers (args.entry sha1 a) (List.mem_map_of_mem ha)
  · intro a ha hsuccess b hb huid
    apply h.success (args.entry sha1 a) (List.mem_map_of_mem ha) hsuccess
    rw [← hkept]
    show (args.uid sha1 a.1, args.record sha1 b) ∈ _
    rw [huid]
    exact List.mem_map_of_mem hb

/-! ## The log of a file -/

theorem InferArgs.Written.of_subset {log log' : List Answer} (h : args.Written sha1 log)
    (hsub : ∀ a ∈ log', a ∈ log) : args.Written sha1 log' where
  items a ha := h.items a (hsub a ha)
  unique a ha b hb := h.unique a (hsub a ha) b (hsub b hb)

theorem InferArgs.Written.holds {log : List Answer} (h : args.Written sha1 log) :
    args.Holds sha1 (utf8 (args.text sha1 log)) log [] :=
  ⟨by rw [List.append_nil], h, .inl rfl⟩

theorem InferArgs.utf8_text_cons (a : Answer) (log : List Answer) :
    utf8 (args.text sha1 (a :: log)) =
      (utf8 (args.line sha1 a) ++ [10]) ++ utf8 (args.text sha1 log) := by
  rw [← List.singleton_append, text_append, text_singleton, utf8_append, utf8_append]
  rfl

/-- The start of a log's bytes is complete lines and a part of one. -/
theorem InferArgs.split_start (all : List Answer) {bytes : List UInt8}
    (h : bytes <+: utf8 (args.text sha1 all)) :
    ∃ log torn, bytes = utf8 (args.text sha1 log) ++ torn ∧
      (torn = [] ∧ log <+: all ∨ ∃ a, torn <+: utf8 (args.line sha1 a) ∧ log ++ [a] <+: all) := by
  induction all generalizing bytes with
  | nil =>
      refine ⟨[], [], ?_, .inl ⟨rfl, List.prefix_rfl⟩⟩
      exact List.prefix_nil.mp h
  | cons a all ih =>
      have hline : utf8 (args.text sha1 [a]) = utf8 (args.line sha1 a) ++ [10] := by
        rw [utf8_text_cons]
        exact List.append_nil _
      rw [utf8_text_cons] at h
      rcases List.prefix_or_prefix_of_prefix h (List.prefix_append _ _) with hshort | ⟨more, rfl⟩
      · rcases List.prefix_concat_iff.mp hshort with rfl | hpart
        · refine ⟨[a], [], by rw [hline, List.append_nil], .inl ⟨rfl, ?_⟩⟩
          exact ⟨all, rfl⟩
        · exact ⟨[], bytes, rfl, .inr ⟨a, hpart, ⟨all, rfl⟩⟩⟩
      · obtain ⟨log, torn, rfl, hlog⟩ := ih ((List.prefix_append_right_inj _).mp h)
        refine ⟨a :: log, torn, ?_, ?_⟩
        · rw [utf8_text_cons, List.append_assoc _ _ torn]
        · rcases hlog with ⟨htorn, hstart⟩ | ⟨b, htorn, hstart⟩
          · exact .inl ⟨htorn, (List.prefix_cons_inj a).mpr hstart⟩
          · exact .inr ⟨b, htorn, (List.prefix_cons_inj a).mpr hstart⟩

theorem InferArgs.Written.holds_start {all : List Answer} (h : args.Written sha1 all)
    {bytes : List UInt8} (hstart : bytes <+: utf8 (args.text sha1 all)) :
    ∃ log torn, args.Holds sha1 bytes log torn := by
  obtain ⟨log, torn, heq, hlog⟩ := split_start all hstart
  rcases hlog with ⟨htorn, hlog⟩ | ⟨a, htorn, hlog⟩
  · exact ⟨log, torn, heq, h.of_subset fun b hb => hlog.subset hb, .inl htorn⟩
  · have hwritten := h.of_subset fun b hb => hlog.subset hb
    refine ⟨log, torn, heq, hwritten.of_subset ?_, .inr ⟨a, htorn, hwritten⟩⟩
    intro b hb
    exact List.mem_append_left _ hb

/-! ## Compacting -/

/-- A file that can be read ends in a part of a line. -/
theorem InferArgs.Holds.text {bytes : List UInt8} {log : List Answer} {torn : List UInt8}
    (h : args.Holds sha1 bytes log torn) {text : List Char} (htext : decodeUtf8 bytes = some text) :
    ∃ p, bytes = utf8 (args.text sha1 log ++ p) ∧
      (p = [] ∨ ∃ a, p <+: args.line sha1 a ∧ args.Written sha1 (log ++ [a])) := by
  have hbytes := decodeUtf8_eq_some.mp htext
  have hstart : utf8 (args.text sha1 log) <+: utf8 text := by
    rw [hbytes, h.eq]
    exact List.prefix_append _ _
  obtain ⟨p, rfl⟩ := prefix_of_utf8 hstart
  refine ⟨p, hbytes.symm, ?_⟩
  have hp : utf8 p = torn := by
    rw [h.eq, utf8_append] at hbytes
    exact List.append_cancel_left hbytes
  rcases h.torn with htorn | ⟨a, htorn, hwritten⟩
  · left
    rw [htorn] at hp
    have hnil : utf8 p <+: utf8 [] := hp ▸ List.prefix_rfl
    exact List.prefix_nil.mp (prefix_of_utf8 hnil)
  · right
    rw [← hp] at htorn
    exact ⟨a, prefix_of_utf8 htorn, hwritten⟩

theorem compacted_eq {benchmark : String} {bytes : List UInt8} {kept : Kept String Fields}
    (h : compactExistingOutput sha1 benchmark bytes = .ok kept) :
    compacted sha1 benchmark bytes =
      .ok (if kept.changed then rewriteOutput kept.entries else bytes, kept.entries) := by
  unfold compacted
  rw [h]
  rfl

theorem decodeUtf8_of_compacted {benchmark : String} {bytes : List UInt8}
    {c : List UInt8 × List (String × Fields)} (h : compacted sha1 benchmark bytes = .ok c) :
    ∃ text, decodeUtf8 bytes = some text := by
  cases htext : decodeUtf8 bytes with
  | some text => exact ⟨text, rfl⟩
  | none =>
      unfold compacted compactExistingOutput fileLines at h
      rw [htext] at h
      cases h

variable (sha1 args) in
/-- What the compaction of a file with this log does: `full` also has the record without a line
    end, if there is one. -/
structure InferArgs.Compaction (bytes : List UInt8) (log : List Answer)
    (c : List UInt8 × List (String × Fields)) (full kept : List Answer) : Prop where
  written : args.Written sha1 full
  log : ∀ a ∈ log, a ∈ full
  keeps : args.Keeps sha1 full kept
  entries : c.2 = kept.map (args.entry sha1)
  bytes : c.1 = utf8 (args.text sha1 kept) ∨
    c.1 = bytes ∧ bytes ++ [10] = utf8 (args.text sha1 kept) ∧ Unended bytes ∧
      ∃ k, compactExistingOutput sha1 args.benchmark bytes = .ok k ∧ k.changed = false ∧
        k.entries = c.2

/-- Nothing to change means that each record of the log is kept. -/
theorem InferArgs.text_kept {log kept : List Answer}
    (hentries : (args.kept sha1 log).entries = kept.map (args.entry sha1))
    (hchanged : (args.kept sha1 log).changed = false) :
    args.text sha1 kept = args.text sha1 log := by
  rw [text_eq, text_eq, ← hentries, (args.compacts sha1 log).unchanged hchanged]

theorem InferArgs.Holds.compaction {bytes : List UInt8} {log : List Answer} {torn : List UInt8}
    (h : args.Holds sha1 bytes log torn) {c : List UInt8 × List (String × Fields)}
    (hc : compacted sha1 args.benchmark bytes = .ok c) :
    ∃ full kept, args.Compaction sha1 bytes log c full kept := by
  obtain ⟨text, htext⟩ := decodeUtf8_of_compacted hc
  obtain ⟨p, hp, hline⟩ := h.text htext
  by_cases hnil : p = []
  · -- all lines are complete
    obtain ⟨kept, hentries, hkeeps⟩ := args.exists_keeps sha1 log
    rw [hnil, List.append_nil] at hp
    have hcompact := compacted_eq (args.compact_log sha1 log)
    rw [← hp, hc] at hcompact
    cases hcompact
    refine ⟨log, kept, h.written, fun _ ha => ha, hkeeps, hentries, .inl ?_⟩
    by_cases hchanged : (args.kept sha1 log).changed = true
    · simp only [if_pos hchanged, hentries, rewriteOutput_entries]
    · rw [Bool.not_eq_true] at hchanged
      simp only [hchanged, Bool.false_eq_true, if_false]
      rw [hp, text_kept hentries hchanged]
  · obtain ⟨a, ⟨q, hq⟩, hwritten⟩ := hline.resolve_left hnil
    by_cases hwhole : q = []
    · -- the last record is complete, without its line end
      rw [hwhole, List.append_nil] at hq
      rw [hq] at hp
      obtain ⟨kept, hentries, hkeeps⟩ := args.exists_keeps sha1 (log ++ [a])
      have hcompact := compacted_eq (args.compact_unended sha1 log a)
      rw [← hp, hc] at hcompact
      cases hcompact
      refine ⟨log ++ [a], kept, hwritten, fun _ ha => List.mem_append_left _ ha, hkeeps,
        hentries, ?_⟩
      by_cases hchanged : (args.kept sha1 (log ++ [a])).changed = true
      · left
        simp only [if_pos hchanged, hentries, rewriteOutput_entries]
      · right
        rw [Bool.not_eq_true] at hchanged
        refine ⟨by simp [hchanged], ?_, ?_, ?_⟩
        · rw [text_kept hentries hchanged, hp, text_append, text_singleton, utf8_append,
            utf8_append, utf8_append, List.append_assoc]
          rfl
        · rw [hp, utf8_append]
          exact unended_append_record _ _
        · exact ⟨_, hp ▸ args.compact_unended sha1 log a, hchanged, rfl⟩
    · -- the last record is cut
      obtain ⟨kept, hentries, hkeeps⟩ := args.exists_keeps sha1 log
      have hcompact := compacted_eq (compact_cut log hq hnil hwhole)
      rw [← hp, hc] at hcompact
      cases hcompact
      refine ⟨log, kept, h.written, fun _ ha => ha, hkeeps, hentries, .inl ?_⟩
      simp only [if_true, hentries, rewriteOutput_entries]

/-- No success is lost. -/
theorem InferArgs.Compaction.success {bytes : List UInt8} {log full kept : List Answer}
    {c : List UInt8 × List (String × Fields)}
    (h : args.Compaction sha1 bytes log c full kept) {a : Answer} (ha : a ∈ log)
    (hsuccess : shouldRetryExistingRecord (args.record sha1 a) = false) : a ∈ kept := by
  have hfull := h.log a ha
  obtain ⟨b, hb, huid⟩ := List.mem_map.mp (h.keeps.covers a hfull)
  have hb' := h.keeps.success a hfull hsuccess b hb huid.symm
  rw [h.written.unique a hfull b (h.keeps.mem b hb) huid.symm hsuccess hb']
  exact hb

section Distinct

variable (hdistinct : (args.totalData.map (args.uid sha1)).Nodup)

include hdistinct

theorem InferArgs.item_eq {a b : Dict} (ha : a ∈ args.totalData) (hb : b ∈ args.totalData)
    (huid : args.uid sha1 a = args.uid sha1 b) : a = b :=
  List.inj_on_of_nodup_map hdistinct ha hb huid

/-- The complete lines of a file are those of its log. -/
theorem InferArgs.Holds.wrote_iff {bytes : List UInt8} {log : List Answer} {torn : List UInt8}
    (h : args.Holds sha1 bytes log torn) {a : Answer} (ha : a.1 ∈ args.totalData) :
    Wrote (some bytes) (args.record sha1 a) ↔ a ∈ log := by
  have hnewline : ∀ line ∈ log.map (args.line sha1), '\n' ∉ line := fun line hline =>
    Printable.not_newline (args.printable_lines sha1 log line hline)
  constructor
  · rintro ⟨lines, hlines, hstart, hmem⟩
    rw [Option.getD_some] at hstart
    have hlog : lines <+: log.map (args.line sha1) := by
      rw [h.eq] at hstart
      rcases h.torn with htorn | ⟨b, htorn, -⟩
      · rw [htorn, List.append_nil] at hstart
        obtain ⟨rest, hrest⟩ := prefix_of_utf8 hstart
        have hsplit := splitLines_linesText hlines rest
        rw [hrest] at hsplit
        have hall := splitLines_linesText hnewline []
        rw [List.append_nil] at hall
        refine ⟨splitLines rest, hsplit.symm.trans ?_⟩
        exact hall.trans (List.append_nil _)
      · have hline : utf8 (linesText lines) <+: utf8 (args.text sha1 log ++ args.line sha1 b) := by
          rw [utf8_append]
          exact hstart.trans ((List.prefix_append_right_inj _).mpr htorn)
        obtain ⟨rest, hrest⟩ := prefix_of_utf8 hline
        have hsplit := splitLines_linesText hlines rest
        have hall := splitLines_linesText hnewline (args.line sha1 b)
        rw [hrest] at hsplit
        rw [splitLines_last (Printable.not_newline (args.printable_line sha1 b)),
          if_neg (line_ne_nil b)] at hall
        have hle : lines <+: log.map (args.line sha1) ++ [args.line sha1 b] :=
          ⟨splitLines rest, hsplit.symm.trans hall⟩
        rcases List.prefix_concat_iff.mp hle with heq | hle
        · -- the last line has no end
          have hlength := congrArg List.length hrest
          rw [heq, linesText_append, linesText_singleton] at hlength
          simp only [List.length_append, InferArgs.text, List.length_cons, List.length_nil]
            at hlength
          omega
        · exact hle
    obtain ⟨b, hb, hline⟩ := List.mem_map.mp (hlog.subset hmem)
    have hrecord := record_inj (line_inj hline)
    have hitem := item_eq hdistinct (h.written.items b hb) ha hrecord.1
    rw [← Prod.ext hitem hrecord.2]
    exact hb
  · intro hmem
    refine ⟨log.map (args.line sha1), hnewline, ?_, List.mem_map_of_mem hmem⟩
    rw [Option.getD_some, h.eq]
    exact List.prefix_append _ _

end Distinct

end Log

end LookAway.Eval
