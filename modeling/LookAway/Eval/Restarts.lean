/-
  infer.py, killed and started again over one answer file: `restarts_keep`. The invariant of the
  steps says which log the file holds; a run that would append to a line without an end is the one
  step that breaks it, and `glued_records_lost` is such a run.
-/
import LookAway.Base.Control
import LookAway.Eval.Judge
import LookAway.Eval.Resume
import Mathlib.Logic.Relation

namespace LookAway.Eval

open LookAway.Base LookAway.Base.Json LookAway.Data

section Restarts

variable {sha1 : List UInt8 → String} {args : InferArgs}

/-! ## Coverage -/

theorem InferArgs.mem_doneIds {kept : List Answer} {uid : String} :
    uid ∈ doneIds (kept.map (args.entry sha1)) ↔
      ∃ a ∈ kept, shouldRetryExistingRecord (args.record sha1 a) = false ∧
        args.uid sha1 a.1 = uid := by
  unfold doneIds
  simp [InferArgs.entry, and_assoc]

/-- The log has a record of each item. -/
def InferArgs.Covers (sha1 : List UInt8 → String) (args : InferArgs) (log : List Answer) : Prop :=
  ∀ item ∈ args.totalData, args.uid sha1 item ∈ log.map fun a => args.uid sha1 a.1

/-- A file with one record for each item. The last line may have no end. -/
def InferArgs.Complete (sha1 : List UInt8 → String) (args : InferArgs)
    (file : Option (List UInt8)) : Prop :=
  ∃ answers : List Answer, (answers.map (·.1)).Perm args.totalData ∧ args.Written sha1 answers ∧
    (file.getD [] = utf8 (args.text sha1 answers) ∨
      file.getD [] ++ [10] = utf8 (args.text sha1 answers))

/-- What the start of a run leaves: `kept` are the records of the file it goes on with. -/
structure InferArgs.Resumed (sha1 : List UInt8 → String) (args : InferArgs)
    (file file' : Option (List UInt8)) (todo : List Dict) (kept : List Answer) : Prop where
  written : args.Written sha1 kept
  nodup : (kept.map fun a => args.uid sha1 a.1).Nodup
  remaining : todo = args.todoData sha1 (doneIds (kept.map (args.entry sha1)))
  wrote : ∀ a : Answer, a.1 ∈ args.totalData →
    shouldRetryExistingRecord (args.record sha1 a) = false →
    Wrote file (args.record sha1 a) → Wrote file' (args.record sha1 a)
  bytes : file'.getD [] = utf8 (args.text sha1 kept) ∨
    file' = file ∧ file.getD [] ++ [10] = utf8 (args.text sha1 kept) ∧
      (todo ≠ [] → ∃ bytes, file = some bytes ∧ args.Glues sha1 bytes)

theorem InferArgs.Resumed.holds {file file' : Option (List UInt8)} {todo : List Dict}
    {kept log : List Answer} {torn : List UInt8} (h : args.Resumed sha1 file file' todo kept)
    (hfile : args.Holds sha1 (file.getD []) log torn) :
    ∃ log torn, args.Holds sha1 (file'.getD []) log torn := by
  rcases h.bytes with hbytes | ⟨rfl, -, -⟩
  · exact ⟨kept, [], hbytes ▸ h.written.holds⟩
  · exact ⟨log, torn, hfile⟩

/-- The answers of a run. -/
def InferArgs.answersOf (args : InferArgs) (completed : List (Dict × Inference)) : List Answer :=
  completed.map fun c => (c.1, modelAnswer args.maxRetries c.2)

theorem InferArgs.appended_eq (completed : List (Dict × Inference)) :
    args.appended sha1 completed = args.text sha1 (args.answersOf completed) := by
  unfold InferArgs.appended InferArgs.text InferArgs.answersOf linesText
  rw [List.map_map, List.flatMap_map]
  rfl

theorem InferArgs.mem_todoData {done : List String} {item : Dict} :
    item ∈ args.todoData sha1 done ↔ item ∈ args.totalData ∧ args.uid sha1 item ∉ done := by
  unfold InferArgs.todoData
  simp

/-- Each item has a success in the file, or is answered. -/
theorem InferArgs.Resumed.covers_append {file file' : Option (List UInt8)} {todo : List Dict}
    {kept : List Answer} (h : args.Resumed sha1 file file' todo kept)
    {completed : List (Dict × Inference)} (hperm : (completed.map (·.1)).Perm todo) :
    args.Covers sha1 (kept ++ args.answersOf completed) := by
  intro item hitem
  rw [List.map_append, List.mem_append]
  by_cases hdone : args.uid sha1 item ∈ doneIds (kept.map (args.entry sha1))
  · obtain ⟨a, ha, -, huid⟩ := mem_doneIds.mp hdone
    exact .inl (List.mem_map.mpr ⟨a, ha, huid⟩)
  · have htodo : item ∈ completed.map (·.1) := by
      rw [hperm.mem_iff, h.remaining]
      exact mem_todoData.mpr ⟨hitem, hdone⟩
    obtain ⟨c, hc, rfl⟩ := List.mem_map.mp htodo
    exact .inr (List.mem_map.mpr ⟨_, List.mem_map_of_mem hc, rfl⟩)

section Distinct

variable (hdistinct : (args.totalData.map (args.uid sha1)).Nodup)

include hdistinct

/-- One record for each item. -/
theorem InferArgs.Covers.perm {kept : List Answer} (h : args.Covers sha1 kept)
    (hwritten : args.Written sha1 kept) (hnodup : (kept.map fun a => args.uid sha1 a.1).Nodup) :
    (kept.map (·.1)).Perm args.totalData := by
  have hkept : (kept.map (·.1)).Nodup := by
    apply List.Nodup.of_map (args.uid sha1)
    rw [List.map_map]
    exact hnodup
  rw [List.perm_ext_iff_of_nodup hkept (List.Nodup.of_map _ hdistinct)]
  intro item
  constructor
  · intro hitem
    obtain ⟨a, ha, rfl⟩ := List.mem_map.mp hitem
    exact hwritten.items a ha
  · intro hitem
    obtain ⟨a, ha, huid⟩ := List.mem_map.mp (h item hitem)
    rw [← item_eq hdistinct (hwritten.items a ha) hitem huid]
    exact List.mem_map_of_mem ha

theorem InferArgs.Compaction.wrote {bytes : List UInt8} {log full kept : List Answer}
    {torn : List UInt8} (hfile : args.Holds sha1 bytes log torn)
    {c : List UInt8 × List (String × Fields)}
    (h : args.Compaction sha1 bytes log c full kept) {a : Answer}
    (ha : a.1 ∈ args.totalData) (hsuccess : shouldRetryExistingRecord (args.record sha1 a) = false)
    (hwrote : Wrote (some bytes) (args.record sha1 a)) : Wrote (some c.1) (args.record sha1 a) := by
  rcases h.bytes with hbytes | ⟨hbytes, -, -, -⟩
  · have hlog := (hfile.wrote_iff hdistinct ha).mp hwrote
    have hkept := (h.written.of_subset h.keeps.mem).holds
    rw [hbytes]
    exact (hkept.wrote_iff hdistinct ha).mpr (h.success hlog hsuccess)
  · rw [hbytes]
    exact hwrote

theorem InferArgs.resume_spec {file file' : Option (List UInt8)} {todo : List Dict}
    {log : List Answer} {torn : List UInt8} (hfile : args.Holds sha1 (file.getD []) log torn)
    (h : args.resume sha1 file = .ok (file', todo)) :
    ∃ kept, args.Resumed sha1 file file' todo kept := by
  cases file with
  | none =>
      cases h
      refine ⟨[], ⟨by simp, by simp⟩, by simp, rfl, fun _ _ _ hwrote => hwrote, .inl rfl⟩
  | some bytes =>
      obtain ⟨c, hc, hok⟩ := except_bind_ok.mp h
      cases hok
      obtain ⟨full, kept, hcompaction⟩ := hfile.compaction hc
      refine ⟨kept, hcompaction.written.of_subset hcompaction.keeps.mem, hcompaction.keeps.nodup,
        by rw [hcompaction.entries], fun a ha hsuccess hwrote => ?_, ?_⟩
      · exact hcompaction.wrote hdistinct hfile ha hsuccess hwrote
      · rcases hcompaction.bytes with hbytes | ⟨hbytes, hend, hunended, k, hk, hchanged, hentries⟩
        · exact .inl hbytes
        · refine .inr ⟨congrArg some hbytes, hend,
            fun htodo => ⟨bytes, rfl, hunended, k, hk, hchanged, ?_⟩⟩
          rw [hentries]
          exact htodo

/-- The items left have no success in the file, so the log stays one of the benchmark. -/
theorem InferArgs.Resumed.written_append {file file' : Option (List UInt8)} {todo : List Dict}
    {kept : List Answer} (h : args.Resumed sha1 file file' todo kept)
    {completed : List (Dict × Inference)} (hperm : (completed.map (·.1)).Perm todo) :
    args.Written sha1 (kept ++ args.answersOf completed) := by
  have hfst : (args.answersOf completed).map (·.1) = completed.map (·.1) := by
    unfold InferArgs.answersOf
    rw [List.map_map]
    rfl
  have hnew : ∀ a ∈ args.answersOf completed, a.1 ∈ todo := by
    intro a ha
    apply hperm.subset
    rw [← hfst]
    exact List.mem_map_of_mem ha
  have hitems : ∀ a ∈ args.answersOf completed, a.1 ∈ args.totalData := by
    intro a ha
    have htodo := hnew a ha
    rw [h.remaining] at htodo
    exact (mem_todoData.mp htodo).1
  have hfresh : ∀ a ∈ args.answersOf completed, ∀ b ∈ kept,
      shouldRetryExistingRecord (args.record sha1 b) = false →
      args.uid sha1 b.1 ≠ args.uid sha1 a.1 := by
    intro a ha b hb hsuccess huid
    have htodo := hnew a ha
    rw [h.remaining] at htodo
    exact (mem_todoData.mp htodo).2 (mem_doneIds.mpr ⟨b, hb, hsuccess, huid⟩)
  have hnodup : ((args.answersOf completed).map (·.1)).Nodup := by
    rw [hfst, hperm.nodup_iff, h.remaining]
    exact (List.Nodup.of_map _ hdistinct).filter _
  constructor
  · intro a ha
    rcases List.mem_append.mp ha with ha | ha
    · exact h.written.items a ha
    · exact hitems a ha
  · intro a ha b hb huid hsa hsb
    rcases List.mem_append.mp ha with ha | ha
    · rcases List.mem_append.mp hb with hb | hb
      · exact h.written.unique a ha b hb huid hsa hsb
      · exact absurd huid (hfresh b hb a ha hsa)
    · rcases List.mem_append.mp hb with hb | hb
      · exact absurd huid.symm (hfresh a ha b hb hsb)
      · have hitem := item_eq hdistinct (hitems a ha) (hitems b hb) huid
        exact List.inj_on_of_nodup_map hnodup ha hb hitem

end Distinct

/-! ## The invariant -/

/-- A step that does not start to append to a line without an end. -/
def InferArgs.SafeStep (sha1 : List UInt8 → String) (args : InferArgs) (s t : RunState) : Prop :=
  args.Step sha1 s t ∧
    ∀ bytes, s = .stopped (some bytes) → args.Glues sha1 bytes → ∃ file, t = .stopped file

/-- What each state knows of the answer file. -/
def InferArgs.Inv (sha1 : List UInt8 → String) (args : InferArgs) : RunState → Prop
  | .stopped file => ∃ log torn, args.Holds sha1 (file.getD []) log torn
  | .appending bytes left => ∃ log, bytes ++ left = utf8 (args.text sha1 log) ∧
      args.Written sha1 log ∧ args.Covers sha1 log
  | .done file => (∃ log torn, args.Holds sha1 (file.getD []) log torn) ∧ args.Complete sha1 file

theorem InferArgs.Inv.holds {s : RunState} (h : args.Inv sha1 s) :
    ∃ log torn, args.Holds sha1 (s.file.getD []) log torn := by
  cases s with
  | stopped file => exact h
  | appending bytes left =>
      obtain ⟨log, heq, hwritten, -⟩ := h
      exact hwritten.holds_start ⟨left, heq⟩
  | done file => exact h.1

theorem Wrote.mono {bytes more : List UInt8} {record : Fields} (h : Wrote (some bytes) record) :
    Wrote (some (bytes ++ more)) record := by
  obtain ⟨lines, hlines, hstart, hmem⟩ := h
  exact ⟨lines, hlines, hstart.trans (List.prefix_append bytes more), hmem⟩

theorem wrote_getD {file : Option (List UInt8)} {record : Fields} :
    Wrote (some (file.getD [])) record ↔ Wrote file record := by
  unfold Wrote
  rfl

section Distinct

variable (hdistinct : (args.totalData.map (args.uid sha1)).Nodup)

include hdistinct

/-- The end of a run compacts a log of all items. -/
theorem InferArgs.Compaction.complete {bytes : List UInt8} {log full kept : List Answer}
    {c : List UInt8 × List (String × Fields)}
    (h : args.Compaction sha1 bytes log c full kept) (hcovers : args.Covers sha1 log) :
    args.Complete sha1 (some c.1) := by
  have hwritten := h.written.of_subset h.keeps.mem
  refine ⟨kept, ?_, hwritten, ?_⟩
  · apply Covers.perm hdistinct _ hwritten h.keeps.nodup
    intro item hitem
    obtain ⟨a, ha, huid⟩ := List.mem_map.mp (hcovers item hitem)
    rw [← huid]
    exact h.keeps.covers a (h.log a ha)
  · rcases h.bytes with hbytes | ⟨hbytes, hend, -, -⟩
    · exact .inl hbytes
    · right
      rw [hbytes]
      exact hend

theorem InferArgs.inv_step {s t : RunState} (hs : args.Inv sha1 s)
    (h : args.SafeStep sha1 s t) : args.Inv sha1 t := by
  obtain ⟨hstep, hsafe⟩ := h
  cases hstep with
  | allProcessed hresume =>
      obtain ⟨log, torn, hfile⟩ := hs
      obtain ⟨kept, h⟩ := resume_spec hdistinct hfile hresume
      refine ⟨h.holds hfile, kept, ?_, h.written, ?_⟩
      · have hcovers : args.Covers sha1 (kept ++ args.answersOf []) :=
          h.covers_append (List.Perm.refl _)
        rw [show args.answersOf [] = [] from rfl, List.append_nil] at hcovers
        exact hcovers.perm hdistinct h.written h.nodup
      · rcases h.bytes with hbytes | ⟨rfl, hend, -⟩
        · exact .inl hbytes
        · exact .inr hend
  | submit hresume hne completed hperm =>
      obtain ⟨log, torn, hfile⟩ := hs
      obtain ⟨kept, h⟩ := resume_spec hdistinct hfile hresume
      refine ⟨kept ++ args.answersOf completed, ?_, h.written_append hdistinct hperm,
        h.covers_append hperm⟩
      rcases h.bytes with hbytes | ⟨-, -, hglues⟩
      · rw [hbytes, appended_eq, text_append, utf8_append]
      · obtain ⟨bytes, rfl, hbad⟩ := hglues hne
        obtain ⟨file, hfile⟩ := hsafe bytes rfl hbad
        cases hfile
  | write bytes b left =>
      obtain ⟨log, heq, hlog⟩ := hs
      exact ⟨log, by simpa using heq, hlog⟩
  | finish hfinish =>
      obtain ⟨log, heq, hwritten, hcovers⟩ := hs
      obtain ⟨c, hc, hok⟩ := except_bind_ok.mp hfinish
      cases hok
      rw [List.append_nil] at heq
      have hholds := heq ▸ hwritten.holds
      obtain ⟨full, kept, h⟩ := hholds.compaction hc
      refine ⟨?_, h.complete hdistinct hcovers⟩
      rcases h.bytes with hbytes | ⟨hbytes, -, -, -⟩
      · exact ⟨kept, [], hbytes ▸ (h.written.of_subset h.keeps.mem).holds⟩
      · exact ⟨log, [], hbytes ▸ hholds⟩
  | kill s => exact hs.holds
  | killResumed hresume =>
      obtain ⟨log, torn, hfile⟩ := hs
      obtain ⟨kept, h⟩ := resume_spec hdistinct hfile hresume
      exact h.holds hfile

/-- A success that is completely in the file stays there. -/
theorem InferArgs.wrote_step {s t : RunState} (hs : args.Inv sha1 s) (h : args.Step sha1 s t)
    {a : Answer} (ha : a.1 ∈ args.totalData)
    (hsuccess : shouldRetryExistingRecord (args.record sha1 a) = false)
    (hwrote : Wrote s.file (args.record sha1 a)) : Wrote t.file (args.record sha1 a) := by
  obtain ⟨log, torn, hfile⟩ := hs.holds
  cases h with
  | allProcessed hresume =>
      obtain ⟨kept, h⟩ := resume_spec hdistinct hfile hresume
      exact h.wrote a ha hsuccess hwrote
  | submit hresume hne completed hperm =>
      obtain ⟨kept, h⟩ := resume_spec hdistinct hfile hresume
      exact wrote_getD.mpr (h.wrote a ha hsuccess hwrote)
  | write bytes b left => exact hwrote.mono
  | finish hfinish =>
      obtain ⟨c, hc, hok⟩ := except_bind_ok.mp hfinish
      cases hok
      obtain ⟨full, kept, h⟩ := hfile.compaction hc
      exact h.wrote hdistinct hfile ha hsuccess hwrote
  | kill s => exact hwrote
  | killResumed hresume =>
      obtain ⟨kept, h⟩ := resume_spec hdistinct hfile hresume
      exact h.wrote a ha hsuccess hwrote

theorem InferArgs.inv_run {s t : RunState} (hs : args.Inv sha1 s)
    (h : Relation.ReflTransGen (args.SafeStep sha1) s t) : args.Inv sha1 t := by
  induction h with
  | refl => exact hs
  | tail _ hstep ih => exact inv_step hdistinct ih hstep

theorem InferArgs.wrote_run {s t : RunState} (hs : args.Inv sha1 s)
    (h : Relation.ReflTransGen (args.SafeStep sha1) s t) {a : Answer} (ha : a.1 ∈ args.totalData)
    (hsuccess : shouldRetryExistingRecord (args.record sha1 a) = false)
    (hwrote : Wrote s.file (args.record sha1 a)) : Wrote t.file (args.record sha1 a) := by
  induction h with
  | refl => exact hwrote
  | tail hrun hstep ih =>
      exact wrote_step hdistinct (inv_run hdistinct hs hrun) hstep.1 ha hsuccess ih

end Distinct

/-! ## The final file -/

theorem InferArgs.mapM_loadLine (log : List Answer) :
    (log.map (args.line sha1)).mapM loadLine =
      .ok (log.map fun a => .obj (args.record sha1 a)) := by
  induction log with
  | nil => rfl
  | cons a log ih =>
      have hline : loadLine (args.line sha1 a) = .ok (.obj (args.record sha1 a)) := by
        unfold loadLine InferArgs.line
        rw [loads_dumps (args.wellFormed_record sha1 a)]
      rw [List.map_cons, List.mapM_cons, hline, ih]
      rfl

variable (sha1 args) in
theorem InferArgs.readAnswers_text (log : List Answer) :
    readAnswers (utf8 (args.text sha1 log)) =
      .ok (log.map fun a => .obj (args.record sha1 a)) := by
  have hlines := fileLines_utf8 (args.printable_lines sha1 log) Printable.nil
  rw [List.append_nil, if_pos rfl, List.append_nil] at hlines
  unfold readAnswers InferArgs.text
  rw [hlines]
  exact mapM_loadLine log

theorem InferArgs.readAnswers_unended (log : List Answer) (a : Answer) :
    readAnswers (utf8 (args.text sha1 log ++ args.line sha1 a)) =
      .ok ((log ++ [a]).map fun a => .obj (args.record sha1 a)) := by
  have hlines := fileLines_utf8 (args.printable_lines sha1 log) (args.printable_line sha1 a)
  rw [if_neg (line_ne_nil a), ← List.map_singleton, ← List.map_append] at hlines
  unfold readAnswers InferArgs.text
  rw [hlines]
  exact mapM_loadLine (log ++ [a])

theorem InferArgs.exists_unended {bytes : List UInt8} {answers : List Answer}
    (h : bytes ++ [10] = utf8 (args.text sha1 answers)) :
    ∃ log a, answers = log ++ [a] ∧
      bytes = utf8 (args.text sha1 log ++ args.line sha1 a) := by
  rcases List.eq_nil_or_concat answers with rfl | ⟨log, a, rfl⟩
  · exact absurd h (by simp [InferArgs.text, linesText, utf8])
  · refine ⟨log, a, List.concat_eq_append, ?_⟩
    rw [List.concat_eq_append, text_append, text_singleton, ← List.append_assoc, utf8_append] at h
    exact (List.append_inj' h rfl).1

/-- `answers` are the records that the judge reads from the final file: one for each item, and no
    other; with each success that was completely in the file `moment`. -/
structure InferArgs.Survives (sha1 : List UInt8 → String) (args : InferArgs)
    (moment final : Option (List UInt8)) (answers : List Answer) : Prop where
  records : readAnswers (final.getD []) =
    .ok (answers.map fun a => .obj (args.answered sha1 a.1 a.2))
  items : (answers.map (·.1)).Perm args.totalData
  kept : ∀ item ∈ args.totalData, ∀ answer,
    shouldRetryExistingRecord (args.answered sha1 item answer) = false →
    Wrote moment (args.answered sha1 item answer) → (item, answer) ∈ answers

section Distinct

variable (hdistinct : (args.totalData.map (args.uid sha1)).Nodup)

include hdistinct

theorem InferArgs.Complete.survives {file : Option (List UInt8)} (h : args.Complete sha1 file) :
    ∃ answers, args.Survives sha1 file file answers := by
  obtain ⟨answers, hitems, hwritten, hbytes⟩ := h
  have hholds : ∃ log torn, args.Holds sha1 (file.getD []) log torn ∧ (∀ a ∈ log, a ∈ answers) ∧
      readAnswers (file.getD []) = .ok (answers.map fun a => .obj (args.record sha1 a)) := by
    rcases hbytes with hbytes | hend
    · refine ⟨answers, [], hbytes ▸ hwritten.holds, fun a ha => ha, ?_⟩
      rw [hbytes]
      exact args.readAnswers_text sha1 answers
    · obtain ⟨log, a, rfl, hbytes⟩ := exists_unended hend
      refine ⟨log, utf8 (args.line sha1 a), ⟨?_, ?_, ?_⟩, fun b hb => ?_, ?_⟩
      · rw [hbytes, utf8_append]
      · exact hwritten.of_subset fun b hb => List.mem_append_left _ hb
      · exact .inr ⟨a, List.prefix_rfl, hwritten⟩
      · exact List.mem_append_left _ hb
      · rw [hbytes]
        exact readAnswers_unended log a
  obtain ⟨log, torn, hfile, hsub, hrecords⟩ := hholds
  refine ⟨answers, hrecords, hitems, fun item hitem answer _ hwrote => ?_⟩
  apply hsub
  have hitem' : (item, answer).1 ∈ args.totalData := hitem
  exact (hfile.wrote_iff hdistinct hitem').mp (wrote_getD.mpr hwrote)

/-- Whatever the kills, the final file has one record for each item, and each success that was
    completely written, if no run starts to append to a line without an end. -/
theorem InferArgs.restarts_keep {m : RunState} {file : Option (List UInt8)}
    (hbefore : Relation.ReflTransGen (args.SafeStep sha1) (.stopped none) m)
    (hafter : Relation.ReflTransGen (args.SafeStep sha1) m (.done file)) :
    ∃ answers, args.Survives sha1 m.file file answers := by
  have hstart : args.Inv sha1 (.stopped none) :=
    ⟨[], [], rfl, ⟨by simp, by simp⟩, .inl rfl⟩
  have hm := inv_run hdistinct hstart hbefore
  obtain ⟨answers, h⟩ := Complete.survives hdistinct (inv_run hdistinct hm hafter).2
  refine ⟨answers, h.records, h.items, fun item hitem answer hsuccess hwrote => ?_⟩
  apply h.kept item hitem answer hsuccess
  exact wrote_run hdistinct hm hafter (a := (item, answer)) hitem hsuccess hwrote

end Distinct

/-! ## Two runs over two items -/

variable (sha1 args) in
theorem InferArgs.safe_writes (bytes x y : List UInt8) :
    Relation.ReflTransGen (args.SafeStep sha1) (.appending bytes (x ++ y))
      (.appending (bytes ++ x) y) := by
  induction x generalizing bytes with
  | nil =>
      rw [List.append_nil]
      exact .refl
  | cons b x ih =>
      have hrest := ih (bytes ++ [b])
      rw [List.append_assoc, List.singleton_append] at hrest
      refine .head ⟨.write bytes b (x ++ y), ?_⟩ hrest
      intro file hfile
      cases hfile

/-- A record appended to a line without an end. -/
theorem InferArgs.compact_glued (a b : Answer) :
    compactExistingOutput sha1 args.benchmark
      (utf8 (args.line sha1 a) ++ utf8 (args.text sha1 [b])) = .ok ⟨[], true⟩ := by
  have hbytes : utf8 (args.line sha1 a) ++ utf8 (args.text sha1 [b]) =
      utf8 (linesText [args.line sha1 a ++ args.line sha1 b] ++ []) := by
    rw [text_singleton, ← utf8_append, linesText_singleton, List.append_nil, List.append_assoc]
  have hprintable : ∀ line ∈ [args.line sha1 a ++ args.line sha1 b], Printable line := by
    intro line hline
    rw [List.mem_singleton.mp hline]
    exact (args.printable_line sha1 a).append (args.printable_line sha1 b)
  rw [hbytes, compactExistingOutput_utf8 sha1 args.benchmark hprintable Printable.nil, if_pos rfl,
    List.append_nil, List.foldlM_cons]
  unfold InferArgs.line
  rw [compactLine_glued sha1 args.benchmark _ (args.wellFormed_record sha1 a)]
  rfl

/-- The start of a run on a file that the compaction reads. -/
theorem InferArgs.resume_eq {bytes : List UInt8} {kept : Kept String Fields}
    (h : compactExistingOutput sha1 args.benchmark bytes = .ok kept) :
    args.resume sha1 (some bytes) =
      .ok (some (if kept.changed then rewriteOutput kept.entries else bytes),
        args.todoData sha1 (doneIds kept.entries)) := by
  unfold InferArgs.resume
  dsimp only
  rw [compacted_eq h]
  rfl

theorem InferArgs.finish_eq {bytes : List UInt8} {kept : Kept String Fields}
    (h : compactExistingOutput sha1 args.benchmark bytes = .ok kept) :
    args.finish sha1 bytes =
      .ok (if kept.changed then rewriteOutput kept.entries else bytes) := by
  unfold InferArgs.finish
  rw [compacted_eq h]
  rfl

end Restarts

def sampleItem (n : Fin 2) : Dict :=
  ⟨[("index", .int n), ("images", .arr [.str "a.png"]), ("query", .str "How many dogs?")],
    by simp, (by decide : ∀ n : Fin 2, Short n) n, ⟨trivial, trivial⟩, trivial, trivial⟩

def sampleArgs : InferArgs := ⟨"mmvp", [sampleItem 0, sampleItem 1], 3⟩

/-- The API answers `A`. -/
def sampleInference : Inference := ⟨.ok (), fun _ => .ok (some "A")⟩

def noSha1 : List UInt8 → String := fun _ => ""

def sampleAnswer (n : Fin 2) : Answer := (sampleItem n, "A")

/-- The bytes of both records. -/
def sampleText : List Char := sampleArgs.text noSha1 [sampleAnswer 0, sampleAnswer 1]

theorem sample_appended (n : Fin 2) :
    sampleArgs.appended noSha1 [(sampleItem n, sampleInference)] =
      sampleArgs.text noSha1 [sampleAnswer n] := by
  have hanswer : modelAnswer sampleArgs.maxRetries sampleInference = "A" := by decide
  rw [InferArgs.appended_eq]
  unfold InferArgs.answersOf
  rw [List.map_singleton, hanswer]
  rfl

theorem sample_submit :
    sampleArgs.SafeStep noSha1 (.stopped none) (.appending [] (utf8 sampleText)) := by
  have hanswer : modelAnswer sampleArgs.maxRetries sampleInference = "A" := by decide
  have happended : sampleArgs.appended noSha1
      [(sampleItem 0, sampleInference), (sampleItem 1, sampleInference)] = sampleText := by
    rw [InferArgs.appended_eq]
    unfold InferArgs.answersOf
    rw [List.map_cons, List.map_singleton, hanswer]
    rfl
  refine ⟨?_, fun bytes hfile => by cases hfile⟩
  rw [← happended]
  have hresume : sampleArgs.resume noSha1 none = .ok (none, [sampleItem 0, sampleItem 1]) := rfl
  exact .submit hresume (by simp) _ (List.Perm.refl _)

theorem sampleText_eq : sampleText =
    sampleArgs.text noSha1 [sampleAnswer 0] ++ sampleArgs.text noSha1 [sampleAnswer 1] :=
  InferArgs.text_append [sampleAnswer 0] [sampleAnswer 1]

/-- The first run is killed inside the second record; the second run completes. -/
theorem restarts_keep_sample :
    ∃ answers, sampleArgs.Survives noSha1
      (some (utf8 (sampleArgs.text noSha1 [sampleAnswer 0] ++ ['\x7b'])))
      (some (utf8 sampleText)) answers := by
  obtain ⟨cs, hcs⟩ := dumps_obj_starts (sampleArgs.record noSha1 (sampleAnswer 1))
  have hne : cs ≠ [] := by
    intro hnil
    obtain ⟨ds, hds⟩ := dumps_obj_ends (sampleArgs.record noSha1 (sampleAnswer 1))
    have hlast := congrArg List.getLast? (hds.symm.trans hcs)
    rw [hnil, List.getLast?_concat] at hlast
    exact absurd hlast (by decide)
  have hcut : sampleText =
      (sampleArgs.text noSha1 [sampleAnswer 0] ++ ['\x7b']) ++ (cs ++ ['\n']) := by
    rw [sampleText_eq, InferArgs.text_singleton (sampleAnswer 1)]
    unfold InferArgs.line
    rw [hcs]
    simp
  have hcompact : compactExistingOutput noSha1 sampleArgs.benchmark
      (utf8 (sampleArgs.text noSha1 [sampleAnswer 0] ++ ['\x7b'])) =
      .ok { sampleArgs.kept noSha1 [sampleAnswer 0] with changed := true } :=
    InferArgs.compact_cut [sampleAnswer 0] hcs.symm (by simp) hne
  have hkill : Relation.ReflTransGen (sampleArgs.SafeStep noSha1) (.stopped none)
      (.stopped (some (utf8 (sampleArgs.text noSha1 [sampleAnswer 0] ++ ['\x7b'])))) := by
    refine .head sample_submit ?_
    rw [hcut, utf8_append]
    exact .tail (sampleArgs.safe_writes noSha1 [] _ _) ⟨.kill _, fun bytes h => by cases h⟩
  have hsubmit : sampleArgs.SafeStep noSha1
      (.stopped (some (utf8 (sampleArgs.text noSha1 [sampleAnswer 0] ++ ['\x7b']))))
      (.appending (utf8 (sampleArgs.text noSha1 [sampleAnswer 0]))
        (utf8 (sampleArgs.text noSha1 [sampleAnswer 1]))) := by
    constructor
    · have hresume : sampleArgs.resume noSha1
          (some (utf8 (sampleArgs.text noSha1 [sampleAnswer 0] ++ ['\x7b']))) =
          .ok (some (utf8 (sampleArgs.text noSha1 [sampleAnswer 0])), [sampleItem 1]) :=
        InferArgs.resume_eq hcompact
      rw [← sample_appended 1]
      exact .submit hresume (by simp) [(sampleItem 1, sampleInference)] (List.Perm.refl _)
    · intro bytes hbytes hglues
      obtain ⟨-, kept, hkept, hchanged, -⟩ := hglues
      cases hbytes
      rw [hcompact] at hkept
      cases hkept
      cases hchanged
  have hfinish : sampleArgs.finish noSha1 (utf8 sampleText) = .ok (utf8 sampleText) :=
    InferArgs.finish_eq (sampleArgs.compact_log noSha1 [sampleAnswer 0, sampleAnswer 1])
  have hafter : Relation.ReflTransGen (sampleArgs.SafeStep noSha1)
      (.appending (utf8 (sampleArgs.text noSha1 [sampleAnswer 0]))
        (utf8 (sampleArgs.text noSha1 [sampleAnswer 1]))) (.done (some (utf8 sampleText))) := by
    have hwrites := sampleArgs.safe_writes noSha1
      (utf8 (sampleArgs.text noSha1 [sampleAnswer 0]))
      (utf8 (sampleArgs.text noSha1 [sampleAnswer 1])) []
    rw [← utf8_append, ← sampleText_eq, List.append_nil] at hwrites
    exact .tail hwrites ⟨.finish hfinish, fun bytes h => by cases h⟩
  exact InferArgs.restarts_keep (by decide) hkill (.head hsubmit hafter)

/-- The first run is killed between the first record and its line end. The second run appends to
    that line, and compacts both records away. -/
theorem glued_records_lost :
    (sampleArgs.totalData.map (sampleArgs.uid noSha1)).Nodup ∧ ∃ m,
      Relation.ReflTransGen (sampleArgs.Step noSha1) (.stopped none) m ∧
      Relation.ReflTransGen (sampleArgs.Step noSha1) m (.done (some [])) ∧
      ¬ ∃ answers, sampleArgs.Survives noSha1 m.file (some []) answers := by
  have hcompact := sampleArgs.compact_unended noSha1 [] (sampleAnswer 0)
  have hcut : sampleText = sampleArgs.line noSha1 (sampleAnswer 0) ++
      ('\n' :: sampleArgs.text noSha1 [sampleAnswer 1]) := by
    rw [sampleText_eq, InferArgs.text_singleton (sampleAnswer 0)]
    simp
  have hkill : Relation.ReflTransGen (sampleArgs.SafeStep noSha1) (.stopped none)
      (.stopped (some (utf8 (sampleArgs.line noSha1 (sampleAnswer 0))))) := by
    refine .head sample_submit ?_
    rw [hcut, utf8_append]
    exact .tail (sampleArgs.safe_writes noSha1 [] _ _) ⟨.kill _, fun bytes h => by cases h⟩
  have hsubmit : sampleArgs.Step noSha1
      (.stopped (some (utf8 (sampleArgs.line noSha1 (sampleAnswer 0)))))
      (.appending (utf8 (sampleArgs.line noSha1 (sampleAnswer 0)))
        (utf8 (sampleArgs.text noSha1 [sampleAnswer 1]))) := by
    have hresume : sampleArgs.resume noSha1
        (some (utf8 (sampleArgs.line noSha1 (sampleAnswer 0)))) =
        .ok (some (utf8 (sampleArgs.line noSha1 (sampleAnswer 0))), [sampleItem 1]) :=
      InferArgs.resume_eq hcompact
    rw [← sample_appended 1]
    exact .submit hresume (by simp) [(sampleItem 1, sampleInference)] (List.Perm.refl _)
  have hwrites := sampleArgs.safe_writes noSha1
    (utf8 (sampleArgs.line noSha1 (sampleAnswer 0)))
    (utf8 (sampleArgs.text noSha1 [sampleAnswer 1])) []
  have hfinish : sampleArgs.finish noSha1 (utf8 (sampleArgs.line noSha1 (sampleAnswer 0)) ++
      utf8 (sampleArgs.text noSha1 [sampleAnswer 1])) = .ok [] :=
    InferArgs.finish_eq (InferArgs.compact_glued (sampleAnswer 0) (sampleAnswer 1))
  rw [List.append_nil] at hwrites
  refine ⟨by decide, _, .mono (fun _ _ h => h.1) _ _ hkill,
    .head hsubmit (.tail (.mono (fun _ _ h => h.1) _ _ hwrites) (.finish hfinish)), ?_⟩
  rintro ⟨answers, hrecords, hitems, -⟩
  have hempty : readAnswers [] = .ok [] := sampleArgs.readAnswers_text noSha1 []
  have hnil : answers = [] := by
    rw [Option.getD_some, hempty] at hrecords
    simpa using hrecords.symm
  rw [hnil] at hitems
  exact absurd hitems.length_eq (by decide)

end LookAway.Eval
