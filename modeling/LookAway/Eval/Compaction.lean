/-
  compact_existing_output over any file of JSON lines.

  A uid is a dict key: texts are compared as texts and numbers by value, so that `1`, `1.0` and
  `true` are one uid; a list or a dict that is not empty cannot be a key. `compactLine` and
  `compactExistingOutput` are those of Infer for such uids, and agree with them where every uid is
  a text (`compactExistingOutput_text`). A line is `Keyed` if it has no record, or an object with
  such a uid whose texts can be encoded. What is kept of keyed lines is the `Bests` of the records
  read (`bests_lines`); each record kept has its uid (`Settled`), so that the file written from
  them is read back as it is (`compact_rewriteOutput`).
-/
import LookAway.Base.JsonWellFormed
import LookAway.Eval.Checkpoint

namespace LookAway.Eval

open LookAway.Base LookAway.Base.Json LookAway.Data

/-! ## Uids as keys -/

/-- A key of a dict, up to `==`. -/
inductive UidKey where
  | text (s : String)
  | number (q : ℚ)
  | special (name : String)
  deriving DecidableEq

/-- The key of a uid; `none` is the TypeError of a value without a hash. JSON reads `NaN` as one
    object, so it is one key. -/
def uidKey : Json → Option UidKey
  | .str s => some (.text s)
  | .bool b => some (.number (if b then 1 else 0))
  | .int n => some (.number n)
  | .float _ (some q) => some (.number q)
  | .float text none => some (.special text)
  | .null | .arr _ | .obj _ => none

namespace AnyUid

section Checkpoint

variable (sha1 : List UInt8 → String) (benchmark : String)

/-- `record.get("sample_uid") or make_sample_uid(record, benchmark)`. -/
def sampleUid (record : Fields) : Json :=
  let uid := get record "sample_uid"
  if truthy uid then uid else .str (makeSampleUid sha1 record benchmark)

/-- What a line that can be parsed does; only an object has `get`. -/
def compactRecord (kept : Kept UidKey Fields) : Json → Except EvalError (Kept UidKey Fields)
  | .obj record =>
      let uid := sampleUid sha1 benchmark record
      match uidKey uid with
      | some key => .ok (keep shouldRetryExistingRecord kept key (setField record "sample_uid" uid))
      | none => .error .typeError
  | _ => .error (.attributeError "get")

/-- One line of the checkpoint, without lone surrogates as in Infer. -/
def compactLine (kept : Kept UidKey Fields) (line : List Char) :
    Except EvalError (Kept UidKey Fields) :=
  let line := (strip (String.ofList line)).toList
  if line = [] then .ok { kept with changed := true }
  else
    match loads line with
    | none =>
        if hasLoneSurrogate line then .error .unicodeEncodeError
        else .ok { kept with changed := true }
    | some record => compactRecord sha1 benchmark kept record

/-- `compact_existing_output`. -/
def compactExistingOutput (bytes : List UInt8) : Except EvalError (Kept UidKey Fields) := do
  let lines ← fileLines bytes
  lines.foldlM (compactLine sha1 benchmark) ⟨[], false⟩

/-- `rewrite_output`, which replaces the file. -/
def rewriteOutput (entries : List (UidKey × Fields)) : List UInt8 :=
  utf8 (entries.flatMap fun e => recordLine e.2)

/-! ## What is read -/

/-- The text of a line. -/
def lineText (line : List Char) : List Char := (strip (String.ofList line)).toList

/-- The record of a line, if it can be parsed. -/
def lineValue (line : List Char) : Option Json := loads (lineText line)

/-- The line has no record, or an object that UTF-8 can encode and whose uid can be a key. -/
structure Keyed (line : List Char) : Prop where
  encodable : hasLoneSurrogate (lineText line) = false
  key : ∀ v, lineValue line = some v →
    ∃ record, v = .obj record ∧ (uidKey (sampleUid sha1 benchmark record)).isSome

/-- The record of a line under its uid. -/
def lineEntry (line : List Char) : Option (UidKey × Fields) :=
  match lineValue line with
  | some (.obj record) =>
      (uidKey (sampleUid sha1 benchmark record)).map fun key =>
        (key, setField record "sample_uid" (sampleUid sha1 benchmark record))
  | _ => none

def entriesRead (lines : List (List Char)) : List (UidKey × Fields) :=
  lines.filterMap (lineEntry sha1 benchmark)

/-- What a keyed line does to the records kept. -/
def keepLine (kept : Kept UidKey Fields) (line : List Char) : Kept UidKey Fields :=
  match lineEntry sha1 benchmark line with
  | some e => keep shouldRetryExistingRecord kept e.1 e.2
  | none => { kept with changed := true }

variable {sha1 benchmark}

theorem keepLine_some {line : List Char} {e : UidKey × Fields}
    (h : lineEntry sha1 benchmark line = some e) (kept : Kept UidKey Fields) :
    keepLine sha1 benchmark kept line = keep shouldRetryExistingRecord kept e.1 e.2 := by
  unfold keepLine
  rw [h]

theorem keepLine_none {line : List Char} (h : lineEntry sha1 benchmark line = none)
    (kept : Kept UidKey Fields) :
    keepLine sha1 benchmark kept line = { kept with changed := true } := by
  unfold keepLine
  rw [h]

theorem lineEntry_obj {line : List Char} {record : Fields} {key : UidKey}
    (h : lineValue line = some (.obj record))
    (hkey : uidKey (sampleUid sha1 benchmark record) = some key) :
    lineEntry sha1 benchmark line =
      some (key, setField record "sample_uid" (sampleUid sha1 benchmark record)) := by
  unfold lineEntry
  rw [h]
  dsimp only
  rw [hkey]
  rfl

theorem compactLine_none {kept : Kept UidKey Fields} {line : List Char}
    (h : lineValue line = none) : compactLine sha1 benchmark kept line =
      if hasLoneSurrogate (lineText line) then .error .unicodeEncodeError
      else .ok { kept with changed := true } := by
  unfold lineValue lineText at h
  unfold compactLine lineText
  dsimp only
  split
  · rename_i hempty
    rw [hempty]
    rfl
  · rw [h]

theorem compactLine_some {kept : Kept UidKey Fields} {line : List Char} {v : Json}
    (h : lineValue line = some v) :
    compactLine sha1 benchmark kept line = compactRecord sha1 benchmark kept v := by
  unfold lineValue lineText at h
  have hblank : (strip (String.ofList line)).toList ≠ [] := by
    intro hblank
    rw [hblank] at h
    cases h
  unfold compactLine
  dsimp only
  rw [if_neg hblank, h]

theorem compactRecord_eq_ok {kept kept' : Kept UidKey Fields} {v : Json} :
    compactRecord sha1 benchmark kept v = .ok kept' ↔
      ∃ record key, v = .obj record ∧ uidKey (sampleUid sha1 benchmark record) = some key ∧
        keep shouldRetryExistingRecord kept key
          (setField record "sample_uid" (sampleUid sha1 benchmark record)) = kept' := by
  constructor
  · intro h
    cases v with
    | obj record =>
        unfold compactRecord at h
        dsimp only at h
        cases hkey : uidKey (sampleUid sha1 benchmark record) with
        | some key =>
            rw [hkey] at h
            exact ⟨record, key, rfl, hkey, Except.ok.inj h⟩
        | none =>
            rw [hkey] at h
            cases h
    | _ => cases h
  · rintro ⟨record, key, rfl, hkey, rfl⟩
    unfold compactRecord
    dsimp only
    rw [hkey]

theorem compactLine_eq_ok {kept kept' : Kept UidKey Fields} {line : List Char} :
    compactLine sha1 benchmark kept line = .ok kept' ↔
      Keyed sha1 benchmark line ∧ keepLine sha1 benchmark kept line = kept' := by
  cases hvalue : lineValue line with
  | none =>
      have hentry : lineEntry sha1 benchmark line = none := by
        unfold lineEntry
        rw [hvalue]
      rw [compactLine_none hvalue, keepLine_none hentry]
      constructor
      · intro h
        split at h
        · cases h
        · rename_i hlone
          refine ⟨⟨by simpa using hlone, fun v hv => ?_⟩, Except.ok.inj h⟩
          rw [hvalue] at hv
          cases hv
      · rintro ⟨hkeyed, rfl⟩
        rw [hkeyed.encodable]
        rfl
  | some v =>
      rw [compactLine_some hvalue, compactRecord_eq_ok]
      constructor
      · rintro ⟨record, key, rfl, hkey, rfl⟩
        constructor
        · refine ⟨hasLoneSurrogate_of_loads hvalue, fun v hv => ?_⟩
          rw [hvalue] at hv
          cases hv
          exact ⟨record, rfl, by rw [hkey]; rfl⟩
        · rw [keepLine_some (lineEntry_obj hvalue hkey)]
      · rintro ⟨hkeyed, rfl⟩
        obtain ⟨record, rfl, hsome⟩ := hkeyed.key v hvalue
        obtain ⟨key, hkey⟩ := Option.isSome_iff_exists.mp hsome
        exact ⟨record, key, rfl, hkey, (keepLine_some (lineEntry_obj hvalue hkey) kept).symm⟩

/-- A file is compacted exactly if every line is blank, unparsable or keyed. -/
theorem foldlM_compactLine {kept kept' : Kept UidKey Fields} {lines : List (List Char)} :
    lines.foldlM (compactLine sha1 benchmark) kept = .ok kept' ↔
      (∀ line ∈ lines, Keyed sha1 benchmark line) ∧
        lines.foldl (keepLine sha1 benchmark) kept = kept' := by
  induction lines generalizing kept with
  | nil => simp [pure, Except.pure]
  | cons line lines ih =>
      rw [List.foldlM_cons, except_bind_ok, List.forall_mem_cons, List.foldl_cons]
      constructor
      · rintro ⟨next, hnext, hrest⟩
        obtain ⟨hline, rfl⟩ := compactLine_eq_ok.mp hnext
        obtain ⟨hlines, hkept⟩ := ih.mp hrest
        exact ⟨⟨hline, hlines⟩, hkept⟩
      · rintro ⟨⟨hline, hlines⟩, hkept⟩
        exact ⟨_, compactLine_eq_ok.mpr ⟨hline, rfl⟩, ih.mpr ⟨hlines, hkept⟩⟩

/-! ## What is kept -/

variable (sha1 benchmark)

theorem bests_keepLine {log : List (UidKey × Fields)} {kept : Kept UidKey Fields}
    (h : Bests shouldRetryExistingRecord log kept) (line : List Char) :
    Bests shouldRetryExistingRecord (log ++ entriesRead sha1 benchmark [line])
      (keepLine sha1 benchmark kept line) := by
  unfold entriesRead
  cases hentry : lineEntry sha1 benchmark line with
  | none =>
      rw [List.filterMap_cons_none hentry, List.filterMap_nil, List.append_nil,
        keepLine_none hentry]
      exact ⟨h.keys, h.lookup⟩
  | some e =>
      rw [List.filterMap_cons_some hentry, List.filterMap_nil, keepLine_some hentry]
      exact h.keep e.1 e.2

theorem bests_lines {log : List (UidKey × Fields)} {kept : Kept UidKey Fields}
    (h : Bests shouldRetryExistingRecord log kept) (lines : List (List Char)) :
    Bests shouldRetryExistingRecord (log ++ entriesRead sha1 benchmark lines)
      (lines.foldl (keepLine sha1 benchmark) kept) := by
  induction lines generalizing log kept with
  | nil => simpa [entriesRead] using h
  | cons line lines ih =>
      have hsplit : entriesRead sha1 benchmark (line :: lines) =
          entriesRead sha1 benchmark [line] ++ entriesRead sha1 benchmark lines := by
        unfold entriesRead
        rw [← List.filterMap_append, List.singleton_append]
      rw [List.foldl_cons, hsplit, ← List.append_assoc]
      exact ih (bests_keepLine sha1 benchmark h line)

variable {sha1 benchmark}

/-- A success stays a success. -/
theorem success_lines {kept : Kept UidKey Fields} {key : UidKey} {record : Fields}
    (hkey : kept.entries.lookup key = some record)
    (hsuccess : shouldRetryExistingRecord record = false) (lines : List (List Char)) :
    ∃ record', (lines.foldl (keepLine sha1 benchmark) kept).entries.lookup key = some record' ∧
      shouldRetryExistingRecord record' = false := by
  induction lines generalizing kept record with
  | nil => exact ⟨record, hkey, hsuccess⟩
  | cons line lines ih =>
      rw [List.foldl_cons]
      cases hentry : lineEntry sha1 benchmark line with
      | some e =>
          rw [keepLine_some hentry]
          obtain ⟨next, hnext, hs⟩ := success_keep hkey hsuccess e.1 e.2
          exact ih hnext hs
      | none =>
          rw [keepLine_none hentry]
          exact ih hkey hsuccess

/-! ## Reading back what was written -/

/-- A record kept: it has its uid. -/
structure Settled (e : UidKey × Fields) : Prop where
  wellFormed : WellFormed (.obj e.2)
  truthy : truthy (get e.2 "sample_uid") = true
  key : uidKey (get e.2 "sample_uid") = some e.1

theorem truthy_sampleUid (record : Fields) :
    truthy (sampleUid sha1 benchmark record) = true := by
  unfold sampleUid
  dsimp only
  split
  · rename_i h
    exact h
  · simp [truthy, makeSampleUid_ne_empty]

theorem wellFormed_sampleUid {record : Fields} (h : WellFormed (.obj record)) :
    (sampleUid sha1 benchmark record).WellFormed := by
  unfold sampleUid
  dsimp only
  split
  · exact wellFormed_get h _
  · trivial

/-- What is read of a line is settled. -/
theorem settled_lineEntry {line : List Char} {e : UidKey × Fields}
    (h : lineEntry sha1 benchmark line = some e) : Settled e := by
  unfold lineEntry at h
  split at h
  · rename_i record hvalue
    obtain ⟨key, hkey, rfl⟩ := Option.map_eq_some_iff.mp h
    have hrecord := loads_wellFormed hvalue
    refine ⟨wellFormed_setField hrecord _ (wellFormed_sampleUid hrecord), ?_, ?_⟩
    · rw [get_setField_self]
      exact truthy_sampleUid record
    · rw [get_setField_self]
      exact hkey
  · cases h

theorem lineValue_dumps {record : Fields} (h : WellFormed (.obj record)) :
    lineValue (dumps (.obj record)) = some (.obj record) := by
  unfold lineValue lineText
  rw [strip_dumps, loads_dumps h]

variable (sha1 benchmark) in
/-- A settled record is read as it was written. -/
theorem Settled.lineEntry {e : UidKey × Fields} (h : Settled e) :
    lineEntry sha1 benchmark (dumps (.obj e.2)) = some e := by
  have huid : sampleUid sha1 benchmark e.2 = get e.2 "sample_uid" := if_pos h.truthy
  have hpresent : get e.2 "sample_uid" ≠ .null := by
    intro hnull
    have hkey := h.key
    rw [hnull] at hkey
    cases hkey
  have hkey : uidKey (sampleUid sha1 benchmark e.2) = some e.1 := by
    rw [huid]
    exact h.key
  rw [lineEntry_obj (lineValue_dumps h.wellFormed) hkey, huid,
    setField_self h.wellFormed.1 (get_mem hpresent)]

/-- The lines of settled records. -/
theorem foldl_dumps {entries : List (UidKey × Fields)} (h : ∀ e ∈ entries, Settled e)
    (kept : Kept UidKey Fields) :
    (entries.map fun e => dumps (.obj e.2)).foldl (keepLine sha1 benchmark) kept =
      entries.foldl (fun kept e => keep shouldRetryExistingRecord kept e.1 e.2) kept := by
  induction entries generalizing kept with
  | nil => rfl
  | cons e entries ih =>
      obtain ⟨he, hentries⟩ := List.forall_mem_cons.mp h
      rw [List.map_cons, List.foldl_cons, List.foldl_cons,
        keepLine_some (he.lineEntry sha1 benchmark), ih hentries]

theorem keyed_dumps {e : UidKey × Fields} (h : Settled e) :
    Keyed sha1 benchmark (dumps (.obj e.2)) := by
  refine ⟨hasLoneSurrogate_of_loads (lineValue_dumps h.wellFormed), fun v hv => ?_⟩
  rw [lineValue_dumps h.wellFormed] at hv
  cases hv
  refine ⟨e.2, rfl, ?_⟩
  have huid : sampleUid sha1 benchmark e.2 = get e.2 "sample_uid" := if_pos h.truthy
  rw [huid, h.key]
  rfl

theorem fileLines_rewriteOutput {entries : List (UidKey × Fields)} (h : ∀ e ∈ entries, Settled e) :
    fileLines (rewriteOutput entries) = .ok (entries.map fun e => dumps (.obj e.2)) := by
  have hprintable : ∀ line ∈ entries.map fun e => dumps (.obj e.2), Printable line := by
    intro line hline
    obtain ⟨e, he, rfl⟩ := List.mem_map.mp hline
    exact printable_dumps _ (h e he).wellFormed
  have htext : rewriteOutput entries =
      utf8 (linesText (entries.map fun e => dumps (.obj e.2)) ++ []) := by
    unfold rewriteOutput linesText recordLine
    rw [List.flatMap_map, List.append_nil]
  rw [htext, fileLines_utf8 hprintable Printable.nil, if_pos rfl, List.append_nil]

/-- Compacting what was written from settled records. -/
theorem compact_rewriteOutput {entries : List (UidKey × Fields)} (h : ∀ e ∈ entries, Settled e)
    (hnodup : (entries.map (·.1)).Nodup) :
    compactExistingOutput sha1 benchmark (rewriteOutput entries) = .ok ⟨entries, false⟩ := by
  have hfold : (entries.map fun e => dumps (.obj e.2)).foldl (keepLine sha1 benchmark)
      ⟨[], false⟩ = ⟨entries, false⟩ := by
    rw [foldl_dumps h, keepAll_nodup (by simpa using hnodup)]
    rfl
  unfold compactExistingOutput
  rw [fileLines_rewriteOutput h]
  refine foldlM_compactLine.mpr ⟨?_, hfold⟩
  intro line hline
  obtain ⟨e, he, rfl⟩ := List.mem_map.mp hline
  exact keyed_dumps (h e he)

/-! ## The result -/

/-- The first records of a file, compacted. -/
theorem compacted_start {lines : List (List Char)}
    (hkeyed : ∀ line ∈ lines, Keyed sha1 benchmark line) :
    lines.foldlM (compactLine sha1 benchmark) ⟨[], false⟩ =
      .ok (lines.foldl (keepLine sha1 benchmark) ⟨[], false⟩) :=
  foldlM_compactLine.mpr ⟨hkeyed, rfl⟩

/-- Every record under its uid is settled. -/
theorem settled_entriesRead {lines : List (List Char)} {e : UidKey × Fields}
    (h : e ∈ entriesRead sha1 benchmark lines) : Settled e := by
  obtain ⟨line, -, hentry⟩ := List.mem_filterMap.mp h
  exact settled_lineEntry hentry

/-- The uids in the order of their first records, each with its last success or else its last
    record; compacting what is written from them changes nothing; and what was a success after some
    of the lines is one after all of them. -/
theorem compaction_best_idempotent {bytes : List UInt8} {lines : List (List Char)}
    (hlines : fileLines bytes = .ok lines)
    (hkeyed : ∀ line ∈ lines, Keyed sha1 benchmark line) :
    ∃ kept, compactExistingOutput sha1 benchmark bytes = .ok kept ∧
      (kept.entries.map (·.1)).Nodup ∧
      kept.entries.map (·.1) = ((entriesRead sha1 benchmark lines).map (·.1)).eraseDups ∧
      (∀ key, kept.entries.lookup key =
        best shouldRetryExistingRecord (valuesOf key (entriesRead sha1 benchmark lines))) ∧
      compactExistingOutput sha1 benchmark (rewriteOutput kept.entries) =
        .ok ⟨kept.entries, false⟩ ∧
      ∀ before after, lines = before ++ after →
        ∃ early, before.foldlM (compactLine sha1 benchmark) ⟨[], false⟩ = .ok early ∧
          ∀ key record, early.entries.lookup key = some record →
            shouldRetryExistingRecord record = false →
            ∃ record', kept.entries.lookup key = some record' ∧
              shouldRetryExistingRecord record' = false := by
  have hbests := bests_lines sha1 benchmark (bests_nil shouldRetryExistingRecord) lines
  rw [List.nil_append] at hbests
  refine ⟨_, ?_, hbests.nodup, hbests.keys, hbests.lookup, ?_, ?_⟩
  · unfold compactExistingOutput
    rw [hlines]
    exact compacted_start hkeyed
  · exact compact_rewriteOutput (fun e he => settled_entriesRead (hbests.mem he)) hbests.nodup
  · rintro before after rfl
    refine ⟨_, compacted_start fun line hline => hkeyed line (List.mem_append_left _ hline), ?_⟩
    intro key record hkey hsuccess
    rw [List.foldl_append]
    exact success_lines hkey hsuccess after

def noSha1 : List UInt8 → String := fun _ => ""

/-- A failure, a blank line, a success of the same item and a record of another one. -/
def sampleLines : List (List Char) :=
  ["\x7b\"index\": 7, \"model_answer\": \"\"\x7d".toList, [],
    "\x7b\"index\": 7, \"model_answer\": \"A\"\x7d".toList, "\x7b\"sample_uid\": 1.0\x7d".toList]

theorem compaction_best_idempotent_sample :
    fileLines (utf8 (linesText sampleLines)) = .ok sampleLines ∧
      ∃ kept, compactExistingOutput noSha1 "mmvp" (utf8 (linesText sampleLines)) = .ok kept ∧
        kept.entries.map (·.1) = [.text "mmvp:index:7", .number 1] ∧
        compactExistingOutput noSha1 "mmvp" (rewriteOutput kept.entries) =
          .ok ⟨kept.entries, false⟩ := by
  have hlines : fileLines (utf8 (linesText sampleLines)) = .ok sampleLines := by
    unfold fileLines
    rw [decodeUtf8_utf8]
    rfl
  have hkeyed : ∀ line ∈ sampleLines, Keyed noSha1 "mmvp" line := by
    intro line hline
    refine ⟨(by decide +kernel : ∀ line ∈ sampleLines, hasLoneSurrogate (lineText line) = false)
      line hline, fun v hv => ?_⟩
    simp only [sampleLines, List.mem_cons, List.not_mem_nil, or_false] at hline
    rcases hline with rfl | rfl | rfl | rfl
    · cases hv
      exact ⟨_, rfl, by decide +kernel⟩
    · cases hv
    · cases hv
      exact ⟨_, rfl, by decide +kernel⟩
    · cases hv
      exact ⟨_, rfl, by decide +kernel⟩
  obtain ⟨kept, hkept, -, hkeys, -, hagain, -⟩ := compaction_best_idempotent hlines hkeyed
  refine ⟨hlines, kept, hkept, hkeys.trans ?_, hagain⟩
  decide +kernel

/-- A list as uid has no hash. -/
theorem list_uid_raises :
    ∃ lines, fileLines (utf8 "\x7b\"sample_uid\": [\"a\"]\x7d\n".toList) = .ok lines ∧
      (∀ line ∈ lines, ∃ record, lineValue line = some (.obj record)) ∧
      compactExistingOutput noSha1 "mmvp"
        (utf8 "\x7b\"sample_uid\": [\"a\"]\x7d\n".toList) = .error .typeError := by
  have hlines : fileLines (utf8 "\x7b\"sample_uid\": [\"a\"]\x7d\n".toList) =
      .ok ["\x7b\"sample_uid\": [\"a\"]\x7d".toList] := by
    unfold fileLines
    rw [decodeUtf8_utf8]
    rfl
  refine ⟨_, hlines, ?_, ?_⟩
  · intro line hline
    rw [List.mem_singleton.mp hline]
    exact ⟨[("sample_uid", .arr [.str "a"])], rfl⟩
  · unfold compactExistingOutput
    rw [hlines]
    rfl

/-! ## Uids that are texts -/

/-- infer.py writes a text as `sample_uid`. -/
def TextUid (record : Fields) : Prop :=
  get record "sample_uid" = .null ∨ ∃ uid, get record "sample_uid" = .str uid

theorem TextUid.sampleUid {record : Fields} (h : TextUid record) :
    sampleUid sha1 benchmark record = .str (recordUid sha1 record benchmark) := by
  unfold AnyUid.sampleUid recordUid
  dsimp only
  rcases h with hnull | ⟨uid, huid⟩
  · rw [hnull]
    rfl
  · rw [huid]
    by_cases hempty : uid = ""
    · simp [truthy, hempty]
    · simp [truthy, pyStr, hempty]

theorem compactLine_text {line : List Char}
    (h : ∀ record, lineValue line = some (.obj record) → TextUid record)
    (kept : Kept String Fields) :
    compactLine sha1 benchmark (kept.mapKeys .text) line =
      (Eval.compactLine sha1 benchmark kept line).map (Kept.mapKeys .text) := by
  unfold lineValue lineText at h
  unfold compactLine Eval.compactLine
  dsimp only
  split
  · rfl
  · cases hloads : loads (strip (String.ofList line)).toList with
    | none =>
        dsimp only
        split <;> rfl
    | some v =>
        cases v with
        | obj record =>
            have huid : AnyUid.sampleUid sha1 benchmark record =
                .str (recordUid sha1 record benchmark) := (h record hloads).sampleUid
            unfold compactRecord
            dsimp only
            rw [huid]
            dsimp only [uidKey]
            rw [keep_mapKeys fun s t hst => UidKey.text.inj hst]
            rfl
        | _ => rfl

/-- Where every uid is a text, the keys are the texts. -/
theorem compactExistingOutput_text {bytes : List UInt8} {lines : List (List Char)}
    (hlines : fileLines bytes = .ok lines)
    (h : ∀ line ∈ lines, ∀ record, lineValue line = some (.obj record) → TextUid record) :
    compactExistingOutput sha1 benchmark bytes =
      (Eval.compactExistingOutput sha1 benchmark bytes).map (Kept.mapKeys .text) := by
  have hfold : ∀ kept : Kept String Fields,
      lines.foldlM (compactLine sha1 benchmark) (kept.mapKeys .text) =
        (lines.foldlM (Eval.compactLine sha1 benchmark) kept).map (Kept.mapKeys .text) := by
    clear hlines
    induction lines with
    | nil =>
        intro kept
        rfl
    | cons line lines ih =>
        intro kept
        obtain ⟨hline, hrest⟩ := List.forall_mem_cons.mp h
        rw [List.foldlM_cons, List.foldlM_cons, compactLine_text hline]
        cases Eval.compactLine sha1 benchmark kept line with
        | error e => rfl
        | ok next => exact ih hrest next
  unfold compactExistingOutput Eval.compactExistingOutput
  rw [hlines]
  exact hfold ⟨[], false⟩

end Checkpoint

end AnyUid

end LookAway.Eval
