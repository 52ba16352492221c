/-
  The frequency table that build_freq_table.py writes passes validate_freq, as long as the
  tokenizer's ids are below its length: `validateFreq_freqPayload`.
-/
import LookAway.Base.Dict
import LookAway.Data.Parquet
import LookAway.Priors.FreqTable

namespace LookAway.Priors

open LookAway.Base LookAway.Base.Script LookAway.Data

/-! ## The counts -/

/-- A table that counts ids of `ids`, each at least once. -/
def Counts (ids : List ℕ) (counts : List (ℕ × ℕ)) : Prop :=
  ∀ e ∈ counts, e.1 ∈ ids ∧ 0 < e.2

theorem setKey_eq {β : Type} (d : List (ℕ × β)) (key : ℕ) (value : β) :
    setKey d key value = insertEntry d key value := by
  unfold setKey insertEntry replaceEntry
  simp only [any_key]

theorem Counts.countToken {ids : List ℕ} {counts : List (ℕ × ℕ)} {id : ℕ} (h : Counts ids counts)
    (hid : id ∈ ids) : Counts ids (countToken counts id) := by
  intro e he
  unfold LookAway.Priors.countToken at he
  rw [setKey_eq] at he
  rcases mem_insertEntry he with rfl | he
  · exact ⟨hid, Nat.succ_pos _⟩
  · exact h e he

theorem counts_foldl {ids all : List ℕ} (hsub : ∀ id ∈ ids, id ∈ all) {counts : List (ℕ × ℕ)}
    (h : Counts all counts) : Counts all (ids.foldl countToken counts) := by
  induction ids generalizing counts with
  | nil => exact h
  | cons id ids ih =>
      exact ih (fun x hx => hsub x (by simp [hx])) (h.countToken (hsub id (by simp)))

theorem counts_all (ids : List ℕ) : Counts ids (ids.foldl countToken []) :=
  counts_foldl (fun _ h => h) fun _ he => nomatch he

theorem foldl_countToken_ne_nil {ids : List ℕ} (h : ids ≠ []) : ids.foldl countToken [] ≠ [] := by
  induction ids using List.reverseRecOn with
  | nil => exact absurd rfl h
  | append_singleton ids id _ =>
      rw [List.foldl_append, List.foldl_cons, List.foldl_nil, countToken, setKey_eq]
      exact insertEntry_ne_nil _ _ _

/-! ## The checks -/

theorem outOfRange_eq_nil {n : ℕ} {counts : List (ℕ × ℕ)} (h : ∀ e ∈ counts, e.1 < n)
    (hids : ∀ e ∈ counts, e.1 < 2 ^ 32) :
    outOfRange (.int n) (counts.map fun c => intText c.1) = .ok [] := by
  induction counts with
  | nil => rfl
  | cons e counts ih =>
      have hlt : ((e.1 : ℤ) : ℚ) < ((n : ℤ) : ℚ) := by
        exact_mod_cast h e (by simp)
      rw [List.map_cons, outOfRange, looksInteger_intText, if_pos rfl,
        intOfText?_intText (length_toDigits_of_lt (hids e (by simp)))]
      dsimp only
      rw [if_pos (Int.natCast_nonneg _), ih (fun e' he' => h e' (by simp [he']))
        fun e' he' => hids e' (by simp [he'])]
      show (do
        let out ← (Except.ok !(decide (((e.1 : ℤ) : ℚ) < ((n : ℤ) : ℚ))) : Except PyError Bool)
        let rest ← Except.ok []
        return if out then _ :: rest else rest) = _
      rw [decide_eq_true hlt]
      rfl

theorem countProblems_eq_nil {n : ℕ} {counts : List (ℕ × ℕ)} (hne : counts ≠ [])
    (hlt : ∀ e ∈ counts, e.1 < n) (hids : ∀ e ∈ counts, e.1 < 2 ^ 32)
    (hpos : ∀ e ∈ counts, 0 < e.2) :
    countProblems (.int n) (.obj (counts.map fun c => (intText c.1, .int c.2))) = .ok [] := by
  have hkeys : (counts.map fun c => (intText c.1, Json.int c.2)).map (·.1) =
      counts.map fun c => intText c.1 := by
    rw [List.map_map]
    rfl
  have hbad : (counts.map fun c => intText c.1).filter (fun k => !looksInteger k) = [] := by
    rw [List.filter_eq_nil_iff]
    intro k hk
    obtain ⟨e, _, rfl⟩ := List.mem_map.mp hk
    rw [looksInteger_intText]
    decide
  have hnonpos : ((counts.map fun c => (intText c.1, Json.int c.2)).map (·.2)).filter
      notPositive = [] := by
    rw [List.filter_eq_nil_iff, List.map_map]
    intro v hv
    obtain ⟨e, he, rfl⟩ := List.mem_map.mp hv
    have := hpos e he
    show ¬decide ((e.2 : ℤ) ≤ 0) = true
    rw [decide_eq_true_eq]
    omega
  obtain ⟨e, rest, hcons⟩ := List.exists_cons_of_ne_nil hne
  unfold countProblems
  simp only [Json.fields?]
  split
  · rename_i heq
    cases heq
  · rename_i heq
    rw [hcons] at heq
    cases heq
  · rename_i fields _ heq
    cases heq
    rw [hkeys, hbad, hnonpos, outOfRange_eq_nil hlt hids]
    rfl

/-- The meta block of the table. -/
def freqMeta (sha256 : Digest) (path : String) (revision : Option String) (tok : Tokenizer)
    (dump : List Scored) (ids : List ℕ) : List (String × Json) :=
  [("schema_version", .int 1), ("model_path", .str path), ("model_revision", textOf revision),
    ("tokenizer_sha256", .str (tokenizerFingerprint sha256 tok)), ("vocab_size", .int tok.size),
    ("token_dump_sha256", .str (sha256 (.dump (dumpLines dump)))), ("n_samples", .int dump.length),
    ("n_token_instances", .int ids.length), ("kappa", .int 50)]

theorem freqProblems_eq_nil {sha256 : Digest} {path : String} {revision : Option String}
    {tok : Tokenizer} {dump : List Scored} {ids : List ℕ} {fields : List (String × Json)}
    (hvocab : Json.get fields "vocab_size" = .int tok.size) (hsize : 0 < tok.size) :
    freqProblems fields (freqMeta sha256 path revision tok dump ids) path revision
      (tokenizerFingerprint sha256 tok) (sha256 (.dump (dumpLines dump))) 50 = [] := by
  have hrevision : differsFrom (textOf revision) revision = false := by
    cases revision with
    | none => rfl
    | some r => exact bne_self_eq_false r
  have htext : ∀ s : String, differsFrom (.str s) (some s) = false := fun s => bne_self_eq_false s
  have hnumber : ∀ n : ℤ, decide ((Json.int n).number? ≠ some (n : ℚ)) = false :=
    fun n => decide_eq_false (not_not.mpr rfl)
  have hpos : decide ((tok.size : ℤ) ≤ 0) = false := decide_eq_false (by omega)
  unfold freqProblems
  rw [hvocab]
  dsimp only [Json.int?]
  rw [show Json.get (freqMeta sha256 path revision tok dump ids) "schema_version" = .int 1 from rfl,
    show Json.get (freqMeta sha256 path revision tok dump ids) "model_path" = .str path from rfl,
    show Json.get (freqMeta sha256 path revision tok dump ids) "model_revision" =
      textOf revision from rfl,
    show Json.get (freqMeta sha256 path revision tok dump ids) "tokenizer_sha256" =
      .str (tokenizerFingerprint sha256 tok) from rfl,
    show Json.get (freqMeta sha256 path revision tok dump ids) "vocab_size" =
      .int tok.size from rfl,
    show Json.get (freqMeta sha256 path revision tok dump ids) "token_dump_sha256" =
      .str (sha256 (.dump (dumpLines dump))) from rfl,
    show Json.get (freqMeta sha256 path revision tok dump ids) "kappa" = .int 50 from rfl,
    hrevision, htext, htext, htext, hnumber tok.size, hpos]
  rfl

/-- **The frequency table of a dump is valid for its model, tokenizer and dump.** -/
theorem validateFreq_freqPayload {sha256 : Digest} {path : String} {revision : Option String}
    {tok : Tokenizer} {dump : List Scored} {ids : List ℕ} (hne : ids ≠ [])
    (hids : ∀ id ∈ ids, id < tok.size) (hshort : ∀ id ∈ ids, id < 2 ^ 32) :
    validateFreq sha256 (.complete (freqPayload sha256 path revision tok dump ids)) path revision
      (tokenizerFingerprint sha256 tok) (some dump) 50 = .ok () := by
  have hcounts := counts_all ids
  have hlt : ∀ e ∈ ids.foldl countToken [], e.1 < tok.size := fun e he => hids _ (hcounts e he).1
  have hcountProblems := countProblems_eq_nil (foldl_countToken_ne_nil hne) hlt
    (fun e he => hshort _ (hcounts e he).1) fun e he => (hcounts e he).2
  have hsize : 0 < tok.size := by
    obtain ⟨id, rest, rfl⟩ := List.exists_cons_of_ne_nil hne
    have := hids id (by simp)
    omega
  unfold validateFreq
  refine except_bind_ok.mpr ⟨_, rfl, except_bind_ok.mpr ⟨_, rfl, ?_⟩⟩
  refine except_bind_ok.mpr ⟨freqMeta sha256 path revision tok dump ids, rfl, ?_⟩
  refine except_bind_ok.mpr ⟨dump, rfl, except_bind_ok.mpr ⟨[], hcountProblems, ?_⟩⟩
  dsimp only
  rw [List.append_nil, freqProblems_eq_nil rfl hsize]
  rfl

/-! ## main -/

/-- The counted ids come from the vocabulary. -/
theorem dumpIds_mem {tok : Tokenizer} {dump : List Scored} {ids : List ℕ}
    (h : dumpIds tok dump = .ok ids) : ∀ id ∈ ids, ∃ w, (w, id) ∈ tok.vocab := by
  induction dump generalizing ids with
  | nil =>
      cases h
      exact fun id hid => nomatch hid
  | cons x dump ih =>
      obtain ⟨record, _, h⟩ := except_bind_ok.mp h
      obtain ⟨here, hhere, h⟩ := except_bind_ok.mp h
      obtain ⟨rest, hrest, h⟩ := except_bind_ok.mp h
      cases h
      intro id hid
      rcases List.mem_append.mp hid with hid | hid
      · obtain ⟨token, _, htoken⟩ := exists_of_mem_mapM hhere id hid
        cases hlookup : tok.vocab.lookup token.tok with
        | none =>
            rw [hlookup] at htoken
            cases htoken
        | some j =>
            rw [hlookup] at htoken
            cases htoken
            exact ⟨token.tok, lookup_mem hlookup⟩
      · exact ih hrest id hid

theorem dumpIds_lt {tok : Tokenizer} {dump : List Scored} {ids : List ℕ}
    (h : dumpIds tok dump = .ok ids) : ∀ id ∈ ids, id < 2 ^ 32 := by
  intro id hid
  obtain ⟨w, hw⟩ := dumpIds_mem h id hid
  exact tok.id_lt _ hw

/-- The table build_freq_table.py publishes. -/
def Tabled (sha256 : Digest) (world : World) (args : FreqArgs) (s t : DataDir) : Prop :=
  ∃ payload, freqTable sha256 world args s = .ok payload ∧
    Tempered { s with freqCounts := some (.complete payload) } t

theorem wp_freqMain (sha256 : Digest) (world : World) (args : FreqArgs) (s : DataDir) :
    wp (freqMain sha256 world args) (fun _ => Tabled sha256 world args s)
      (fun _ => Tempered s) (Tempered s) s := by
  have h0 := Tempered.refl s
  have htemp : Tempered s { s with temp := true } := ⟨true, rfl⟩
  refine wp_bind (wp_read (fun _ => h0) h0 fun payload hpayload => ?_)
  refine wp_bind (wp_atomic (fun _ => h0) h0 (wp_tryExcept ?_))
  have hhandler : ∀ e : PyError, wp ((do
      removeTemp
      raise e : Py Unit)) (fun _ => Tabled sha256 world args s) (fun _ => Tempered s) (Tempered s)
        { s with temp := true } :=
    fun e => wp_bind (wp_atomic (fun _ => htemp) htemp (wp_raise ⟨false, rfl⟩))
  refine wp_bind (wp_atomic (fun e => ⟨fun _ => hhandler e, fun h => nomatch h⟩) htemp ?_)
  exact wp_atomic (fun e => ⟨fun _ => hhandler e, fun h => nomatch h⟩) htemp
    ⟨payload, hpayload, false, rfl⟩

theorem freqTable_eq_ok {sha256 : Digest} {world : World} {args : FreqArgs} {s : DataDir}
    {payload : Json} (h : freqTable sha256 world args s = .ok payload) :
    ∃ parsed tok dump ids, parsedRevision world args = .ok parsed ∧
      world.fromPretrained args.modelPath
        (if world.pathExists args.modelPath then none else parsed) = .ok tok ∧
      s.dump = some dump ∧ dumpIds tok dump = .ok ids ∧ ids ≠ [] ∧
      payload = freqPayload sha256 args.modelPath
        (if world.pathExists args.modelPath then none else parsed) tok dump ids := by
  obtain ⟨parsed, hparsed, h⟩ := except_bind_ok.mp h
  cases hdump : s.dump with
  | none =>
      rw [hdump] at h
      cases h
  | some dump =>
      rw [hdump] at h
      obtain ⟨tok, htok, h⟩ := except_bind_ok.mp h
      obtain ⟨ids, hids, h⟩ := except_bind_ok.mp h
      split at h
      · cases h
      · rename_i hne
        exact ⟨parsed, tok, dump, ids, hparsed, htok, rfl, hids, hne, (Except.ok.inj h).symm⟩

theorem finishes_freqMain {sha256 : Digest} {world : World} {args : FreqArgs} {s : DataDir}
    {payload : Json} (h : freqTable sha256 world args s = .ok payload) :
    Finishes (freqMain sha256 world args) s ()
      { s with temp := false, freqCounts := some (.complete payload) } :=
  (finishes_read h).bind ((finishes_atomic _ s).bind
    ((finishes_atomic id _).bind (finishes_atomic _ _)).tryExcept)

end LookAway.Priors
