/-
  From a token dump to the frequency vector: build_freq_table.py counts, validate_priors.py
  accepts, `load_freq_table` reads back.

  `count_lookup` is the invariant of the counting loop. The keys survive their trip through text
  (`stored_counts`), so the vector has each number of occurrences as a float32: the number itself,
  as long as float32 has it (`float32Exact_of_le`). `freqTable_round_trip` is the result;
  `large_count_rounded` is the smallest dump whose count is lost.
-/
import LookAway.Priors.FreqLoader
import LookAway.Priors.Gates

namespace LookAway.Priors

open LookAway.Base LookAway.Base.Script LookAway.Base.Json LookAway.Data

/-! ## The counting loop -/

theorem lookup_countToken (counts : List (ℕ × ℕ)) (id k : ℕ) :
    (countToken counts id).lookup k =
      if k = id then some ((counts.lookup id).getD 0 + 1) else counts.lookup k := by
  unfold countToken
  rw [setKey_eq, lookup_insertEntry]

/-- The number of occurrences, in a dict that has counted some before. -/
theorem count_lookup (ids : List ℕ) (counts : List (ℕ × ℕ)) (k : ℕ) :
    ((ids.foldl countToken counts).lookup k).getD 0 =
      (counts.lookup k).getD 0 + ids.count k := by
  induction ids generalizing counts with
  | nil => simp
  | cons id ids ih =>
      rw [List.foldl_cons, ih, lookup_countToken]
      by_cases hk : k = id
      · subst hk
        rw [if_pos rfl, List.count_cons_self, Option.getD_some]
        omega
      · rw [if_neg hk, List.count_cons_of_ne (Ne.symm hk)]

theorem nodup_counts (ids : List ℕ) {counts : List (ℕ × ℕ)} (h : (counts.map (·.1)).Nodup) :
    ((ids.foldl countToken counts).map (·.1)).Nodup := by
  induction ids generalizing counts with
  | nil => exact h
  | cons id ids ih =>
      apply ih
      unfold countToken
      rw [setKey_eq]
      exact nodup_insertEntry h _ _

/-- An entry is the number of occurrences of its id. -/
theorem mem_counts {ids : List ℕ} {e : ℕ × ℕ} (h : e ∈ ids.foldl countToken []) :
    e.2 = ids.count e.1 := by
  have hlookup : (ids.foldl countToken []).lookup e.1 = some e.2 :=
    lookup_of_mem (nodup_counts ids List.nodup_nil) h
  have hcount := count_lookup ids [] e.1
  rw [hlookup, List.lookup_nil, Option.getD_some, Option.getD_none, Nat.zero_add] at hcount
  exact hcount

/-! ## Float32 -/

/-- A number that float32 has. -/
def Float32Exact (n : ℕ) : Prop := float32? n = some (n : ℚ)

instance : DecidablePred Float32Exact := fun n =>
  inferInstanceAs (Decidable (float32? n = some (n : ℚ)))

theorem float32Exact_of_le {n : ℕ} (h : n ≤ 2 ^ 24) : Float32Exact n := by
  have hcast : (n : ℚ) ≤ 2 ^ 24 := by exact_mod_cast h
  have habs : |(n : ℚ)| = n := abs_of_nonneg (Nat.cast_nonneg n)
  have h64 : binary64.round n = n :=
    FloatFormat.round_natCast (by decide) (by decide) (h.trans (by decide))
  have h32 : binary32.round n = n := FloatFormat.round_natCast (by decide) (by decide) h
  have hlargest64 : ¬ binary64.largest < |(n : ℚ)| := by
    rw [habs, not_lt]
    exact hcast.trans (by decide +kernel)
  have hlargest32 : ¬ binary32.largest < |(n : ℚ)| := by
    rw [habs, not_lt]
    exact hcast.trans (by decide +kernel)
  have hfinite : binary64.finite? ((n : ℤ) : ℚ) = some (n : ℚ) := by
    unfold FloatFormat.finite?
    rw [Int.cast_natCast, h64, if_neg hlargest64]
  unfold Float32Exact float32?
  rw [hfinite, Option.bind_some, if_neg hlargest32, h32]

/-! ## The vector -/

section Vector

variable {ids : List ℕ} {size : ℕ}

/-- What is stored for an entry of the counts. -/
def storedCount (e : ℕ × ℕ) : ℕ × ℚ := (e.1, (e.2 : ℚ))

theorem stored_counts (hids : ∀ id ∈ ids, id < size) (hshort : ∀ id ∈ ids, id < 2 ^ 32)
    (hexact : ∀ id ∈ ids, Float32Exact (ids.count id)) :
    List.Forall₂ (fun entry s => Stored size entry s.1 s.2)
      ((ids.foldl countToken []).map fun c => (intText c.1, Json.int c.2))
      ((ids.foldl countToken []).map storedCount) := by
  rw [List.forall₂_map_left_iff, List.forall₂_map_right_iff, List.forall₂_same]
  intro e he
  have hmem : e.1 ∈ ids := (counts_all ids e he).1
  refine ⟨looksInteger_intText _, intOfText?_intText (length_toDigits_of_lt (hshort _ hmem)),
    hids _ hmem, e.2, rfl, ?_⟩
  have hcount := hexact e.1 hmem
  rw [← mem_counts he] at hcount
  exact hcount

/-- The vector of the counts. -/
theorem fill_counts (ids : List ℕ) (size : ℕ) :
    fill (List.replicate size 0) ((ids.foldl countToken []).map storedCount) =
      (List.range size).map fun id => (ids.count id : ℚ) := by
  have hkeys : ((ids.foldl countToken []).map storedCount).map (·.1) =
      (ids.foldl countToken []).map (·.1) := by
    rw [List.map_map]
    rfl
  have hnodup : ((ids.foldl countToken []).map (·.1)).Nodup := nodup_counts ids List.nodup_nil
  apply List.ext_getElem?
  intro i
  rw [getElem?_fill (by rw [hkeys]; exact hnodup), List.getElem?_replicate, List.getElem?_map]
  by_cases hi : i < size
  · have hvalue : (((ids.foldl countToken []).map storedCount).lookup i).getD 0 =
        (ids.count i : ℚ) := by
      have hcount := count_lookup ids [] i
      rw [List.lookup_nil, Option.getD_none, Nat.zero_add] at hcount
      rw [← hcount]
      cases hlookup : (ids.foldl countToken []).lookup i with
      | none =>
          rw [lookup_eq_none.mpr (by rw [hkeys]; exact lookup_eq_none.mp hlookup)]
          simp
      | some n =>
          have hmem : (i, (n : ℚ)) ∈ (ids.foldl countToken []).map storedCount :=
            List.mem_map.mpr ⟨_, lookup_mem hlookup, rfl⟩
          rw [lookup_of_mem (by rw [hkeys]; exact hnodup) hmem]
          rfl
    rw [if_pos hi, List.getElem?_range hi, Option.map_some, Option.map_some, hvalue]
  · rw [if_neg hi, List.getElem?_eq_none (by simpa using hi)]
    rfl

/-- The numbers of occurrences of the ids below `size` add up to the number of ids. -/
theorem sum_counts (hids : ∀ id ∈ ids, id < size) :
    ((List.range size).map fun id => (ids.count id : ℚ)).sum = ids.length := by
  have hcard : ∑ id ∈ Finset.range size, (ids : Multiset ℕ).count id = ids.length :=
    Multiset.sum_count_eq_card fun id hid => Finset.mem_range.mpr (hids id hid)
  simp only [Multiset.coe_count] at hcard
  rw [← hcard, Nat.cast_sum, ← List.toFinset_range, List.sum_toFinset _ List.nodup_range]

end Vector

/-! ## The tokens of a dump -/

/-- The texts of the tokens, line by line. -/
def dumpTexts : List Scored → Except PyError (List String)
  | [] => .ok []
  | scored :: rest => do
      let record ← loadsDumpLine scored.line
      return record.tokens.map (·.tok) ++ (← dumpTexts rest)

/-- The id of a text of the vocabulary. -/
def vocabId (tok : Tokenizer) (w : String) : ℕ := (tok.vocab.lookup w).getD 0

section Tokens

variable {tok : Tokenizer} {texts : List String}

theorem vocabId_eq {w : String} {id : ℕ} (h : tok.vocab.lookup w = some id) :
    vocabId tok w = id := by
  unfold vocabId
  rw [h, Option.getD_some]

theorem lookup_vocabId {w : String} (h : (tok.vocab.lookup w).isSome = true) :
    tok.vocab.lookup w = some (vocabId tok w) := by
  obtain ⟨id, hid⟩ := Option.isSome_iff_exists.mp h
  rw [vocabId_eq hid, hid]

theorem dumpIds_eq {dump : List Scored} (htexts : dumpTexts dump = .ok texts)
    (hvocab : ∀ w ∈ texts, (tok.vocab.lookup w).isSome = true) :
    dumpIds tok dump = .ok (texts.map (vocabId tok)) := by
  induction dump generalizing texts with
  | nil =>
      cases htexts
      rfl
  | cons scored dump ih =>
      obtain ⟨record, hrecord, htexts⟩ := except_bind_ok.mp htexts
      obtain ⟨rest, hrest, htexts⟩ := except_bind_ok.mp htexts
      cases htexts
      have hids : recordIds tok record = .ok (record.tokens.map fun t => vocabId tok t.tok) := by
        apply mapM_eq_map
        intro t ht
        rw [lookup_vocabId (hvocab t.tok (List.mem_append_left _ (List.mem_map_of_mem ht)))]
        rfl
      have htail := ih hrest fun w hw => hvocab w (List.mem_append_right _ hw)
      refine except_bind_ok.mpr ⟨record, hrecord, except_bind_ok.mpr ⟨_, hids, ?_⟩⟩
      refine except_bind_ok.mpr ⟨_, htail, ?_⟩
      rw [List.map_append, List.map_map]
      rfl

/-- An injective vocabulary keeps the numbers of occurrences. -/
theorem count_vocabId (hinj : InjectiveVocab tok)
    (hvocab : ∀ w ∈ texts, (tok.vocab.lookup w).isSome = true) {w : String} {id : ℕ}
    (hid : tok.vocab.lookup w = some id) :
    (texts.map (vocabId tok)).count id = texts.count w := by
  rw [List.count, List.countP_map, List.count]
  apply List.countP_congr
  intro w' hw'
  rw [Function.comp_apply, beq_iff_eq, beq_iff_eq]
  constructor
  · intro heq
    have hid' := lookup_vocabId (hvocab w' hw')
    rw [heq] at hid'
    exact hinj w' w id hid' hid
  · rintro rfl
    exact vocabId_eq hid

theorem mem_vocabIds (hvocab : ∀ w ∈ texts, (tok.vocab.lookup w).isSome = true) {id : ℕ}
    (h : id ∈ texts.map (vocabId tok)) : ∃ w ∈ texts, tok.vocab.lookup w = some id := by
  obtain ⟨w, hw, rfl⟩ := List.mem_map.mp h
  exact ⟨w, hw, lookup_vocabId (hvocab w hw)⟩

end Tokens

/-! ## The round trip -/

/-- `v` counts the tokens `texts`, by id. -/
structure CountVector (tok : Tokenizer) (texts : List String) (v : List ℚ) : Prop where
  length_eq : v.length = tok.size
  count : ∀ w id, tok.vocab.lookup w = some id → v[id]? = some (texts.count w : ℚ)
  zero : ∀ id < tok.size, (∀ w, tok.vocab.lookup w ≠ some id) → v[id]? = some 0
  total : v.sum = texts.length

/-- `meta["n_token_instances"]` of a table. -/
def TokenInstances (payload : Json) (n : ℕ) : Prop :=
  ∃ fields info, payload = .obj fields ∧ Json.get fields "meta" = .obj info ∧
    Json.get info "n_token_instances" = .int n

/-- A dump whose tokens are all in the vocabulary, with ids below the tokenizer's length. -/
structure DumpTexts (tok : Tokenizer) (dump : List Scored) (texts : List String) : Prop where
  reads : dumpTexts dump = .ok texts
  nonempty : texts ≠ []
  known : ∀ w ∈ texts, (tok.vocab.lookup w).isSome = true
  injective : InjectiveVocab tok
  below : ∀ w id, tok.vocab.lookup w = some id → id < tok.size

section RoundTrip

variable {tok : Tokenizer} {dump : List Scored} {texts : List String}

theorem DumpTexts.ids_below (h : DumpTexts tok dump texts) :
    ∀ id ∈ texts.map (vocabId tok), id < tok.size := by
  intro id hid
  obtain ⟨w, -, hw⟩ := mem_vocabIds h.known hid
  exact h.below w id hw

theorem DumpTexts.ids_short (h : DumpTexts tok dump texts) :
    ∀ id ∈ texts.map (vocabId tok), id < 2 ^ 32 := by
  intro id hid
  obtain ⟨w, -, hw⟩ := mem_vocabIds h.known hid
  exact tok.id_lt _ (lookup_mem hw)

/-- The vector of the counts is a count of the tokens. -/
theorem DumpTexts.countVector (h : DumpTexts tok dump texts) :
    CountVector tok texts
      ((List.range tok.size).map fun id => ((texts.map (vocabId tok)).count id : ℚ)) where
  length_eq := by rw [List.length_map, List.length_range]
  count := by
    intro w id hid
    rw [List.getElem?_map, List.getElem?_range (h.below w id hid), Option.map_some,
      count_vocabId h.injective h.known hid]
  zero := by
    intro id hlt hnone
    have hfresh : id ∉ texts.map (vocabId tok) := by
      intro hid
      obtain ⟨w, -, hw⟩ := mem_vocabIds h.known hid
      exact hnone w hw
    rw [List.getElem?_map, List.getElem?_range hlt, Option.map_some,
      List.count_eq_zero_of_not_mem hfresh, Nat.cast_zero]
  total := by rw [sum_counts h.ids_below, List.length_map]

/-- What `load_freq_table` makes of the table. -/
theorem DumpTexts.loadFreqTable (h : DumpTexts tok dump texts) {allocates : ℕ → Bool}
    (hallocates : allocates tok.size = true)
    (hexact : ∀ w ∈ texts, Float32Exact (texts.count w)) (sha256 : Digest) (path : String)
    (revision : Option String) :
    ∃ v : List ℚ, loadFreqTable allocates (.complete
        (freqPayload sha256 path revision tok dump (texts.map (vocabId tok)))) =
      .ok (v.map some) ∧ CountVector tok texts v := by
  have hcounts : ∀ id ∈ texts.map (vocabId tok),
      Float32Exact ((texts.map (vocabId tok)).count id) := by
    intro id hid
    obtain ⟨w, hw, hlookup⟩ := mem_vocabIds h.known hid
    rw [count_vocabId h.injective h.known hlookup]
    exact hexact w hw
  have hstored := stored_counts h.ids_below h.ids_short hcounts
  refine ⟨_, ?_, h.countVector⟩
  rw [← fill_counts]
  unfold freqPayload
  refine except_bind_ok.mpr ⟨_, rfl, ?_⟩
  exact loadCounts_eq ⟨_, rfl, rfl⟩ rfl hallocates hstored

/-- **build_freq_table.py writes a table that validate_freq accepts and `load_freq_table` reads
    back.** -/
theorem freqTable_round_trip (sha256 : Digest) (world : World) (args : FreqArgs) (s : DataDir)
    (allocates : ℕ → Bool) {parsed : Option String}
    (hparsed : parsedRevision world args = .ok parsed)
    (htok : world.fromPretrained args.modelPath
      (if world.pathExists args.modelPath then none else parsed) = .ok tok)
    (hdump : s.dump = some dump) (htexts : DumpTexts tok dump texts)
    (hallocates : allocates tok.size = true)
    (hexact : ∀ w ∈ texts, Float32Exact (texts.count w)) :
    ∃ payload, freqTable sha256 world args s = .ok payload ∧
      Finishes (freqMain sha256 world args) s ()
        { s with temp := false, freqCounts := some (.complete payload) } ∧
      validateFreq sha256 (.complete payload) args.modelPath
        (if world.pathExists args.modelPath then none else parsed)
        (tokenizerFingerprint sha256 tok) (some dump) 50 = .ok () ∧
      TokenInstances payload texts.length ∧
      ∃ v : List ℚ, loadFreqTable allocates (.complete payload) = .ok (v.map some) ∧
        CountVector tok texts v := by
  have hne : texts.map (vocabId tok) ≠ [] := by
    simpa using htexts.nonempty
  have htable : freqTable sha256 world args s = .ok (freqPayload sha256 args.modelPath
      (if world.pathExists args.modelPath then none else parsed) tok dump
      (texts.map (vocabId tok))) := by
    refine except_bind_ok.mpr ⟨parsed, hparsed, ?_⟩
    rw [hdump]
    refine except_bind_ok.mpr ⟨tok, htok, except_bind_ok.mpr
      ⟨_, dumpIds_eq htexts.reads htexts.known, ?_⟩⟩
    rw [if_neg hne]
  refine ⟨_, htable, finishes_freqMain htable,
    validateFreq_freqPayload hne htexts.ids_below htexts.ids_short,
    ⟨_, _, rfl, rfl, ?_⟩, htexts.loadFreqTable hallocates hexact sha256 _ _⟩
  rw [← List.length_map (vocabId tok)]
  rfl

end RoundTrip

section Sample

/-- An answer of `n` tokens, all "red". -/
def redRecord (n : ℕ) : DumpRecord where
  n := 0
  idx := 0
  gt := "red"
  answer := "red"
  question := "What color is the car?"
  tokens := List.replicate n ⟨"red", 0, 0, 0⟩

def redDump (n : ℕ) : List Scored := scoredLines [(redRecord n, sampleOrigin)]

def redDir (n : ℕ) : DataDir := { DataDir.empty sampleRoot with dump := some (redDump n) }

def sampleFreqArgs : FreqArgs := ⟨"models/qwen", none⟩

theorem redDump_texts (n : ℕ) :
    DumpTexts sampleTokenizer (redDump (n + 1)) (List.replicate (n + 1) "red") where
  reads := by
    refine except_bind_ok.mpr ⟨redRecord (n + 1), rfl, except_bind_ok.mpr ⟨[], rfl, ?_⟩⟩
    rw [redRecord, List.map_replicate, List.append_nil]
    rfl
  nonempty := by simp
  known := by
    intro w hw
    rw [List.eq_of_mem_replicate hw]
    rfl
  injective := sampleTokenizer_injective
  below := by
    intro w id hid
    have hmem := lookup_mem hid
    simp [sampleTokenizer] at hmem
    rw [hmem.2]
    decide

theorem freqTable_round_trip_sample : ∃ payload v,
    validateFreq (fun _ => "") (.complete payload) "models/qwen" none
      (tokenizerFingerprint (fun _ => "") sampleTokenizer) (some (redDump 2)) 50 = .ok () ∧
    loadFreqTable (fun n => decide (n ≤ 1000)) (.complete payload) = .ok (v.map some) ∧
    CountVector sampleTokenizer ["red", "red"] v := by
  obtain ⟨payload, -, -, hvalid, -, v, hload, hcount⟩ :=
    freqTable_round_trip (fun _ => "") sampleWorld sampleFreqArgs (redDir 2)
      (fun n => decide (n ≤ 1000)) rfl rfl rfl (redDump_texts 1) (by decide) (by
        intro w hw
        rw [List.eq_of_mem_replicate hw]
        exact float32Exact_of_le (by decide))
  exact ⟨payload, v, hvalid, hload, hcount⟩

theorem foldl_replicate (m k : ℕ) :
    (List.replicate m 0).foldl countToken [(0, k)] = [(0, k + m)] := by
  induction m generalizing k with
  | zero => rfl
  | succ m ih =>
      rw [List.replicate_succ, List.foldl_cons]
      exact (ih (k + 1)).trans (by rw [Nat.add_right_comm, Nat.add_assoc])

/-- The table of an answer of `n + 1` times the token "red", whose count is rounded to `x`. -/
theorem loadFreqTable_red {n : ℕ} {x : ℚ} (h : float32? ((n + 1 : ℕ) : ℤ) = some x)
    (allocates : ℕ → Bool) (hallocates : allocates 1 = true) (sha256 : Digest) (path : String)
    (revision : Option String) :
    loadFreqTable allocates (.complete (freqPayload sha256 path revision sampleTokenizer
      (redDump (n + 1)) ((List.replicate (n + 1) "red").map (vocabId sampleTokenizer)))) =
        .ok [some x] := by
  have hids : (List.replicate (n + 1) "red").map (vocabId sampleTokenizer) =
      List.replicate (n + 1) 0 := by
    rw [List.map_replicate]
    rfl
  have hcounts : (List.replicate (n + 1) 0).foldl countToken [] = [(0, n + 1)] := by
    rw [List.replicate_succ, List.foldl_cons]
    exact (foldl_replicate n 1).trans (by rw [Nat.add_comm])
  have hstored : List.Forall₂ (fun entry s => Stored 1 entry s.1 s.2)
      ([(0, n + 1)].map fun c => (intText c.1, Json.int c.2)) [(0, x)] :=
    .cons ⟨looksInteger_intText 0, intOfText?_intText (by decide), Nat.one_pos, _, rfl, h⟩ .nil
  rw [hids]
  unfold freqPayload
  rw [hcounts]
  refine except_bind_ok.mpr ⟨_, rfl, ?_⟩
  exact loadCounts_eq ⟨_, rfl, rfl⟩ rfl hallocates hstored

/-- Float32 has no 16777217. -/
theorem large_count_rounded : ¬∀ (sha256 : Digest) (world : World) (args : FreqArgs) (s : DataDir)
    (allocates : ℕ → Bool) (parsed : Option String) (tok : Tokenizer) (dump : List Scored)
    (texts : List String), parsedRevision world args = .ok parsed →
    world.fromPretrained args.modelPath
      (if world.pathExists args.modelPath then none else parsed) = .ok tok →
    s.dump = some dump → DumpTexts tok dump texts → allocates tok.size = true →
    ∃ payload, freqTable sha256 world args s = .ok payload ∧
      ∃ v : List ℚ, loadFreqTable allocates (.complete payload) = .ok (v.map some) ∧
        CountVector tok texts v := by
  intro hall
  obtain ⟨payload, htable, v, hload, hcount⟩ := hall (fun _ => "") sampleWorld sampleFreqArgs
    (redDir (16777216 + 1)) (fun n => decide (n ≤ 1000)) none sampleTokenizer
    (redDump (16777216 + 1)) (List.replicate (16777216 + 1) "red") rfl rfl rfl
    (redDump_texts 16777216) (by decide)
  obtain ⟨parsed, tok, dump, ids, hparsed, htok, hdump, hids, -, rfl⟩ := freqTable_eq_ok htable
  obtain rfl : sampleTokenizer = tok := Except.ok.inj htok
  obtain rfl : redDump (16777216 + 1) = dump := Option.some.inj hdump
  have htexts := redDump_texts 16777216
  rw [dumpIds_eq htexts.reads htexts.known] at hids
  cases hids
  have hrounded : float32? ((16777216 + 1 : ℕ) : ℤ) = some 16777216 := by decide +kernel
  rw [loadFreqTable_red hrounded _ (by decide)] at hload
  have hv : v = [16777216] := by
    have hmap : [(16777216 : ℚ)].map some = v.map some := Except.ok.inj hload
    exact (List.map_injective_iff.mpr (Option.some_injective ℚ) hmap).symm
  have hred := hcount.count "red" 0 rfl
  rw [hv, List.count_replicate_self] at hred
  exact absurd (Option.some.inj hred) (by norm_num)

end Sample

end LookAway.Priors
