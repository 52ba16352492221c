/-
  What the frozen priors decide at training time: the counting loops of run_priors, the file as
  `_vd_priors` (verl/workers/actor/dp_actor.py) reads it, and the rate and template gates of
  update_policy.

  run_priors counts texts and the gates look up ids, so the two sides meet in `idOf`: the id of a
  text, unless it is unknown. With an injective vocabulary an id stands for one text of the dump
  (`tokenOf`), and the file holds that text's rate (`mem_rateIds`). `frozen_gates` is the result
  for both gates. The rate gate compares the four digits the file stores of the rate that
  run_priors computes; `rate_gate_not_exact`: just below the cut they decide differently from the
  rate itself.
-/
import LookAway.Base.Json
import LookAway.Base.Quantile
import LookAway.Priors.FreqSpec
import LookAway.Priors.Provenance
import LookAway.Weights.Admission

namespace LookAway.Priors

open LookAway.Base LookAway.Base.Script LookAway.Data
open LookAway.Weights (UpdateError VdPriors Mask Pos priorGates previous)

/-! ## The loops of run_priors -/

section Counting

variable (percentile : List ℚ → ℕ → ℚ) (batch : List (List Signal))

/-- The scale of one signal over a batch. -/
def batchScale (signal : Signal → ℚ) : ℚ := scale percentile (batch.flatten.map signal)

/-- An entry of `s`. -/
def score (t : Signal) : ℚ :=
  signalScore (batchScale percentile batch (·.dd)) (batchScale percentile batch (·.eps)) t

/-- `s`. -/
def scores : List ℚ := batch.flatten.map (score percentile batch)

/-- `thr`. -/
def selectionCut : ℚ := percentile (scores percentile batch) 90

/-- `s[k] > thr`, at the index of the token. -/
def selected (t : Signal) : Bool :=
  decide (selectionCut percentile batch < score percentile batch t)

/-- The tokens of a batch, each with whether it passes the cut. -/
def batchFlags : List (String × Bool) :=
  batch.flatten.map fun t => (t.tok, selected percentile batch t)

/-- `occ`, `sel` and `k`. -/
structure Tally where
  occ : String → ℕ
  sel : String → ℕ
  k : ℕ

/-- One turn of the loop over the tokens of a batch. -/
def tallyToken (c : Tally) (t : Signal) : Tally where
  occ := Function.update c.occ t.tok (c.occ t.tok + 1)
  sel := if selectionCut percentile batch < (scores percentile batch).getD c.k 0
    then Function.update c.sel t.tok (c.sel t.tok + 1) else c.sel
  k := c.k + 1

/-- The two loops of a batch, over its answers and over the tokens of an answer. -/
def tallyBatch (c : Tally) : Tally :=
  batch.foldl (fun c ts => ts.foldl (tallyToken percentile batch) c) { c with k := 0 }

/-- The counts over all batches. -/
def tally (recs : List (List Signal)) : Tally :=
  (batches recs).foldl (fun c batch => tallyBatch percentile batch c) ⟨fun _ => 0, fun _ => 0, 0⟩

/-- The tokens run_priors flags, over all batches. -/
def flags (recs : List (List Signal)) : List (String × Bool) :=
  (batches recs).flatMap (batchFlags percentile)

end Counting

/-- `(sel[w] + ALPHA * BASE) / (occ[w] + ALPHA)`. -/
def smoothedRate (c : Tally) (w : String) : ℚ := smoothed (c.sel w) (c.occ w)

section Counting

variable {percentile : List ℚ → ℕ → ℚ} {batch : List (List Signal)}

/-- What one token adds, when `k` is its index. -/
theorem tallyToken_eq {c : Tally} {t : Signal}
    (hscore : (scores percentile batch).getD c.k 0 = score percentile batch t)
    (w : String) :
    (tallyToken percentile batch c t).occ w = c.occ w + (if t.tok == w then 1 else 0) ∧
      (tallyToken percentile batch c t).sel w =
        c.sel w + (if t.tok == w && selected percentile batch t then 1 else 0) := by
  have hsel : (tallyToken percentile batch c t).sel =
      if selectionCut percentile batch < score percentile batch t
      then Function.update c.sel t.tok (c.sel t.tok + 1) else c.sel := by
    rw [← hscore]
    rfl
  rw [hsel]
  by_cases hw : t.tok = w
  · subst hw
    by_cases hs : selectionCut percentile batch < score percentile batch t
    · simp [tallyToken, selected, hs]
    · simp [tallyToken, selected, hs]
  · by_cases hs : selectionCut percentile batch < score percentile batch t
    · simp [tallyToken, hw, hs, Function.update_of_ne (Ne.symm hw)]
    · simp [tallyToken, hw, hs, Function.update_of_ne (Ne.symm hw)]

/-- The flat index `k` stays on the token: after the tokens `pre` it is their number. -/
theorem foldl_tallyToken {pre ts : List Signal} (h : pre ++ ts = batch.flatten) {c : Tally}
    (hk : c.k = pre.length) (w : String) :
    (ts.foldl (tallyToken percentile batch) c).occ w = c.occ w + ts.countP (fun t => t.tok == w) ∧
      (ts.foldl (tallyToken percentile batch) c).sel w =
        c.sel w + ts.countP (fun t => t.tok == w && selected percentile batch t) := by
  induction ts generalizing pre c with
  | nil => simp
  | cons t ts ih =>
      have hscore : (scores percentile batch).getD c.k 0 = score percentile batch t := by
        unfold scores
        rw [← h, hk]
        simp
      obtain ⟨hocc, hsel⟩ := tallyToken_eq hscore w
      obtain ⟨ihocc, ihsel⟩ := @ih (pre ++ [t]) (by simpa using h) (tallyToken percentile batch c t)
        (by simp [tallyToken, hk])
      rw [List.foldl_cons, ihocc, ihsel, hocc, hsel, List.countP_cons, List.countP_cons]
      omega

variable (percentile batch) in
theorem tallyBatch_eq (c : Tally) (w : String) :
    (tallyBatch percentile batch c).occ w =
      c.occ w + (batchFlags percentile batch).countP (fun f => f.1 == w) ∧
      (tallyBatch percentile batch c).sel w =
        c.sel w + (batchFlags percentile batch).countP (fun f => f.1 == w && f.2) := by
  unfold tallyBatch batchFlags
  rw [← List.foldl_flatten, List.countP_map, List.countP_map]
  exact foldl_tallyToken (List.nil_append _) rfl w

theorem selectBatch_eq_ok {flags : List (String × Bool)}
    (h : selectBatch percentile batch = .ok flags) :
    flags = batchFlags percentile batch := by
  unfold selectBatch at h
  dsimp only at h
  split at h
  · cases h
  · cases h
    rw [List.zipWith_map_right, List.zipWith_self]
    rfl

theorem flatten_flagged {batches : List (List (List Signal))}
    {flagged : List (List (String × Bool))}
    (h : batches.mapM (selectBatch percentile) = .ok flagged) :
    flagged.flatten = batches.flatMap (batchFlags percentile) := by
  induction batches generalizing flagged with
  | nil =>
      cases h
      rfl
  | cons batch batches ih =>
      rw [List.mapM_cons] at h
      obtain ⟨first, hfirst, h⟩ := except_bind_ok.mp h
      obtain ⟨rest, hrest, h⟩ := except_bind_ok.mp h
      cases h
      rw [List.flatten_cons, List.flatMap_cons, selectBatch_eq_ok hfirst, ih hrest]

/-- Both counts are counts of flags. -/
theorem foldl_tallyBatch (batches : List (List (List Signal))) (c : Tally) (w : String) :
    (batches.foldl (fun c batch => tallyBatch percentile batch c) c).occ w =
        c.occ w + (batches.flatMap (batchFlags percentile)).countP (fun f => f.1 == w) ∧
      (batches.foldl (fun c batch => tallyBatch percentile batch c) c).sel w =
        c.sel w + (batches.flatMap (batchFlags percentile)).countP (fun f => f.1 == w && f.2) := by
  induction batches generalizing c with
  | nil => simp
  | cons batch batches ih =>
      obtain ⟨hocc, hsel⟩ := tallyBatch_eq percentile batch c w
      obtain ⟨ihocc, ihsel⟩ := ih (tallyBatch percentile batch c)
      rw [List.foldl_cons, ihocc, ihsel, hocc, hsel]
      simp only [List.flatMap_cons, List.countP_append, Nat.add_assoc, and_self]

theorem tally_eq (percentile : List ℚ → ℕ → ℚ) (recs : List (List Signal)) (w : String) :
    (tally percentile recs).occ w = (flags percentile recs).countP (fun f => f.1 == w) ∧
      (tally percentile recs).sel w =
        (flags percentile recs).countP (fun f => f.1 == w && f.2) := by
  unfold tally flags
  simpa using foldl_tallyBatch (batches recs) ⟨fun _ => 0, fun _ => 0, 0⟩ w

theorem selectionRate_flags (recs : List (List Signal)) :
    selectionRate (flags percentile recs) =
      (firstSeen ((flags percentile recs).map (·.1))).map fun w =>
        (w, smoothedRate (tally percentile recs) w) := by
  unfold selectionRate
  apply List.map_congr_left
  intro w _
  obtain ⟨hocc, hsel⟩ := tally_eq percentile recs w
  unfold smoothedRate
  rw [hocc, hsel, List.countP_eq_length_filter, List.countP_eq_length_filter]

end Counting

/-- The batches are the dump, cut into pieces. -/
theorem flatten_batches {α : Type} (recs : List α) : (batches recs).flatten = recs := by
  have htake : ∀ m, ((List.range m).map fun b =>
      (recs.drop (b * batchSize)).take batchSize).flatten = recs.take (m * batchSize) := by
    intro m
    induction m with
    | zero => simp
    | succ m ih =>
        rw [List.range_succ, List.map_append, List.flatten_append, ih, Nat.succ_mul, List.take_add]
        simp
  unfold batches
  rw [htake, List.take_of_length_le]
  have h16 : batchSize = 16 := rfl
  rw [h16]
  omega

theorem flags_map_fst (percentile : List ℚ → ℕ → ℚ) (recs : List (List Signal)) :
    (flags percentile recs).map (·.1) = recs.flatten.map (·.tok) := by
  have hbatch : ∀ batch, (batchFlags percentile batch).map (·.1) = batch.flatten.map (·.tok) := by
    intro batch
    unfold batchFlags
    rw [List.map_map]
    rfl
  calc (flags percentile recs).map (·.1)
      = (batches recs).flatMap fun batch => batch.flatten.map (·.tok) := by
        unfold flags
        simp only [List.map_flatMap, hbatch]
    _ = (batches recs).flatten.flatten.map (·.tok) := by
        rw [List.flatten_flatten, List.map_flatten, List.map_map]
        rfl
    _ = recs.flatten.map (·.tok) := by rw [flatten_batches]

/-! ## The loader -/

/-- The `rate` object of the file: json.dump writes a key as its text. -/
def rateObject (blob : Priors) : List (String × ℚ) := blob.rate.map fun e => (intText e.1, e.2)

/-- `{int(k): float(v) for k, v in blob["rate"].items()}`. -/
def rateById (object : List (String × ℚ)) : Except UpdateError (List (ℤ × ℚ)) :=
  object.mapM fun e => match intOfText? e.1 with
    | some k => .ok (k, e.2)
    | none => .error (.valueError (intErrorText e.1 (scannedDigits e.1)))

/-- `_vd_priors`, of the content of the file. A later entry of a dict replaces an earlier one. -/
def loadVdPriors (blob : Priors) : Except UpdateError VdPriors := do
  let rate ← rateById (rateObject blob)
  return {
    rateById := fun k => (rate.reverse.find? fun e => e.1 == k).map (·.2)
    tmplPairs := fun pc => blob.tmpl.any fun e => ((e.1 : ℤ), (e.2 : ℤ)) == pc }

theorem rateById_rateObject {blob : Priors} (h : ∀ e ∈ blob.rate, e.1 < 2 ^ 32) :
    rateById (rateObject blob) = .ok (blob.rate.map fun e => ((e.1 : ℤ), e.2)) := by
  unfold rateById rateObject
  generalize blob.rate = rate at h
  induction rate with
  | nil => rfl
  | cons e rate ih =>
      obtain ⟨he, hrest⟩ := List.forall_mem_cons.mp h
      rw [List.map_cons, List.mapM_cons, ih hrest, intOfText?_intText (length_toDigits_of_lt he)]
      rfl

theorem loadVdPriors_eq {blob : Priors} (h : ∀ e ∈ blob.rate, e.1 < 2 ^ 32) :
    loadVdPriors blob = .ok {
      rateById := fun k => ((blob.rate.map fun e => ((e.1 : ℤ), e.2)).reverse.find?
        fun e => e.1 == k).map (·.2)
      tmplPairs := fun pc => blob.tmpl.any fun e => ((e.1 : ℤ), (e.2 : ℤ)) == pc } :=
  except_bind_ok.mpr ⟨_, rateById_rateObject h, rfl⟩

/-! ## Ids and texts -/

/-- The id of a text, as the responses hold it. -/
def idOf (tok : Tokenizer) (w : String) : Option ℤ := (toId tok w).map (Nat.cast : ℕ → ℤ)

/-- The text of the dump with id `x`. -/
def tokenOf (tok : Tokenizer) (recs : List (List Signal)) (x : ℤ) : Option String :=
  (recs.flatten.map (·.tok)).find? fun w => idOf tok w == some x

section Rates

variable (percentile : List ℚ → ℕ → ℚ) (tok : Tokenizer) (recs : List (List Signal)) (x : ℤ)

/-- The quotient `(sel + 5) / (occ + 50)` of an id, or the default of an id that never occurs. -/
def exactRate : ℚ :=
  (tokenOf tok recs x).elim (1 / 10) fun w =>
    ((tally percentile recs).sel w + 5) / ((tally percentile recs).occ w + 50)

/-- The smoothed rate of an id to four digits, as the file stores it. -/
def storedRate : ℚ :=
  (tokenOf tok recs x).elim (1 / 10) fun w => round4 (smoothedRate (tally percentile recs) w)

end Rates

/-- Two tokens of an answer next to each other have the ids `x` and `y`. -/
def hasIdPair (tok : Tokenizer) (x y : ℤ) (ts : List Signal) : Bool :=
  (bigrams ts).any fun bg => idOf tok bg.1 == some x && idOf tok bg.2 == some y

/-- The answers of the dump with the adjacent pair, each counted once. -/
def answersWithPair (tok : Tokenizer) (recs : List (List Signal)) (x y : ℤ) : ℕ :=
  (recs.filter (hasIdPair tok x y)).length

/-- An id of the vocabulary stands for one text. -/
def InjectiveVocab (tok : Tokenizer) : Prop :=
  ∀ w w' id, tok.vocab.lookup w = some id → tok.vocab.lookup w' = some id → w = w'

section Ids

variable {tok : Tokenizer}

theorem lookup_of_toId {w : String} {id : ℕ} (h : toId tok w = some id) :
    tok.vocab.lookup w = some id := by
  unfold toId convertTokensToIds at h
  obtain ⟨hconvert, hunk⟩ := Option.filter_eq_some_iff.mp h
  cases hlookup : tok.vocab.lookup w with
  | some id' =>
      rw [hlookup] at hconvert
      exact hconvert
  | none =>
      rw [hlookup] at hconvert
      have hunk' : tok.unkTokenId = some id := hconvert
      simp [hunk'] at hunk

theorem toId_lt {w : String} {id : ℕ} (h : toId tok w = some id) : id < 2 ^ 32 :=
  tok.id_lt _ (lookup_mem (lookup_of_toId h))

theorem toId_injective (hvocab : InjectiveVocab tok) {w w' : String} {id : ℕ}
    (h : toId tok w = some id) (h' : toId tok w' = some id) : w = w' :=
  hvocab w w' id (lookup_of_toId h) (lookup_of_toId h')

theorem idOf_eq_some {w : String} {x : ℤ} :
    idOf tok w = some x ↔ ∃ id : ℕ, toId tok w = some id ∧ (id : ℤ) = x := by
  unfold idOf
  rw [Option.map_eq_some_iff]

theorem idOf_injective (hvocab : InjectiveVocab tok) {w w' : String} {x : ℤ}
    (h : idOf tok w = some x) (h' : idOf tok w' = some x) : w = w' := by
  obtain ⟨id, hid, hx⟩ := idOf_eq_some.mp h
  obtain ⟨id', hid', hx'⟩ := idOf_eq_some.mp h'
  have hids : id = id' := by omega
  subst hids
  exact toId_injective hvocab hid hid'

end Ids

/-! ## What the file holds -/

theorem nodup_firstSeen {α : Type} [BEq α] [LawfulBEq α] (keys : List α) :
    (firstSeen keys).Nodup := by
  unfold firstSeen
  induction hn : keys.length using Nat.strong_induction_on generalizing keys with
  | _ n ih =>
      cases keys with
      | nil => simp
      | cons a keys =>
          rw [List.eraseDups_cons, List.nodup_cons]
          refine ⟨by simp, ih _ ?_ _ rfl⟩
          rw [← hn, List.length_cons]
          exact Nat.lt_succ_of_le (List.length_filter_le _ _)

theorem mem_firstSeen {α : Type} [BEq α] [LawfulBEq α] {keys : List α} {a : α} :
    a ∈ firstSeen keys ↔ a ∈ keys := List.mem_eraseDups

/-- A new key goes to the end. -/
theorem setKey_of_fresh {β : Type} {d : List (ℕ × β)} {key : ℕ} (h : ∀ e ∈ d, e.1 ≠ key)
    (value : β) : setKey d key value = d ++ [(key, value)] := by
  rw [setKey_eq, insertEntry_of_fresh]
  intro hmem
  obtain ⟨e, he, heq⟩ := List.mem_map.mp hmem
  exact h e he heq

section File

variable {tok : Tokenizer}

/-- The entry of a text in `rate_ids`. -/
def rateEntry (tok : Tokenizer) (e : String × ℚ) : Option (ℕ × ℚ) :=
  (toId tok e.1).map fun id => (id, round4 e.2)

/-- One turn of the loop that fills `rate_ids`. -/
def writeRate (tok : Tokenizer) (acc : List (ℕ × ℚ)) (e : String × ℚ) : List (ℕ × ℚ) :=
  match toId tok e.1 with
  | none => acc
  | some tid => setKey acc tid (round4 e.2)

theorem writeRate_none {acc : List (ℕ × ℚ)} {e : String × ℚ} (h : toId tok e.1 = none) :
    writeRate tok acc e = acc := by
  unfold writeRate
  rw [h]

theorem writeRate_fresh {acc : List (ℕ × ℚ)} {e : String × ℚ} {id : ℕ} (h : toId tok e.1 = some id)
    (hfresh : ∀ a ∈ acc, a.1 ≠ id) : writeRate tok acc e = acc ++ [(id, round4 e.2)] := by
  unfold writeRate
  rw [h]
  exact setKey_of_fresh hfresh _

/-- With distinct texts no id is written twice. -/
theorem foldl_writeRate (hvocab : InjectiveVocab tok) {rate : List (String × ℚ)}
    (hnodup : (rate.map (·.1)).Nodup) {acc : List (ℕ × ℚ)}
    (hacc : ∀ e ∈ rate, ∀ id, toId tok e.1 = some id → ∀ a ∈ acc, a.1 ≠ id) :
    rate.foldl (writeRate tok) acc = acc ++ rate.filterMap (rateEntry tok) := by
  induction rate generalizing acc with
  | nil => simp
  | cons e rate ih =>
      rw [List.map_cons, List.nodup_cons] at hnodup
      rw [List.foldl_cons]
      cases hid : toId tok e.1 with
      | none =>
          have hentry : rateEntry tok e = none := by simp [rateEntry, hid]
          rw [writeRate_none hid, List.filterMap_cons_none hentry]
          exact ih hnodup.2 fun e' he' => hacc e' (by simp [he'])
      | some id =>
          have hentry : rateEntry tok e = some (id, round4 e.2) := by simp [rateEntry, hid]
          rw [writeRate_fresh hid (hacc e (by simp) id hid), List.filterMap_cons_some hentry,
            ih hnodup.2, List.append_assoc, List.singleton_append]
          intro e' he' id' hid' a ha
          rcases List.mem_append.mp ha with ha | ha
          · exact hacc e' (by simp [he']) id' hid' a ha
          · rintro rfl
            rw [List.mem_singleton.mp ha] at hid'
            have htext := toId_injective hvocab hid hid'
            exact hnodup.1 (htext ▸ List.mem_map_of_mem he')

theorem rateIds_eq (hvocab : InjectiveVocab tok) {rate : List (String × ℚ)}
    (hnodup : (rate.map (·.1)).Nodup) : rateIds tok rate = rate.filterMap (rateEntry tok) := by
  have h := @foldl_writeRate _ hvocab _ hnodup [] (by simp)
  rwa [List.nil_append] at h

/-- The file holds the rounded rate of every text with an id, and nothing else. -/
theorem mem_rateIds (hvocab : InjectiveVocab tok) (percentile : List ℚ → ℕ → ℚ)
    (recs : List (List Signal)) {id : ℕ} {r : ℚ} :
    (id, r) ∈ rateIds tok (selectionRate (flags percentile recs)) ↔
      ∃ w ∈ recs.flatten.map (·.tok), toId tok w = some id ∧
        r = round4 (smoothedRate (tally percentile recs) w) := by
  have hkeys : (selectionRate (flags percentile recs)).map (·.1) =
      firstSeen ((flags percentile recs).map (·.1)) := by
    rw [selectionRate_flags, List.map_map]
    exact List.map_id _
  rw [rateIds_eq hvocab (hkeys ▸ nodup_firstSeen _), List.mem_filterMap, selectionRate_flags,
    flags_map_fst]
  constructor
  · rintro ⟨e, he, hentry⟩
    obtain ⟨w, hw, rfl⟩ := List.mem_map.mp he
    obtain ⟨id', hid, hpair⟩ := Option.map_eq_some_iff.mp hentry
    cases hpair
    exact ⟨w, mem_firstSeen.mp hw, hid, rfl⟩
  · rintro ⟨w, hw, hid, rfl⟩
    refine ⟨(w, smoothedRate (tally percentile recs) w),
      List.mem_map_of_mem (mem_firstSeen.mpr hw), ?_⟩
    unfold rateEntry
    rw [hid]
    rfl

/-- Looking up an id in the loaded rates. -/
theorem find_rate (hvocab : InjectiveVocab tok) (percentile : List ℚ → ℕ → ℚ)
    (recs : List (List Signal)) (x : ℤ) :
    ((((rateIds tok (selectionRate (flags percentile recs))).map fun e =>
        ((e.1 : ℤ), e.2)).reverse.find? fun e => e.1 == x).map (·.2)).getD (1 / 10) =
      storedRate percentile tok recs x := by
  unfold storedRate
  cases htoken : tokenOf tok recs x with
  | none =>
      have hno := List.find?_eq_none.mp htoken
      have hnone : (((rateIds tok (selectionRate (flags percentile recs))).map fun e =>
          ((e.1 : ℤ), e.2)).reverse.find? fun e => e.1 == x) = none := by
        rw [List.find?_eq_none]
        intro e he hx
        obtain ⟨⟨id, r⟩, hmem, rfl⟩ := List.mem_map.mp (List.mem_reverse.mp he)
        obtain ⟨w, hw, hid, -⟩ := (mem_rateIds hvocab percentile recs).mp hmem
        exact hno w hw (beq_iff_eq.mpr (idOf_eq_some.mpr ⟨id, hid, beq_iff_eq.mp hx⟩))
      rw [hnone]
      rfl
  | some w =>
      have hw : w ∈ recs.flatten.map (·.tok) := List.mem_of_find?_eq_some htoken
      have hidw : idOf tok w = some x := beq_iff_eq.mp
        (List.find?_some (p := fun w => idOf tok w == some x) htoken)
      obtain ⟨id, hid, hx⟩ := idOf_eq_some.mp hidw
      have hentry : ((id : ℤ), round4 (smoothedRate (tally percentile recs) w)) ∈
          ((rateIds tok (selectionRate (flags percentile recs))).map fun e =>
            ((e.1 : ℤ), e.2)).reverse :=
        List.mem_reverse.mpr (List.mem_map.mpr
          ⟨_, (mem_rateIds hvocab percentile recs).mpr ⟨w, hw, hid, rfl⟩, rfl⟩)
      cases hfind : (((rateIds tok (selectionRate (flags percentile recs))).map fun e =>
          ((e.1 : ℤ), e.2)).reverse.find? fun e => e.1 == x) with
      | none => exact absurd hx (by simpa using List.find?_eq_none.mp hfind _ hentry)
      | some e =>
          obtain ⟨⟨id', r⟩, hmem, rfl⟩ :=
            List.mem_map.mp (List.mem_reverse.mp (List.mem_of_find?_eq_some hfind))
          have hx' : (id' : ℤ) = x :=
            beq_iff_eq.mp (List.find?_some (p := fun e : ℤ × ℚ => e.1 == x) hfind)
          obtain ⟨w', -, hid', hr⟩ := (mem_rateIds hvocab percentile recs).mp hmem
          have htext : w' = w := idOf_injective hvocab (idOf_eq_some.mpr ⟨id', hid', hx'⟩) hidw
          subst htext
          exact hr

theorem mem_tmplIds {pairs : List (String × String)} {p c : ℕ} :
    (p, c) ∈ tmplIds tok pairs ↔
      ∃ bg ∈ pairs, toId tok bg.1 = some p ∧ toId tok bg.2 = some c := by
  unfold tmplIds
  rw [List.mem_filterMap]
  refine exists_congr fun bg => and_congr_right fun _ => ?_
  cases toId tok bg.1 with
  | none => simp
  | some p' =>
      cases toId tok bg.2 with
      | none => simp
      | some c' => simp

theorem mem_templatePairs {recs : List (List Signal)} {bg : String × String} :
    bg ∈ templatePairs recs ↔ (∃ ts ∈ recs, bg ∈ bigrams ts) ∧
      (1 / 4 : ℚ) ≤ ((recs.filter fun ts => (bigrams ts).contains bg).length : ℚ) /
        recs.length := by
  unfold templatePairs
  simp only [List.mem_filter, mem_firstSeen, List.mem_flatMap, decide_eq_true_eq]

/-- A bigram of texts is a bigram of ids. -/
theorem hasIdPair_eq_contains (hvocab : InjectiveVocab tok) {bg : String × String} {x y : ℤ}
    (hx : idOf tok bg.1 = some x) (hy : idOf tok bg.2 = some y) (ts : List Signal) :
    hasIdPair tok x y ts = (bigrams ts).contains bg := by
  rw [Bool.eq_iff_iff, List.contains_iff_mem]
  unfold hasIdPair
  rw [List.any_eq_true]
  constructor
  · rintro ⟨bg', hmem, hids⟩
    obtain ⟨hx', hy'⟩ := Bool.and_eq_true_iff.mp hids
    have hfirst := idOf_injective hvocab (beq_iff_eq.mp hx') hx
    have hsecond := idOf_injective hvocab (beq_iff_eq.mp hy') hy
    rwa [show bg' = bg from Prod.ext hfirst hsecond] at hmem
  · intro hmem
    exact ⟨bg, hmem, by simp [hx, hy]⟩

/-- A quarter of a non-empty dump. -/
theorem quarter_le_iff {docs n : ℕ} (hn : 0 < n) :
    (1 / 4 : ℚ) ≤ (docs : ℚ) / n ↔ n ≤ 4 * docs := by
  have hn' : (0 : ℚ) < n := by exact_mod_cast hn
  rw [le_div_iff₀ hn']
  constructor
  · intro h
    have h' : (n : ℚ) ≤ 4 * docs := by linarith
    exact_mod_cast h'
  · intro h
    have h' : (n : ℚ) ≤ 4 * docs := by exact_mod_cast h
    linarith

/-- The file holds the pairs of ids that a quarter of the answers contain. -/
theorem mem_tmplIds_templatePairs (hvocab : InjectiveVocab tok) {recs : List (List Signal)}
    (hne : recs ≠ []) {x y : ℤ} :
    ((tmplIds tok (templatePairs recs)).any fun e => ((e.1 : ℤ), (e.2 : ℤ)) == (x, y)) = true ↔
      recs.length ≤ 4 * answersWithPair tok recs x y := by
  have hpos : 0 < recs.length := List.length_pos_iff.mpr hne
  rw [List.any_eq_true]
  constructor
  · rintro ⟨⟨p, c⟩, hmem, hids⟩
    obtain ⟨bg, hbg, hp, hc⟩ := mem_tmplIds.mp hmem
    cases beq_iff_eq.mp hids
    have hquarter := (quarter_le_iff hpos).mp (mem_templatePairs.mp hbg).2
    unfold answersWithPair
    rwa [funext fun ts => hasIdPair_eq_contains hvocab (idOf_eq_some.mpr ⟨p, hp, rfl⟩)
      (idOf_eq_some.mpr ⟨c, hc, rfl⟩) ts]
  · intro hquarter
    have hsome : 0 < answersWithPair tok recs x y := by omega
    obtain ⟨ts, hts⟩ := List.exists_mem_of_length_pos hsome
    obtain ⟨hrec, hpair⟩ := List.mem_filter.mp hts
    unfold hasIdPair at hpair
    obtain ⟨bg, hbg, hids⟩ := List.any_eq_true.mp hpair
    obtain ⟨hx, hy⟩ := Bool.and_eq_true_iff.mp hids
    obtain ⟨p, hp, hpx⟩ := idOf_eq_some.mp (beq_iff_eq.mp hx)
    obtain ⟨c, hc, hcy⟩ := idOf_eq_some.mp (beq_iff_eq.mp hy)
    have hdocs : (1 / 4 : ℚ) ≤
        ((recs.filter fun ts => (bigrams ts).contains bg).length : ℚ) / recs.length := by
      apply (quarter_le_iff hpos).mpr
      unfold answersWithPair at hquarter
      rwa [funext fun ts =>
        hasIdPair_eq_contains hvocab (beq_iff_eq.mp hx) (beq_iff_eq.mp hy) ts] at hquarter
    refine ⟨(p, c),
      mem_tmplIds.mpr ⟨bg, mem_templatePairs.mpr ⟨⟨ts, hrec, hbg⟩, hdocs⟩, hp, hc⟩, ?_⟩
    rw [beq_iff_eq, hpx, hcy]

end File

/-! ## The gates -/

/-- The rate gate at `rate_cut` passes a valid token exactly when the rate of its id reaches the
    cut. -/
def RateGate (priors : VdPriors) (cut : ℚ) (rate : ℤ → ℚ) : Prop :=
  ∀ (B T : ℕ) (responses : Pos B T → ℤ) (valid : Mask B T) (p : Pos B T), valid p = true →
    ((priorGates priors cut responses valid).rateOk p = true ↔ cut ≤ rate (responses p))

/-- The template gate rejects a valid token exactly when the token before it is valid and the
    pair is frequent. -/
def TemplateGate (priors : VdPriors) (cut : ℚ) (frequent : ℤ → ℤ → Prop) : Prop :=
  ∀ (B T : ℕ) (responses : Pos B T → ℤ) (valid : Mask B T) (p : Pos B T), valid p = true →
    ((priorGates priors cut responses valid).tmplOk p = false ↔
      ∃ q, previous p = some q ∧ valid q = true ∧ frequent (responses q) (responses p))

theorem rateGate_iff {priors : VdPriors} {rate : ℤ → ℚ}
    (h : ∀ x, (priors.rateById x).getD (1 / 10) = rate x) (cut : ℚ) : RateGate priors cut rate := by
  intro B T responses valid p hv
  rw [Weights.priorGates_rateOk, hv, Bool.true_and, Bool.not_eq_true',
    Weights.belowRateCut_eq_false_iff, h]

theorem templateGate_iff {priors : VdPriors} {frequent : ℤ → ℤ → Prop}
    (h : ∀ x y, priors.tmplPairs (x, y) = true ↔ frequent x y) (cut : ℚ) :
    TemplateGate priors cut frequent := by
  intro B T responses valid p hv
  rw [Weights.priorGates_tmplOk, hv, Bool.true_and, Bool.not_eq_false']
  unfold Weights.closesTemplate
  cases previous p with
  | none => simp only [Bool.false_eq_true, reduceCtorEq, false_and, exists_false]
  | some q => simp only [Bool.and_eq_true, h, Option.some.injEq, exists_eq_left']

section Gates

variable {tok : Tokenizer}

/-- The loaded tables of a dump. -/
theorem loadVdPriors_tables (hvocab : InjectiveVocab tok) {percentile : List ℚ → ℕ → ℚ}
    {records : List DumpRecord} {tables : FrozenTables}
    (htables : frozenTables percentile tok records = .ok tables) (info : PriorsMeta) :
    ∃ priors, loadVdPriors ⟨tables.rate, tables.tmpl, info⟩ = .ok priors ∧
      (∀ x, (priors.rateById x).getD (1 / 10) =
        storedRate percentile tok (records.map signals) x) ∧
      ∀ x y, priors.tmplPairs (x, y) = true ↔ (records.map signals).length ≤
        4 * answersWithPair tok (records.map signals) x y := by
  unfold frozenTables at htables
  dsimp only at htables
  split at htables
  · cases htables
  · rename_i hne
    obtain ⟨flagged, hflagged, htables⟩ := except_bind_ok.mp htables
    cases htables
    have hflags : flagged.flatten = flags percentile (records.map signals) :=
      flatten_flagged hflagged
    rw [hflags]
    refine ⟨_, loadVdPriors_eq ?_, ?_, ?_⟩
    · rintro ⟨id, r⟩ he
      obtain ⟨w, -, hid, -⟩ := (mem_rateIds hvocab percentile _).mp he
      exact toId_lt hid
    · exact find_rate hvocab percentile _
    · intro x y
      exact mem_tmplIds_templatePairs hvocab hne

/-- The tables and the cut of a priors file. -/
theorem priorsOf_eq_ok {sha256 : Digest} {world : World} {args : PrepareArgs}
    {revision : Option String} {records : List DumpRecord} {s : DataDir} {blob : Priors}
    (h : priorsOf sha256 world args revision tok records s = .ok blob) :
    ∃ tables, frozenTables world.percentile tok records = .ok tables ∧
      blob = ⟨tables.rate, tables.tmpl, blob.info⟩ ∧ blob.info.rateCut = some (3 / 25) := by
  obtain ⟨tables, htables, h⟩ := except_bind_ok.mp h
  obtain ⟨template, _, h⟩ := except_bind_ok.mp h
  obtain ⟨manifest, _, h⟩ := except_bind_ok.mp h
  obtain ⟨parquet, _, h⟩ := except_bind_ok.mp h
  cases h
  exact ⟨tables, htables, rfl, rfl⟩

/-- The tables of a published file, loaded. -/
theorem load_of_priorsFile (hvocab : InjectiveVocab tok) {sha256 : Digest} {world : World}
    {args : PrepareArgs} {revision : Option String} {s : DataDir} {file : PriorsFile}
    (h : priorsFile sha256 world args revision tok s = .ok file) :
    ∃ records blob priors, readDump s = .ok records ∧ file.content = .complete blob ∧
      blob.info.rateCut = some (3 / 25) ∧ loadVdPriors blob = .ok priors ∧
      (∀ x, (priors.rateById x).getD (1 / 10) =
        storedRate world.percentile tok (records.map fun r => signals r.1) x) ∧
      ∀ x y, priors.tmplPairs (x, y) = true ↔
        records.length ≤ 4 * answersWithPair tok (records.map fun r => signals r.1) x y := by
  obtain ⟨records, hrecords, h⟩ := except_bind_ok.mp h
  obtain ⟨blob, hblob, h⟩ := except_bind_ok.mp h
  cases h
  obtain ⟨tables, htables, heq, hcut⟩ := priorsOf_eq_ok hblob
  obtain ⟨priors, hload, hrate, htmpl⟩ := loadVdPriors_tables hvocab htables blob.info
  rw [← heq] at hload
  rw [List.map_map] at hrate htmpl
  rw [List.length_map] at htmpl
  exact ⟨records, blob, priors, hrecords, rfl, hcut, hload, hrate, htmpl⟩

end Gates

/-- **The frozen priors are their gates.** For every dump and every tokenizer whose vocabulary is
    injective, and whatever `np.percentile` is: when run_priors returns, the file loads, and at the
    cut it records the rate gate passes an id exactly when its smoothed rate, to four digits,
    reaches 0.12, and the template gate rejects exactly the pairs of valid neighbours that a quarter
    of the answers contain. -/
theorem frozen_gates (sha256 : Digest) (world : World) (args : PrepareArgs)
    (revision : Option String) (tok : Tokenizer) (s : DataDir) (faults : List (Verdict PyError))
    (hvocab : InjectiveVocab tok)
    (hdone : ((runPriors sha256 world args revision tok).run faults s).outcome = .done ()) :
    ∃ records file blob priors, readDump s = .ok records ∧
      ((runPriors sha256 world args revision tok).run faults s).state.priors = some file ∧
      file.content = .complete blob ∧ blob.info.rateCut = some (3 / 25) ∧
      loadVdPriors blob = .ok priors ∧
      RateGate priors (3 / 25)
        (storedRate world.percentile tok (records.map fun r => signals r.1)) ∧
      TemplateGate priors (3 / 25) fun x y => records.length ≤
        4 * answersWithPair tok (records.map fun r => signals r.1) x y := by
  obtain ⟨file, hfile, b, hstate⟩ := (wp_runPriors sha256 world args revision tok s).done hdone
  obtain ⟨records, blob, priors, hrecords, hcontent, hcut, hload, hrate, htmpl⟩ :=
    load_of_priorsFile hvocab hfile
  refine ⟨records, file, blob, priors, hrecords, ?_, hcontent, hcut, hload, rateGate_iff hrate _,
    templateGate_iff htmpl _⟩
  rw [hstate]

/-! ## Just below the cut -/

section Sample

/-- One answer: 767 times the token "red", of which 93 react to the image, and 165 other tokens. -/
def cutRecord : DumpRecord where
  n := 0
  idx := 0
  gt := "red"
  answer := "red"
  question := "What color is the car?"
  tokens := List.replicate 93 ⟨"red", 0, 1, 0⟩ ++
    (List.replicate 674 ⟨"red", 0, 0, 0⟩ ++ List.replicate 165 ⟨"car", 0, 0, 0⟩)

def cutDir : DataDir :=
  { sampleDir (fun _ => "") with dump := some (scoredLines [(cutRecord, sampleOrigin)]) }

theorem sampleTokenizer_injective : InjectiveVocab sampleTokenizer := by
  intro w w' id hw hw'
  have hred : ∀ {v}, sampleTokenizer.vocab.lookup v = some id → v = "red" := by
    intro v hv
    have hmem := lookup_mem hv
    simp [sampleTokenizer] at hmem
    exact hmem.1
  rw [hred hw, hred hw']

/-- `np.percentile` of the sample. -/
def cutPercentile : List ℚ → ℕ → ℚ := sampleWorld.percentile

theorem signals_cutRecord : signals cutRecord = List.replicate 93 ⟨"red", 1, 1⟩ ++
    (List.replicate 674 ⟨"red", 0, 0⟩ ++ List.replicate 165 ⟨"car", 0, 0⟩) := by
  have hzero : dbl 0 = 0 := by decide +kernel
  have hone : dbl 1 = 1 := by decide +kernel
  unfold signals cutRecord
  simp only [List.map_append, List.map_replicate, hzero, hone, sub_zero, abs_one, abs_zero]

/-- A map over the tokens of the answer. -/
theorem map_cut {α : Type} (f : Signal → α) : [signals cutRecord].flatten.map f =
    List.replicate 93 (f ⟨"red", 1, 1⟩) ++
      (List.replicate 674 (f ⟨"red", 0, 0⟩) ++ List.replicate 165 (f ⟨"car", 0, 0⟩)) := by
  rw [List.flatten_singleton, signals_cutRecord]
  simp only [List.map_append, List.map_replicate]

/-- Any statistic of the answer's tokens that only the reacting ones have is zero at the 90th
    percentile. -/
theorem percentile_cut (f : Signal → ℚ) {d : ℚ} (hd : 0 ≤ d) (hhigh : f ⟨"red", 1, 1⟩ = d)
    (hlow : ∀ w, f ⟨w, 0, 0⟩ = 0) :
    cutPercentile ([signals cutRecord].flatten.map f) 90 = 0 := by
  have hmap : [signals cutRecord].flatten.map f = List.replicate 93 d ++ List.replicate 839 0 := by
    rw [map_cut, hhigh, hlow, hlow, List.replicate_append_replicate]
  have hrank : ⌈((90 : ℕ) / 100 : ℚ) * (((93 + 839 : ℕ) : ℚ) - 1)⌉₊ ≤ 838 := by
    apply Nat.ceil_le.mpr
    norm_num
  rw [hmap]
  exact quantile_low hd (Nat.lt_succ_of_le hrank)

theorem selected_cut (w : String) :
    selected cutPercentile [signals cutRecord] ⟨w, 0, 0⟩ = false ∧
      selected cutPercentile [signals cutRecord] ⟨"red", 1, 1⟩ = true := by
  have hdd : batchScale cutPercentile [signals cutRecord] (·.dd) = 1 / 4 := by
    unfold batchScale scale
    rw [percentile_cut (·.dd) zero_le_one rfl fun _ => rfl]
    norm_num
  have heps : batchScale cutPercentile [signals cutRecord] (·.eps) = 1 / 4 := by
    unfold batchScale scale
    rw [percentile_cut (·.eps) zero_le_one rfl fun _ => rfl]
    norm_num
  have hlow : ∀ w, score cutPercentile [signals cutRecord] ⟨w, 0, 0⟩ = 0 := by
    intro w
    unfold score
    rw [hdd, heps]
    exact (by decide +kernel : signalScore (1 / 4) (1 / 4) ⟨"", 0, 0⟩ = 0)
  have hhigh : 0 < score cutPercentile [signals cutRecord] ⟨"red", 1, 1⟩ := by
    unfold score
    rw [hdd, heps]
    decide +kernel
  have hcut : selectionCut cutPercentile [signals cutRecord] = 0 :=
    percentile_cut _ hhigh.le rfl hlow
  unfold selected
  rw [hcut, hlow]
  exact ⟨by simp, decide_eq_true hhigh⟩

theorem tally_cut : (tally cutPercentile [signals cutRecord]).occ "red" = 767 ∧
    (tally cutPercentile [signals cutRecord]).sel "red" = 93 := by
  obtain ⟨hocc, hsel⟩ := tally_eq cutPercentile [signals cutRecord] "red"
  have hflags : flags cutPercentile [signals cutRecord] = List.replicate 93 ("red", true) ++
      (List.replicate 674 ("red", false) ++ List.replicate 165 ("car", false)) := by
    have hone : flags cutPercentile [signals cutRecord] =
        batchFlags cutPercentile [signals cutRecord] := by
      simp [flags, batches, batchSize]
    rw [hone]
    unfold batchFlags
    rw [map_cut, (selected_cut "red").1, (selected_cut "red").2, (selected_cut "car").1]
  rw [hocc, hsel, hflags]
  simp only [List.countP_append, List.countP_replicate]
  exact ⟨rfl, rfl⟩

theorem tokenOf_cut : tokenOf sampleTokenizer [signals cutRecord] 0 = some "red" := by
  unfold tokenOf
  rw [List.flatten_singleton, signals_cutRecord]
  rfl

/-- The rate is 98 / 817, which is below the cut and rounds to it. -/
theorem rates_cut : exactRate cutPercentile sampleTokenizer [signals cutRecord] 0 < 3 / 25 ∧
    3 / 25 ≤ storedRate cutPercentile sampleTokenizer [signals cutRecord] 0 := by
  obtain ⟨hocc, hsel⟩ := tally_cut
  unfold exactRate storedRate smoothedRate
  rw [tokenOf_cut]
  simp only [Option.elim_some, hocc, hsel]
  exact ⟨by norm_num, by decide +kernel⟩

theorem cut_tokens : ∀ r ∈ [(cutRecord, sampleOrigin)], r.1.tokens ≠ [] := by
  intro r hr
  rw [List.mem_singleton.mp hr]
  exact List.cons_ne_nil _ _

theorem priorsFile_cut : ∃ file, priorsFile (fun _ => "") sampleWorld mergeArgs none
    sampleTokenizer cutDir = .ok file :=
  priorsFile_ok (fun _ => "") sampleWorld mergeArgs none sampleTokenizer
    (readDump_scoredLines (s := cutDir) rfl) (by simp) cut_tokens rfl rfl rfl

/-- The priors of this answer, as the gates read them. -/
theorem frozen_gates_sample : ∃ blob priors, loadVdPriors blob = .ok priors ∧
    RateGate priors (3 / 25) (storedRate cutPercentile sampleTokenizer [signals cutRecord]) := by
  obtain ⟨file, hfile⟩ := priorsFile_cut
  obtain ⟨faults, hdone, -⟩ := (finishes_runPriors hfile).run
  obtain ⟨records, -, blob, priors, hrecords, -, -, -, hload, hrate, -⟩ :=
    frozen_gates (fun _ => "") sampleWorld mergeArgs none sampleTokenizer cutDir faults
      sampleTokenizer_injective hdone
  cases (readDump_scoredLines (s := cutDir) rfl).symm.trans hrecords
  exact ⟨blob, priors, hload, hrate⟩

/-- The stored rate passes "red", whose rate does not reach the cut. -/
theorem rate_gate_not_exact : ¬∀ (sha256 : Digest) (world : World) (args : PrepareArgs)
    (revision : Option String) (tok : Tokenizer) (s : DataDir) (faults : List (Verdict PyError)),
    InjectiveVocab tok →
    ((runPriors sha256 world args revision tok).run faults s).outcome = .done () →
      ∀ records file blob priors, readDump s = .ok records →
        ((runPriors sha256 world args revision tok).run faults s).state.priors = some file →
        file.content = .complete blob → loadVdPriors blob = .ok priors →
        RateGate priors (3 / 25)
          (exactRate world.percentile tok (records.map fun r => signals r.1)) := by
  intro h
  obtain ⟨file, hfile⟩ := priorsFile_cut
  obtain ⟨faults, hdone, hstate⟩ := (finishes_runPriors hfile).run
  obtain ⟨records, blob, priors, hrecords, hcontent, -, hload, hstored, -⟩ :=
    load_of_priorsFile sampleTokenizer_injective hfile
  have hgate := h (fun _ => "") sampleWorld mergeArgs none sampleTokenizer cutDir faults
    sampleTokenizer_injective hdone records file blob priors hrecords (by rw [hstate]) hcontent
    hload
  cases (readDump_scoredLines (s := cutDir) rfl).symm.trans hrecords
  -- one response of one token, "red"
  have hexact := hgate 1 1 (fun _ => 0) (fun _ => true) (0, 0) rfl
  have hpass := rateGate_iff hstored (3 / 25) 1 1 (fun _ => 0) (fun _ => true) (0, 0) rfl
  obtain ⟨hbelow, hreach⟩ := rates_cut
  exact absurd (hexact.mp (hpass.mpr hreach)) (not_le.mpr hbelow)

end Sample

end LookAway.Priors
