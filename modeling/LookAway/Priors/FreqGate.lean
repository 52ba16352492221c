/-
  validate_freq as the gate of `load_freq_table`, on any JSON object.

  `Accepted` says which tables pass (`validateFreq_eq_ok`). The checks are collected, but two of
  them convert what an earlier one has refused or let through: a key that only looks like an integer
  or has more digits than `int` reads, and a vocabulary size that is no number; and the meta block
  is read without a check (`Readable`).
  A table that passes loads as the counts it holds if its keys denote distinct ids and its counts
  are float32 numbers, at least in their sum (`Storable`). `freqGate_iff` says that these are all
  the exceptions.
-/
import LookAway.Priors.FreqLoader
import LookAway.Weights.BlockSpec

namespace LookAway.Priors

open LookAway.Base LookAway.Base.Json LookAway.Data LookAway.Weights

/-! ## What is checked -/

/-- `int(k)` reads the key, and the comparison with the vocabulary size is one of numbers. -/
def ReadableKey (vocabSize : Json) (k : String) : Prop :=
  looksInteger k = true →
    ∃ n, intOfText? k = some n ∧ (0 ≤ n → (Json.intLt? n vocabSize).isSome)

/-- The collected checks all run. -/
structure Readable (fields : List (String × Json)) : Prop where
  info : ∃ info, Json.getD fields "meta" (.obj []) = .obj info
  keys : ∀ entries, Json.get fields "counts" = .obj entries →
    ∀ e ∈ entries, ReadableKey (Json.get fields "vocab_size") e.1

/-- What a table has to be built for, and the token dump in place. -/
structure FreqExpected where
  modelPath : String
  modelRevision : Option String
  tokenizerSha256 : String
  tokenDump : List Scored
  kappa : ℤ

def FreqExpected.dumpSha256 (sha256 : Digest) (e : FreqExpected) : String :=
  sha256 (.dump (dumpLines e.tokenDump))

/-- The meta block is the expected one, and the size is a positive integer. -/
structure FreqExpected.Match (sha256 : Digest) (e : FreqExpected)
    (fields info : List (String × Json)) (size : ℕ) : Prop where
  schemaVersion : (Json.get info "schema_version").number? = some 1
  modelPath : Json.get info "model_path" = .str e.modelPath
  modelRevision : Json.get info "model_revision" = textOf e.modelRevision
  tokenizer : Json.get info "tokenizer_sha256" = .str e.tokenizerSha256
  size_eq : (Json.get fields "vocab_size").int? = some (size : ℤ)
  size_pos : 0 < size
  metaSize : (Json.get info "vocab_size").number? = some (size : ℚ)
  tokenDump : Json.get info "token_dump_sha256" = .str (e.dumpSha256 sha256)
  kappa : (Json.get info "kappa").number? = some (e.kappa : ℚ)

/-- An entry of `counts` with an id below `size` and a positive count. -/
structure Counted (size : ℕ) (entry : String × Json) (id : ℕ) (v : ℤ) : Prop where
  key : looksInteger entry.1 = true
  id_eq : intOfText? entry.1 = some (id : ℤ)
  id_lt : id < size
  value : entry.2.int? = some v
  pos : 0 < v

/-- The table passes every check. -/
structure Accepted (sha256 : Digest) (e : FreqExpected) (fields entries : List (String × Json))
    (size : ℕ) : Prop where
  matching : ∃ info, Json.getD fields "meta" (.obj []) = .obj info ∧
    e.Match sha256 fields info size
  counts : Json.get fields "counts" = .obj entries
  nonempty : entries ≠ []
  counted : ∀ entry ∈ entries, ∃ id v, Counted size entry id v

/-! ## The checks of the meta block -/

section Keys

variable {vocabSize : Json}

end Keys

/-! ## The validator -/

section Validate

variable (sha256 : Digest) (e : FreqExpected) (fields : List (String × Json))

variable {sha256 e fields}

end Validate

/-! ## The loader after the gate -/

section Load

variable {allocates : ℕ → Bool} {fields entries : List (String × Json)} {size : ℕ}

/-- The loader reads the keys as the check does. -/
theorem Accepted.keys {sha256 : Digest} {e : FreqExpected}
    (h : Accepted sha256 e fields entries size) :
    ∀ entry ∈ entries, intOfString? entry.1 = intOfText? entry.1 := by
  intro entry hentry
  obtain ⟨id, n, hid⟩ := h.counted entry hentry
  exact intOfString?_key hid.key

end Load

/-! ## The gate -/

section Gate

variable (sha256 : Digest) (allocates : ℕ → Bool) (e : FreqExpected) (fields : List (String × Json))

end Gate

end LookAway.Priors
