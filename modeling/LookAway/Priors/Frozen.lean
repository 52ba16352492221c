/-
  Stage 2 of prepare_priors.py: the frozen priors from a token dump, and main.

  `frozenTables` is the computation on the records, in double precision; `np.percentile` is a
  parameter. `runPriors` adds the meta block and publishes the file.
-/
import LookAway.Priors.Dump

namespace LookAway.Priors

open LookAway.Base LookAway.Base.Script LookAway.Data

/-! ## The selection -/

/-- A token as stage 2 reads it: its text, `|d_plus - d_minus|` and `|d_plus|`. -/
structure Signal where
  tok : String
  dd : ℚ
  eps : ℚ

/-- The numbers of a record are decimals, which are read as doubles. -/
def signals (record : DumpRecord) : List Signal :=
  record.tokens.map fun t => ⟨t.tok, |dbl (dbl t.dPlus - dbl t.dMinus)|, |dbl t.dPlus|⟩

def batchSize : ℕ := 16

/-- `recs[b : b + BATCH]` for `b` in `range(0, N, BATCH)`. -/
def batches {α : Type} (recs : List α) : List (List α) :=
  (List.range ((recs.length + batchSize - 1) / batchSize)).map fun b =>
    (recs.drop (b * batchSize)).take batchSize

section Select

variable (percentile : List ℚ → ℕ → ℚ)

/-- `max(np.percentile(xs, 90), 0.25)`. -/
def scale (xs : List ℚ) : ℚ := max (percentile xs 90) (1 / 4)

/-- `dd / (dd + d) * eps / (eps + e)`. -/
def signalScore (d e : ℚ) (t : Signal) : ℚ :=
  dbl (dbl (dbl (t.dd / dbl (t.dd + d)) * t.eps) / dbl (t.eps + e))

/-- The tokens of a batch, each with whether it passes the dual-signal cut. The percentile of no
    values is an IndexError. -/
def selectBatch (batch : List (List Signal)) : Except PyError (List (String × Bool)) :=
  let tokens := batch.flatten
  if tokens = [] then .error .indexError
  else
    let dd := tokens.map (·.dd)
    let eps := tokens.map (·.eps)
    let score := tokens.map (signalScore (scale percentile dd) (scale percentile eps))
    let thr := percentile score 90
    .ok (List.zipWith (fun t s => (t.tok, decide (thr < s))) tokens score)

end Select

/-- The keys of a dict that is filled in the order of `keys`. -/
def firstSeen {α : Type} [BEq α] (keys : List α) : List α := keys.eraseDups

/-- `(sel + ALPHA * BASE) / (occ + ALPHA)`, with `ALPHA = 50.0` and `BASE = 0.10`. -/
def smoothed (sel occ : ℕ) : ℚ :=
  dbl (dbl (dbl sel + dbl (50 * dbl (1 / 10))) / dbl (dbl occ + 50))

/-- The smoothed selection rate of each token. -/
def selectionRate (flagged : List (String × Bool)) : List (String × ℚ) :=
  (firstSeen (flagged.map (·.1))).map fun w =>
    let occ := (flagged.filter (·.1 == w)).length
    let sel := (flagged.filter fun f => f.1 == w && f.2).length
    (w, smoothed sel occ)

/-! ## Template bigrams -/

def bigrams (ts : List Signal) : List (String × String) :=
  (ts.map (·.tok)).zip ((ts.map (·.tok)).drop 1)

/-- The bigrams whose document frequency reaches `TMPL_DF_CUT = 0.25`. As a double the quotient
    reaches it in the same cases: no dump has the 2 ^ 54 records it would take to round it up. -/
def templatePairs (recs : List (List Signal)) : List (String × String) :=
  (firstSeen (recs.flatMap bigrams)).filter fun bg =>
    let docs := (recs.filter fun ts => (bigrams ts).contains bg).length
    decide ((1 / 4 : ℚ) ≤ (docs : ℚ) / (recs.length : ℚ))

/-! ## Token ids -/

/-- `convert_tokens_to_ids`: the vocabulary, or the id of the unknown token. -/
def convertTokensToIds (tok : Tokenizer) (w : String) : Option ℕ :=
  tok.vocab.lookup w <|> tok.unkTokenId

def toId (tok : Tokenizer) (w : String) : Option ℕ :=
  (convertTokensToIds tok w).filter fun tid => tok.unkTokenId ≠ some tid

/-- `d[key] = value`. -/
def setKey {β : Type} (d : List (ℕ × β)) (key : ℕ) (value : β) : List (ℕ × β) :=
  if d.any (·.1 == key) then d.map fun e => if e.1 = key then (key, value) else e
  else d ++ [(key, value)]

def rateIds (tok : Tokenizer) (rate : List (String × ℚ)) : List (ℕ × ℚ) :=
  rate.foldl (fun acc e => match toId tok e.1 with
    | none => acc
    | some tid => setKey acc tid (round4 e.2)) []

def missed (tok : Tokenizer) (rate : List (String × ℚ)) : ℕ :=
  (rate.filter fun e => (toId tok e.1).isNone).length

def tmplIds (tok : Tokenizer) (pairs : List (String × String)) : List (ℕ × ℕ) :=
  pairs.filterMap fun bg => do
    let p ← toId tok bg.1
    let c ← toId tok bg.2
    return (p, c)

/-! ## run_priors -/

/-- The id-keyed tables and the number of tokens without an id. -/
structure FrozenTables where
  rate : List (ℕ × ℚ)
  tmpl : List (ℕ × ℕ)
  miss : ℕ

def emptyDump : PyError := .valueError "Token dump is empty; cannot build LookAway priors."

def frozenTables (percentile : List ℚ → ℕ → ℚ) (tok : Tokenizer) (records : List DumpRecord) :
    Except PyError FrozenTables := do
  let recs := records.map signals
  if recs = [] then .error emptyDump
  else do
    let flagged ← (batches recs).mapM (selectBatch percentile)
    let rate := selectionRate flagged.flatten
    return {
      rate := rateIds tok rate
      tmpl := tmplIds tok (templatePairs recs)
      miss := missed tok rate }

/-- The command line of prepare_priors.py; a missing `--model-revision` and an empty one are the
    same to it. -/
structure PrepareArgs where
  modelPath : String
  modelRevision : Option String
  limit : ℤ
  chatTemplate : String
  numShards : ℤ
  shard : ℤ
  mergeShards : ℤ

/-- The text of the chat template, if its file exists. -/
def PrepareArgs.templateText (args : PrepareArgs) (world : World) : Option String :=
  if args.chatTemplate = "" then none else world.templateText args.chatTemplate

section Main

variable (sha256 : Digest) (world : World)

/-- The hash of the chat template, or nothing without one. -/
def templateHash (args : PrepareArgs) : Except PyError (Option String) :=
  if args.chatTemplate = "" then .ok none
  else do
    let text ← openFile args.chatTemplate (args.templateText world)
    return some (sha256 (.template text))

/-- The priors of the records of a dump, with the meta block. -/
def priorsOf (args : PrepareArgs) (revision : Option String) (tok : Tokenizer)
    (records : List DumpRecord) (s : DataDir) : Except PyError Priors := do
  let tables ← frozenTables world.percentile tok records
  let template ← templateHash sha256 world args
  let manifest ← openFile "dataset_generation_manifest.json" s.manifest
  let parquet ← openFile "trainset_clean.parquet" s.parquet
  return {
    rate := tables.rate
    tmpl := tables.tmpl
    info := {
      nSamples := some records.length
      modelPath := some args.modelPath
      modelRevision := revision
      tokenizerNameOrPath := tok.nameOrPath
      tokenizerVocabSize := tok.vocabSize
      tokenizerSha256 := some (tokenizerFingerprint sha256 tok)
      chatTemplate := if args.chatTemplate = "" then none
        else some (world.abspath args.chatTemplate)
      chatTemplateSha256 := template
      generationResultsSha256 := some (sha256 (.manifest manifest))
      trainParquetSha256 := some (sha256 (.parquet parquet.content))
      alpha := some 50
      base := some (1 / 10)
      tmplDfCut := some (1 / 4)
      rateCut := some (3 / 25)
      nRate := some tables.rate.length
      nTmpl := some tables.tmpl.length
      idMiss := some tables.miss } }

/-- The records of a dump file and where they come from. -/
def readDump (s : DataDir) : Except PyError (List (DumpRecord × Origin)) := do
  let lines ← openFile "teacher_posneg_token_scores.jsonl" s.dump
  lines.mapM fun scored => do
    let record ← loadsDumpLine scored.line
    return (record, scored.origin)

/-- The file run_priors publishes. -/
def priorsFile (args : PrepareArgs) (revision : Option String) (tok : Tokenizer) (s : DataDir) :
    Except PyError PriorsFile := do
  let records ← readDump s
  let priors ← priorsOf sha256 world args revision tok (records.map (·.1)) s
  return {
    content := .complete priors
    source := records.map fun r => (r.1.idx, r.2) }

def runPriors (args : PrepareArgs) (revision : Option String) (tok : Tokenizer) : Py Unit := do
  let file ← read (priorsFile sha256 world args revision tok)
  tryFinally
    (do
      atomic fun s => { s with temp := true }
      atomic id
      atomic fun s => { s with temp := false, priors := some file })
    removeTemp

/-! ## main -/

/-- The revision and the tokenizer main loads first. -/
def loadTokenizer (args : PrepareArgs) : Except PyError (Option String × Tokenizer) := do
  let revision ← modelRevision world args.modelPath (args.modelRevision.getD "")
  let tok ← world.fromPretrained args.modelPath revision
  return (revision, tok)

def PrepareArgs.dumpArgs (args : PrepareArgs) (revision : Option String) (tok : Tokenizer)
    (model : VisionModel) : DumpArgs where
  modelPath := args.modelPath
  modelRevision := revision
  tokenizer := tok
  model := model
  chatTemplate := args.chatTemplate
  templateText := args.templateText world
  limit := args.limit
  numShards := args.numShards
  shard := args.shard

/-- main without `--merge-shards`. -/
def dumpBranch (args : PrepareArgs) (revision : Option String) (tok : Tokenizer) : Py Unit := do
  let model ← read fun _ => world.loadModel args.modelPath revision
  runDump (args.dumpArgs world revision tok model)
  if 1 < args.numShards then pure ()
  else do
    markFreqTableStale
    runPriors sha256 world args revision tok

def mergeBranch (args : PrepareArgs) (revision : Option String) (tok : Tokenizer) : Py Unit := do
  mergeShards args.mergeShards.toNat
  runPriors sha256 world args revision tok

def prepareMain (args : PrepareArgs) : Py Unit := do
  let loaded ← read fun _ => loadTokenizer world args
  if 0 < args.mergeShards then mergeBranch sha256 world args loaded.1 loaded.2
  else dumpBranch sha256 world args loaded.1 loaded.2

end Main

end LookAway.Priors
