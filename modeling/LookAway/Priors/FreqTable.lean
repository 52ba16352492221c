/-
  build_freq_table.py: the frequency table of the tokens of a dump.
-/
import LookAway.Data.BuildTrainset
import LookAway.Priors.Frozen

namespace LookAway.Priors

open LookAway.Base LookAway.Base.Script LookAway.Data

structure FreqArgs where
  modelPath : String
  modelRevision : Option String

/-- `args.model_revision` after parse_args. -/
def parsedRevision (world : World) (args : FreqArgs) : Except PyError (Option String) :=
  match args.modelRevision with
  | some revision => .ok (some revision)
  | none =>
      if args.modelPath = defaultModelPath then .ok (some defaultModelRevision)
      else if world.pathExists args.modelPath then .ok none
      else .error (.systemExit "--model-revision is required for a non-default remote model")

/-! ## Counting -/

/-- `counts[token_id] = counts.get(token_id, 0) + 1`. -/
def countToken (counts : List (ℕ × ℕ)) (id : ℕ) : List (ℕ × ℕ) :=
  setKey counts id ((counts.lookup id).getD 0 + 1)

def unknownToken (token : String) (idx : ℕ) : PyError := .systemExit
  ("Token " ++ Json.quote token ++ " (row idx=" ++ intText idx ++ ") is not in the " ++
    "tokenizer vocabulary; the dump and the tokenizer do not match.")

/-- The ids of the tokens of a record; an unknown token is an error. -/
def recordIds (tok : Tokenizer) (record : DumpRecord) : Except PyError (List ℕ) :=
  record.tokens.mapM fun t => (tok.vocab.lookup t.tok).elim
    (.error (unknownToken t.tok record.idx)) .ok

/-- The ids of all the tokens of a dump, line by line, and the number of its records. -/
def dumpIds (tok : Tokenizer) : List Scored → Except PyError (List ℕ)
  | [] => .ok []
  | scored :: rest => do
      let record ← loadsDumpLine scored.line
      let ids ← recordIds tok record
      return ids ++ (← dumpIds tok rest)

/-! ## main -/

section Main

variable (sha256 : Digest) (world : World)

/-- The table of a dump. -/
def freqPayload (modelPath : String) (revision : Option String) (tok : Tokenizer)
    (dump : List Scored) (ids : List ℕ) : Json :=
  let counts := ids.foldl countToken []
  .obj [
    ("meta", .obj [
      ("schema_version", .int 1),
      ("model_path", .str modelPath),
      ("model_revision", textOf revision),
      ("tokenizer_sha256", .str (tokenizerFingerprint sha256 tok)),
      ("vocab_size", .int tok.size),
      ("token_dump_sha256", .str (sha256 (.dump (dumpLines dump)))),
      ("n_samples", .int dump.length),
      ("n_token_instances", .int ids.length),
      ("kappa", .int 50)]),
    ("vocab_size", .int tok.size),
    ("counts", .obj (counts.map fun c => (intText c.1, .int c.2)))]

/-- The table main writes. -/
def freqTable (args : FreqArgs) (s : DataDir) : Except PyError Json := do
  let parsed ← parsedRevision world args
  match s.dump with
  | none => .error (.systemExit ("Missing teacher_posneg_token_scores.jsonl -- run " ++
      "scripts/prepare_priors.py first."))
  | some dump =>
      let revision := if world.pathExists args.modelPath then none else parsed
      let tok ← world.fromPretrained args.modelPath revision
      let ids ← dumpIds tok dump
      if ids = [] then
        .error (.systemExit "Token dump is empty; cannot build the frequency table.")
      else .ok (freqPayload sha256 args.modelPath revision tok dump ids)

def freqMain (args : FreqArgs) : Py Unit := do
  let payload ← read (freqTable sha256 world args)
  atomic fun s => { s with temp := true }
  tryExcept
    (do
      atomic id
      atomic fun s => { s with temp := false, freqCounts := some (.complete payload) })
    (fun _ => true)
    fun e => do
      removeTemp
      raise e

end Main

end LookAway.Priors
