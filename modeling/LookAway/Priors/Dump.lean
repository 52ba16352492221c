/-
  Stage 1 of prepare_priors.py: the three-view token dump, its shards and their merge.
-/
import Mathlib.Algebra.Field.Rat
import LookAway.Base.BinaryFloat
import LookAway.Data.Launch
import LookAway.Data.BuildTrainset

namespace LookAway.Priors

open LookAway.Base LookAway.Base.Script LookAway.Data

/-! ## Rows and records -/

/-- `range(shard, total, num_shards)`, after the checks of the shard spec. -/
def shardRowIndices (total : ℕ) (shard numShards : ℤ) : Except PyError (List ℕ) :=
  if numShards < 1 then .error (.valueError "--num-shards must be >= 1")
  else if ¬(0 ≤ shard ∧ shard < numShards) then
    .error (.valueError ("--shard must be in [0, " ++ intText numShards ++ ")"))
  else
    let step := numShards.toNat
    .ok (List.range' shard.toNat ((total - shard.toNat + step - 1) / step) step)

/-- Keep rollout token ids, without the special tokens at the end. -/
def generatedAnswerIds (generated special : List ℕ) : List ℕ :=
  (generated.reverse.dropWhile (special.contains ·)).reverse

/-- The positions `find_answer_start` tries, last first. -/
def answerStarts (inputLength answerLength : ℕ) : List ℕ :=
  if inputLength < answerLength then []
  else
    let last := inputLength - answerLength
    (List.range' (last - 16) (last - (last - 16) + 1)).reverse

def findAnswerStart (inputIds answerIds : List ℕ) : Except PyError ℕ :=
  if answerIds = [] then .error (.valueError "Cannot score an empty generated answer.")
  else
    match (answerStarts inputIds.length answerIds.length).find? fun start =>
        (inputIds.drop start).take answerIds.length == answerIds with
    | some start => .ok start
    | none => .error (.valueError
        "Generated answer token IDs were not found in the templated scoring input.")

/-- `round(x, 4)`, of the double closest to `x`. The result is the decimal that is written for
    it. -/
def round4 (x : ℚ) : ℚ := roundHalfEven (dbl x * 10000) / 10000

-- the double is below 0.04375
example : round4 (7 / 160) = 437 / 10000 := by decide +kernel

/-- `text.replace(pattern, "", 1)`. -/
def removeFirst (pattern : List Char) : List Char → List Char
  | [] => []
  | c :: cs => if pattern.isPrefixOf (c :: cs) then (c :: cs).drop pattern.length
      else c :: removeFirst pattern cs

def questionText (question : String) : String :=
  String.ofList (removeFirst "<image>".toList question.toList)

/-! ## Scoring one row -/

/-- The settings of a dump process. -/
structure DumpArgs where
  modelPath : String
  modelRevision : Option String
  tokenizer : Tokenizer
  model : VisionModel
  chatTemplate : String
  templateText : Option String
  limit : ℤ
  numShards : ℤ
  shard : ℤ

/-- `build_inputs`: the image, and the input ids of the prompt and the answer. -/
def buildInputs (args : DumpArgs) (s : DataDir) (path : Path) (question : String)
    (answer : List ℕ) : Except PyError (Bytes × List ℕ) := do
  let template ← openFile args.chatTemplate args.templateText
  let image ← s.openImage path
  let prompt ← args.model.promptIds image (questionText question) template
  return (image, prompt ++ answer)

/-- The log-probabilities of the answer tokens under one view. -/
def scoreView (args : DumpArgs) (s : DataDir) (path : Path) (question : String) (answer : List ℕ)
    (i : ℕ) (tag : String) : Except PyError (List ℚ) := do
  let inputs ← buildInputs args s path question answer
  let ids := inputs.2
  match findAnswerStart ids answer with
  | .error _ => .error (.valueError ("Unable to align answer tokens for row " ++ intText i ++
      ", view " ++ tag ++ "."))
  | .ok start =>
      -- row -1 of the logits is their last row
      .ok ((List.range' start answer.length).map fun t =>
        args.model.logSoftmax inputs.1 ids (if t = 0 then ids.length - 1 else t - 1) (ids.getD t 0))

/-- The images of the three views of a row. -/
structure Views where
  student : Path
  pos : Path
  neg : Path

def rowViews (root : Path) (row : SourceRow) (i : ℕ) : Except PyError Views := do
  let image ← first "images" row.images
  let teacher ← first "teacher_images" row.teacherImages
  return {
    student := resolvePath root image
    pos := resolvePath root teacher
    neg := negativePath root i }

/-- The greedy answer from the student view. -/
def rollout (args : DumpArgs) (s : DataDir) (row : SourceRow) (question : String) :
    Except PyError (List ℕ) := do
  let studentImage ← first "images" row.images
  let inputs ← buildInputs args s (resolvePath s.root.1 studentImage) question []
  return generatedAnswerIds (args.model.generate inputs.1 inputs.2) args.tokenizer.allSpecialIds

/-- The record of row `i`, or nothing when the model generated no content tokens. Its number `n`
    is filled in when it is written. -/
def scoreRow (args : DumpArgs) (s : DataDir) (row : SourceRow) (i : ℕ) :
    Except PyError (Option DumpRecord) := do
  let question ← require "problem" row.problem
  let answer ← rollout args s row question
  if answer = [] then return none
  else do
    let views ← rowViews s.root.1 row i
    let student ← scoreView args s views.student question answer i "student"
    let pos ← scoreView args s views.pos question answer i "pos"
    let neg ← scoreView args s views.neg question answer i "neg"
    return some {
      n := 0
      idx := i
      gt := row.answer.getD ""
      answer := args.tokenizer.decode answer
      question := String.ofList (question.toList.take 100)
      tokens := (List.range answer.length).map fun j => {
        tok := args.tokenizer.tokenText (answer.getD j 0)
        lpS := round4 (student.getD j 0)
        dPlus := round4 (pos.getD j 0 - student.getD j 0)
        dMinus := round4 (neg.getD j 0 - student.getD j 0) } }

/-! ## run_dump -/

/-- The dump file a process writes: a part of a sharded dump, or the whole dump. -/
def DumpArgs.part? (args : DumpArgs) : Option ℕ :=
  if 1 < args.numShards then some args.shard.toNat else none

def getDump (s : DataDir) : Option ℕ → Option (List Scored)
  | none => s.dump
  | some k => s.part k

def setDump (lines : Option (List Scored)) (s : DataDir) : Option ℕ → DataDir
  | none => { s with dump := lines }
  | some k => { s with part := Function.update s.part k lines }

def incompleteManifest : PyError := .valueError
  "dataset_generation_manifest.json is incomplete or was not generated by the aligned v2 pipeline"

/-- `results` is a complete v2 manifest for `n` rows. -/
def AlignedManifest (results : List ResultRecord) (n : ℕ) : Prop :=
  results.map (·.idx) = List.range n ∧
    ∀ r ∈ results, r.ok = true ∧ r.generationVersion = some "2.0.0"

instance (results : List ResultRecord) (n : ℕ) : Decidable (AlignedManifest results n) :=
  inferInstanceAs (Decidable (_ ∧ _))

def missingManifest : PyError := .fileNotFound
  "dataset_generation_manifest.json is required; run scripts/build_trainset.py first"

/-- The rows a dump runs over and the indices of this process. -/
def dumpPlan (args : DumpArgs) (s : DataDir) : Except PyError (List SourceRow × List ℕ) := do
  let allRows ← readRows s
  let manifest ← s.manifest.elim (.error missingManifest) .ok
  let results ← manifest.parse
  if AlignedManifest results allRows.length then do
    let rows := if 0 < args.limit then allRows.take args.limit.toNat else allRows
    let targets ← shardRowIndices rows.length args.shard args.numShards
    return (rows, targets)
  else .error incompleteManifest

/-- Where the records of this process come from. -/
def DumpArgs.origin (args : DumpArgs) (s : DataDir) : Origin where
  generation := s.generation
  view := s.view
  modelPath := args.modelPath
  modelRevision := args.modelRevision
  tokenizer := args.tokenizer.payload
  chatTemplate := args.templateText.getD ""
  numShards := args.numShards.toNat
  shard := args.shard.toNat

def appendScored (part? : Option ℕ) (line : DumpLine) (origin : Origin) (s : DataDir) : DataDir :=
  setDump ((getDump s part?).map (· ++ [⟨line, origin⟩])) s part?

/-- Append a record with the next number, and flush it. -/
def writeRecord (part? : Option ℕ) (record : DumpRecord) (origin : Origin) : Py Unit :=
  let numbered (s : DataDir) := { record with n := ((getDump s part?).getD []).length }
  write (fun s => appendScored part? (.record (numbered s)) origin s)
    (fun k s => if k = 0 then s else appendScored part? (.torn (numbered s) k) origin s)

/-- The record of row `i`, if it has one. -/
def rowRecord (args : DumpArgs) (rows : List SourceRow) (s : DataDir) (i : ℕ) :
    Except PyError (Option DumpRecord) := do
  let row ← (rows[i]?).elim (.error .indexError) .ok
  scoreRow args s row i

def dumpRow (args : DumpArgs) (rows : List SourceRow) (i : ℕ) : Py Unit := do
  let scored ← read fun s => do
    let record ← rowRecord args rows s i
    return (record, args.origin s)
  match scored.1 with
  | none => pure ()
  | some record => writeRecord args.part? record scored.2

def runDump (args : DumpArgs) : Py Unit := do
  let plan ← read (dumpPlan args)
  atomic fun s => setDump (some []) s args.part?
  forEach plan.2 (dumpRow args plan.1)

/-! ## Merging the shards -/

/-- The records of one part, without the blank lines. -/
def partRecords : List Scored → Except PyError (List (DumpRecord × Origin))
  | [] => .ok []
  | scored :: rest =>
      match scored.line with
      | .blank => partRecords rest
      | line => do
          let record ← loadsDumpLine line
          return (record, scored.origin) :: (← partRecords rest)

/-- The records of the parts `ks`, in their order. -/
def readParts (s : DataDir) : List ℕ → Except PyError (List (DumpRecord × Origin))
  | [] => .ok []
  | k :: ks => do
      let lines ← (s.part k).elim (.error (.systemExit
        ("Missing shard output teacher_posneg_token_scores.jsonl.part" ++ zeroPadded 3 k))) .ok
      let records ← partRecords lines
      return records ++ (← readParts s ks)

/-- `merge_dump_records`: the original row order, renumbered. -/
def mergeDumpRecords (records : List (DumpRecord × Origin)) : List (DumpRecord × Origin) :=
  (records.mergeSort fun a b => decide (a.1.idx ≤ b.1.idx)).mapIdx fun n r =>
    ({ r.1 with n := n }, r.2)

/-- The lines of a dump with these records. -/
def scoredLines (records : List (DumpRecord × Origin)) : List Scored :=
  records.map fun r => ⟨.record r.1, r.2⟩

def markFreqTableStale : Py Unit := atomic markFreqCountsStale

def mergeShards (mergeShards : ℕ) : Py Unit := do
  let records ← read fun s => readParts s (List.range mergeShards)
  let merged := mergeDumpRecords records
  -- the merged dump is written under a temporary name
  atomic id
  atomic fun s => { s with dump := some (scoredLines merged) }
  forEach (List.range mergeShards) fun k =>
    atomic fun s => { s with part := Function.update s.part k none }
  markFreqTableStale

end LookAway.Priors
