/-
  eval/infer.py: the answers of a benchmark, one JSON record a line, with a checkpoint that a later
  run continues.

  A run compacts the answer file (`resume`), appends a record for each item that has no successful
  one, in the order in which the calls complete, and compacts the file again (`finish`). Files are
  byte strings, and `Step` writes one byte at a time, so that a kill leaves any prefix.
-/
import LookAway.Base.JsonText
import LookAway.Base.KeyedLog
import LookAway.Base.Utf8
import LookAway.Data.Rows

namespace LookAway.Eval

open LookAway.Base LookAway.Base.Json LookAway.Data

abbrev Fields := List (String × Json)

/-- A dict of the benchmark. -/
abbrev Dict := { fields : Fields // Json.WellFormed (.obj fields) }

/-- Errors the evaluation scripts can raise. -/
inductive EvalError where
  | attributeError (name : String)
  | typeError
  | keyError (key : String)
  | indexError
  | unicodeDecodeError
  | unicodeEncodeError
  | valueError
  | zeroDivisionError
  | importError
  | openaiError
  | vllmError
  | systemExit (text : String)
  deriving DecidableEq

/-! ## Sample uids -/

/-- `str(v)`. -/
def pyStr : Json → String
  | .str s => s
  | v => v.text

/-- `v or default`, as a test of `v`. -/
def truthy : Json → Bool
  | .null => false
  | .bool b => b
  | .int n => n != 0
  | .float _ value => value != some 0
  | .str s => s != ""
  | .arr items => !items.isEmpty
  | .obj fields => !fields.isEmpty

mutual
/-- The order in which `sort_keys` writes an object. -/
def sortKeys : Json → Json
  | .arr items => .arr (sortItems items)
  | .obj fields => .obj ((sortFields fields).mergeSort fun a b => decide (a.1 ≤ b.1))
  | v => v

def sortItems : List Json → List Json
  | [] => []
  | v :: vs => sortKeys v :: sortItems vs

def sortFields : Fields → Fields
  | [] => []
  | (k, v) :: fs => (k, sortKeys v) :: sortFields fs
end

def uidKeys : List String := ["sample_uid", "uid", "index", "question_id", "id"]

/-- The first key with a value that is not empty. -/
def uidOfKey (item : Fields) (benchmark key : String) : Option String :=
  match get item key with
  | .null => none
  | value => if pyStr value = "" then none else some (benchmark ++ ":" ++ key ++ ":" ++ pyStr value)

/-- `stable_obj`. -/
def stableObj (item : Fields) (benchmark : String) : Json :=
  let images := get item "images"
  .obj [("benchmark", .str benchmark), ("images", if truthy images then images else .arr []),
    ("query", getD item "query" (.str ""))]

section Uid

variable (sha1 : List UInt8 → String)

def makeSampleUid (item : Fields) (benchmark : String) : String :=
  match uidKeys.findSome? (uidOfKey item benchmark) with
  | some uid => uid
  | none => "sha1:" ++ sha1 (utf8 (dumps (sortKeys (stableObj item benchmark))))

/-- `record.get("sample_uid") or make_sample_uid(record, benchmark)`. infer.py writes a text
    there; another value stands for its text. -/
def recordUid (record : Fields) (benchmark : String) : String :=
  let uid := get record "sample_uid"
  if truthy uid then pyStr uid else makeSampleUid sha1 record benchmark

end Uid

/-! ## The checkpoint -/

/-- `text.startswith(pattern)`. -/
def startsWith (pattern text : String) : Bool := pattern.toList.isPrefixOf text.toList

def shouldRetryExistingRecord (item : Fields) : Bool :=
  match get item "model_answer" with
  | .str answer =>
      let answer := strip answer
      if answer = "" then true
      else startsWith "[API_ERROR]" answer || startsWith "[FUTURE_ERROR]" answer
  | _ => true

/-- Universal newlines: `\r\n` and `\r` are read as `\n`. -/
def universalNewlines : List Char → List Char
  | [] => []
  | '\r' :: '\n' :: cs => '\n' :: universalNewlines cs
  | '\r' :: cs => '\n' :: universalNewlines cs
  | c :: cs => c :: universalNewlines cs

/-- The lines of a text; the end of the last one may be missing. -/
def splitLines : List Char → List (List Char)
  | [] => []
  | c :: cs =>
      if c = '\n' then [] :: splitLines cs
      else
        match splitLines cs with
        | [] => [[c]]
        | line :: lines => (c :: line) :: lines

/-- `for line in f`, of a file opened with `encoding="utf-8"`. -/
def fileLines (bytes : List UInt8) : Except EvalError (List (List Char)) :=
  match decodeUtf8 bytes with
  | some text => .ok (splitLines (universalNewlines text))
  | none => .error .unicodeDecodeError

section Checkpoint

variable (sha1 : List UInt8 → String) (benchmark : String)

/-- One line of the checkpoint. A text with a lone surrogate, which UTF-8 cannot encode, has no
    value here: its line fails at once, and not where the text is hashed or written. -/
def compactLine (kept : Kept String Fields) (line : List Char) :
    Except EvalError (Kept String Fields) :=
  let line := (strip (String.ofList line)).toList
  if line = [] then .ok { kept with changed := true }
  else
    match loads line with
    | none =>
        if hasLoneSurrogate line then .error .unicodeEncodeError
        else .ok { kept with changed := true }
    | some (.obj record) =>
        let uid := recordUid sha1 record benchmark
        .ok (keep shouldRetryExistingRecord kept uid (setField record "sample_uid" (.str uid)))
    | some _ => .error (.attributeError "get")

/-- `compact_existing_output`: the ordered uids with their records, and whether the file had more
    than these. -/
def compactExistingOutput (bytes : List UInt8) : Except EvalError (Kept String Fields) := do
  let lines ← fileLines bytes
  lines.foldlM (compactLine sha1 benchmark) ⟨[], false⟩

/-- A record and its line end. -/
def recordLine (record : Fields) : List Char := dumps (.obj record) ++ ['\n']

/-- `rewrite_output`, which replaces the file. -/
def rewriteOutput (entries : List (String × Fields)) : List UInt8 :=
  utf8 (entries.flatMap fun e => recordLine e.2)

/-- Compact a file, and replace it if it had more than the records kept. -/
def compacted (bytes : List UInt8) : Except EvalError (List UInt8 × List (String × Fields)) := do
  let kept ← compactExistingOutput sha1 benchmark bytes
  return (if kept.changed then rewriteOutput kept.entries else bytes, kept.entries)

end Checkpoint

/-! ## One item -/

/-- What an image file and the API do for one item: the text of the exception `run_one` raises
    before it calls the API, and each attempt's exception or content. -/
structure Inference where
  image : Except String Unit
  attempt : ℕ → Except String (Option String)

/-- The attempts from number `k` on, `left` of them. -/
def callApi (attempt : ℕ → Except String (Option String)) : ℕ → ℕ → String
  | 0, _ => ""
  | left + 1, k =>
      match attempt k with
      | .ok content => strip (content.getD "")
      | .error e => if left = 0 then "[API_ERROR] " ++ e else callApi attempt left (k + 1)

/-- `model_answer` of an item: from `run_one`, or for the exception it raised. -/
def modelAnswer (maxRetries : ℤ) (o : Inference) : String :=
  match o.image with
  | .ok _ => callApi o.attempt maxRetries.toNat 1
  | .error e => "[FUTURE_ERROR] " ++ e

/-! ## main -/

/-- The command line of infer.py, with the content of the benchmark JSON. -/
structure InferArgs where
  benchmark : String
  totalData : List Dict
  maxRetries : ℤ

section Main

variable (sha1 : List UInt8 → String) (args : InferArgs)

def InferArgs.uid (item : Dict) : String := makeSampleUid sha1 item.1 args.benchmark

/-- An item with its uid. -/
def InferArgs.todoRecord (item : Dict) : Fields :=
  setField item.1 "sample_uid" (.str (args.uid sha1 item))

/-- The items without a successful record. -/
def InferArgs.todoData (done : List String) : List Dict :=
  args.totalData.filter fun item => decide (args.uid sha1 item ∉ done)

/-- The record of an item with its answer. -/
def InferArgs.answered (item : Dict) (answer : String) : Fields :=
  setField (setField (args.todoRecord sha1 item) "sample_uid" (.str (args.uid sha1 item)))
    "model_answer" (.str answer)

/-- `done_ids`. -/
def doneIds (entries : List (String × Fields)) : List String :=
  (entries.filter fun e => !shouldRetryExistingRecord e.2).map (·.1)

/-- The start of a run: the file it goes on with and the items it answers. -/
def InferArgs.resume (file : Option (List UInt8)) :
    Except EvalError (Option (List UInt8) × List Dict) :=
  match file with
  | none => .ok (none, args.todoData sha1 [])
  | some bytes => do
      let c ← compacted sha1 args.benchmark bytes
      return (some c.1, args.todoData sha1 (doneIds c.2))

/-- What a run appends, in the order in which its calls complete. -/
def InferArgs.appended (completed : List (Dict × Inference)) : List Char :=
  completed.flatMap fun c => recordLine (args.answered sha1 c.1 (modelAnswer args.maxRetries c.2))

/-- The end of a run that appended something. -/
def InferArgs.finish (bytes : List UInt8) : Except EvalError (List UInt8) := do
  let c ← compacted sha1 args.benchmark bytes
  return c.1

/-- The answer file and the run that has it open: `left` is what the run still appends. -/
inductive RunState where
  | stopped (file : Option (List UInt8))
  | appending (bytes left : List UInt8)
  | done (file : Option (List UInt8))

def RunState.file : RunState → Option (List UInt8)
  | .stopped file => file
  | .appending bytes _ => some bytes
  | .done file => file

/-- One step. What a run appends, and in which order, is chosen when it starts to append. -/
inductive InferArgs.Step : RunState → RunState → Prop where
  | allProcessed {file file' : Option (List UInt8)}
      (hresume : args.resume sha1 file = .ok (file', [])) : Step (.stopped file) (.done file')
  | submit {file file' : Option (List UInt8)} {todo : List Dict}
      (hresume : args.resume sha1 file = .ok (file', todo)) (hne : todo ≠ [])
      (completed : List (Dict × Inference)) (hperm : (completed.map (·.1)).Perm todo) :
      Step (.stopped file) (.appending (file'.getD []) (utf8 (args.appended sha1 completed)))
  | write (bytes : List UInt8) (b : UInt8) (left : List UInt8) :
      Step (.appending bytes (b :: left)) (.appending (bytes ++ [b]) left)
  | finish {bytes bytes' : List UInt8} (hfinish : args.finish sha1 bytes = .ok bytes') :
      Step (.appending bytes []) (.done (some bytes'))
  | kill (s : RunState) : Step s (.stopped s.file)
  -- killed after `rewrite_output`, before the file is opened
  | killResumed {file file' : Option (List UInt8)} {todo : List Dict}
      (hresume : args.resume sha1 file = .ok (file', todo)) :
      Step (.stopped file) (.stopped file')

end Main

end LookAway.Eval
