/-
  eval/judge_qwenlm.py: grade each answer by rules, and ask a judge about those that no rule
  settles.

  `str.lower` and the word characters of `re` come from the Unicode character database, which is a
  parameter. A group that a regular expression finds is a character; `none` is the empty text the
  source returns where it finds none.
-/
import LookAway.Eval.Infer
import Mathlib.Data.List.DropRight

namespace LookAway.Eval

open LookAway.Base LookAway.Base.Json LookAway.Data

def mcqBenchmarks : List String :=
  ["hrbench-4k", "hrbench-8k", "vstar", "mme-realworld", "mme-realworld-cn", "mme-realworld-lite",
    "mmstar", "cv-bench"]

def popeBenchmarks : List String := ["pope", "pope_adv", "pope_pop", "pope_random"]

def mmvpBenchmarks : List String := ["mmvp"]

/-- `PROMPT_TEMPLATE.format(...)`. -/
def promptTemplate (question gt response : String) : String :=
  "Your task is to judge whether the response expresses the same meaning " ++
    "as the answer of a question.\n" ++
    "The question is: " ++ question ++ "\n" ++
    "The answer is: " ++ gt ++ "\n" ++
    "The response is: " ++ response ++ "\n" ++
    "Please check and compare them and then judge. " ++
    "If the response is correct, your output should be Yes. " ++
    "Otherwise, your output should be No. Directly give me your output."

structure Unicode where
  lower : String → String
  isWord : Char → Bool

/-! ## Texts -/

/-- `text.find(pattern)`, `none` for -1. -/
def find (pattern : List Char) : List Char → Option ℕ
  | [] => if pattern = [] then some 0 else none
  | c :: cs => if pattern.isPrefixOf (c :: cs) then some 0 else (find pattern cs).map (· + 1)

/-- `text.lstrip(c)` -/
def lstripChar (c : Char) (text : String) : String :=
  String.ofList (text.toList.dropWhile (· == c))

def rstripChar (c : Char) (text : String) : String :=
  String.ofList (text.toList.rdropWhile (· == c))

/-- `text.split()[-1]` of a stripped text. -/
def lastWord (text : String) : Except EvalError String :=
  if text = "" then .error .indexError
  else .ok (String.ofList (text.toList.rtakeWhile fun c => !Data.isSpace c))

/-- `re.search`: the first place where `here` matches. -/
def search (here : List Char → Option Char) : List Char → Option Char
  | [] => here []
  | c :: cs => (here (c :: cs)).or (search here cs)

/-! ## Extraction -/

/-- `\(([A-Z])\)` -/
def parenthesized : List Char → Option Char
  | '(' :: c :: ')' :: _ => if c.isUpper then some c else none
  | _ => none

/-- `([A-Z])[\.\)\s]` -/
def delimited : List Char → Option Char
  | c :: d :: _ =>
      if c.isUpper && (d == '.' || d == ')' || Data.isSpace d) then some c else none
  | _ => none

/-- `([A-Z])` -/
def capital : List Char → Option Char
  | c :: _ => if c.isUpper then some c else none
  | [] => none

def extractFirstOption (text : String) : Option Char :=
  (search parenthesized text.toList).or
    ((search delimited text.toList).or (search capital text.toList))

/-- `(?:(?=$)|[\.\)\]]|(?:[\:\-]\s+))` -/
def optionEnds : List Char → Bool
  | [] => true
  | c :: cs =>
      c == '.' || c == ')' || c == ']' || ((c == ':' || c == '-') && cs.head?.any Data.isSpace)

def extractMcqOption : Json → Option Char
  | .str answer =>
      match (strip answer).toList.dropWhile fun c => c == ' ' || c == '(' || c == '[' with
      | c :: cs => if 'A' ≤ c ∧ c ≤ 'F' ∧ optionEnds cs then some c else none
      | [] => none
  | _ => none

def firstLetterMatch (gt : Json) (answer : String) : Bool :=
  match extractMcqOption gt, extractFirstOption answer with
  | some gtVal, some predVal => gtVal == predVal
  | _, _ => false

def extractAnswer (modelAnswerRaw : String) : String :=
  let text := modelAnswerRaw.toList
  match find "<answer>".toList text, find "</answer>".toList text, find "Answer:".toList text with
  | some start, some stop, _ => strip (String.ofList ((text.take stop).drop (start + 8)))
  | _, _, some start => strip (String.ofList (text.drop start))
  | _, _, none => strip modelAnswerRaw

section Extract

variable (u : Unicode)

def popeExtract (text : String) : Except EvalError String := do
  if text = "" then return ""
  let t := strip (lstripChar '*' text)
  let t ←
    if startsWith "answer" (u.lower t) then
      match find "answer".toList t.toList with
      | some k =>
          pure (strip (lstripChar '*' (lstripChar ':' (String.ofList (t.toList.drop (k + 6))))))
      | none => throw .indexError
    else pure t
  if startsWith "yes" (u.lower t) then return "yes"
  if startsWith "no" (u.lower t) then return "no"
  let last ←
    if strip t = "" then pure "" else lastWord (strip (rstripChar '*' (rstripChar '.' t)))
  let last := u.lower (rstripChar '*' (lstripChar '*' last))
  if last = "yes" ∨ last = "no" then return last
  return strip text

/-- `\(([ab])\)` -/
def parenthesizedAb : List Char → Option Char
  | '(' :: c :: ')' :: _ => if c == 'a' || c == 'b' then some c else none
  | _ => none

/-- `\b([ab])\b`, after a word character or not. -/
def wordAb (afterWord : Bool) : List Char → Option Char
  | [] => none
  | c :: cs =>
      if (c == 'a' || c == 'b') && !afterWord && !cs.head?.any u.isWord then some c
      else wordAb (u.isWord c) cs

def mmvpExtract (text : String) : Option String :=
  let t := (u.lower (strip text)).toList
  ((search parenthesizedAb t).or (wordAb u false t)).map fun c => String.ofList ['(', c, ')']

end Extract

/-! ## Rule-based grading -/

/-- The API of a judge: whether `get_client` returns for a call, and the content or exception of
    each attempt. -/
structure JudgeApi where
  client : ℕ → Bool
  attempt : ℕ → String → ℕ → Option (Option String)

/-- The judge of a run: an API, unless `openai` is missing, or the outputs of a local model for the
    prompts, unless it raises. -/
inductive JudgeModel where
  | api (calls : Option JudgeApi)
  | vllm (generate : Option (String → String))

/-- `grade_answer` of mathruler is `none` where it raises; the package may be missing. -/
structure JudgeArgs where
  benchmark : String
  judge : Option JudgeModel
  gradeAnswer : Option (Json → String → Option Bool)

/-- An item after the rules, with the prompt for the judge. -/
structure Graded where
  item : Fields
  prompt : Option String

/-- `item[key]`. -/
def requireKey (item : Fields) (key : String) : Except EvalError Json :=
  match item.lookup key with
  | some v => .ok v
  | none => .error (.keyError key)

/-- `v.method(...)` of a text. -/
def requireStr (method : String) : Json → Except EvalError String
  | .str s => .ok s
  | _ => .error (.attributeError method)

/-- A model answer that is not a text has no `find` or no `strip`, or cannot be searched. -/
def requireAnswer : Json → Except EvalError String
  | .str s => .ok s
  | .arr items =>
      .error (.attributeError (if items.any fun v => pyStr v == "<answer>" || pyStr v == "Answer:"
        then "find" else "strip"))
  | .obj fields =>
      .error (.attributeError (if fields.any fun f => f.1 == "<answer>" || f.1 == "Answer:"
        then "find" else "strip"))
  | _ => .error .typeError

section Grading

variable (u : Unicode) (args : JudgeArgs)

/-- The exact rules of POPE and MMVP. -/
def exactRule (extracted : String) (gt : Json) : Except EvalError (Option String) := do
  if args.benchmark ∈ popeBenchmarks then
    let pred ← popeExtract u extracted
    let gt ← requireStr "strip" gt
    return if pred = u.lower (strip gt) then some "pope_exact" else none
  else if args.benchmark ∈ mmvpBenchmarks then
    let gt ← requireStr "strip" gt
    return if mmvpExtract u extracted = some (u.lower (strip gt)) then some "mmvp_option" else none
  else return none

def setJudge (item : Fields) (verdict source : String) : Fields :=
  setField (setField item "judge" (.str verdict)) "judge_source" (.str source)

/-- The other rules, after `exact`. -/
def otherRules (item : Fields) (question extracted : String) (gt : Json) (exact : Option String) :
    Graded :=
  let item := match exact with
    | some source => setJudge item "Yes" source
    | none => item
  let isCorrect := exact.isSome ||
    (args.gradeAnswer.bind fun gradeAnswer => gradeAnswer gt extracted) == some true
  let isLetterCorrect := !isCorrect && decide (args.benchmark ∈ mcqBenchmarks) &&
    firstLetterMatch gt extracted
  -- an exact rule has set `judge`, so its items go on to the judge
  if isCorrect && !item.any (·.1 == "judge") then ⟨setJudge item "Yes" "mathruler", none⟩
  else if isLetterCorrect then ⟨setJudge item "Yes" "first letter", none⟩
  else ⟨item, some (promptTemplate question (pyStr gt) extracted)⟩

/-- One item of the rule-based grading. -/
def gradeFields (item : Fields) : Except EvalError Graded := do
  let query ← requireStr "replace" (← requireKey item "query")
  let modelAnswerRaw ← requireAnswer (← requireKey item "model_answer")
  let extracted := extractAnswer modelAnswerRaw
  let gt ← requireKey item "response"
  let exact ← exactRule u args extracted gt
  let item := setField item "extracted_answer" (.str extracted)
  return otherRules args item (query.replace "<image>" "") extracted gt exact

def gradeItem : Json → Except EvalError Graded
  | .obj item => gradeFields u args item
  | _ => .error .typeError

/-! ## The judge -/

/-- `call_one`: the first of three attempts that returns. The client is made outside the `try`. -/
def callOne (api : JudgeApi) (idx : ℕ) (prompt : String) : Except EvalError String :=
  if api.client idx then
    match (List.range 3).findSome? (api.attempt idx prompt) with
    | some content => .ok (strip (content.getD ""))
    | none => .ok "No"
  else .error .openaiError

/-- `judge_via_api` or `judge_via_vllm`, if there are prompts. -/
def judgePrompts (judge : JudgeModel) (prompts : List String) : Except EvalError (List String) :=
  if prompts = [] then .ok []
  else match judge with
    | .api (some api) => prompts.zipIdx.mapM fun p => callOne api p.2 p.1
    | .api none => .error .importError
    | .vllm (some generate) => .ok (prompts.map fun p => strip (generate p))
    | .vllm none => .error .vllmError

/-- The results, in the order of the prompts. -/
def assign : List Graded → List String → List Fields
  | [], _ => []
  | ⟨item, none⟩ :: gs, results => item :: assign gs results
  | ⟨item, some _⟩ :: gs, result :: results => setJudge item result "llm" :: assign gs results
  | ⟨item, some _⟩ :: gs, [] => item :: assign gs []

/-- `json.loads`. A text with a lone surrogate, which UTF-8 cannot encode, fails here, and not where
    the results are written. -/
def loadLine (line : List Char) : Except EvalError Json :=
  match loads line with
  | some v => .ok v
  | none => .error (if hasLoneSurrogate line then .unicodeEncodeError else .valueError)

/-- The records of the answer file. -/
def readAnswers (bytes : List UInt8) : Except EvalError (List Json) := do
  let lines ← fileLines bytes
  lines.mapM loadLine

def judgeMain (bytes : List UInt8) : Except EvalError (List Fields) :=
  match args.judge with
  | none => .error (.systemExit ("ERROR: Either --api_base (for API-based judging) or " ++
      "--judge_model_path (for local vLLM judging) must be provided."))
  | some judge => do
      let data ← readAnswers bytes
      let graded ← data.mapM (gradeItem u args)
      let results ← judgePrompts judge (graded.filterMap (·.prompt))
      return assign graded results

end Grading

end LookAway.Eval
