/-
  eval/cal_acc.py: the accuracy of a judged benchmark.

  A report is the lines that are printed. Percentages are exact, before their format to two digits.
-/
import LookAway.Eval.Judge
import Mathlib.Algebra.Field.Rat
import Mathlib.Algebra.BigOperators.Group.List.Defs

namespace LookAway.Eval

open LookAway.Base LookAway.Base.Json LookAway.Data

structure Line where
  label : String
  values : List ℚ
  counts : List ℕ
  deriving DecidableEq

structure Stat where
  correct : ℕ
  total : ℕ

/-- `(100.0 * correct / total) if total else 0.0` -/
def Stat.percent (s : Stat) : ℚ := if s.total = 0 then 0 else 100 * s.correct / s.total

/-- `stats[key]` of a `defaultdict`. -/
def statOf (stats : List (String × Stat)) (key : String) : Stat := (stats.lookup key).getD ⟨0, 0⟩

def addStat (stats : List (String × Stat)) (key : String) (correct : Bool) : List (String × Stat) :=
  let s := statOf stats key
  let s' : Stat := ⟨s.correct + correct.toNat, s.total + 1⟩
  if stats.any (·.1 == key) then replaceEntry key s' stats else stats ++ [(key, s')]

/-- `str(item.get(key, "unknown") or "unknown")` -/
def groupOf (key : String) (item : Fields) : String :=
  let v := getD item key (.str "unknown")
  if truthy v then pyStr v else "unknown"

section Report

variable (u : Unicode)

def isCorrect (item : Fields) : Bool :=
  u.lower (strip (pyStr (getD item "judge" (.str "")))) == "yes"

def overall (data : List Fields) : Stat := ⟨data.countP (isCorrect u), data.length⟩

def groupStats (key : String) (data : List Fields) : List (String × Stat) :=
  data.foldl (fun stats item => addStat stats (groupOf key item) (isCorrect u item)) []

/-- `acc_text`, which HR-Bench and MME-RealWorld print. Their categories are counted, not
    printed. -/
def calcOverall (benchmark : String) (data : List Fields) : List Line :=
  let s := overall u data
  [⟨benchmark ++ " Acc", [s.percent], [s.correct, s.total]⟩]

def calcVstar (benchmark : String) (data : List Fields) : List Line :=
  ((groupStats u "category" data).map fun g => ⟨g.1, [g.2.percent], [g.2.total]⟩) ++
    [⟨benchmark ++ " Acc", [(overall u data).percent], [data.length]⟩]

structure PopeCounts where
  tp : ℕ
  fp : ℕ
  fn : ℕ
  tn : ℕ

def popeGt (item : Fields) : String := u.lower (strip (pyStr (getD item "response" (.str ""))))

def popeCount (c : PopeCounts) (item : Fields) : PopeCounts :=
  let gt := popeGt u item
  let correct := isCorrect u item
  if gt = "yes" ∧ correct then { c with tp := c.tp + 1 }
  else if gt = "no" ∧ ¬correct then { c with fp := c.fp + 1 }
  else if gt = "yes" ∧ ¬correct then { c with fn := c.fn + 1 }
  else { c with tn := c.tn + 1 }

/-- A ratio that is 0 where its denominator is. -/
def ratio (a b : ℚ) : ℚ := if b = 0 then 0 else a / b

def calcPope (benchmark : String) (items : List Fields) : List Line :=
  let c := items.foldl (popeCount u) ⟨0, 0, 0, 0⟩
  let precision := ratio c.tp (c.tp + c.fp)
  let recallRate := ratio c.tp (c.tp + c.fn)
  let yesCount := items.countP fun x => popeGt u x == "yes"
  [⟨benchmark, [100 * ratio (c.tp + c.tn) items.length, 100 * precision, 100 * recallRate,
    100 * ratio (2 * precision * recallRate) (precision + recallRate),
    100 * ratio yesCount items.length], [items.length]⟩]

def calcCvbench (benchmark : String) (data : List Fields) : List Line :=
  let stats := groupStats u "type" data
  [⟨benchmark, [((statOf stats "2D").percent + (statOf stats "3D").percent) / 2], []⟩]

def calcVisualprobe (benchmark : String) (data : List Fields) : List Line :=
  let stats := groupStats u "category" data
  let lines := ["Easy", "Medium", "Hard"].map fun cat =>
    (⟨cat, [(statOf stats cat).percent], [(statOf stats cat).total]⟩ : Line)
  lines ++ [⟨benchmark ++ " average", [(lines.flatMap (·.values)).sum / 3], []⟩]

def calcGeneric (benchmark : String) (data : List Fields) : Except EvalError (List Line) :=
  let s := overall u data
  if s.total = 0 then .error .zeroDivisionError
  else .ok [⟨benchmark ++ " Acc", [100 * s.correct / s.total], [s.correct, s.total]⟩]

/-- `main` of cal_acc.py; run_eval.sh gives it the benchmark file. -/
def calAcc (benchmark : String) (benchmarkJson : Bool) (data : List Fields) :
    Except EvalError (List Line) :=
  if benchmark = "visualprobe" then .ok (calcVisualprobe u benchmark data)
  else if benchmark = "cv-bench" then .ok (calcCvbench u benchmark data)
  else if benchmark ∈ popeBenchmarks then .ok (calcPope u benchmark data)
  else if benchmark = "vstar" then .ok (calcVstar u benchmark data)
  else if benchmark ∈ ["hrbench-4k", "hrbench-8k", "mme-realworld", "mme-realworld-cn",
      "mme-realworld-lite"] ∧ benchmarkJson then .ok (calcOverall u benchmark data)
  else calcGeneric u benchmark data

/-- judge_qwenlm.py and cal_acc.py on an answer file; run_eval.sh stops at the first that fails. -/
def evaluate (args : JudgeArgs) (benchmarkJson : Bool) (bytes : List UInt8) :
    Except EvalError (List Line) := do
  let data ← judgeMain u args bytes
  calAcc u args.benchmark benchmarkJson data

end Report

end LookAway.Eval
