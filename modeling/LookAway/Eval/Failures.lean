/-
  Failed calls and the reported accuracy. Neither judge_qwenlm.py nor cal_acc.py looks at a failure:
  an accuracy is reported unless there is no judge, or grading an item or asking the judge raises
  (`reported`), so failures stop it in these runs only (`failures_stop_iff`).
-/
import LookAway.Base.Control
import LookAway.Eval.Accuracy
import LookAway.Eval.Restarts

namespace LookAway.Eval

open LookAway.Base LookAway.Base.Json LookAway.Data

/-- The record of a failed inference. -/
def FailedInference (record : Json) : Prop :=
  ∃ fields answer, record = .obj fields ∧ get fields "model_answer" = .str answer ∧
    (startsWith "[API_ERROR]" (strip answer) ∨ startsWith "[FUTURE_ERROR]" (strip answer))

section Failures

variable (u : Unicode) (args : JudgeArgs)

/-- The rules grade the item: its fields are there and are texts, and no rule raises. -/
def Gradable (record : Json) : Prop :=
  ∃ fields query answer gt, record = .obj fields ∧ fields.lookup "query" = some (.str query) ∧
    fields.lookup "model_answer" = some (.str answer) ∧ fields.lookup "response" = some gt ∧
    (args.benchmark ∈ popeBenchmarks → ∃ pred, popeExtract u (extractAnswer answer) = .ok pred) ∧
    (args.benchmark ∈ popeBenchmarks ++ mmvpBenchmarks → ∃ s, gt = .str s)

/-- The calls of the judge, with their numbers. -/
def judgeCalls (data : List Json) : Except EvalError (List (String × ℕ)) := do
  let graded ← data.mapM (gradeItem u args)
  return (graded.filterMap (·.prompt)).zipIdx

/-- Some call of the judge fails on its three attempts. -/
def Exhausted (data : List Json) : Prop :=
  ∃ api calls, args.judge = some (.api (some api)) ∧ judgeCalls u args data = .ok calls ∧
    ∃ call ∈ calls, api.client call.2 = true ∧ ∀ k < 3, api.attempt call.2 call.1 k = none

/-- The judge raises at a call: without its package, its client or its local model. -/
def JudgeModel.Raises : JudgeModel → ℕ → Prop
  | .api calls, k => ∀ api, calls = some api → api.client k = false
  | .vllm generate, _ => generate = none

/-- Some item has the record of a failed inference, or some call of the judge fails. -/
def HasFailure (bytes : List UInt8) : Prop :=
  ∃ data, readAnswers bytes = .ok data ∧
    ((∃ record ∈ data, FailedInference record) ∨ Exhausted u args data)

/-- The run stops before an accuracy: it has no judge, the rules raise on an item, or the judge
    raises at a call. -/
def Stopped (bytes : List UInt8) : Prop :=
  args.judge = none ∨ ∃ data, readAnswers bytes = .ok data ∧
    ((∃ record ∈ data, ¬ Gradable u args record) ∨
      ∃ judge calls, args.judge = some judge ∧ judgeCalls u args data = .ok calls ∧
        ∃ call ∈ calls, judge.Raises call.2)

end Failures

section Proofs

variable {u : Unicode} {args : JudgeArgs}

/-! ## Rule-based grading -/

theorem requireKey_eq_ok {item : Fields} {key : String} {v : Json} :
    requireKey item key = .ok v ↔ item.lookup key = some v := by
  unfold requireKey
  cases item.lookup key with
  | none => simp
  | some w => simp

theorem requireStr_eq_ok {method : String} {v : Json} {s : String} :
    requireStr method v = .ok s ↔ v = .str s := by
  cases v <;> simp [requireStr]

theorem requireAnswer_eq_ok {v : Json} {s : String} : requireAnswer v = .ok s ↔ v = .str s := by
  cases v <;> simp [requireAnswer]

theorem exactRule_ok {extracted : String} {gt : Json} :
    (∃ source, exactRule u args extracted gt = .ok source) ↔
      (args.benchmark ∈ popeBenchmarks → ∃ pred, popeExtract u extracted = .ok pred) ∧
      (args.benchmark ∈ popeBenchmarks ++ mmvpBenchmarks → ∃ s, gt = .str s) := by
  unfold exactRule
  by_cases hpope : args.benchmark ∈ popeBenchmarks
  · rw [if_pos hpope]
    constructor
    · rintro ⟨source, h⟩
      obtain ⟨pred, hpred, h⟩ := except_bind_ok.mp h
      obtain ⟨s, hs, -⟩ := except_bind_ok.mp h
      exact ⟨fun _ => ⟨pred, hpred⟩, fun _ => ⟨s, requireStr_eq_ok.mp hs⟩⟩
    · rintro ⟨hpred, hs⟩
      obtain ⟨pred, hpred⟩ := hpred hpope
      obtain ⟨s, rfl⟩ := hs (List.mem_append_left _ hpope)
      rw [hpred]
      exact ⟨_, rfl⟩
  · rw [if_neg hpope]
    by_cases hmmvp : args.benchmark ∈ mmvpBenchmarks
    · rw [if_pos hmmvp]
      constructor
      · rintro ⟨source, h⟩
        obtain ⟨s, hs, -⟩ := except_bind_ok.mp h
        exact ⟨fun h => absurd h hpope, fun _ => ⟨s, requireStr_eq_ok.mp hs⟩⟩
      · rintro ⟨-, hs⟩
        obtain ⟨s, rfl⟩ := hs (List.mem_append_right _ hmmvp)
        exact ⟨_, rfl⟩
    · rw [if_neg hmmvp]
      simp [hpope, hmmvp, pure, Except.pure]

theorem gradeFields_eq {fields : Fields} {query answer : String} {gt : Json}
    {exact : Option String} (hquery : fields.lookup "query" = some (.str query))
    (hanswer : fields.lookup "model_answer" = some (.str answer))
    (hgt : fields.lookup "response" = some gt)
    (hexact : exactRule u args (extractAnswer answer) gt = .ok exact) :
    gradeFields u args fields =
      .ok (otherRules args (setField fields "extracted_answer" (.str (extractAnswer answer)))
        (query.replace "<image>" "") (extractAnswer answer) gt exact) :=
  except_bind_ok.mpr ⟨_, requireKey_eq_ok.mpr hquery, except_bind_ok.mpr ⟨query, rfl,
    except_bind_ok.mpr ⟨_, requireKey_eq_ok.mpr hanswer, except_bind_ok.mpr ⟨answer, rfl,
      except_bind_ok.mpr ⟨_, requireKey_eq_ok.mpr hgt,
        except_bind_ok.mpr ⟨exact, hexact, rfl⟩⟩⟩⟩⟩⟩

/-- What the grading of an item that does not raise has read. -/
theorem gradeFields_cases {fields : Fields} {g : Graded} (h : gradeFields u args fields = .ok g) :
    ∃ query answer gt exact, fields.lookup "query" = some (.str query) ∧
      fields.lookup "model_answer" = some (.str answer) ∧ fields.lookup "response" = some gt ∧
      exactRule u args (extractAnswer answer) gt = .ok exact ∧
      g = otherRules args (setField fields "extracted_answer" (.str (extractAnswer answer)))
        (query.replace "<image>" "") (extractAnswer answer) gt exact := by
  obtain ⟨vq, hvq, h⟩ := except_bind_ok.mp h
  obtain ⟨query, hquery, h⟩ := except_bind_ok.mp h
  obtain ⟨va, hva, h⟩ := except_bind_ok.mp h
  obtain ⟨answer, hanswer, h⟩ := except_bind_ok.mp h
  obtain ⟨gt, hgt, h⟩ := except_bind_ok.mp h
  obtain ⟨exact, hexact, h⟩ := except_bind_ok.mp h
  rw [requireKey_eq_ok] at hvq hva hgt
  rw [requireStr_eq_ok.mp hquery] at hvq
  rw [requireAnswer_eq_ok.mp hanswer] at hva
  exact ⟨query, answer, gt, exact, hvq, hva, hgt, hexact, (Except.ok.inj h).symm⟩

theorem gradeItem_ok {record : Json} :
    (∃ g, gradeItem u args record = .ok g) ↔ Gradable u args record := by
  constructor
  · rintro ⟨g, h⟩
    cases record with
    | obj fields =>
        obtain ⟨query, answer, gt, exact, hquery, hanswer, hgt, hexact, -⟩ := gradeFields_cases h
        have hrule := exactRule_ok.mp ⟨exact, hexact⟩
        exact ⟨fields, query, answer, gt, rfl, hquery, hanswer, hgt, hrule.1, hrule.2⟩
    | _ => cases h
  · rintro ⟨fields, query, answer, gt, rfl, hquery, hanswer, hgt, hpope, htext⟩
    obtain ⟨exact, hexact⟩ := exactRule_ok.mpr ⟨hpope, htext⟩
    exact ⟨_, gradeFields_eq hquery hanswer hgt hexact⟩

/-! ## The judge -/

theorem length_assign (gs : List Graded) (results : List String) :
    (assign gs results).length = gs.length := by
  fun_induction assign gs results <;> simp_all

theorem callOne_ok {api : JudgeApi} {idx : ℕ} {prompt : String} :
    (∃ text, callOne api idx prompt = .ok text) ↔ api.client idx = true := by
  unfold callOne
  cases api.client idx with
  | true =>
      refine ⟨fun _ => rfl, fun _ => ?_⟩
      rw [if_pos rfl]
      split <;> exact ⟨_, rfl⟩
  | false => simp

/-- The judge answers every prompt if it raises at no call. -/
theorem judgePrompts_ok {judge : JudgeModel} {prompts : List String} :
    (∃ results, judgePrompts judge prompts = .ok results) ↔
      ∀ call ∈ prompts.zipIdx, ¬ judge.Raises call.2 := by
  unfold judgePrompts
  by_cases hprompts : prompts = []
  · subst hprompts
    simp
  · rw [if_neg hprompts]
    have hcall : ∃ call, call ∈ prompts.zipIdx :=
      List.exists_mem_of_ne_nil _ (by simpa using hprompts)
    rcases judge with (- | api) | (- | generate)
    · obtain ⟨call, hcall⟩ := hcall
      simp only [reduceCtorEq, exists_false, false_iff, not_forall, not_not]
      exact ⟨call, hcall, nofun⟩
    · have hraises : ∀ k, ¬ (JudgeModel.api (some api)).Raises k ↔ api.client k = true := by
        intro k
        simp [JudgeModel.Raises]
      simp only [hraises]
      constructor
      · rintro ⟨results, h⟩ call hmem
        obtain ⟨text, -, htext⟩ := mapM_of_mem h call hmem
        exact callOne_ok.mp ⟨text, htext⟩
      · exact fun h => mapM_exists fun call hmem => callOne_ok.mpr (h call hmem)
    · obtain ⟨call, hcall⟩ := hcall
      simp only [reduceCtorEq, exists_false, false_iff, not_forall, not_not]
      exact ⟨call, hcall, rfl⟩
    · simp [JudgeModel.Raises]

theorem judgeCalls_eq {data : List Json} {graded : List Graded}
    (hgraded : data.mapM (gradeItem u args) = .ok graded) :
    judgeCalls u args data = .ok (graded.filterMap (·.prompt)).zipIdx :=
  except_bind_ok.mpr ⟨graded, hgraded, rfl⟩

/-! ## The report -/

theorem calAcc_ok {benchmark : String} {benchmarkJson : Bool} {data : List Fields}
    (h : data ≠ []) : ∃ report, calAcc u benchmark benchmarkJson data = .ok report := by
  unfold calAcc calcGeneric
  have htotal : (overall u data).total ≠ 0 := by simpa [overall] using h
  simp only [if_neg htotal]
  split_ifs <;> exact ⟨_, rfl⟩

/-- Whatever the failures, a run that is not stopped reports an accuracy. -/
theorem reported {judge : JudgeModel} (hjudge : args.judge = some judge) {bytes : List UInt8}
    {data : List Json} (hdata : readAnswers bytes = .ok data) (hne : data ≠ [])
    (hgradable : ∀ record ∈ data, Gradable u args record)
    (hcalls : ∀ calls, judgeCalls u args data = .ok calls → ∀ call ∈ calls, ¬ judge.Raises call.2)
    (benchmarkJson : Bool) : ∃ report, evaluate u args benchmarkJson bytes = .ok report := by
  obtain ⟨graded, hgraded⟩ := mapM_exists fun record h => gradeItem_ok.mpr (hgradable record h)
  obtain ⟨results, hresults⟩ := judgePrompts_ok.mpr (hcalls _ (judgeCalls_eq hgraded))
  have hjudged : judgeMain u args bytes = .ok (assign graded results) := by
    unfold judgeMain
    rw [hjudge]
    exact except_bind_ok.mpr ⟨data, hdata, except_bind_ok.mpr ⟨graded, hgraded,
      except_bind_ok.mpr ⟨results, hresults, rfl⟩⟩⟩
  have hlength : (assign graded results).length = data.length := by
    rw [length_assign, length_of_mapM hgraded]
  have hassigned : assign graded results ≠ [] := by
    intro hnil
    rw [hnil] at hlength
    exact hne (List.length_eq_zero_iff.mp hlength.symm)
  obtain ⟨report, hreport⟩ := calAcc_ok (u := u) hassigned
  exact ⟨report, except_bind_ok.mpr ⟨_, hjudged, hreport⟩⟩

theorem Stopped.not_reported {bytes : List UInt8} (h : Stopped u args bytes)
    {benchmarkJson : Bool} {report : List Line} :
    evaluate u args benchmarkJson bytes ≠ .ok report := by
  intro hreport
  obtain ⟨judged, hjudged, -⟩ := except_bind_ok.mp hreport
  unfold judgeMain at hjudged
  rcases h with hjudge | ⟨data, hdata, hstop⟩
  · rw [hjudge] at hjudged
    cases hjudged
  · cases hjudge : args.judge with
    | none =>
        rw [hjudge] at hjudged
        cases hjudged
    | some judge =>
        rw [hjudge] at hjudged
        obtain ⟨data', hdata', hjudged⟩ := except_bind_ok.mp hjudged
        rw [hdata] at hdata'
        cases hdata'
        obtain ⟨graded, hgraded, hjudged⟩ := except_bind_ok.mp hjudged
        rcases hstop with ⟨record, hrecord, hgradable⟩ |
          ⟨judge', calls, hjudge', hcalls, call, hcall, hraises⟩
        · obtain ⟨g, -, hg⟩ := mapM_of_mem hgraded record hrecord
          exact hgradable (gradeItem_ok.mp ⟨g, hg⟩)
        · rw [hjudge] at hjudge'
          cases hjudge'
          rw [judgeCalls_eq hgraded] at hcalls
          cases hcalls
          obtain ⟨results, hresults, -⟩ := except_bind_ok.mp hjudged
          exact judgePrompts_ok.mp ⟨results, hresults⟩ call hcall hraises

/-- Failures stop the report of an accuracy in the runs that something else stops, and in no
    others. -/
theorem failures_stop_iff (benchmarkJson : Bool) (bytes : List UInt8) :
    (HasFailure u args bytes → ¬ ∃ report, evaluate u args benchmarkJson bytes = .ok report) ↔
      ¬ HasFailure u args bytes ∨ Stopped u args bytes := by
  constructor
  · intro h
    by_cases hfailure : HasFailure u args bytes
    · right
      by_contra hstopped
      apply h hfailure
      unfold Stopped at hstopped
      rw [not_or] at hstopped
      obtain ⟨hjudge, hrun⟩ := hstopped
      obtain ⟨judge, hjudge⟩ := Option.ne_none_iff_exists'.mp hjudge
      obtain ⟨data, hdata, hfailed⟩ := hfailure
      have hne : data ≠ [] := by
        rintro rfl
        rcases hfailed with ⟨record, hrecord, -⟩ | ⟨api, calls, -, hcalls, call, hcall, -⟩
        · cases hrecord
        · cases hcalls
          cases hcall
      refine reported hjudge hdata hne (fun record hrecord => ?_)
        (fun calls hcalls call hcall hraises => ?_) _
      · by_contra hgradable
        exact hrun ⟨data, hdata, .inl ⟨record, hrecord, hgradable⟩⟩
      · exact hrun ⟨data, hdata, .inr ⟨judge, calls, hjudge, hcalls, call, hcall, hraises⟩⟩
    · exact .inl hfailure
  · rintro (hfailure | hstopped) hfailure' ⟨report, hreport⟩
    · exact hfailure hfailure'
    · exact hstopped.not_reported hreport

end Proofs

/-! ## A failed item that counts as correct -/

def optionItem : Dict :=
  ⟨[("index", .int 0), ("images", .arr [.str "a.png"]), ("query", .str "Which option?"),
    ("response", .str "A")],
    by simp, (by decide : Short 0), ⟨trivial, trivial⟩, trivial, trivial, trivial⟩

def optionArgs : InferArgs := ⟨"mmstar", [optionItem], 3⟩

/-- Each attempt of the API raises. -/
def failedInference : Inference := ⟨.ok (), fun _ => .error "Connection error."⟩

def failedAnswer : Answer := (optionItem, "[API_ERROR] Connection error.")

/-- The case and the word characters of ASCII texts. -/
def asciiUnicode : Unicode :=
  ⟨fun s => String.ofList (s.toList.map Char.toLower), fun c => c.isAlphanum || c == '_'⟩

/-- The judge answers each call; mathruler finds no answer correct. -/
def optionJudge : JudgeArgs :=
  ⟨"mmstar", some (.api (some ⟨fun _ => true, fun _ _ _ => some (some "No")⟩)),
    some fun _ _ => some false⟩

/-- The first capital of the error text is the letter of the right option. -/
theorem option_otherRules (item : Fields) (question : String) :
    otherRules optionJudge item question failedAnswer.2 (.str "A") none =
      ⟨setJudge item "Yes" "first letter", none⟩ := by
  have hletter : firstLetterMatch (.str "A") failedAnswer.2 = true := by decide
  have hmcq : "mmstar" ∈ mcqBenchmarks := by decide
  unfold otherRules
  simp [optionJudge, hletter, hmcq]

/-- The record after the rules. -/
def optionJudged : Fields :=
  setJudge (setField (optionArgs.record noSha1 failedAnswer) "extracted_answer"
    (.str failedAnswer.2)) "Yes" "first letter"

theorem option_graded :
    gradeItem asciiUnicode optionJudge (.obj (optionArgs.record noSha1 failedAnswer)) =
      .ok ⟨optionJudged, none⟩ := by
  have hextract : extractAnswer failedAnswer.2 = failedAnswer.2 := by decide
  have hrule : exactRule asciiUnicode optionJudge (extractAnswer failedAnswer.2) (.str "A") =
      .ok none := rfl
  have hquery : (optionArgs.record noSha1 failedAnswer).lookup "query" =
      some (.str "Which option?") := rfl
  have hgt : (optionArgs.record noSha1 failedAnswer).lookup "response" = some (.str "A") := rfl
  show gradeFields _ _ _ = _
  rw [gradeFields_eq hquery (optionArgs.lookup_answer noSha1 failedAnswer) hgt hrule, hextract,
    option_otherRules]
  rfl

theorem option_correct : isCorrect asciiUnicode optionJudged = true := by
  have hjudge : getD optionJudged "judge" (.str "") = .str "Yes" := by
    unfold getD optionJudged setJudge
    rw [lookup_setField_of_ne (by decide), lookup_setField_self]
    rfl
  unfold isCorrect
  rw [hjudge]
  decide

/-- The API fails for the only item; its record is read as option A, and the run reports 1/1. -/
theorem failed_item_counted :
    Relation.ReflTransGen (optionArgs.Step noSha1) (.stopped none)
      (.done (some (utf8 (optionArgs.text noSha1 [failedAnswer])))) ∧
    HasFailure asciiUnicode optionJudge (utf8 (optionArgs.text noSha1 [failedAnswer])) ∧
    evaluate asciiUnicode optionJudge true (utf8 (optionArgs.text noSha1 [failedAnswer])) =
      .ok [⟨"mmstar Acc", [100], [1, 1]⟩] := by
  have hdata := optionArgs.readAnswers_text noSha1 [failedAnswer]
  refine ⟨?_, ?_, ?_⟩
  · have hanswer : modelAnswer optionArgs.maxRetries failedInference = failedAnswer.2 := by decide
    have happended : optionArgs.appended noSha1 [(optionItem, failedInference)] =
        optionArgs.text noSha1 [failedAnswer] := by
      rw [InferArgs.appended_eq]
      unfold InferArgs.answersOf
      rw [List.map_singleton, hanswer]
      rfl
    have hresume : optionArgs.resume noSha1 none = .ok (none, [optionItem]) := rfl
    have hsubmit : optionArgs.Step noSha1 (.stopped none)
        (.appending [] (utf8 (optionArgs.text noSha1 [failedAnswer]))) := by
      rw [← happended]
      exact .submit hresume (by simp) _ (List.Perm.refl _)
    have hwrites := optionArgs.safe_writes noSha1 []
      (utf8 (optionArgs.text noSha1 [failedAnswer])) []
    rw [List.append_nil] at hwrites
    have hfinish : optionArgs.finish noSha1 (utf8 (optionArgs.text noSha1 [failedAnswer])) =
        .ok (utf8 (optionArgs.text noSha1 [failedAnswer])) :=
      InferArgs.finish_eq (optionArgs.compact_log noSha1 [failedAnswer])
    exact .head hsubmit (.tail (.mono (fun _ _ h => h.1) _ _ hwrites) (.finish hfinish))
  · have hfailed : FailedInference (.obj (optionArgs.record noSha1 failedAnswer)) :=
      ⟨_, failedAnswer.2, rfl, rfl, .inl (by decide)⟩
    exact ⟨_, hdata, .inl ⟨_, List.mem_singleton_self _, hfailed⟩⟩
  · have hjudged : judgeMain asciiUnicode optionJudge
        (utf8 (optionArgs.text noSha1 [failedAnswer])) = .ok [optionJudged] := by
      unfold judgeMain
      refine except_bind_ok.mpr ⟨_, hdata, except_bind_ok.mpr ⟨[⟨optionJudged, none⟩], ?_, rfl⟩⟩
      rw [List.map_singleton, List.mapM_cons, option_graded]
      rfl
    unfold evaluate
    rw [hjudged]
    show calcGeneric asciiUnicode "mmstar" [optionJudged] = _
    unfold calcGeneric overall
    simp [option_correct]

end LookAway.Eval
