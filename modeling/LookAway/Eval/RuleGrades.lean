/-
  Which grades come from a rule: `main` of judge_qwenlm.py with its two index maps, for requests
  that complete in any order.

  `judgeMain_eq_ok`: these runs are those of `judgeMain`. `gradeFields_outcome` says what the
  grading does with one item, `items_get` what the replies do with it. A rule's grade stays where
  `Unchallenged` holds and nowhere else (`rules_settle_iff`): the grades of POPE and MMVP are sent
  to the judge all the same, which replaces them (`exact_grade_replaced`).
-/
import LookAway.Base.SparseVector
import LookAway.Eval.Failures

namespace LookAway.Eval

open LookAway.Base LookAway.Base.Json LookAway.Data

/-! ## The judge -/

/-- The call with number `idx`, as a future. -/
def future (api : JudgeApi) (prompts : List String) (idx : ℕ) : Except EvalError (ℕ × String) := do
  let text ← callOne api idx (prompts.getD idx "")
  return (idx, text)

/-- `results` of judge_via_api, when the futures complete in the order `completed`. -/
def judgeViaApi (api : JudgeApi) (prompts : List String) (completed : List ℕ) :
    Except EvalError (List String) := do
  let texts ← completed.mapM (future api prompts)
  return fill (List.replicate prompts.length "") texts

/-- The replies to the prompts. -/
inductive Replies : JudgeModel → List String → List String → Prop where
  | unasked (judge : JudgeModel) : Replies judge [] []
  | api (api : JudgeApi) {prompts results : List String} {completed : List ℕ}
      (hperm : completed.Perm (List.range prompts.length))
      (hresults : judgeViaApi api prompts completed = .ok results) :
      Replies (.api (some api)) prompts results
  | vllm (generate : String → String) (prompts : List String) :
      Replies (.vllm (some generate)) prompts (prompts.map fun p => strip (generate p))

/-- The reply to the prompt with number `k`. -/
def JudgeModel.reply : JudgeModel → ℕ → String → Except EvalError String
  | .api (some calls), k, prompt => callOne calls k prompt
  | .api none, _, _ => .error .importError
  | .vllm (some generate), _, prompt => .ok (strip (generate prompt))
  | .vllm none, _, _ => .error .vllmError

/-- The futures that all return leave each text in its place, in whatever order they complete. -/
theorem fill_texts {api : JudgeApi} {prompts : List String} {completed : List ℕ}
    {texts : List (ℕ × String)} (hperm : completed.Perm (List.range prompts.length))
    (htexts : completed.mapM (future api prompts) = .ok texts) :
    prompts.zipIdx.mapM (fun p => callOne api p.2 p.1) =
      .ok (fill (List.replicate prompts.length "") texts) := by
  obtain ⟨f, hf⟩ : ∃ f : ℕ → String, ∀ idx ∈ completed,
      callOne api idx (prompts.getD idx "") = .ok (f idx) := by
    have hcalls : ∀ idx ∈ completed, ∃ text, callOne api idx (prompts.getD idx "") = .ok text := by
      intro idx hidx
      obtain ⟨_, -, hfuture⟩ := mapM_of_mem htexts idx hidx
      obtain ⟨text, htext, -⟩ := except_bind_ok.mp hfuture
      exact ⟨text, htext⟩
    choose! f hf using hcalls
    exact ⟨f, hf⟩
  have hfuture : completed.mapM (future api prompts) =
      .ok (completed.map fun idx => (idx, f idx)) :=
    mapM_eq_map fun idx hidx => except_bind_ok.mpr ⟨f idx, hf idx hidx, rfl⟩
  rw [hfuture] at htexts
  obtain rfl := Except.ok.inj htexts
  have hkeys : (completed.map fun idx => (idx, f idx)).map (·.1) = completed := by
    rw [List.map_map]
    exact List.map_id completed
  have hnodup : completed.Nodup := hperm.nodup_iff.mpr List.nodup_range
  have hmem : ∀ {i}, i ∈ completed ↔ i < prompts.length := by
    intro i
    rw [hperm.mem_iff, List.mem_range]
  have hplaced : fill (List.replicate prompts.length "") (completed.map fun idx => (idx, f idx)) =
      prompts.zipIdx.map fun p => f p.2 := by
    apply List.ext_getElem?
    intro i
    rw [getElem?_fill (by rw [hkeys]; exact hnodup), List.getElem?_replicate, List.getElem?_map,
      List.getElem?_zipIdx]
    by_cases hi : i < prompts.length
    · rw [if_pos hi, lookup_graph f (hmem.mpr hi), List.getElem?_eq_getElem hi]
      simp
    · rw [if_neg hi, List.getElem?_eq_none (Nat.le_of_not_lt hi)]
      rfl
  rw [hplaced]
  refine mapM_eq_map fun p hp => ?_
  have hget := List.mem_zipIdx_iff_getElem?.mp hp
  have hlt : p.2 < prompts.length := (List.getElem?_eq_some_iff.mp hget).1
  have hcall := hf p.2 (hmem.mpr hlt)
  rwa [List.getD_eq_getElem?_getD, hget] at hcall

theorem replies_iff {judge : JudgeModel} {prompts results : List String} :
    Replies judge prompts results ↔ judgePrompts judge prompts = .ok results := by
  unfold judgePrompts
  constructor
  · rintro (judge | ⟨api, hperm, hresults⟩ | ⟨generate, prompts⟩)
    · rfl
    · obtain ⟨texts, htexts, h⟩ := except_bind_ok.mp hresults
      obtain rfl := Except.ok.inj h
      have hall := fill_texts hperm htexts
      by_cases hp : prompts = []
      · subst hp
        exact hall
      · rw [if_neg hp]
        exact hall
    · by_cases hp : prompts = []
      · subst hp
        rfl
      · rw [if_neg hp]
  · intro h
    by_cases hp : prompts = []
    · subst hp
      cases h
      exact .unasked judge
    · rw [if_neg hp] at h
      rcases judge with (- | api) | (- | generate)
      · cases h
      · have hcalls : ∀ idx ∈ List.range prompts.length,
            ∃ text, future api prompts idx = .ok text := by
          intro idx hidx
          have hlt := List.mem_range.mp hidx
          have hcall : (prompts[idx], idx) ∈ prompts.zipIdx :=
            List.mem_zipIdx_iff_getElem?.mpr (List.getElem?_eq_getElem hlt)
          obtain ⟨text, -, htext⟩ := mapM_of_mem h _ hcall
          refine ⟨(idx, text), except_bind_ok.mpr ⟨text, ?_, rfl⟩⟩
          rwa [List.getD_eq_getElem?_getD, List.getElem?_eq_getElem hlt]
        obtain ⟨texts, htexts⟩ := mapM_exists hcalls
        have hall := fill_texts (List.Perm.refl _) htexts
        obtain rfl := Except.ok.inj (h.symm.trans hall)
        exact .api api (List.Perm.refl _) (except_bind_ok.mpr ⟨texts, htexts, rfl⟩)
      · cases h
      · cases h
        exact .vllm generate prompts

/-- Each prompt has its reply. -/
theorem Replies.get {judge : JudgeModel} {prompts results : List String}
    (h : Replies judge prompts results) {k : ℕ} {prompt : String} (hk : prompts[k]? = some prompt) :
    ∃ reply, results[k]? = some reply ∧ judge.reply k prompt = .ok reply := by
  cases h with
  | unasked => simp at hk
  | api api hperm hresults =>
      obtain ⟨texts, htexts, h⟩ := except_bind_ok.mp hresults
      obtain rfl := Except.ok.inj h
      obtain ⟨reply, hreply, hcall⟩ := getElem?_mapM (fill_texts hperm htexts)
        (i := k) (x := (prompt, k)) (by simp [List.getElem?_zipIdx, hk])
      exact ⟨reply, hreply, hcall⟩
  | vllm generate =>
      rw [List.getElem?_map, hk]
      exact ⟨strip (generate prompt), rfl, rfl⟩

theorem Replies.length_eq {judge : JudgeModel} {prompts results : List String}
    (h : Replies judge prompts results) : results.length = prompts.length := by
  cases h with
  | unasked => rfl
  | api api hperm hresults =>
      obtain ⟨texts, htexts, h⟩ := except_bind_ok.mp hresults
      obtain rfl := Except.ok.inj h
      rw [length_of_mapM (fill_texts hperm htexts), List.length_zipIdx]
  | vllm generate => rw [List.length_map]

/-! ## The index maps -/

/-- The items for the judge, by index, with their prompts. -/
def queued (graded : List Graded) : List (ℕ × String) :=
  graded.zipIdx.filterMap fun g => g.1.prompt.map fun prompt => (g.2, prompt)

/-- `to_llm_indices`. -/
def toLlmIndices (graded : List Graded) : List ℕ := (queued graded).map (·.1)

/-- `prompt_lists`. -/
def promptLists (graded : List Graded) : List String := (queued graded).map (·.2)

/-- `data_list` with the replies. -/
def storeReplies (items : List Fields) (indices : List ℕ) (results : List String) : List Fields :=
  applyAt (fun item reply => setJudge item reply "llm") items (indices.zip results)

theorem promptLists_eq (graded : List Graded) :
    promptLists graded = graded.filterMap (·.prompt) := by
  have hprompt : (graded.zipIdx.map (·.1)).filterMap (·.prompt) =
      graded.filterMap (·.prompt) := by
    rw [List.zipIdx_map_fst]
  rw [← hprompt, List.filterMap_map]
  unfold promptLists queued
  rw [List.map_filterMap]
  apply List.filterMap_congr
  intro g _
  rw [Option.map_map]
  exact Option.map_id'

theorem mem_queued {graded : List Graded} {i : ℕ} {prompt : String} :
    (i, prompt) ∈ queued graded ↔ ∃ g, graded[i]? = some g ∧ g.prompt = some prompt := by
  unfold queued
  rw [List.mem_filterMap]
  constructor
  · rintro ⟨⟨g, j⟩, hg, h⟩
    obtain ⟨p, hp, heq⟩ := Option.map_eq_some_iff.mp h
    obtain ⟨rfl, rfl⟩ := Prod.mk.inj heq
    exact ⟨g, List.mem_zipIdx_iff_getElem?.mp hg, hp⟩
  · rintro ⟨g, hg, hprompt⟩
    refine ⟨(g, i), List.mem_zipIdx_iff_getElem?.mpr hg, ?_⟩
    rw [hprompt]
    rfl

theorem nodup_toLlmIndices (graded : List Graded) : (toLlmIndices graded).Nodup := by
  have hsub : (toLlmIndices graded).Sublist (graded.zipIdx.map (·.2)) := by
    unfold toLlmIndices queued
    rw [List.map_filterMap]
    have hfilter : (graded.zipIdx.filterMap fun g =>
        (g.1.prompt.map fun prompt => (g.2, prompt)).map (·.1)) =
        (graded.zipIdx.filter fun g => g.1.prompt.isSome).map (·.2) := by
      rw [← List.filterMap_eq_map, List.filterMap_filter]
      apply List.filterMap_congr
      intro g _
      cases g.1.prompt <;> rfl
    rw [hfilter]
    exact List.Sublist.map _ List.filter_sublist
  apply List.Nodup.sublist hsub
  rw [List.zipIdx_map_snd]
  exact List.nodup_range'

theorem queued_cons (g : Graded) (graded : List Graded) : queued (g :: graded) =
    (g.prompt.map fun prompt => (0, prompt)).toList ++
      (queued graded).map fun q => (q.1 + 1, q.2) := by
  unfold queued
  rw [List.zipIdx_cons, List.zipIdx_succ, List.filterMap_cons, List.filterMap_map,
    List.map_filterMap]
  have htail : (graded.zipIdx.filterMap fun e =>
      e.1.prompt.map fun prompt => (e.2 + 1, prompt)) = graded.zipIdx.filterMap fun e =>
        (e.1.prompt.map fun prompt => (e.2, prompt)).map fun q => (q.1 + 1, q.2) := by
    apply List.filterMap_congr
    intro e _
    rw [Option.map_map]
    rfl
  cases g.prompt with
  | none => exact htail
  | some prompt => exact congrArg ((0, prompt) :: ·) htail

/-- Storing by index is `assign`. -/
theorem storeReplies_eq (graded : List Graded) (results : List String) :
    storeReplies (graded.map (·.item)) (toLlmIndices graded) results = assign graded results := by
  induction graded generalizing results with
  | nil => cases results <;> rfl
  | cons g graded ih =>
      obtain ⟨item, prompt⟩ := g
      have hzip : ∀ rs : List String,
          (((queued graded).map fun q => (q.1 + 1, q.2)).map (·.1)).zip rs =
            (((queued graded).map (·.1)).zip rs).map fun e => (e.1 + 1, e.2) := by
        intro rs
        rw [List.map_map, List.zip_map_left, List.zip_map_left, List.map_map]
        rfl
      unfold storeReplies toLlmIndices at ih ⊢
      rw [queued_cons]
      cases prompt with
      | none =>
          rw [Option.map_none, Option.toList_none, List.nil_append, hzip, List.map_cons,
            applyAt_succ]
          exact congrArg (item :: ·) (ih results)
      | some prompt =>
          cases results with
          | nil =>
              rw [List.zip_nil_right]
              have hrest := ih []
              rw [List.zip_nil_right] at hrest
              exact congrArg (item :: ·) hrest
          | cons reply results =>
              rw [Option.map_some, Option.toList_some, List.singleton_append, List.map_cons,
                List.map_cons, List.zip_cons_cons, applyAt_cons, hzip, List.modify_zero_cons,
                applyAt_succ]
              exact congrArg (setJudge item reply "llm" :: ·) (ih results)

/-! ## main -/

section Main

variable (u : Unicode) (args : JudgeArgs)

/-- A run of main on the items of the answer file. -/
structure JudgeRun (data : List Json) where
  judge : JudgeModel
  graded : List Graded
  results : List String
  asked : args.judge = some judge
  grades : data.mapM (gradeItem u args) = .ok graded
  replies : Replies judge (promptLists graded) results

variable {u args} {data : List Json}

/-- What the run writes. -/
def JudgeRun.items (run : JudgeRun u args data) : List Fields :=
  storeReplies (run.graded.map (·.item)) (toLlmIndices run.graded) run.results

/-- How often the run sends an item to the judge. -/
def JudgeRun.sent (run : JudgeRun u args data) (i : ℕ) : ℕ := (toLlmIndices run.graded).count i

theorem judgeMain_eq_ok {bytes : List UInt8} {items : List Fields} :
    judgeMain u args bytes = .ok items ↔
      ∃ data, readAnswers bytes = .ok data ∧ ∃ run : JudgeRun u args data, run.items = items := by
  unfold judgeMain
  constructor
  · intro h
    cases hjudge : args.judge with
    | none =>
        rw [hjudge] at h
        cases h
    | some judge =>
        rw [hjudge] at h
        obtain ⟨data, hdata, h⟩ := except_bind_ok.mp h
        obtain ⟨graded, hgraded, h⟩ := except_bind_ok.mp h
        obtain ⟨results, hresults, h⟩ := except_bind_ok.mp h
        cases h
        rw [← promptLists_eq] at hresults
        exact ⟨data, hdata, ⟨judge, graded, results, hjudge, hgraded, replies_iff.mpr hresults⟩,
          storeReplies_eq graded results⟩
  · rintro ⟨data, hdata, run, rfl⟩
    have hresults := replies_iff.mp run.replies
    rw [promptLists_eq] at hresults
    rw [run.asked]
    refine except_bind_ok.mpr ⟨data, hdata, except_bind_ok.mpr ⟨run.graded, run.grades, ?_⟩⟩
    refine except_bind_ok.mpr ⟨run.results, hresults, ?_⟩
    exact congrArg Except.ok (storeReplies_eq run.graded run.results).symm

/-- There is a reply for each index. -/
theorem JudgeRun.reply_keys (run : JudgeRun u args data) :
    ((toLlmIndices run.graded).zip run.results).map (·.1) = toLlmIndices run.graded := by
  apply List.map_fst_zip
  rw [run.replies.length_eq]
  unfold toLlmIndices promptLists
  rw [List.length_map, List.length_map]

/-- What the replies do with an item. -/
theorem JudgeRun.items_get (run : JudgeRun u args data) (i : ℕ) :
    run.items[i]? = (run.graded[i]?.map (·.item)).map fun item =>
      (((toLlmIndices run.graded).zip run.results).lookup i).elim item
        fun reply => setJudge item reply "llm" := by
  unfold JudgeRun.items storeReplies
  rw [getElem?_applyAt (by rw [run.reply_keys]; exact nodup_toLlmIndices run.graded),
    List.getElem?_map]

theorem JudgeRun.not_sent (run : JudgeRun u args data) {i : ℕ} {g : Graded}
    (hg : run.graded[i]? = some g) (hprompt : g.prompt = none) :
    run.sent i = 0 ∧ run.items[i]? = some g.item := by
  have hfresh : i ∉ toLlmIndices run.graded := by
    intro hmem
    obtain ⟨⟨j, prompt⟩, hq, rfl⟩ := List.mem_map.mp hmem
    obtain ⟨g', hg', hprompt'⟩ := mem_queued.mp hq
    rw [hg] at hg'
    cases hg'
    rw [hprompt] at hprompt'
    cases hprompt'
  have hlookup : ((toLlmIndices run.graded).zip run.results).lookup i = none := by
    rw [lookup_eq_none, run.reply_keys]
    exact hfresh
  refine ⟨List.count_eq_zero_of_not_mem hfresh, ?_⟩
  rw [run.items_get, hg, hlookup]
  rfl

theorem JudgeRun.sent_once (run : JudgeRun u args data) {i : ℕ} {g : Graded} {prompt : String}
    (hg : run.graded[i]? = some g) (hprompt : g.prompt = some prompt) :
    run.sent i = 1 ∧ ∃ k reply, (queued run.graded)[k]? = some (i, prompt) ∧
      run.judge.reply k prompt = .ok reply ∧
      run.items[i]? = some (setJudge g.item reply "llm") := by
  have hmem : (i, prompt) ∈ queued run.graded := mem_queued.mpr ⟨g, hg, hprompt⟩
  have hnodup := nodup_toLlmIndices run.graded
  obtain ⟨k, hk⟩ := List.mem_iff_getElem?.mp hmem
  have hindex : (toLlmIndices run.graded)[k]? = some i := by
    unfold toLlmIndices
    rw [List.getElem?_map, hk]
    rfl
  have hprompts : (promptLists run.graded)[k]? = some prompt := by
    unfold promptLists
    rw [List.getElem?_map, hk]
    rfl
  obtain ⟨reply, hreply, hown⟩ := run.replies.get hprompts
  have hzip : (i, reply) ∈ (toLlmIndices run.graded).zip run.results := by
    apply List.mem_iff_getElem?.mpr
    exact ⟨k, List.getElem?_zip_eq_some.mpr ⟨hindex, hreply⟩⟩
  have hlookup : ((toLlmIndices run.graded).zip run.results).lookup i = some reply := by
    apply lookup_of_mem _ hzip
    rw [run.reply_keys]
    exact hnodup
  refine ⟨List.count_eq_one_of_mem hnodup (List.mem_of_getElem? hindex), k, reply, hk, hown, ?_⟩
  rw [run.items_get, hg, hlookup]
  rfl

end Main

/-! ## The verdicts of the rules -/

section Verdicts

variable (u : Unicode) (args : JudgeArgs)

/-- The rule that decides an answer correct, by its `judge_source`. -/
def decidingRule (extracted : String) (gt : Json) (exact : Option String) : Option String :=
  match exact with
  | some source => some source
  | none =>
      if (args.gradeAnswer.bind fun gradeAnswer => gradeAnswer gt extracted) == some true then
        some "mathruler"
      else if decide (args.benchmark ∈ mcqBenchmarks) && firstLetterMatch gt extracted then
        some "first letter"
      else none

/-- The rule that decides an item correct. -/
def ruleVerdict (item : Fields) : Except EvalError (Option String) := do
  let modelAnswerRaw ← requireAnswer (← requireKey item "model_answer")
  let gt ← requireKey item "response"
  let exact ← exactRule u args (extractAnswer modelAnswerRaw) gt
  return decidingRule args (extractAnswer modelAnswerRaw) gt exact

/-- The prompt about an item. -/
def itemPrompt (item : Fields) : Except EvalError String := do
  let query ← requireStr "replace" (← requireKey item "query")
  let modelAnswerRaw ← requireAnswer (← requireKey item "model_answer")
  let gt ← requireKey item "response"
  return promptTemplate (query.replace "<image>" "") (pyStr gt) (extractAnswer modelAnswerRaw)

/-- No rule of POPE or MMVP decides the item, and it has no `judge` field where mathruler does. -/
def Unchallenged (item : Fields) : Prop :=
  ∀ source, ruleVerdict u args item = .ok (some source) →
    source = "first letter" ∨ source = "mathruler" ∧ item.lookup "judge" = none

variable {u args}

/-- The item is stored as the rule graded it. -/
structure GradedBy (item : Fields) (source : String) : Prop where
  judge : item.lookup "judge" = some (.str "Yes")
  judgeSource : item.lookup "judge_source" = some (.str source)

theorem gradedBy_setJudge (item : Fields) (source : String) :
    GradedBy (setJudge item "Yes" source) source := by
  unfold setJudge
  constructor
  · rw [lookup_setField_of_ne (by decide), lookup_setField_self]
  · rw [lookup_setField_self]

variable (u args) in
/-- What the grading does with an item: a verdict that stays, or a prompt. -/
inductive Outcome (item : Fields) (g : Graded) : Prop where
  | settled (source : String) (hrule : ruleVerdict u args item = .ok (some source))
      (hprompt : g.prompt = none) (hgraded : GradedBy g.item source)
      (hfree : source = "first letter" ∨ source = "mathruler" ∧ item.lookup "judge" = none)
  | undecided (prompt : String) (hrule : ruleVerdict u args item = .ok none)
      (hitem : itemPrompt item = .ok prompt) (hprompt : g.prompt = some prompt)
  | challenged (prompt source : String) (hrule : ruleVerdict u args item = .ok (some source))
      (hprompt : g.prompt = some prompt)
      (hfree : ¬(source = "first letter" ∨ source = "mathruler" ∧ item.lookup "judge" = none))

/-- An exact rule is none of the later ones. -/
theorem exactRule_source {extracted : String} {gt : Json} {source : String}
    (h : exactRule u args extracted gt = .ok (some source)) :
    source ≠ "first letter" ∧ source ≠ "mathruler" := by
  unfold exactRule at h
  split at h
  · obtain ⟨pred, -, h⟩ := except_bind_ok.mp h
    obtain ⟨s, -, h⟩ := except_bind_ok.mp h
    split at h
    · cases h
      exact ⟨by decide, by decide⟩
    · cases h
  · split at h
    · obtain ⟨s, -, h⟩ := except_bind_ok.mp h
      split at h
      · cases h
        exact ⟨by decide, by decide⟩
      · cases h
    · cases h

theorem hasJudge_iff (item : Fields) (v : Json) :
    (setField item "extracted_answer" v).any (·.1 == "judge") = true ↔
      item.lookup "judge" ≠ none := by
  rw [any_key, ← not_iff_not, not_not, ← lookup_eq_none, lookup_setField_of_ne (by decide)]

section Rules

variable {item : Fields} {question extracted : String} {gt : Json}

/-- An exact rule sets `judge`, and the item is sent. -/
theorem otherRules_exact (source : String) :
    otherRules args item question extracted gt (some source) =
      ⟨setJudge item "Yes" source, some (promptTemplate question (pyStr gt) extracted)⟩ := by
  have hjudge : (setJudge item "Yes" source).any (·.1 == "judge") = true := by
    rw [any_key]
    by_contra hno
    have hnone := lookup_eq_none.mpr hno
    rw [(gradedBy_setJudge item source).judge] at hnone
    cases hnone
  unfold otherRules
  simp [hjudge]

theorem otherRules_mathruler
    (h : (args.gradeAnswer.bind fun gradeAnswer => gradeAnswer gt extracted) = some true) :
    otherRules args item question extracted gt none =
      if item.any (·.1 == "judge") then ⟨item, some (promptTemplate question (pyStr gt) extracted)⟩
      else ⟨setJudge item "Yes" "mathruler", none⟩ := by
  unfold otherRules
  cases hjudge : item.any (·.1 == "judge") with
  | true => simp [h, hjudge]
  | false => simp [h, hjudge]

theorem otherRules_letter
    (h : (args.gradeAnswer.bind fun gradeAnswer => gradeAnswer gt extracted) ≠ some true) :
    otherRules args item question extracted gt none =
      if decide (args.benchmark ∈ mcqBenchmarks) && firstLetterMatch gt extracted then
        ⟨setJudge item "Yes" "first letter", none⟩
      else ⟨item, some (promptTemplate question (pyStr gt) extracted)⟩ := by
  unfold otherRules
  simp [h]

end Rules

theorem ruleVerdict_eq {item : Fields} {answer : String} {gt : Json} {exact : Option String}
    (hanswer : item.lookup "model_answer" = some (.str answer))
    (hgt : item.lookup "response" = some gt)
    (hexact : exactRule u args (extractAnswer answer) gt = .ok exact) :
    ruleVerdict u args item = .ok (decidingRule args (extractAnswer answer) gt exact) :=
  except_bind_ok.mpr ⟨_, requireKey_eq_ok.mpr hanswer, except_bind_ok.mpr ⟨answer, rfl,
    except_bind_ok.mpr ⟨gt, requireKey_eq_ok.mpr hgt,
      except_bind_ok.mpr ⟨exact, hexact, rfl⟩⟩⟩⟩

theorem itemPrompt_eq {item : Fields} {query answer : String} {gt : Json}
    (hquery : item.lookup "query" = some (.str query))
    (hanswer : item.lookup "model_answer" = some (.str answer))
    (hgt : item.lookup "response" = some gt) :
    itemPrompt item = .ok (promptTemplate (query.replace "<image>" "") (pyStr gt)
      (extractAnswer answer)) :=
  except_bind_ok.mpr ⟨_, requireKey_eq_ok.mpr hquery, except_bind_ok.mpr ⟨query, rfl,
    except_bind_ok.mpr ⟨_, requireKey_eq_ok.mpr hanswer, except_bind_ok.mpr ⟨answer, rfl,
      except_bind_ok.mpr ⟨gt, requireKey_eq_ok.mpr hgt, rfl⟩⟩⟩⟩⟩

theorem gradeFields_outcome {item : Fields} {g : Graded} (h : gradeFields u args item = .ok g) :
    Outcome u args item g := by
  obtain ⟨query, answer, gt, exact, hquery, hanswer, hgt, hexact, rfl⟩ := gradeFields_cases h
  have hrule := ruleVerdict_eq hanswer hgt hexact
  have hitem := itemPrompt_eq hquery hanswer hgt
  cases hsource : exact with
  | some source =>
      rw [hsource] at hrule hexact
      rw [otherRules_exact]
      apply Outcome.challenged _ source hrule rfl
      obtain ⟨hletter, hmath⟩ := exactRule_source hexact
      rintro (heq | ⟨heq, -⟩)
      · exact hletter heq
      · exact hmath heq
  | none =>
      rw [hsource] at hrule
      unfold decidingRule at hrule
      by_cases hmath : (args.gradeAnswer.bind fun gradeAnswer =>
          gradeAnswer gt (extractAnswer answer)) = some true
      · rw [otherRules_mathruler hmath]
        rw [hmath] at hrule
        by_cases hjudge : item.lookup "judge" = none
        · rw [if_neg (by rw [hasJudge_iff]; exact not_not.mpr hjudge)]
          exact .settled "mathruler" hrule rfl (gradedBy_setJudge _ _) (.inr ⟨rfl, hjudge⟩)
        · rw [if_pos ((hasJudge_iff item _).mpr hjudge)]
          apply Outcome.challenged _ "mathruler" hrule rfl
          rintro (hne | ⟨-, hnone⟩)
          · exact absurd hne (by decide)
          · exact hjudge hnone
      · rw [otherRules_letter hmath]
        simp only [beq_iff_eq, if_neg hmath] at hrule
        split
        · rename_i hletter
          rw [if_pos hletter] at hrule
          exact .settled "first letter" hrule rfl (gradedBy_setJudge _ _) (.inl rfl)
        · rename_i hletter
          rw [if_neg hletter] at hrule
          exact .undecided _ hrule hitem rfl

/-! ## Settled grades -/

variable {data : List Json}

/-- The grade of a rule stays, and the item is not sent. -/
structure JudgeRun.Keeps (run : JudgeRun u args data) (i : ℕ) (source : String) : Prop where
  not_sent : run.sent i = 0
  stored : ∃ item, run.items[i]? = some item ∧ GradedBy item source

/-- The item is sent once, and its judge text is the reply to `prompt`. -/
structure JudgeRun.Replied (run : JudgeRun u args data) (i : ℕ) (prompt : String) : Prop where
  once : run.sent i = 1
  stored : ∃ item k reply, run.items[i]? = some item ∧
    (queued run.graded)[k]? = some (i, prompt) ∧ run.judge.reply k prompt = .ok reply ∧
    item.lookup "judge" = some (.str reply)

/-- A rule's grade stays settled; an item that no rule decides gets the reply to its own prompt. -/
structure JudgeRun.Settled (run : JudgeRun u args data) (i : ℕ) (fields : Fields) : Prop where
  graded : ∃ verdict, ruleVerdict u args fields = .ok verdict
  rule : ∀ source, ruleVerdict u args fields = .ok (some source) → run.Keeps i source
  judged : ruleVerdict u args fields = .ok none →
    ∃ prompt, itemPrompt fields = .ok prompt ∧ run.Replied i prompt

theorem JudgeRun.outcome (run : JudgeRun u args data) {i : ℕ} {fields : Fields}
    (hi : data[i]? = some (.obj fields)) :
    ∃ g, run.graded[i]? = some g ∧ Outcome u args fields g := by
  obtain ⟨g, hg, hok⟩ := getElem?_mapM run.grades hi
  exact ⟨g, hg, gradeFields_outcome hok⟩

theorem JudgeRun.settled_iff (run : JudgeRun u args data) {i : ℕ} {fields : Fields}
    (hi : data[i]? = some (.obj fields)) : run.Settled i fields ↔ Unchallenged u args fields := by
  obtain ⟨g, hg, houtcome⟩ := run.outcome hi
  cases houtcome with
  | settled source hrule hprompt hgraded hfree =>
      obtain ⟨hsent, hitem⟩ := run.not_sent hg hprompt
      constructor
      · intro _ source' hrule'
        rw [hrule] at hrule'
        cases hrule'
        exact hfree
      · intro _
        refine ⟨⟨_, hrule⟩, fun source' hrule' => ?_, fun hnone => ?_⟩
        · rw [hrule] at hrule'
          cases hrule'
          exact ⟨hsent, g.item, hitem, hgraded⟩
        · rw [hrule] at hnone
          cases hnone
  | undecided prompt hrule hitem hprompt =>
      obtain ⟨hsent, k, reply, hk, hreply, hstored⟩ := run.sent_once hg hprompt
      constructor
      · intro _ source' hrule'
        rw [hrule] at hrule'
        cases hrule'
      · intro _
        refine ⟨⟨_, hrule⟩, fun source' hrule' => ?_, fun _ => ?_⟩
        · rw [hrule] at hrule'
          cases hrule'
        · refine ⟨prompt, hitem, hsent, _, k, reply, hstored, hk, hreply, ?_⟩
          unfold setJudge
          rw [lookup_setField_of_ne (by decide), lookup_setField_self]
  | challenged prompt source hrule hprompt hfree =>
      obtain ⟨hsent, -⟩ := run.sent_once hg hprompt
      constructor
      · intro h
        have hkept := (h.rule source hrule).not_sent
        rw [hsent] at hkept
        cases hkept
      · intro h
        exact absurd (h source hrule) hfree

/-- **The grades that stay settled.** -/
theorem rules_settle_iff (run : JudgeRun u args data) :
    (∀ i fields, data[i]? = some (.obj fields) → run.Settled i fields) ↔
      ∀ fields, .obj fields ∈ data → Unchallenged u args fields := by
  constructor
  · intro h fields hmem
    obtain ⟨i, hi⟩ := List.mem_iff_getElem?.mp hmem
    exact (run.settled_iff hi).mp (h i fields hi)
  · intro h i fields hi
    exact (run.settled_iff hi).mpr (h fields (List.mem_of_getElem? hi))

end Verdicts

/-! ## A POPE answer that is right -/

section Sample

def popeFields : Fields :=
  [("query", .str "Is there a car?"), ("model_answer", .str "yes"), ("response", .str "yes")]

def noApi : JudgeApi := ⟨fun _ => true, fun _ _ _ => some (some "No")⟩

def popeJudge : JudgeArgs := ⟨"pope", some (.api (some noApi)), none⟩

def popeGraded : Graded :=
  ⟨setJudge (setField popeFields "extracted_answer" (.str "yes")) "Yes" "pope_exact",
    some (promptTemplate ("Is there a car?".replace "<image>" "") "yes" "yes")⟩

/-- The judge says No to the only item. -/
def popeRun : JudgeRun asciiUnicode popeJudge [.obj popeFields] where
  judge := .api (some noApi)
  graded := [popeGraded]
  results := ["No"]
  asked := rfl
  grades := by
    have hgrade : gradeFields asciiUnicode popeJudge popeFields = .ok popeGraded := by
      have hextract : extractAnswer "yes" = "yes" := by decide
      have hexact : exactRule asciiUnicode popeJudge (extractAnswer "yes") (.str "yes") =
          .ok (some "pope_exact") := rfl
      rw [gradeFields_eq rfl rfl rfl hexact, otherRules_exact, hextract]
      rfl
    rw [List.mapM_cons]
    exact except_bind_ok.mpr ⟨_, hgrade, rfl⟩
  replies := .api noApi (List.Perm.refl [0]) rfl

/-- The grade of POPE is sent, and the judge replaces it. -/
theorem exact_grade_replaced : ¬∀ (u : Unicode) (args : JudgeArgs) (data : List Json)
    (run : JudgeRun u args data) (i : ℕ) (fields : Fields), data[i]? = some (.obj fields) →
      run.Settled i fields := by
  intro h
  have hsettled := h asciiUnicode popeJudge _ popeRun 0 popeFields rfl
  have hrule : ruleVerdict asciiUnicode popeJudge popeFields = .ok (some "pope_exact") := rfl
  have hkept := hsettled.rule "pope_exact" hrule
  have hsent : popeRun.sent 0 = 1 := by decide
  rw [hkept.not_sent] at hsent
  cases hsent

end Sample

end LookAway.Eval
