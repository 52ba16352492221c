/-
  The launch check: resolve_model.py, validate_priors.py and the gate of run_lookaway.sh.

  `validate_eq_ok`, `validatePriorsMain_eq_ok` and `launchCheck_eq_ok` say exactly when they pass.
-/
import LookAway.Data.Dir

namespace LookAway.Data

open LookAway.Base

def defaultModelPath : String := "Qwen/Qwen3.5-4B"
def defaultModelRevision : String := "851bf6e806efd8d0a36b00ddf55e13ccb7b8cd0a"

/-! ## Outside the repository -/

/-- A tokenizer, as the scripts use it. Its ids are 32-bit numbers. -/
structure Tokenizer where
  vocab : List (String × ℕ)
  id_lt : ∀ e ∈ vocab, e.2 < 2 ^ 32
  specialTokensMap : List (String × String)
  allSpecialIds : List ℕ
  unkTokenId : Option ℕ
  /-- `len(tokenizer)` -/
  size : ℕ
  vocabSize : Option ℕ
  nameOrPath : Option String
  /-- `convert_ids_to_tokens`, of one id -/
  tokenText : ℕ → String
  decode : List ℕ → String

/-- A processor and a vision-language model: the prompt of an image, a question and a chat
    template; the greedy continuation of a prompt; and the log-softmax at a position. -/
structure VisionModel where
  promptIds : Bytes → String → String → Except PyError (List ℕ)
  generate : Bytes → List ℕ → List ℕ
  logSoftmax : Bytes → List ℕ → ℕ → ℕ → ℚ

/-- What a script finds outside the data directory when it runs: paths, the model hub, models and
    tokenizers, the texts of chat templates, and NumPy. -/
structure World where
  pathExists : String → Bool
  snapshotDownload : String → String → Except PyError String
  fromPretrained : String → Option String → Except PyError Tokenizer
  loadModel : String → Option String → Except PyError VisionModel
  templateText : String → Option String
  abspath : String → String
  /-- `np.percentile(xs, q)`, of doubles -/
  percentile : List ℚ → ℕ → ℚ

def defaultChatTemplate : String := "chat_templates/perception_chat_template_qwen35.jinja"

def World.chatTemplate (world : World) : Option String := world.templateText defaultChatTemplate

/-- SHA-256, as a hex digest. -/
abbrev Digest := Hashed → String

/-- `sorted(...)` on pairs. -/
def sortPairs {β : Type} (le : β → β → Bool) (pairs : List (String × β)) : List (String × β) :=
  pairs.mergeSort fun a b => decide (a.1 < b.1) || (a.1 == b.1 && le a.2 b.2)

def Tokenizer.payload (tok : Tokenizer) : TokenizerPayload where
  vocab := sortPairs (fun a b => decide (a ≤ b)) tok.vocab
  specialTokensMap := sortPairs (fun a b => decide (a ≤ b)) tok.specialTokensMap

def tokenizerFingerprint (sha256 : Digest) (tok : Tokenizer) : String :=
  sha256 (.tokenizer tok.payload)

/-- The content of a file, or FileNotFoundError. -/
def openFile {α : Type} (path : String) : Option α → Except PyError α
  | none => .error (.fileNotFound path)
  | some a => .ok a

/-! ## Model paths -/

def resolve (world : World) (modelPath revision : String) : Except PyError String :=
  if world.pathExists modelPath then .ok modelPath
  else if revision = "" then
    .error (.valueError "A revision is required for a remote Hugging Face model")
  else world.snapshotDownload modelPath revision

/-- The revision a script loads the model with: none for an existing path, then the one given,
    then the default one of the default model. -/
def modelRevision (world : World) (modelPath revision : String) :
    Except PyError (Option String) :=
  if world.pathExists modelPath then .ok none
  else if revision ≠ "" then .ok (some revision)
  else if modelPath = defaultModelPath then .ok (some defaultModelRevision)
  else .error (.valueError "--model-revision is required for a non-default remote model")

/-! ## Validation -/

/-- A value of the meta block. -/
inductive MetaValue where
  | none
  | text (s : String)
  | nat (n : ℕ)
  deriving DecidableEq

def MetaValue.repr : MetaValue → String
  | .none => "None"
  | .text s => Json.quote s
  | .nat n => intText n

def MetaValue.ofText : Option String → MetaValue
  | .none => .none
  | .some s => .text s

def MetaValue.ofNat : Option ℕ → MetaValue
  | .none => .none
  | .some n => .nat n

theorem MetaValue.ofText_injective : Function.Injective MetaValue.ofText := by
  intro a b h
  cases a <;> cases b <;> cases h <;> rfl

theorem MetaValue.ofNat_injective : Function.Injective MetaValue.ofNat := by
  intro a b h
  cases a <;> cases b <;> cases h <;> rfl

/-- What validate expects of the meta block. -/
structure Expected where
  modelPath : String
  modelRevision : Option String
  chatTemplateSha256 : String
  generationResultsSha256 : String
  trainParquetSha256 : String
  nSamples : ℕ
  tokenizerSha256 : String

/-- Key, expected value and actual value, in the order of the source's dict. -/
def Expected.entries (e : Expected) (info : PriorsMeta) : List (String × MetaValue × MetaValue) :=
  [("model_path", .text e.modelPath, .ofText info.modelPath),
    ("model_revision", .ofText e.modelRevision, .ofText info.modelRevision),
    ("chat_template_sha256", .text e.chatTemplateSha256, .ofText info.chatTemplateSha256),
    ("generation_results_sha256", .text e.generationResultsSha256,
      .ofText info.generationResultsSha256),
    ("train_parquet_sha256", .text e.trainParquetSha256, .ofText info.trainParquetSha256),
    ("n_samples", .nat e.nSamples, .ofNat info.nSamples),
    ("tokenizer_sha256", .text e.tokenizerSha256, .ofText info.tokenizerSha256)]

def Expected.mismatches (e : Expected) (info : PriorsMeta) :
    List (String × MetaValue × MetaValue) :=
  (e.entries info).filter fun entry => entry.2.2 ≠ entry.2.1

/-- The meta block has every expected value. -/
structure Expected.Match (e : Expected) (info : PriorsMeta) : Prop where
  modelPath : info.modelPath = some e.modelPath
  modelRevision : info.modelRevision = e.modelRevision
  chatTemplate : info.chatTemplateSha256 = some e.chatTemplateSha256
  generationResults : info.generationResultsSha256 = some e.generationResultsSha256
  trainParquet : info.trainParquetSha256 = some e.trainParquetSha256
  nSamples : info.nSamples = some e.nSamples
  tokenizer : info.tokenizerSha256 = some e.tokenizerSha256

theorem Expected.mismatches_eq_nil {e : Expected} {info : PriorsMeta} :
    e.mismatches info = [] ↔ e.Match info := by
  have htext : ∀ (a : Option String) (b : String), MetaValue.ofText a = .text b ↔ a = some b :=
    fun a b => MetaValue.ofText_injective.eq_iff (b := some b)
  have hnat : ∀ (a : Option ℕ) (b : ℕ), MetaValue.ofNat a = .nat b ↔ a = some b :=
    fun a b => MetaValue.ofNat_injective.eq_iff (b := some b)
  unfold Expected.mismatches Expected.entries
  rw [List.filter_eq_nil_iff]
  simp only [List.forall_mem_cons, List.not_mem_nil, false_imp_iff, implies_true, and_true,
    ne_eq, decide_not, Bool.not_eq_true', decide_eq_false_iff_not, not_not, htext, hnat,
    MetaValue.ofText_injective.eq_iff]
  constructor
  · rintro ⟨h1, h2, h3, h4, h5, h6, h7⟩
    exact ⟨h1, h2, h3, h4, h5, h6, h7⟩
  · rintro ⟨h1, h2, h3, h4, h5, h6, h7⟩
    exact ⟨h1, h2, h3, h4, h5, h6, h7⟩

def incompatiblePriors (mismatches : List (String × MetaValue × MetaValue)) : PyError :=
  let details := ", ".intercalate (mismatches.map fun m =>
    m.1 ++ ": expected " ++ m.2.1.repr ++ ", got " ++ m.2.2.repr)
  .valueError ("token_priors_frozen.json is incompatible (" ++ details ++
    "); rerun scripts/prepare_priors.py")

/-- The meta values a launch with this model expects, from the files in place. -/
def expectedMeta (sha256 : Digest) (modelPath : String) (revision : Option String)
    (template : String) (manifest : Doc (List ResultRecord)) (parquet : Doc (List TrainRecord))
    (trainNumRows : ℕ) (tokenizerSha256 : String) : Expected where
  modelPath := modelPath
  modelRevision := if revision = some "" then none else revision
  chatTemplateSha256 := sha256 (.template template)
  generationResultsSha256 := sha256 (.manifest manifest)
  trainParquetSha256 := sha256 (.parquet parquet)
  nSamples := trainNumRows
  tokenizerSha256 := tokenizerSha256

def validate (sha256 : Digest) (priorFile : Option PriorsFile) (modelPath : String)
    (revision : Option String) (chatTemplate : Option String)
    (generationResults : Option (Doc (List ResultRecord))) (trainFile : Option ParquetFile)
    (trainNumRows : ℕ) (tokenizerSha256 : String) : Except PyError Unit := do
  let prior ← openFile "token_priors_frozen.json" priorFile
  let blob ← prior.content.parse
  let template ← openFile "perception_chat_template_qwen35.jinja" chatTemplate
  let manifest ← openFile "dataset_generation_manifest.json" generationResults
  let parquet ← openFile "trainset_clean.parquet" trainFile
  let mismatches := (expectedMeta sha256 modelPath revision template manifest parquet.content
    trainNumRows tokenizerSha256).mismatches blob.info
  if mismatches = [] then .ok () else .error (incompatiblePriors mismatches)

/-! ## The frequency table -/

def noGet : PyError := .attributeError "object has no attribute 'get'"

def textOf : Option String → Json
  | none => .null
  | some s => .str s

/-- `v != expected`, for an expected text or None. -/
def differsFrom (v : Json) (expected : Option String) : Bool :=
  match v, expected with
  | .str s, some e => s != e
  | .null, none => false
  | _, _ => true

/-- The keys that look like integers and lie outside `0 <= int(k) < vocab_size`. -/
def outOfRange (vocabSize : Json) : List String → Except PyError (List String)
  | [] => .ok []
  | k :: ks => do
      let out ← if looksInteger k then
          match intOfText? k with
          | none => .error (.valueError (intErrorText k (scannedDigits k)))
          | some n =>
              if 0 ≤ n then
                match Json.intLt? n vocabSize with
                | none => .error (.typeError "'<' not supported")
                | some lt => .ok (!lt)
              else .ok true
        else .ok false
      let rest ← outOfRange vocabSize ks
      return if out then k :: rest else rest

/-- `not isinstance(v, int) or v <= 0`. -/
def notPositive (v : Json) : Bool :=
  match v.int? with
  | none => true
  | some n => decide (n ≤ 0)

def countProblems (vocabSize counts : Json) : Except PyError (List String) :=
  match counts.fields? with
  | none | some [] => .ok ["counts: missing or empty"]
  | some fields => do
      let keys := fields.map (·.1)
      let bad := keys.filter fun k => !looksInteger k
      let out ← outOfRange vocabSize keys
      let nonpos := (fields.map (·.2)).filter notPositive
      if bad = [] ∧ out = [] ∧ nonpos.length = 0 then .ok []
      else .ok ["counts: " ++ intText bad.length ++ " non-integer ids, " ++ intText out.length ++
        " out-of-range ids, " ++ intText nonpos.length ++ " non-positive values"]

/-- A problem text, when the test says so. -/
def problem (test : Bool) (text : String) : List String := if test then [text] else []

def freqProblems (fields info : List (String × Json)) (modelPath : String)
    (modelRevision : Option String) (tokenizerSha256 dumpSha256 : String) (expectedKappa : ℤ) :
    List String :=
  let vocabSize := Json.get fields "vocab_size"
  let badVocab := match vocabSize.int? with
    | none => true
    | some n => decide ((Json.get info "vocab_size").number? ≠ some (n : ℚ)) || decide (n ≤ 0)
  problem (decide ((Json.get info "schema_version").number? ≠ some 1))
      ("schema_version: expected 1, got " ++ (Json.get info "schema_version").display) ++
    problem (differsFrom (Json.get info "model_path") (some modelPath))
      ("model_path: expected " ++ Json.quote modelPath ++ ", got " ++
        (Json.get info "model_path").text) ++
    problem (differsFrom (Json.get info "model_revision") modelRevision)
      ("model_revision: expected " ++ (textOf modelRevision).text ++ ", got " ++
        (Json.get info "model_revision").text) ++
    problem (differsFrom (Json.get info "tokenizer_sha256") (some tokenizerSha256))
      "tokenizer_sha256: table was built for a different tokenizer" ++
    problem badVocab "vocab_size: missing, inconsistent, or non-positive" ++
    problem (differsFrom (Json.get info "token_dump_sha256") (some dumpSha256))
      "token_dump_sha256: the token dump changed after the table was built" ++
    problem (decide ((Json.get info "kappa").number? ≠ some (expectedKappa : ℚ)))
      ("kappa: expected " ++ intText expectedKappa ++ ", got " ++
        (Json.get info "kappa").display)

/-- The lines of a dump, as its hash covers them. -/
def dumpLines (dump : List Scored) : List DumpLine := dump.map (·.line)

/-- The error that reports the problems. -/
def incompatibleTable (problems : List String) : PyError :=
  .valueError ("token_freq_counts.json is incompatible (" ++ "; ".intercalate problems ++
    "); rerun scripts/build_freq_table.py")

def validateFreq (sha256 : Digest) (table : Doc Json) (modelPath : String)
    (modelRevision : Option String) (tokenizerSha256 : String) (tokenDump : Option (List Scored))
    (expectedKappa : ℤ) : Except PyError Unit := do
  let blob ← table.parse
  let fields ← blob.fields?.elim (.error noGet) .ok
  let info ← (Json.getD fields "meta" (.obj [])).fields?.elim (.error noGet) .ok
  let dump ← openFile "teacher_posneg_token_scores.jsonl" tokenDump
  let counts ← countProblems (Json.get fields "vocab_size") (Json.get fields "counts")
  let problems := freqProblems fields info modelPath modelRevision tokenizerSha256
    (sha256 (.dump (dumpLines dump))) expectedKappa ++ counts
  if problems = [] then .ok () else .error (incompatibleTable problems)

/-! ## validate_priors.py -/

def validatePriorsMain (sha256 : Digest) (world : World) (modelPath revisionArg : String)
    (freq : Bool) (s : DataDir) : Except PyError Unit := do
  let revision ← modelRevision world modelPath revisionArg
  let tokenizer ← world.fromPretrained modelPath revision
  let fingerprint := tokenizerFingerprint sha256 tokenizer
  let parquet ← openFile "trainset_clean.parquet" s.parquet
  let records ← parquet.content.parse
  validate sha256 s.priors modelPath revision world.chatTemplate s.manifest s.parquet
    records.length fingerprint
  if freq then do
    let table ← openFile "token_freq_counts.json" s.freqCounts
    validateFreq sha256 table modelPath revision fingerprint s.dump 50
  else .ok ()

/-! ## run_lookaway.sh -/

/-- The environment variables the gate reads; the empty text is an unset variable. -/
structure LaunchEnv where
  modelPath : String
  modelRevision : String
  vdFreqDecay : String

/-- `${v:-default}` -/
def shellDefault (v default : String) : String := if v = "" then default else v

def missing (file : String) : PyError :=
  .systemExit ("Missing " ++ file ++
    " -- run scripts/build_trainset.py and scripts/prepare_priors.py first.")

/-- The frequency table is built by a script of its own, or not used. -/
def missingFreqTable (file : String) : PyError :=
  .systemExit ("Missing " ++ file ++
    " -- run scripts/build_freq_table.py first (or set VD_FREQ_DECAY=false).")

/-- MODEL_PATH and MODEL_REVISION before resolve_model.py runs. -/
def LaunchEnv.modelId (env : LaunchEnv) : String := shellDefault env.modelPath defaultModelPath

def LaunchEnv.revision (env : LaunchEnv) : String :=
  if env.modelId = defaultModelPath ∧ env.modelRevision = "" then defaultModelRevision
  else env.modelRevision

def LaunchEnv.freqDecay (env : LaunchEnv) : Bool := shellDefault env.vdFreqDecay "true" == "true"

def launchCheck (sha256 : Digest) (world : World) (env : LaunchEnv) (s : DataDir) :
    Except PyError Unit := do
  let modelPath ← resolve world env.modelId env.revision
  if s.parquet.isNone then .error (missing "trainset_clean.parquet")
  else if s.priors.isNone then .error (missing "token_priors_frozen.json")
  else if s.manifest.isNone then .error (missing "dataset_generation_manifest.json")
  else if env.freqDecay ∧ s.freqCounts.isNone then
    .error (missingFreqTable "token_freq_counts.json")
  else validatePriorsMain sha256 world modelPath env.revision env.freqDecay s

/-- The launcher starts training. -/
def Launchable (sha256 : Digest) (world : World) (env : LaunchEnv) (s : DataDir) : Prop :=
  launchCheck sha256 world env s = .ok ()

/-- The files and the model a launch reads. -/
structure LaunchInputs where
  modelPath : String
  revision : Option String
  tokenizer : Tokenizer
  template : String
  manifest : Doc (List ResultRecord)
  parquet : ParquetFile
  records : List TrainRecord
  priors : PriorsFile
  blob : Priors

/-- What a launch has found when it starts training. -/
structure Accepted (sha256 : Digest) (world : World) (env : LaunchEnv) (s : DataDir)
    (i : LaunchInputs) : Prop where
  resolved : resolve world env.modelId env.revision = .ok i.modelPath
  revision : modelRevision world i.modelPath env.revision = .ok i.revision
  tokenizer : world.fromPretrained i.modelPath i.revision = .ok i.tokenizer
  template : world.chatTemplate = some i.template
  manifest : s.manifest = some i.manifest
  parquet : s.parquet = some i.parquet
  records : i.parquet.content = .complete i.records
  priors : s.priors = some i.priors
  blob : i.priors.content = .complete i.blob
  info : (expectedMeta sha256 i.modelPath i.revision i.template i.manifest i.parquet.content
    i.records.length (tokenizerFingerprint sha256 i.tokenizer)).Match i.blob.info
  freq : env.freqDecay = true → ∃ table, s.freqCounts = some table ∧
    validateFreq sha256 table i.modelPath i.revision (tokenizerFingerprint sha256 i.tokenizer)
      s.dump 50 = .ok ()

theorem openFile_eq_ok {α : Type} {path : String} {file : Option α} {a : α} :
    openFile path file = .ok a ↔ file = some a := by
  cases file with
  | none => exact ⟨fun h => (nomatch h), fun h => (nomatch h)⟩
  | some b =>
      exact ⟨fun h => congrArg some (Except.ok.inj h), fun h => congrArg _ (Option.some.inj h)⟩

theorem Doc.parse_eq_ok_iff {α : Type} {d : Doc α} {a : α} : d.parse = .ok a ↔ d = .complete a :=
  ⟨Doc.parse_eq_ok, fun h => h ▸ rfl⟩

/-- The guards of the gate, one after the other. -/
theorem guard_eq_ok {ε : Type} {c : Prop} [Decidable c] {e : ε} {x : Except ε Unit} :
    (if c then .error e else x) = .ok () ↔ ¬c ∧ x = .ok () := by
  split
  · rename_i hc
    exact ⟨fun h => (nomatch h), fun h => absurd hc h.1⟩
  · rename_i hc
    exact ⟨fun h => ⟨hc, h⟩, fun h => h.2⟩

theorem require_eq_ok {ε : Type} {c : Prop} [Decidable c] {e : ε} :
    (if c then .ok () else .error e : Except ε Unit) = .ok () ↔ c := by
  split
  · rename_i hc
    exact ⟨fun _ => hc, fun _ => rfl⟩
  · rename_i hc
    exact ⟨fun h => (nomatch h), fun h => absurd h hc⟩

theorem validate_eq_ok {sha256 : Digest} {priorFile : Option PriorsFile} {modelPath : String}
    {revision chatTemplate : Option String} {generationResults : Option (Doc (List ResultRecord))}
    {trainFile : Option ParquetFile} {rows : ℕ} {tokenizerSha256 : String} :
    validate sha256 priorFile modelPath revision chatTemplate generationResults trainFile rows
        tokenizerSha256 = .ok () ↔
      ∃ prior blob template manifest parquet, priorFile = some prior ∧
        prior.content = .complete blob ∧ chatTemplate = some template ∧
        generationResults = some manifest ∧ trainFile = some parquet ∧
        (expectedMeta sha256 modelPath revision template manifest parquet.content rows
          tokenizerSha256).Match blob.info := by
  unfold validate
  simp only [except_bind_ok, openFile_eq_ok, Doc.parse_eq_ok_iff, require_eq_ok,
    Expected.mismatches_eq_nil]
  constructor
  · rintro ⟨prior, h1, blob, h2, template, h3, manifest, h4, parquet, h5, h6⟩
    exact ⟨prior, blob, template, manifest, parquet, h1, h2, h3, h4, h5, h6⟩
  · rintro ⟨prior, blob, template, manifest, parquet, h1, h2, h3, h4, h5, h6⟩
    exact ⟨prior, h1, blob, h2, template, h3, manifest, h4, parquet, h5, h6⟩

theorem validatePriorsMain_eq_ok {sha256 : Digest} {world : World} {modelPath revisionArg : String}
    {freq : Bool} {s : DataDir} :
    validatePriorsMain sha256 world modelPath revisionArg freq s = .ok () ↔
      ∃ revision tokenizer parquet records,
        modelRevision world modelPath revisionArg = .ok revision ∧
        world.fromPretrained modelPath revision = .ok tokenizer ∧ s.parquet = some parquet ∧
        parquet.content = .complete records ∧
        validate sha256 s.priors modelPath revision world.chatTemplate s.manifest s.parquet
          records.length (tokenizerFingerprint sha256 tokenizer) = .ok () ∧
        (freq = true → ∃ table, s.freqCounts = some table ∧ validateFreq sha256 table modelPath
          revision (tokenizerFingerprint sha256 tokenizer) s.dump 50 = .ok ()) := by
  unfold validatePriorsMain
  simp only [except_bind_ok, openFile_eq_ok, Doc.parse_eq_ok_iff]
  constructor
  · rintro ⟨revision, h1, tokenizer, h2, parquet, h3, records, h4, _, h5, h6⟩
    refine ⟨revision, tokenizer, parquet, records, h1, h2, h3, h4, h5, fun hf => ?_⟩
    rw [if_pos hf] at h6
    simpa only [except_bind_ok, openFile_eq_ok] using h6
  · rintro ⟨revision, tokenizer, parquet, records, h1, h2, h3, h4, h5, h6⟩
    refine ⟨revision, h1, tokenizer, h2, parquet, h3, records, h4, (), h5, ?_⟩
    split
    · rename_i hf
      simpa only [except_bind_ok, openFile_eq_ok] using h6 hf
    · rfl

/-- The gate passes exactly when a launch finds consistent inputs. -/
theorem launchCheck_eq_ok {sha256 : Digest} {world : World} {env : LaunchEnv} {s : DataDir} :
    Launchable sha256 world env s ↔ ∃ i, Accepted sha256 world env s i := by
  unfold Launchable launchCheck
  simp only [except_bind_ok, guard_eq_ok, validatePriorsMain_eq_ok, validate_eq_ok]
  constructor
  · rintro ⟨modelPath, h1, -, -, -, -, revision, tokenizer, parquet, records, h2, h3, h4, h5,
      ⟨prior, blob, template, manifest, parquet', h6, h7, h8, h9, h10, h11⟩, h12⟩
    cases h4.symm.trans h10
    exact ⟨⟨modelPath, revision, tokenizer, template, manifest, parquet, records, prior, blob⟩,
      h1, h2, h3, h8, h9, h4, h5, h6, h7, h11, h12⟩
  · rintro ⟨i, h⟩
    refine ⟨i.modelPath, h.resolved, by simp [h.parquet], by simp [h.priors], by simp [h.manifest],
      ?_, i.revision, i.tokenizer, i.parquet, i.records, h.revision, h.tokenizer, h.parquet,
      h.records, ⟨i.priors, i.blob, i.template, i.manifest, i.parquet, h.priors, h.blob, h.template,
        h.manifest, h.parquet, h.info⟩, h.freq⟩
    rintro ⟨hf, hnone⟩
    obtain ⟨table, htable, _⟩ := h.freq hf
    rw [htable] at hnone
    cases hnone

end LookAway.Data
