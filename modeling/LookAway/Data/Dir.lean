/-
  The data directory: one field for each file or directory the data scripts share, and the
  records those files hold.

  `Origin`, `Scored.origin`, `ParquetFile.generation`, `ParquetFile.view`, `PriorsFile.source`
  and `DataDir.generation` are ghosts: they say where content came from, no script reads them
  and no hash covers them.
-/
import Mathlib.Data.Finmap
import LookAway.Base.Json
import LookAway.Base.Script
import LookAway.Data.Rows

namespace LookAway.Data

open LookAway.Base

/-! ## Files -/

/-- A file that holds one document, the first part of one when its writer was cut short, or
    anything else. -/
inductive Doc (α : Type) where
  | complete (a : α)
  | cut (a : α) (n : ℕ)
  | raw (b : Bytes)
  deriving DecidableEq

/-- The document, when the file parses. -/
def Doc.parse {α : Type} : Doc α → Except PyError α
  | .complete a => .ok a
  | .cut _ _ => .error jsonDecodeError
  | .raw _ => .error jsonDecodeError

theorem Doc.parse_eq_ok {α : Type} {d : Doc α} {a : α} (h : d.parse = .ok a) : d = .complete a := by
  cases d with
  | complete b =>
      cases h
      rfl
  | cut b n => cases h
  | raw b => cases h

/-- The image files of a directory, by name. -/
abbrev ImageSet := Finmap fun _ : String => Bytes

/-- The directories the dataset ships images in. -/
inductive ImageDir where
  | images
  | teacherImages
  | originalImages
  deriving DecidableEq

def ImageDir.name : ImageDir → String
  | .images => "images"
  | .teacherImages => "teacher_images"
  | .originalImages => "original_images"

/-- The dataset the priors and the training run read. -/
structure DatasetView where
  jsonl : Option (List JsonlLine)
  files : Path → Option Bytes
  teacherNeg : Option ImageSet

/-! ## The token dump -/

/-- The vocabulary and the special tokens, as tokenizer_fingerprint sorts and hashes them. -/
structure TokenizerPayload where
  vocab : List (String × ℕ)
  specialTokensMap : List (String × String)
  deriving DecidableEq

/-- Where a dump record comes from: the dataset and the settings of the process that scored it. -/
structure Origin where
  generation : ℕ
  view : DatasetView
  modelPath : String
  modelRevision : Option String
  tokenizer : TokenizerPayload
  chatTemplate : String
  numShards : ℕ
  shard : ℕ

structure DumpToken where
  tok : String
  lpS : ℚ
  dPlus : ℚ
  dMinus : ℚ
  deriving DecidableEq

/-- A record of teacher_posneg_token_scores.jsonl. -/
structure DumpRecord where
  n : ℕ
  idx : ℕ
  gt : String
  answer : String
  question : String
  tokens : List DumpToken
  deriving DecidableEq

/-- One line of a dump: a record, white space, or a record its writer did not finish. -/
inductive DumpLine where
  | record (r : DumpRecord)
  | blank
  | torn (r : DumpRecord) (n : ℕ)
  deriving DecidableEq

structure Scored where
  line : DumpLine
  origin : Origin

/-- `json.loads(line)`. -/
def loadsDumpLine : DumpLine → Except PyError DumpRecord
  | .record r => .ok r
  | .blank => .error jsonDecodeError
  | .torn _ _ => .error jsonDecodeError

/-! ## The priors -/

/-- The meta block of token_priors_frozen.json; a missing field and a null one are `none`. -/
structure PriorsMeta where
  nSamples : Option ℕ
  modelPath : Option String
  modelRevision : Option String
  tokenizerNameOrPath : Option String
  tokenizerVocabSize : Option ℕ
  tokenizerSha256 : Option String
  chatTemplate : Option String
  chatTemplateSha256 : Option String
  generationResultsSha256 : Option String
  trainParquetSha256 : Option String
  alpha : Option ℚ
  base : Option ℚ
  tmplDfCut : Option ℚ
  rateCut : Option ℚ
  nRate : Option ℕ
  nTmpl : Option ℕ
  idMiss : Option ℕ

structure Priors where
  rate : List (ℕ × ℚ)
  tmpl : List (ℕ × ℕ)
  info : PriorsMeta

structure PriorsFile where
  content : Doc Priors
  source : List (ℕ × Origin)

structure ParquetFile where
  content : Doc (List TrainRecord)
  generation : ℕ
  view : DatasetView

/-! ## The directory -/

/-- An absolute path in normal form. -/
abbrev RootPath := { p : Path // normpath p = p }

structure DataDir where
  root : RootPath
  /-- trainset_clean.jsonl -/
  jsonl : Option (List JsonlLine)
  /-- The files under images/, teacher_images/ and original_images/, by resolved path. -/
  files : Path → Option Bytes
  /-- The archive parts shipped in an image directory; `none` when the directory is missing. -/
  bundles : ImageDir → Option (List (String × Bytes))
  /-- teacher_neg/ -/
  teacherNeg : Option ImageSet
  /-- The staging directory of generate_negative_views. -/
  staging : Option ImageSet
  /-- The backup directory of publish_negative_views. -/
  backup : Option ImageSet
  /-- The temporary file of an atomic write exists. -/
  temp : Bool
  /-- dataset_generation_manifest.json -/
  manifest : Option (Doc (List ResultRecord))
  /-- results.failed.json -/
  resultsFailed : Option (Doc (List ResultRecord))
  /-- trainset_clean.parquet -/
  parquet : Option ParquetFile
  /-- teacher_posneg_token_scores.jsonl and its parts by shard number. -/
  dump : Option (List Scored)
  part : ℕ → Option (List Scored)
  /-- token_priors_frozen.json -/
  priors : Option PriorsFile
  /-- token_freq_counts.json -/
  freqCounts : Option (Doc Json)
  manifestStale : Option (Doc (List ResultRecord))
  parquetStale : Option ParquetFile
  priorsStale : Option PriorsFile
  freqCountsStale : Option (Doc Json)
  /-- How many times a build_trainset run has begun to replace the dataset. -/
  generation : ℕ

abbrev Py (α : Type) := Script DataDir PyError α

namespace DataDir

def view (s : DataDir) : DatasetView := ⟨s.jsonl, s.files, s.teacherNeg⟩

/-- An empty data directory. -/
def empty (root : RootPath) : DataDir where
  root := root
  jsonl := none
  files := fun _ => none
  bundles := fun _ => none
  teacherNeg := none
  staging := none
  backup := none
  temp := false
  manifest := none
  resultsFailed := none
  parquet := none
  dump := none
  part := fun _ => none
  priors := none
  freqCounts := none
  manifestStale := none
  parquetStale := none
  priorsStale := none
  freqCountsStale := none
  generation := 0

/-- The content of an image file, by its resolved path. -/
def image? (s : DataDir) (path : Path) : Option Bytes :=
  if path.dropLast = s.root.1 ++ ["teacher_neg"] then
    s.teacherNeg.bind (·.lookup (path.getLast?.getD ""))
  else s.files path

/-- The bytes `open(path, "rb")` reads, for an image path. -/
def openImage (s : DataDir) (path : Path) : Except PyError Bytes :=
  match s.image? path with
  | some bytes => .ok bytes
  | none => .error (.fileNotFound (Path.text path))

end DataDir

/-! ## Hashes -/

/-- What the scripts hash: the content of a file, or the encoded tokenizer payload. -/
inductive Hashed where
  | manifest (d : Doc (List ResultRecord))
  | parquet (d : Doc (List TrainRecord))
  | dump (lines : List DumpLine)
  | template (text : String)
  | tokenizer (p : TokenizerPayload)
  | bytes (b : Bytes)

end LookAway.Data
