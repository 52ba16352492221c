/-
  The records that pass between the data scripts: rows of trainset_clean.jsonl, records of
  dataset_generation_manifest.json, records of trainset_clean.parquet, and the functions that
  build one from another. A coordinate is an int or a float; a path is the list of its components.
-/
import LookAway.Base.Decimal
import LookAway.Base.Control
import LookAway.Base.PyNumber

namespace LookAway.Data

open LookAway.Base

/-! ## Errors and paths -/

/-- The errors the data scripts raise, with their texts; `library` is one of an image library or
    of arithmetic. -/
inductive PyError where
  | valueError (text : String)
  | runtimeError (text : String)
  | keyError (key : String)
  | indexError
  | typeError (text : String)
  | attributeError (text : String)
  | fileNotFound (path : String)
  | osError (text : String)
  | library (typeName text : String)
  | systemExit (text : String)
  | keyboardInterrupt
  deriving DecidableEq, Repr

/-- What `except Exception` catches. -/
def PyError.isException : PyError → Bool
  | .systemExit _ => false
  | .keyboardInterrupt => false
  | _ => true

/-- `type(e).__name__`. -/
def PyError.typeName : PyError → String
  | .valueError _ => "ValueError"
  | .runtimeError _ => "RuntimeError"
  | .keyError _ => "KeyError"
  | .indexError => "IndexError"
  | .typeError _ => "TypeError"
  | .attributeError _ => "AttributeError"
  | .fileNotFound _ => "FileNotFoundError"
  | .osError _ => "OSError"
  | .library name _ => name
  | .systemExit _ => "SystemExit"
  | .keyboardInterrupt => "KeyboardInterrupt"

/-- `str(e)`. -/
def PyError.text : PyError → String
  | .valueError text => text
  | .runtimeError text => text
  | .keyError key => "'" ++ key ++ "'"
  | .indexError => "list index out of range"
  | .typeError text => text
  | .attributeError text => text
  | .fileNotFound path => "[Errno 2] No such file or directory: '" ++ path ++ "'"
  | .osError text => text
  | .library _ text => text
  | .systemExit text => text
  | .keyboardInterrupt => ""

abbrev Bytes := List UInt8

/-- The components of a path; an absolute path as it is written starts with an empty one. -/
abbrev Path := List String

def Path.text (p : Path) : String := "/".intercalate p

/-- `os.path.normpath`, on an absolute path without its leading slash. -/
def normpath (p : Path) : Path :=
  p.foldl (fun acc c =>
    if c = "" ∨ c = "." then acc else if c = ".." then acc.dropLast else acc ++ [c]) []

/-- `os.path.join(root, relative)`, resolved. The directory holds no links. -/
def resolvePath (root relative : Path) : Path :=
  normpath (if relative.head? = some "" then relative else root ++ relative)

def safeDatasetPath (root relative : Path) : Except PyError Path :=
  let target := resolvePath root relative
  if root <+: target then .ok target
  else .error (.valueError ("Unsafe dataset path: " ++ Path.text relative))

/-- The component kept by `normpath`. -/
def PlainComponent (c : String) : Prop := c ≠ "" ∧ c ≠ "." ∧ c ≠ ".."

theorem normpath_append {p q : Path} (hq : ∀ c ∈ q, PlainComponent c) :
    normpath (p ++ q) = normpath p ++ q := by
  unfold normpath
  rw [List.foldl_append]
  generalize p.foldl _ [] = acc
  induction q generalizing acc with
  | nil => simp
  | cons c q ih =>
      obtain ⟨hc, hdot, hdots⟩ := hq c (by simp)
      have hkeep : (if c = "" ∨ c = "." then acc else if c = ".." then acc.dropLast
          else acc ++ [c]) = acc ++ [c] := by
        rw [if_neg (by simp [hc, hdot]), if_neg hdots]
      rw [List.foldl_cons, hkeep, ih (fun d hd => hq d (by simp [hd])), List.append_assoc]
      rfl

/-- `f"{n:06d}.png"`. -/
def imageName (n : ℤ) : String := zeroPadded 6 n ++ ".png"

theorem imageName_injective : Function.Injective imageName := by
  intro m n h
  exact zeroPadded_injective 6 (String.append_left_inj _ |>.mp h)

theorem imageName_plain (n : ℤ) : PlainComponent (imageName n) := by
  have hlen : 4 ≤ (imageName n).length := by
    unfold imageName
    rw [String.length_append]
    have : (".png" : String).length = 4 := rfl
    omega
  have hshort : ∀ c : String, c.length < 4 → imageName n ≠ c := by
    intro c hc h
    rw [h] at hlen
    omega
  exact ⟨hshort _ (by decide), hshort _ (by decide), hshort _ (by decide)⟩

/-! ## trainset_clean.jsonl -/

/-- A row of trainset_clean.jsonl; a missing key is `none`. -/
structure SourceRow where
  problem : Option String
  images : Option (List Path)
  teacherImages : Option (List Path)
  originalImages : Option (List Path)
  bbox : Option (List PyNumber)
  answer : Option String
  extraInfo : Option (List (String × String))
  deriving DecidableEq

/-- One line: a row, white space only, or text that is not a JSON object. -/
inductive JsonlLine where
  | row (r : SourceRow)
  | blank
  | malformed
  deriving DecidableEq

def jsonDecodeError : PyError := .valueError "JSONDecodeError"

/-- `json.loads(line)`. -/
def loadsLine : JsonlLine → Except PyError SourceRow
  | .row r => .ok r
  | .blank => .error jsonDecodeError
  | .malformed => .error jsonDecodeError

/-- `item[key]`. -/
def require {α : Type} (key : String) : Option α → Except PyError α
  | none => .error (.keyError key)
  | some a => .ok a

/-- `item[key][0]`. -/
def first {α : Type} (key : String) (xs : Option (List α)) : Except PyError α := do
  match ← require key xs with
  | [] => .error .indexError
  | x :: _ => .ok x

/-! ## dataset_generation_manifest.json -/

/-- What recover_geometry returns. -/
structure Geometry where
  positiveCropWindow : List ℤ
  frameBoxInCrop : List ℤ
  sourceCropSize : List ℤ
  outputSize : List ℤ
  resizeScale : List ℤ
  frameWidth : ℤ
  reconstructionExact : Bool
  deriving DecidableEq

/-- The fields of a record whose row succeeded. build_trainset adds the geometry and the names of
    the renderer, import_crop_release adds alignment_verified. -/
structure Generated where
  gtBbox : List PyNumber
  negBbox : List PyNumber
  iou : PyNumber
  cropSize : List ℤ
  negativeCropWindow : List ℤ
  originalSize : List ℤ
  targetBboxInCrop : List PyNumber
  positiveSha256 : Option String
  negativeSha256 : Option String
  sharedFrameMaskSha256 : Option String
  resampling : Option String
  renderer : Option String
  geometry : Option Geometry
  alignmentVerified : Option Bool
  deriving DecidableEq

/-- A record of dataset_generation_manifest.json. -/
structure ResultRecord where
  idx : ℕ
  ok : Bool
  reason : Option String
  generationVersion : Option String
  generated : Option Generated
  deriving DecidableEq

/-- `[r.get("idx") for r in results] == list(range(n)) and all(r.get("ok") for r in results)`. -/
def CompleteResults (results : List ResultRecord) (n : ℕ) : Prop :=
  results.map (·.idx) = List.range n ∧ ∀ r ∈ results, r.ok = true

instance (results : List ResultRecord) (n : ℕ) : Decidable (CompleteResults results n) :=
  inferInstanceAs (Decidable (_ ∧ _))

theorem CompleteResults.length_eq {results : List ResultRecord} {n : ℕ}
    (h : CompleteResults results n) : results.length = n := by
  rw [← List.length_map (f := (·.idx)), h.1, List.length_range]

/-! ## trainset_clean.parquet -/

def pyWhitespace : List Char :=
  ['\t', '\n', '\x0b', '\x0c', '\r', '\x1c', '\x1d', '\x1e', '\x1f', ' ', '\u0085', '\u00a0',
    '\u1680', '\u2000', '\u2001', '\u2002', '\u2003', '\u2004', '\u2005', '\u2006', '\u2007',
    '\u2008', '\u2009', '\u200a', '\u2028', '\u2029', '\u202f', '\u205f', '\u3000']

def isSpace (c : Char) : Bool := pyWhitespace.contains c

/-- A character with a property that no white space has. -/
theorem not_isSpace {p : Char → Bool} (hp : (pyWhitespace.all fun d => !p d) = true) {c : Char}
    (h : p c = true) : isSpace c = false := by
  rw [Bool.eq_false_iff]
  intro hspace
  have hmem : c ∈ pyWhitespace := by simpa [isSpace] using hspace
  have hnot := List.all_eq_true.mp hp c hmem
  rw [h] at hnot
  cases hnot

/-- `str.strip()`. -/
def strip (text : String) : String :=
  String.ofList ((text.toList.dropWhile isSpace).reverse.dropWhile isSpace).reverse

def redBoxHint : String :=
  "Only focus on the objects inside the red bounding box in the image to answer this question."

def cleanQuestion (problem : String) : String :=
  let text := strip (problem.replace "<image>" "")
  let text := (text.replace ("\n\n" ++ redBoxHint) "").replace redBoxHint ""
  strip text

/-- A record of trainset_clean.parquet. -/
structure TrainRecord where
  dataSource : String
  prompt : List (String × String)
  images : List Path
  bboxImages : List Path
  ability : String
  rewardStyle : String
  groundTruth : String
  answer : String
  question : String
  sourceExtraInfo : List (String × String)
  negBboxImages : List Path
  deriving DecidableEq

def buildRecord (item : SourceRow) (dataDir : Path) (negPath : Option Path) :
    Except PyError TrainRecord := do
  let problem ← require "problem" item.problem
  let image ← safeDatasetPath dataDir (← first "images" item.images)
  let bboxImage ← safeDatasetPath dataDir (← first "teacher_images" item.teacherImages)
  let answer := item.answer.getD ""
  return {
    dataSource := "zwz_rl_vqa_bbox_teacher"
    prompt := [("user", problem)]
    images := [image]
    bboxImages := [bboxImage]
    ability := "visual_question_answering"
    rewardStyle := "none"
    groundTruth := answer
    answer := answer
    question := cleanQuestion problem
    sourceExtraInfo := item.extraInfo.getD []
    negBboxImages := negPath.toList }

/-- The path of the negative view of row `i`. -/
def negativePath (dataDir : Path) (i : ℕ) : Path := dataDir ++ ["teacher_neg", imageName i]

/-- The loop of convert_to_parquet over the lines that are not blank, from row `i` on. -/
def buildRecords (dataDir : Path) : ℕ → List JsonlLine → Except PyError (List TrainRecord)
  | _, [] => .ok []
  | i, line :: lines => do
      let item ← loadsLine line
      let record ← buildRecord item dataDir (some (negativePath dataDir i))
      return record :: (← buildRecords dataDir (i + 1) lines)

def sourceRows (lines : List JsonlLine) : List JsonlLine := lines.filter (· != .blank)

/-- The records convert_to_parquet saves for the lines of the jsonl and the results. -/
def parquetRecords (dataDir : Path) (lines : List JsonlLine) (results : List ResultRecord) :
    Except PyError (List TrainRecord) :=
  if CompleteResults results (sourceRows lines).length then
    buildRecords dataDir 0 (sourceRows lines)
  else
    .error (.valueError
      "Refusing to build trainset_clean.parquet from incomplete negative-view results")

theorem buildRecords_length {dataDir : Path} {i : ℕ} {lines : List JsonlLine}
    {records : List TrainRecord} (h : buildRecords dataDir i lines = .ok records) :
    records.length = lines.length := by
  induction lines generalizing i records with
  | nil =>
      cases h
      rfl
  | cons line lines ih =>
      unfold buildRecords at h
      obtain ⟨item, _, h⟩ := except_bind_ok.mp h
      obtain ⟨record, _, h⟩ := except_bind_ok.mp h
      obtain ⟨rest, hrest, h⟩ := except_bind_ok.mp h
      cases h
      rw [List.length_cons, List.length_cons, ih hrest]

theorem parquetRecords_length {dataDir : Path} {lines : List JsonlLine}
    {results : List ResultRecord} {records : List TrainRecord}
    (h : parquetRecords dataDir lines results = .ok records) :
    records.length = results.length := by
  unfold parquetRecords at h
  split at h
  · rename_i hc
    rw [buildRecords_length h, hc.length_eq]
  · cases h

end LookAway.Data
