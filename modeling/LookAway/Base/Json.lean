/-
  JSON values as Python reads them: comparison with a number, `isinstance(v, int)`, `dict.get`,
  `repr`, and the digit tests `str.isdigit` and `int` that scripts run on object keys.
-/
import Mathlib.Algebra.Order.Ring.Rat
import LookAway.Base.Decimal
import LookAway.Base.Printable

namespace LookAway.Base

/-- A JSON value. A float keeps its `repr` and its value; NaN and the infinities have none. -/
inductive Json where
  | null
  | bool (b : Bool)
  | int (n : ℤ)
  | float (text : String) (value : Option ℚ)
  | str (s : String)
  | arr (items : List Json)
  | obj (fields : List (String × Json))

namespace Json

/-- `repr` of a string. -/
def quote (s : String) : String := quoteRepr s

mutual
/-- `repr(v)`. -/
def text : Json → String
  | .null => "None"
  | .bool true => "True"
  | .bool false => "False"
  | .int n => intText n
  | .float t _ => t
  | .str s => quote s
  | .arr items => "[" ++ ", ".intercalate (texts items) ++ "]"
  | .obj fields => "\x7b" ++ ", ".intercalate (fieldTexts fields) ++ "\x7d"

def texts : List Json → List String
  | [] => []
  | v :: vs => text v :: texts vs

def fieldTexts : List (String × Json) → List String
  | [] => []
  | (k, v) :: fs => (quote k ++ ": " ++ text v) :: fieldTexts fs
end

/-- `str(v)`: a text is not quoted. -/
def display : Json → String
  | .str s => s
  | v => v.text

/-- The number a value compares equal to: `True == 1` and `1.0 == 1`. -/
def number? : Json → Option ℚ
  | .bool b => some (if b then 1 else 0)
  | .int n => some n
  | .float _ v => v
  | _ => none

/-- The value, if `isinstance(v, int)`. -/
def int? : Json → Option ℤ
  | .bool b => some (if b then 1 else 0)
  | .int n => some n
  | _ => none

/-- `n < v`; `none` is the TypeError of a value that is not a number. -/
def intLt? (n : ℤ) : Json → Option Bool
  | .float text none => some (text == "inf")
  | v => (number? v).map fun q => decide ((n : ℚ) < q)

/-- The fields, if `isinstance(v, dict)`. -/
def fields? : Json → Option (List (String × Json))
  | .obj fs => some fs
  | _ => none

/-- `fields.get(key, default)`. The keys of an object are distinct. -/
def getD (fields : List (String × Json)) (key : String) (default : Json) : Json :=
  (fields.lookup key).getD default

/-- `fields.get(key)`. -/
def get (fields : List (String × Json)) (key : String) : Json := getD fields key .null

theorem lookup_get {fields : List (String × Json)} {key : String} (h : get fields key ≠ .null) :
    fields.lookup key = some (get fields key) := by
  unfold get getD at h ⊢
  cases hlookup : fields.lookup key with
  | none =>
      rw [hlookup] at h
      exact absurd rfl h
  | some v => rfl

end Json

/-! ## Digits -/

/-- The code points of the decimal digits zero; each starts a run of ten. -/
def decimalZeros : List ℕ :=
  [0x30, 0x660, 0x6f0, 0x7c0, 0x966, 0x9e6, 0xa66, 0xae6, 0xb66, 0xbe6, 0xc66, 0xce6, 0xd66,
    0xde6, 0xe50, 0xed0, 0xf20, 0x1040, 0x1090, 0x17e0, 0x1810, 0x1946, 0x19d0, 0x1a80, 0x1a90,
    0x1b50, 0x1bb0, 0x1c40, 0x1c50, 0xa620, 0xa8d0, 0xa900, 0xa9d0, 0xa9f0, 0xaa50, 0xabf0,
    0xff10, 0x104a0, 0x10d30, 0x11066, 0x110f0, 0x11136, 0x111d0, 0x112f0, 0x11450, 0x114d0,
    0x11650, 0x116c0, 0x11730, 0x118e0, 0x11950, 0x11c50, 0x11d50, 0x11da0, 0x11f50, 0x16a60,
    0x16ac0, 0x16b50, 0x1d7ce, 0x1d7d8, 0x1d7e2, 0x1d7ec, 0x1d7f6, 0x1e140, 0x1e2f0, 0x1e4f0,
    0x1e950, 0x1fbf0]

/-- The ranges of the digits that are not decimal (superscripts, circled digits and the like). -/
def otherDigitRanges : List (ℕ × ℕ) :=
  [(0xb2, 0xb3), (0xb9, 0xb9), (0x1369, 0x1371), (0x19da, 0x19da), (0x2070, 0x2070),
    (0x2074, 0x2079), (0x2080, 0x2089), (0x2460, 0x2468), (0x2474, 0x247c), (0x2488, 0x2490),
    (0x24ea, 0x24ea), (0x24f5, 0x24fd), (0x24ff, 0x24ff), (0x2776, 0x277e), (0x2780, 0x2788),
    (0x278a, 0x2792), (0x10a40, 0x10a43), (0x10e60, 0x10e68), (0x11052, 0x1105a),
    (0x1f100, 0x1f10a)]

/-- The value of a decimal digit. -/
def decimalDigit? (c : Char) : Option ℕ :=
  (decimalZeros.find? fun z => z ≤ c.toNat && c.toNat < z + 10).map fun z => c.toNat - z

/-- `c.isdigit()`. -/
def isDigitChar (c : Char) : Bool :=
  (decimalDigit? c).isSome || otherDigitRanges.any fun r => r.1 ≤ c.toNat && c.toNat ≤ r.2

/-- `s.lstrip("-").isdigit()`. -/
def looksInteger (s : String) : Bool :=
  let body := s.toList.dropWhile (· == '-')
  !body.isEmpty && body.all isDigitChar

/-- The value of a text of digits. -/
def digitsValue? (cs : List Char) : Option ℕ :=
  if cs.isEmpty then none
  else cs.foldlM (fun acc c => (decimalDigit? c).map fun d => acc * 10 + d) 0

/-- The most digits that `int` reads: `sys.get_int_max_str_digits()`. -/
def maxStrDigits : ℕ := 4300

/-- `int(s)` for a text of digits without a sign. -/
def intDigits? (digits : List Char) : Option ℕ :=
  if maxStrDigits < digits.length then none else digitsValue? digits

/-- `int(s)`, for a text that `looksInteger` accepts; `none` is the ValueError. -/
def intOfText? (s : String) : Option ℤ :=
  match s.toList with
  | '-' :: cs => (intDigits? cs).map fun n : ℕ => -(n : ℤ)
  | cs => (intDigits? cs).map fun n : ℕ => (n : ℤ)

/-- The message of that ValueError, given the digits before the first character that is none. -/
def intErrorText (s : String) (digits : List Char) : String :=
  if maxStrDigits < digits.length then
    "Exceeds the limit (4300 digits) for integer string conversion: value has " ++
      intText digits.length ++
      " digits; use sys.set_int_max_str_digits() to increase the limit"
  else
    "invalid literal for int() with base 10: " ++ String.ofList ((Json.quote s).toList.take 200)

/-- The digits that `int` scans in a text that `looksInteger` accepts. -/
def scannedDigits (s : String) : List Char :=
  let body := if s.toList.head? = some '-' then s.toList.tail else s.toList
  body.takeWhile fun c => (decimalDigit? c).isSome

/-! ## The text of a number is a number -/

theorem decimalDigit?_of_isDigit {c : Char} (h : c.isDigit) :
    decimalDigit? c = some (c.toNat - '0'.toNat) := by
  obtain ⟨hlo, hhi⟩ := Char.isDigit_iff_toNat.mp h
  have hz : '0'.toNat = 0x30 := rfl
  have hn : '9'.toNat = 0x39 := rfl
  rw [hz] at hlo
  rw [hn] at hhi
  unfold decimalDigit? decimalZeros
  rw [List.find?_cons_of_pos]
  · rfl
  · simp only [Bool.and_eq_true, decide_eq_true_eq]
    omega

theorem isDigitChar_of_isDigit {c : Char} (h : c.isDigit) : isDigitChar c = true := by
  unfold isDigitChar
  rw [decimalDigit?_of_isDigit h]
  rfl

theorem foldlM_digits {cs : List Char} (h : ∀ c ∈ cs, c.isDigit) (acc : ℕ) :
    cs.foldlM (fun acc c => (decimalDigit? c).map fun d => acc * 10 + d) acc =
      some (Nat.ofDigitChars 10 cs acc) := by
  induction cs generalizing acc with
  | nil => rfl
  | cons c cs ih =>
      rw [List.foldlM_cons, decimalDigit?_of_isDigit (h c (by simp)), Nat.ofDigitChars_cons,
        Nat.mul_comm 10 acc]
      exact ih (fun d hd => h d (by simp [hd])) _

theorem toDigits_isDigit {n : ℕ} {c : Char} (h : c ∈ Nat.toDigits 10 n) : c.isDigit :=
  Nat.isDigit_of_mem_toDigits (by decide) (by decide) h

theorem toDigits_eq_cons (n : ℕ) : ∃ c cs, Nat.toDigits 10 n = c :: cs ∧ c ≠ '-' := by
  cases hd : Nat.toDigits 10 n with
  | nil => exact absurd hd (Nat.toDigits_ne_nil)
  | cons c cs =>
      refine ⟨c, cs, rfl, ?_⟩
      rintro rfl
      have hdigit : ('-').isDigit := toDigits_isDigit (n := n) (by simp [hd])
      exact absurd hdigit (by decide)

theorem looksInteger_intText (n : ℕ) : looksInteger (intText n) = true := by
  obtain ⟨c, cs, hd, hc⟩ := toDigits_eq_cons n
  have hbody : (intText n).toList.dropWhile (· == '-') = c :: cs := by
    show (String.ofList (Nat.toDigits 10 n)).toList.dropWhile _ = _
    rw [String.toList_ofList, hd, List.dropWhile_cons_of_neg (by simpa using hc)]
  unfold looksInteger
  dsimp only
  rw [hbody]
  simp only [List.isEmpty_cons, Bool.not_false, Bool.true_and, List.all_eq_true]
  intro d hd'
  exact isDigitChar_of_isDigit (toDigits_isDigit (n := n) (by rw [hd]; exact hd'))

/-- A number of 32 bits has few digits. -/
theorem length_toDigits_of_lt {n : ℕ} (h : n < 2 ^ 32) :
    (Nat.toDigits 10 n).length ≤ maxStrDigits := by
  have hten : (Nat.toDigits 10 n).length ≤ 10 :=
    (Nat.length_toDigits_le_iff (by decide) (by decide)).mpr (by omega)
  exact hten.trans (by decide)

/-- What has few enough digits is read. -/
theorem intOfText?_intText {n : ℕ} (h : (Nat.toDigits 10 n).length ≤ maxStrDigits) :
    intOfText? (intText n) = some (n : ℤ) := by
  obtain ⟨c, cs, hd, hc⟩ := toDigits_eq_cons n
  have hlist : (intText n).toList = c :: cs := by
    show (String.ofList (Nat.toDigits 10 n)).toList = _
    rw [String.toList_ofList, hd]
  have hvalue : intDigits? (c :: cs) = some n := by
    unfold intDigits? digitsValue?
    rw [← hd, if_neg (by omega), if_neg (by simp [hd]), foldlM_digits fun d h => toDigits_isDigit h,
      Nat.ofDigitChars_ten_toDigits]
  unfold intOfText?
  rw [hlist]
  split
  · rename_i heq
    exact absurd (List.cons.inj heq).1 hc
  · rw [hvalue]
    rfl

end LookAway.Base
