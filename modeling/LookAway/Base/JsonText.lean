/-
  JSON as text: what `json.dumps(v, ensure_ascii=False)` writes and what `json.loads` reads.
  Nothing here names a program.

  `loads` runs a machine over the characters, with a stack of the containers it is inside. A number
  ends where the next character does not continue it, so the machine reads it lazily (`settle`).
  A text here is a sequence of characters, so that a lone surrogate, which Python reads and cannot
  write as UTF-8, has no value: `loads` refuses it, and `hasLoneSurrogate` tells a text with one
  from a text that is not JSON. The depth of nesting is not limited.

  `loads_dumps` is the round trip. `loadsWith_cut`: what is left of an object when its text is cut
  does not read as JSON.
-/
import LookAway.Base.Dict
import LookAway.Base.JsonNumber
import Mathlib.Data.List.Nodup

namespace LookAway.Base

namespace Json

/-! ## Writing -/

/-- `ESCAPE_DCT`, and the `\u00xx` of the other control characters. -/
def escapeChar (c : Char) : List Char :=
  if c = '"' then ['\\', '"']
  else if c = '\\' then ['\\', '\\']
  else if c = '\n' then ['\\', 'n']
  else if c = '\r' then ['\\', 'r']
  else if c = '\t' then ['\\', 't']
  else if c = '\x0c' then ['\\', 'f']
  else if c = '\x08' then ['\\', 'b']
  else if c.toNat < 32 then
    ['\\', 'u', '0', '0', Nat.digitChar (c.toNat / 16), Nat.digitChar (c.toNat % 16)]
  else [c]

def dumpsStr (s : String) : List Char := '"' :: s.toList.flatMap escapeChar ++ ['"']

/-- A float is written as its `repr`, the special values under their JavaScript names. -/
def dumpsFloat (text : String) : List Char :=
  if text = "nan" then "NaN".toList
  else if text = "inf" then "Infinity".toList
  else if text = "-inf" then "-Infinity".toList
  else text.toList

mutual
/-- `json.dumps(v, ensure_ascii=False)`. -/
def dumps : Json → List Char
  | .null => "null".toList
  | .bool true => "true".toList
  | .bool false => "false".toList
  | .int n => (intText n).toList
  | .float text _ => dumpsFloat text
  | .str s => dumpsStr s
  | .arr [] => ['[', ']']
  | .arr (v :: vs) => '[' :: (dumps v ++ (dumpsItems vs ++ [']']))
  | .obj [] => ['\x7b', '\x7d']
  | .obj ((k, v) :: fs) =>
      '\x7b' :: (dumpsStr k ++ (':' :: ' ' :: (dumps v ++ (dumpsFields fs ++ ['\x7d']))))

/-- The items after the first one. -/
def dumpsItems : List Json → List Char
  | [] => []
  | v :: vs => ',' :: ' ' :: (dumps v ++ dumpsItems vs)

def dumpsFields : List (String × Json) → List Char
  | [] => []
  | (k, v) :: fs => ',' :: ' ' :: (dumpsStr k ++ (':' :: ' ' :: (dumps v ++ dumpsFields fs)))
end

/-! ## The machine -/

/-- A container that waits for a value: an array, or an object with the key read last. -/
inductive Frame where
  | arr (items : List Json)
  | obj (fields : List (String × Json)) (key : String)

/-- What a string is read for. -/
inductive Target where
  | key (fields : List (String × Json))
  | value

/-- Inside a string: the part of an escape that has been read. -/
inductive Escape where
  | plain
  | backslash
  | unicode (digits : List ℕ) (high : Option ℕ)
  | lowSlash (high : ℕ)
  | lowU (high : ℕ)

inductive State where
  | value (st : List Frame)
  | firstItem (st : List Frame)
  | firstKey (st : List Frame)
  | nextKey (fields : List (String × Json)) (st : List Frame)
  | str (target : Target) (acc : List Char) (esc : Escape) (st : List Frame)
  | colon (fields : List (String × Json)) (key : String) (st : List Frame)
  | number (acc : List Char) (st : List Frame)
  | word (rest : List Char) (v : Json) (st : List Frame)
  | afterItem (items : List Json) (st : List Frame)
  | afterField (fields : List (String × Json)) (st : List Frame)
  | done (v : Json)

def isSpace (c : Char) : Bool := c == ' ' || c == '\t' || c == '\n' || c == '\r'

/-- `d[key] = value`. -/
def setField (fields : List (String × Json)) (key : String) (v : Json) : List (String × Json) :=
  if fields.any (·.1 == key) then fields.map fun f => if f.1 == key then (key, v) else f
  else fields ++ [(key, v)]

/-- A value has been read. -/
def deliver (v : Json) : List Frame → State
  | [] => .done v
  | .arr items :: st => .afterItem (items ++ [v]) st
  | .obj fields key :: st => .afterField (setField fields key v) st

/-- The end of a number is seen at the character after it. -/
def settle : State → Option State
  | .number acc st => (numberOf? acc).map fun v => deliver v st
  | s => some s

def startValue (st : List Frame) (c : Char) : Option State :=
  if isSpace c then some (.value st)
  else if c = '"' then some (.str .value [] .plain st)
  else if c = '[' then some (.firstItem st)
  else if c = '\x7b' then some (.firstKey st)
  else if c = 't' then some (.word "rue".toList (.bool true) st)
  else if c = 'f' then some (.word "alse".toList (.bool false) st)
  else if c = 'n' then some (.word "ull".toList .null st)
  else if c = 'N' then some (.word "aN".toList (.float "nan" none) st)
  else if c = 'I' then some (.word "nfinity".toList (.float "inf" none) st)
  else if c = '-' ∨ c.isDigit then some (.number [c] st)
  else none

/-- A string has been read. -/
def endStr (target : Target) (acc : List Char) (st : List Frame) : State :=
  match target with
  | .key fields => .colon fields (String.ofList acc) st
  | .value => deliver (.str (String.ofList acc)) st

/-- The character of a one-letter escape. -/
def unescape? (c : Char) : Option Char :=
  if c = '"' ∨ c = '\\' ∨ c = '/' then some c
  else if c = 'n' then some '\n'
  else if c = 'r' then some '\r'
  else if c = 't' then some '\t'
  else if c = 'f' then some '\x0c'
  else if c = 'b' then some '\x08'
  else none

def hexValue? (c : Char) : Option ℕ :=
  if c.isDigit then some (c.toNat - '0'.toNat)
  else if 'a' ≤ c ∧ c ≤ 'f' then some (c.toNat - 'a'.toNat + 10)
  else if 'A' ≤ c ∧ c ≤ 'F' then some (c.toNat - 'A'.toNat + 10)
  else none

/-- What a lone surrogate is read as, where it is read. -/
def replacement : Char := '\ufffd'

section Machine

-- whether a lone surrogate is read, as a replacement character, or refused
variable (lone : Bool)

/-- A code unit of a `\u` escape that continues no pair. -/
def firstUnit (target : Target) (acc : List Char) (n : ℕ) (st : List Frame) : Option State :=
  if 0xd800 ≤ n ∧ n < 0xdc00 then some (.str target acc (.lowSlash n) st)
  else if 0xdc00 ≤ n ∧ n < 0xe000 then
    if lone then some (.str target (acc ++ [replacement]) .plain st) else none
  else some (.str target (acc ++ [Char.ofNat n]) .plain st)

/-- A code unit, after the high surrogate of a pair or not. -/
def codeUnit (target : Target) (acc : List Char) (n : ℕ) (high : Option ℕ) (st : List Frame) :
    Option State :=
  match high with
  | none => firstUnit lone target acc n st
  | some h =>
      if 0xdc00 ≤ n ∧ n < 0xe000 then
        some (.str target (acc ++ [Char.ofNat (0x10000 + (h - 0xd800) * 0x400 + (n - 0xdc00))])
          .plain st)
      else if lone then firstUnit lone target (acc ++ [replacement]) n st
      else none

/-- A character of a string, outside of an escape. -/
def stepPlain (target : Target) (acc : List Char) (st : List Frame) (c : Char) : Option State :=
  if c = '"' then some (endStr target acc st)
  else if c = '\\' then some (.str target acc .backslash st)
  else if c.toNat < 32 then none
  else some (.str target (acc ++ [c]) .plain st)

/-- The character after a backslash. -/
def stepBackslash (target : Target) (acc : List Char) (st : List Frame) (c : Char) :
    Option State :=
  if c = 'u' then some (.str target acc (.unicode [] none) st)
  else (unescape? c).map fun d => .str target (acc ++ [d]) .plain st

def stepStr (target : Target) (acc : List Char) (esc : Escape) (st : List Frame) (c : Char) :
    Option State :=
  match esc with
  | .plain => stepPlain target acc st c
  | .backslash => stepBackslash target acc st c
  | .unicode digits high => do
      let d ← hexValue? c
      let digits := digits ++ [d]
      if digits.length < 4 then some (.str target acc (.unicode digits high) st)
      else codeUnit lone target acc (digits.foldl (fun n d => 16 * n + d) 0) high st
  -- a high surrogate without a low one
  | .lowSlash high =>
      if c = '\\' then some (.str target acc (.lowU high) st)
      else if lone then stepPlain target (acc ++ [replacement]) st c
      else none
  | .lowU high =>
      if c = 'u' then some (.str target acc (.unicode [] (some high)) st)
      else if lone then stepBackslash target (acc ++ [replacement]) st c
      else none

/-- A character after a value. -/
def stepAfter (c : Char) : State → Option State
  | .afterItem items st =>
      if isSpace c then some (.afterItem items st)
      else if c = ',' then some (.value (.arr items :: st))
      else if c = ']' then some (deliver (.arr items) st)
      else none
  | .afterField fields st =>
      if isSpace c then some (.afterField fields st)
      else if c = ',' then some (.nextKey fields st)
      else if c = '\x7d' then some (deliver (.obj fields) st)
      else none
  | .done v => if isSpace c then some (.done v) else none
  | _ => none

def step (s : State) (c : Char) : Option State :=
  match s with
  | .value st => startValue st c
  | .firstItem st =>
      if isSpace c then some (.firstItem st)
      else if c = ']' then some (deliver (.arr []) st)
      else startValue (.arr [] :: st) c
  | .firstKey st =>
      if isSpace c then some (.firstKey st)
      else if c = '"' then some (.str (.key []) [] .plain st)
      else if c = '\x7d' then some (deliver (.obj []) st)
      else none
  | .nextKey fields st =>
      if isSpace c then some (.nextKey fields st)
      else if c = '"' then some (.str (.key fields) [] .plain st)
      else none
  | .str target acc esc st => stepStr lone target acc esc st c
  | .colon fields key st =>
      if isSpace c then some (.colon fields key st)
      else if c = ':' then some (.value (.obj fields key :: st))
      else none
  | .number acc st =>
      if isNumberChar c then some (.number (acc ++ [c]) st)
      else if acc = ['-'] ∧ c = 'I' then some (.word "nfinity".toList (.float "-inf" none) st)
      else (numberOf? acc).bind fun v => stepAfter c (deliver v st)
  | .word rest v st =>
      match rest with
      | [] => none
      | [d] => if c = d then some (deliver v st) else none
      | d :: ds => if c = d then some (.word ds v st) else none
  | s => stepAfter c s

def run (s : State) (cs : List Char) : Option State := cs.foldlM (step lone) s

/-- What is read from a text. -/
def loadsWith (text : List Char) : Option Json :=
  match (run lone (.value []) text).bind settle with
  | some (.done v) => some v
  | _ => none

end Machine

/-- `json.loads`, of a text without a lone surrogate; `none` is the ValueError. -/
def loads (text : List Char) : Option Json := loadsWith false text

/-- `json.loads` reads the text, but a string in it has a lone surrogate. -/
def hasLoneSurrogate (text : List Char) : Bool :=
  (loads text).isNone && (loadsWith true text).isSome

example : hasLoneSurrogate "[\"\\ud800\"]".toList = true ∧
    hasLoneSurrogate "[\"\\ud83d\\ude00\"]".toList = false := by decide +kernel

/-! ## Well-formed values -/

mutual
/-- A value that a Python program can hold and write: its integers are not too long, its floats are
    floats, its keys are distinct. -/
def WellFormed : Json → Prop
  | .int n => Short n
  | .float text value => FloatText text value
  | .arr items => ItemsWellFormed items
  | .obj fields => (fields.map (·.1)).Nodup ∧ FieldsWellFormed fields
  | _ => True

def ItemsWellFormed : List Json → Prop
  | [] => True
  | v :: vs => WellFormed v ∧ ItemsWellFormed vs

def FieldsWellFormed : List (String × Json) → Prop
  | [] => True
  | (_, v) :: fs => WellFormed v ∧ FieldsWellFormed fs
end

/-! ## Running the machine -/

section Run

variable {lone : Bool}

theorem run_nil (s : State) : run lone s [] = some s := rfl

theorem run_cons {s t : State} {c : Char} (h : step lone s c = some t) (cs : List Char) :
    run lone s (c :: cs) = run lone t cs := by
  unfold run
  rw [List.foldlM_cons, h]
  rfl

theorem run_append {s t : State} {cs : List Char} (h : run lone s cs = some t) (ds : List Char) :
    run lone s (cs ++ ds) = run lone t ds := by
  unfold run at h ⊢
  rw [List.foldlM_append, h]
  rfl

/-- A state after a value, at the end of which nothing is pending. -/
def After : State → Prop
  | .afterItem _ _ => True
  | .afterField _ _ => True
  | .done _ => True
  | _ => False

theorem after_deliver (v : Json) (st : List Frame) : After (deliver v st) := by
  cases st with
  | nil => trivial
  | cons f st => cases f <;> trivial

theorem settle_after {s : State} (h : After s) : settle s = some s := by
  cases s <;> first | rfl | exact h.elim

/-- A character that does not continue a number sees the value before it. -/
theorem step_settled {s t : State} {c : Char} (h : settle s = some t) (ht : After t)
    (hc : isNumberChar c = false) (hI : c ≠ 'I') : step lone s c = stepAfter c t := by
  cases s with
  | number acc st =>
      obtain ⟨v, hv, rfl⟩ := Option.map_eq_some_iff.mp h
      unfold step
      dsimp only
      rw [hc, if_neg (by simp), if_neg (by simp [hI]), hv]
      rfl
  | afterItem items st =>
      cases h
      rfl
  | afterField fields st =>
      cases h
      rfl
  | done v =>
      cases h
      rfl
  | _ =>
      cases h
      exact ht.elim

/-! ## Strings -/

theorem hexValue_digitChar {d : ℕ} (h : d < 16) : hexValue? (Nat.digitChar d) = some d := by
  have hall : ∀ d, d < 16 → hexValue? (Nat.digitChar d) = some d := by decide
  exact hall d h

section Strings

variable {target : Target} {acc : List Char} {st : List Frame} {c : Char}

theorem step_unicode {digits : List ℕ} {high : Option ℕ} {d : ℕ} (h : hexValue? c = some d) :
    step lone (.str target acc (.unicode digits high) st) c =
      if (digits ++ [d]).length < 4 then
        some (.str target acc (.unicode (digits ++ [d]) high) st)
      else codeUnit lone target acc ((digits ++ [d]).foldl (fun n d => 16 * n + d) 0) high st := by
  unfold step stepStr
  dsimp only
  rw [h]
  rfl

/-- The four digits of an escaped control character. -/
theorem run_control (h : c.toNat < 32) :
    run lone (.str target acc .plain st)
        ['\\', 'u', '0', '0', Nat.digitChar (c.toNat / 16), Nat.digitChar (c.toNat % 16)] =
      some (.str target (acc ++ [c]) .plain st) := by
  have hhigh := hexValue_digitChar (d := c.toNat / 16) (by omega)
  have hlow := hexValue_digitChar (d := c.toNat % 16) (by omega)
  have hvalue : 16 * (16 * (16 * (16 * 0 + ('0'.toNat - '0'.toNat)) + ('0'.toNat - '0'.toNat)) +
      c.toNat / 16) + c.toNat % 16 = c.toNat := by
    simp only [Nat.sub_self]
    omega
  rw [run_cons rfl, run_cons rfl, run_cons rfl, run_cons rfl, run_cons (step_unicode hhigh)]
  refine run_cons ((step_unicode hlow).trans ?_) []
  simp only [List.nil_append, List.cons_append, List.length_cons, List.length_nil,
    List.foldl_cons, List.foldl_nil]
  rw [if_neg (by omega), hvalue]
  unfold codeUnit firstUnit
  dsimp only
  rw [if_neg (by omega), if_neg (by omega), Char.ofNat_toNat]

theorem run_escapeChar : run lone (.str target acc .plain st) (escapeChar c) =
    some (.str target (acc ++ [c]) .plain st) := by
  unfold escapeChar
  by_cases h1 : c = '"'
  · subst h1
    rfl
  by_cases h2 : c = '\\'
  · subst h2
    rfl
  by_cases h3 : c = '\n'
  · subst h3
    rfl
  by_cases h4 : c = '\r'
  · subst h4
    rfl
  by_cases h5 : c = '\t'
  · subst h5
    rfl
  by_cases h6 : c = '\x0c'
  · subst h6
    rfl
  by_cases h7 : c = '\x08'
  · subst h7
    rfl
  rw [if_neg h1, if_neg h2, if_neg h3, if_neg h4, if_neg h5, if_neg h6, if_neg h7]
  by_cases h8 : c.toNat < 32
  · rw [if_pos h8]
    exact run_control h8
  · rw [if_neg h8]
    apply run_cons
    unfold step stepStr stepPlain
    dsimp only
    rw [if_neg h1, if_neg h2, if_neg h8]

theorem run_escaped (cs : List Char) (acc : List Char) :
    run lone (.str target acc .plain st) (cs.flatMap escapeChar) =
      some (.str target (acc ++ cs) .plain st) := by
  induction cs generalizing acc with
  | nil => simp [run_nil]
  | cons c cs ih =>
      rw [List.flatMap_cons, run_append run_escapeChar, ih, List.append_assoc]
      rfl

/-- A written string, from its opening quote. -/
theorem run_dumpsStr {s : State} (hs : step lone s '"' = some (.str target [] .plain st))
    (text : String) :
    run lone s (dumpsStr text) = some (endStr target text.toList st) := by
  unfold dumpsStr
  rw [List.cons_append, run_cons hs, run_append (run_escaped _ _)]
  rfl

end Strings

/-! ## Numbers and words -/

theorem run_number {cs : List Char} (h : ∀ c ∈ cs, isNumberChar c = true) (acc : List Char)
    (st : List Frame) : run lone (.number acc st) cs = some (.number (acc ++ cs) st) := by
  induction cs generalizing acc with
  | nil => simp [run_nil]
  | cons c cs ih =>
      have hstep : step lone (.number acc st) c = some (.number (acc ++ [c]) st) :=
        if_pos (h c (by simp))
      rw [run_cons hstep, ih fun d hd => h d (by simp [hd])]
      simp

/-- The first character of a number starts a number. -/
theorem startValue_number {c : Char} (h : c = '-' ∨ c.isDigit) (st : List Frame) :
    startValue st c = some (.number [c] st) := by
  have hne : ∀ d : Char, d ≠ '-' → d.isDigit = false → c ≠ d := by
    rintro d hsign hdigit rfl
    rcases h with rfl | h
    · exact hsign rfl
    · rw [hdigit] at h
      cases h
  have hspace : isSpace c = false := by
    simp only [isSpace, Bool.or_eq_false_iff, beq_eq_false_iff_ne]
    exact ⟨⟨⟨hne _ (by decide) (by decide), hne _ (by decide) (by decide)⟩,
      hne _ (by decide) (by decide)⟩, hne _ (by decide) (by decide)⟩
  unfold startValue
  rw [hspace, if_neg (by simp), if_neg (hne _ (by decide) (by decide)),
    if_neg (hne _ (by decide) (by decide)), if_neg (hne _ (by decide) (by decide)),
    if_neg (hne _ (by decide) (by decide)), if_neg (hne _ (by decide) (by decide)),
    if_neg (hne _ (by decide) (by decide)), if_neg (hne _ (by decide) (by decide)),
    if_neg (hne _ (by decide) (by decide)), if_pos h]

/-- The text of a number, read as a value. -/
theorem run_numberText {c : Char} {cs : List Char} {v : Json} (hc : c = '-' ∨ c.isDigit)
    (hcs : ∀ d ∈ cs, isNumberChar d = true) (hv : numberOf? (c :: cs) = some v) (st : List Frame) :
    ∃ s, run lone (.value st) (c :: cs) = some s ∧ settle s = some (deliver v st) := by
  refine ⟨.number (c :: cs) st, ?_, ?_⟩
  · have hstep : step lone (.value st) c = some (.number [c] st) := startValue_number hc st
    rw [run_cons hstep]
    exact run_number hcs [c] st
  · show (numberOf? (c :: cs)).map (fun v => deliver v st) = some (deliver v st)
    rw [hv]
    rfl

/-- A float is one of three words, or a number. -/
theorem dumpsFloat_cases {text : String} {value : Option ℚ} (h : FloatText text value) :
    (dumpsFloat text = "NaN".toList ∧ text = "nan" ∧ value = none) ∨
      (dumpsFloat text = "Infinity".toList ∧ text = "inf" ∧ value = none) ∨
      (dumpsFloat text = "-Infinity".toList ∧ text = "-inf" ∧ value = none) ∨
      ∃ c cs, dumpsFloat text = c :: cs ∧ (c = '-' ∨ c.isDigit) ∧
        (∀ d ∈ cs, isNumberChar d = true) ∧ numberOf? (c :: cs) = some (.float text value) := by
  cases h with
  | nan => exact .inl ⟨rfl, rfl, rfl⟩
  | inf => exact .inr (.inl ⟨rfl, rfl, rfl⟩)
  | negInf => exact .inr (.inr (.inl ⟨rfl, rfl, rfl⟩))
  | @number _ _ c cs htext hhead hchars hreads =>
      have hnan : text ≠ "nan" := by
        rintro rfl
        cases htext
        exact absurd hhead (by decide)
      have hinf : text ≠ "inf" := by
        rintro rfl
        cases htext
        exact absurd hhead (by decide)
      have hneg : text ≠ "-inf" := by
        rintro rfl
        cases htext
        exact absurd (hchars 'i' (by decide)) (by decide)
      refine .inr (.inr (.inr ⟨c, cs, ?_, hhead, hchars, htext ▸ hreads⟩))
      unfold dumpsFloat
      rw [if_neg hnan, if_neg hinf, if_neg hneg, htext]

theorem run_dumpsFloat {text : String} {value : Option ℚ} (h : FloatText text value)
    (st : List Frame) : ∃ s, run lone (.value st) (dumpsFloat text) = some s ∧
      settle s = some (deliver (.float text value) st) := by
  have hdone : ∀ v, settle (deliver v st) = some (deliver v st) :=
    fun v => settle_after (after_deliver v st)
  rcases dumpsFloat_cases h with ⟨htext, rfl, rfl⟩ | ⟨htext, rfl, rfl⟩ | ⟨htext, rfl, rfl⟩ |
    ⟨c, cs, htext, hc, hcs, hv⟩
  · exact ⟨_, rfl, hdone _⟩
  · exact ⟨_, rfl, hdone _⟩
  · exact ⟨_, rfl, hdone _⟩
  · rw [htext]
    exact run_numberText hc hcs hv st

/-! ## The round trip -/

theorem setField_eq (fields : List (String × Json)) (key : String) (v : Json) :
    setField fields key v = insertEntry fields key v := by
  unfold setField insertEntry replaceEntry
  simp only [any_key, beq_iff_eq]

theorem setField_of_fresh {fields : List (String × Json)} {key : String}
    (h : key ∉ fields.map (·.1)) (v : Json) : setField fields key v = fields ++ [(key, v)] := by
  rw [setField_eq, insertEntry_of_fresh h]

/-- A separator after a settled state. -/
theorem run_after {s t u : State} {c : Char} (h : settle s = some t) (ht : After t)
    (hc : isNumberChar c = false) (hI : c ≠ 'I') (hu : stepAfter c t = some u) (cs : List Char) :
    run lone s (c :: cs) = run lone u cs :=
  run_cons ((step_settled h ht hc hI).trans hu) cs

/-- A key and its colon. -/
theorem run_key {s : State} {fields : List (String × Json)} {st : List Frame}
    (hs : step lone s '"' = some (.str (.key fields) [] .plain st)) (key : String)
    (cs : List Char) :
    run lone s (dumpsStr key ++ (':' :: ' ' :: cs)) =
      run lone (.value (.obj fields key :: st)) cs := by
  have hend : endStr (.key fields) key.toList st = .colon fields key st := by
    unfold endStr
    rw [String.ofList_toList]
  rw [run_append (run_dumpsStr hs key), hend, run_cons rfl, run_cons rfl]

/-- The first character of a value. -/
def Starts (c : Char) : Prop := isSpace c = false ∧ c ≠ ']'

instance (c : Char) : Decidable (Starts c) := inferInstanceAs (Decidable (_ ∧ _))

theorem starts_number {c : Char} (h : c = '-' ∨ c.isDigit) : Starts c := by
  rcases h with rfl | h
  · decide
  · constructor
    · unfold isSpace
      by_contra hspace
      simp only [Bool.not_eq_false, Bool.or_eq_true, beq_iff_eq] at hspace
      rcases hspace with ((rfl | rfl) | rfl) | rfl <;> exact absurd h (by decide)
    · rintro rfl
      exact absurd h (by decide)

theorem dumps_starts {v : Json} (h : v.WellFormed) : ∃ c cs, dumps v = c :: cs ∧ Starts c := by
  cases v with
  | null => exact ⟨_, _, rfl, by decide⟩
  | bool b => cases b <;> exact ⟨_, _, rfl, by decide⟩
  | int n =>
      obtain ⟨c, cs, htext, hc, -, -⟩ := intText_reads h
      exact ⟨c, cs, htext, starts_number hc⟩
  | float text value =>
      rcases dumpsFloat_cases h with ⟨htext, -, -⟩ | ⟨htext, -, -⟩ | ⟨htext, -, -⟩ |
        ⟨c, cs, htext, hc, -, -⟩
      · exact ⟨_, _, htext, by decide⟩
      · exact ⟨_, _, htext, by decide⟩
      · exact ⟨_, _, htext, by decide⟩
      · exact ⟨c, cs, htext, starts_number hc⟩
  | str s => exact ⟨_, _, rfl, by decide⟩
  | arr items => cases items <;> exact ⟨_, _, rfl, by decide⟩
  | obj fields => cases fields <;> exact ⟨_, _, rfl, by decide⟩

/-- The first item of an array is read as a value. -/
theorem run_firstItem {v : Json} (h : v.WellFormed) (st : List Frame) (rest : List Char) :
    run lone (.firstItem st) (dumps v ++ rest) =
      run lone (.value (.arr [] :: st)) (dumps v ++ rest) := by
  obtain ⟨c, cs, htext, hspace, hclose⟩ := dumps_starts h
  have hstep : step lone (.firstItem st) c = step lone (.value (.arr [] :: st)) c := by
    unfold step
    dsimp only
    rw [hspace, if_neg (by simp), if_neg hclose]
  rw [htext]
  unfold run
  rw [List.cons_append, List.foldlM_cons, List.foldlM_cons, hstep]

mutual
theorem run_dumps : ∀ (v : Json), v.WellFormed → ∀ st : List Frame,
    ∃ s, run lone (.value st) (dumps v) = some s ∧ settle s = some (deliver v st)
  | .null, _, st => ⟨_, rfl, settle_after (after_deliver _ st)⟩
  | .bool true, _, st => ⟨_, rfl, settle_after (after_deliver _ st)⟩
  | .bool false, _, st => ⟨_, rfl, settle_after (after_deliver _ st)⟩
  | .int n, h, st => by
      obtain ⟨c, cs, htext, hc, hcs, hv⟩ := intText_reads h
      show ∃ s, run lone (.value st) (intText n).toList = some s ∧ _
      rw [htext]
      exact run_numberText hc hcs hv st
  | .float text value, h, st => run_dumpsFloat h st
  | .str s, _, st => by
      refine ⟨_, run_dumpsStr rfl s, ?_⟩
      unfold endStr
      rw [String.ofList_toList]
      exact settle_after (after_deliver _ st)
  | .arr [], _, st => ⟨_, rfl, settle_after (after_deliver _ st)⟩
  | .arr (v :: vs), h, st => by
      obtain ⟨s, hs, hsettle⟩ := run_dumps v h.1 (.arr [] :: st)
      obtain ⟨t, ht, htsettle⟩ := run_dumpsItems vs h.2 s [v] st hsettle
      refine ⟨deliver (.arr (v :: vs)) st, ?_, settle_after (after_deliver _ st)⟩
      show run lone (.value st) ('[' :: (dumps v ++ (dumpsItems vs ++ [']']))) = _
      rw [run_cons rfl, run_firstItem h.1, run_append hs, run_append ht,
        run_after htsettle trivial rfl (by decide) rfl]
      rfl
  | .obj [], _, st => ⟨_, rfl, settle_after (after_deliver _ st)⟩
  | .obj ((k, v) :: fs), h, st => by
      obtain ⟨hkeys, hv, hfs⟩ := h
      obtain ⟨s, hs, hsettle⟩ := run_dumps v hv (.obj [] k :: st)
      obtain ⟨t, ht, htsettle⟩ := run_dumpsFields fs hfs s [(k, v)] st hsettle hkeys
      refine ⟨deliver (.obj ((k, v) :: fs)) st, ?_, settle_after (after_deliver _ st)⟩
      show run lone (.value st)
        ('\x7b' :: (dumpsStr k ++ (':' :: ' ' :: (dumps v ++ (dumpsFields fs ++ ['\x7d']))))) = _
      rw [run_cons rfl, run_key rfl, run_append hs, run_append ht,
        run_after htsettle trivial rfl (by decide) rfl]
      rfl

theorem run_dumpsItems : ∀ (vs : List Json), ItemsWellFormed vs → ∀ (s : State) (items : List Json)
    (st : List Frame), settle s = some (.afterItem items st) →
      ∃ t, run lone s (dumpsItems vs) = some t ∧ settle t = some (.afterItem (items ++ vs) st)
  | [], _, s, items, st, hs => ⟨s, rfl, by simpa using hs⟩
  | v :: vs, h, s, items, st, hs => by
      obtain ⟨t, ht, htsettle⟩ := run_dumps v h.1 (.arr items :: st)
      obtain ⟨u, hu, husettle⟩ := run_dumpsItems vs h.2 t (items ++ [v]) st htsettle
      refine ⟨u, ?_, by simpa using husettle⟩
      show run lone s (',' :: ' ' :: (dumps v ++ dumpsItems vs)) = some u
      rw [run_after hs trivial rfl (by decide) rfl, run_cons rfl, run_append ht, hu]

theorem run_dumpsFields : ∀ (fs : List (String × Json)), FieldsWellFormed fs →
    ∀ (s : State) (fields : List (String × Json)) (st : List Frame),
      settle s = some (.afterField fields st) → ((fields ++ fs).map (·.1)).Nodup →
        ∃ t, run lone s (dumpsFields fs) = some t ∧ settle t = some (.afterField (fields ++ fs) st)
  | [], _, s, fields, st, hs, _ => ⟨s, rfl, by simpa using hs⟩
  | (k, v) :: fs, h, s, fields, st, hs, hkeys => by
      have hfresh : k ∉ fields.map (·.1) := by
        rw [List.map_append, List.map_cons] at hkeys
        intro hmem
        exact (List.nodup_append.mp hkeys).2.2 k hmem k (by simp) rfl
      obtain ⟨t, ht, htsettle⟩ := run_dumps v h.1 (.obj fields k :: st)
      have hdeliver : deliver v (.obj fields k :: st) = .afterField (fields ++ [(k, v)]) st := by
        show State.afterField (setField fields k v) st = _
        rw [setField_of_fresh hfresh]
      rw [hdeliver] at htsettle
      obtain ⟨u, hu, husettle⟩ := run_dumpsFields fs h.2 t (fields ++ [(k, v)]) st htsettle
        (by simpa using hkeys)
      refine ⟨u, ?_, by simpa using husettle⟩
      show run lone s (',' :: ' ' :: (dumpsStr k ++ (':' :: ' ' :: (dumps v ++ dumpsFields fs)))) =
        some u
      rw [run_after hs trivial rfl (by decide) rfl, run_cons rfl, run_key rfl, run_append ht, hu]
end

theorem loadsWith_dumps (lone : Bool) {v : Json} (h : v.WellFormed) :
    loadsWith lone (dumps v) = some v := by
  obtain ⟨s, hs, hsettle⟩ := run_dumps v h []
  unfold loadsWith
  rw [hs, Option.bind_some, hsettle]
  rfl

/-- What is written is read back. -/
theorem loads_dumps {v : Json} (h : v.WellFormed) : loads (dumps v) = some v := loadsWith_dumps _ h

/-! ## What a cut leaves -/

def IsNumber : Json → Prop
  | .int _ => True
  | .float _ _ => True
  | _ => False

theorem isNumber_of_numberOf? {text : List Char} {v : Json} (h : numberOf? text = some v) :
    IsNumber v := by
  rcases numberOf?_cases h with ⟨n, rfl, -⟩ | ⟨text, value, rfl, -⟩
  · trivial
  · trivial

/-- Outside of every container, with a number read or being read. -/
inductive Scalar : State → Prop where
  | number (acc : List Char) : Scalar (.number acc [])
  | word (rest : List Char) {v : Json} (hv : IsNumber v) : Scalar (.word rest v [])
  | done {v : Json} (hv : IsNumber v) : Scalar (.done v)

/-- No number becomes a part of a container. -/
theorem Scalar.step {s t : State} {c : Char} (hs : Scalar s) (h : Json.step lone s c = some t) :
    Scalar t := by
  cases hs with
  | number acc =>
      unfold Json.step at h
      dsimp only at h
      split at h
      · cases h
        exact .number _
      · split at h
        · cases h
          exact .word _ trivial
        · obtain ⟨v, hv, h⟩ := Option.bind_eq_some_iff.mp h
          unfold deliver stepAfter at h
          dsimp only at h
          split at h
          · cases h
            exact .done (isNumber_of_numberOf? hv)
          · cases h
  | word rest hv =>
      unfold Json.step at h
      dsimp only at h
      split at h
      · cases h
      · split at h
        · cases h
          exact .done hv
        · cases h
      · split at h
        · cases h
          exact .word _ hv
        · cases h
  | done hv =>
      unfold Json.step stepAfter at h
      dsimp only at h
      split at h
      · cases h
        exact .done hv
      · cases h

theorem Scalar.run {s t : State} {cs : List Char} (hs : Scalar s)
    (h : Json.run lone s cs = some t) :
    Scalar t := by
  induction cs generalizing s with
  | nil =>
      cases h
      exact hs
  | cons c cs ih =>
      unfold Json.run at h
      rw [List.foldlM_cons] at h
      obtain ⟨u, hu, h⟩ := Option.bind_eq_some_iff.mp h
      exact ih (hs.step hu) h

/-- After a value there is only white space. -/
theorem isSpace_of_run_done {v : Json} {t : State} {cs : List Char}
    (h : run lone (.done v) cs = some t) : ∀ c ∈ cs, isSpace c = true := by
  induction cs with
  | nil => simp
  | cons c cs ih =>
      unfold run at h
      rw [List.foldlM_cons] at h
      obtain ⟨u, hu, h⟩ := Option.bind_eq_some_iff.mp h
      unfold step stepAfter at hu
      dsimp only at hu
      split at hu
      · rename_i hc
        cases hu
        intro d hd
        rcases List.mem_cons.mp hd with rfl | hd
        · exact hc
        · exact ih h d hd
      · cases hu

theorem loadsWith_eq_some {text : List Char} {v : Json} : loadsWith lone text = some v ↔
    ∃ s, run lone (.value []) text = some s ∧ settle s = some (.done v) := by
  unfold loadsWith
  cases hrun : run lone (.value []) text with
  | none => simp
  | some s =>
      rw [Option.bind_some]
      cases hsettle : settle s with
      | none => simp [hsettle]
      | some t => cases t <;> simp [hsettle]

theorem settle_eq_done {s : State} {v : Json} (h : settle s = some (.done v)) :
    s = .done v ∨ IsNumber v ∧ Scalar s := by
  cases s with
  | number acc st =>
      obtain ⟨w, hw, hdeliver⟩ := Option.map_eq_some_iff.mp h
      cases st with
      | nil =>
          cases hdeliver
          exact .inr ⟨isNumber_of_numberOf? hw, .number acc⟩
      | cons f st => cases f <;> cases hdeliver
  | done w =>
      cases h
      exact .inl rfl
  | _ => cases h

theorem dumps_obj_ends (fields : List (String × Json)) :
    ∃ cs, dumps (.obj fields) = cs ++ ['\x7d'] := by
  cases fields with
  | nil => exact ⟨['\x7b'], rfl⟩
  | cons f fs =>
      refine ⟨'\x7b' :: (dumpsStr f.1 ++ (':' :: ' ' :: (dumps f.2 ++ dumpsFields fs))), ?_⟩
      show '\x7b' :: (dumpsStr f.1 ++ (':' :: ' ' :: (dumps f.2 ++ (dumpsFields fs ++ ['\x7d'])))) =
        _
      simp

/-- What is left of an object when its text is cut does not read as JSON. -/
theorem loadsWith_cut {fields : List (String × Json)} (h : WellFormed (.obj fields))
    {p q : List Char} (hpq : p ++ q = dumps (.obj fields)) (hq : q ≠ []) :
    loadsWith lone p = none := by
  by_contra hsome
  obtain ⟨v, hv⟩ := Option.ne_none_iff_exists'.mp hsome
  obtain ⟨s, hs, hsettle⟩ := loadsWith_eq_some.mp hv
  obtain ⟨t, ht, htsettle⟩ := loadsWith_eq_some.mp (loadsWith_dumps lone h)
  rw [← hpq, run_append hs] at ht
  rcases settle_eq_done hsettle with rfl | ⟨-, hscalar⟩
  · -- the value is complete, so the rest would be white space
    obtain ⟨cs, hcs⟩ := dumps_obj_ends fields
    obtain ⟨q, c, rfl⟩ := (List.eq_nil_or_concat q).resolve_left hq
    rw [hcs, List.concat_eq_append, ← List.append_assoc] at hpq
    obtain rfl : c = '\x7d' := by simpa using (List.append_inj' hpq rfl).2
    have hspace := isSpace_of_run_done ht '\x7d' (by simp)
    exact absurd hspace (by decide)
  · -- a number does not become an object
    rcases settle_eq_done htsettle with rfl | ⟨hnumber, -⟩
    · cases hscalar.run ht with
      | done hobj => exact hobj
    · exact hnumber

end Run

theorem hasLoneSurrogate_of_loads {text : List Char} {v : Json} (h : loads text = some v) :
    hasLoneSurrogate text = false := by
  unfold hasLoneSurrogate
  rw [h]
  rfl

/-- A text that is not JSON. -/
theorem not_json {text : List Char} (h : ∀ lone, loadsWith lone text = none) :
    loads text = none ∧ hasLoneSurrogate text = false := by
  unfold hasLoneSurrogate
  rw [h true]
  exact ⟨h false, Bool.and_false _⟩

/-! ## Lines -/

/-- No control character, in particular no line end. -/
def Printable (cs : List Char) : Prop := ∀ c ∈ cs, 32 ≤ c.toNat

instance (cs : List Char) : Decidable (Printable cs) :=
  List.decidableBAll (fun c : Char => 32 ≤ c.toNat) cs

theorem Printable.nil : Printable [] := by
  intro c hc
  cases hc

theorem Printable.append {xs ys : List Char} (hx : Printable xs) (hy : Printable ys) :
    Printable (xs ++ ys) := by
  intro c hc
  rcases List.mem_append.mp hc with hc | hc
  · exact hx c hc
  · exact hy c hc

theorem Printable.cons {c : Char} {cs : List Char} (hc : 32 ≤ c.toNat) (hcs : Printable cs) :
    Printable (c :: cs) := by
  intro d hd
  rcases List.mem_cons.mp hd with rfl | hd
  · exact hc
  · exact hcs d hd

theorem printable_escapeChar (c : Char) : Printable (escapeChar c) := by
  have hdigit : ∀ d, d < 16 → 32 ≤ (Nat.digitChar d).toNat := by decide
  unfold escapeChar
  split_ifs with h1 h2 h3 h4 h5 h6 h7 h8
  · decide
  · decide
  · decide
  · decide
  · decide
  · decide
  · decide
  · intro d hd
    simp only [List.mem_cons, List.not_mem_nil, or_false] at hd
    rcases hd with rfl | rfl | rfl | rfl | rfl | rfl
    · decide
    · decide
    · decide
    · decide
    · exact hdigit _ (by omega)
    · exact hdigit _ (by omega)
  · intro d hd
    rw [List.mem_singleton.mp hd]
    omega

theorem printable_dumpsStr (s : String) : Printable (dumpsStr s) := by
  refine .cons (by decide) (.append ?_ (by decide))
  intro d hd
  obtain ⟨c, -, hd⟩ := List.mem_flatMap.mp hd
  exact printable_escapeChar c d hd

theorem printable_numberChar {c : Char} (h : isNumberChar c = true) : 32 ≤ c.toNat := by
  unfold isNumberChar at h
  simp only [Bool.or_eq_true, beq_iff_eq] at h
  rcases h with ((((h | rfl) | rfl) | rfl) | rfl) | rfl
  · have hlo := (Char.isDigit_iff_toNat.mp h).1
    have hzero : '0'.toNat = 48 := rfl
    omega
  all_goals decide

theorem printable_numberText {c : Char} {cs : List Char} (hc : c = '-' ∨ c.isDigit)
    (hcs : ∀ d ∈ cs, isNumberChar d = true) : Printable (c :: cs) := by
  refine .cons ?_ fun d hd => printable_numberChar (hcs d hd)
  rcases hc with rfl | hc
  · decide
  · exact printable_numberChar (isNumberChar_of_isDigit hc)

mutual
theorem printable_dumps : ∀ v : Json, v.WellFormed → Printable (dumps v)
  | .null, _ => (by decide : Printable "null".toList)
  | .bool true, _ => (by decide : Printable "true".toList)
  | .bool false, _ => (by decide : Printable "false".toList)
  | .int n, h => by
      obtain ⟨c, cs, htext, hc, hcs, -⟩ := intText_reads h
      show Printable (intText n).toList
      rw [htext]
      exact printable_numberText hc hcs
  | .float text value, h => by
      show Printable (dumpsFloat text)
      rcases dumpsFloat_cases h with ⟨htext, -, -⟩ | ⟨htext, -, -⟩ | ⟨htext, -, -⟩ |
        ⟨c, cs, htext, hc, hcs, -⟩
      · exact htext ▸ (by decide : Printable "NaN".toList)
      · exact htext ▸ (by decide : Printable "Infinity".toList)
      · exact htext ▸ (by decide : Printable "-Infinity".toList)
      · exact htext ▸ printable_numberText hc hcs
  | .str s, _ => printable_dumpsStr s
  | .arr [], _ => (by decide : Printable ['[', ']'])
  | .arr (v :: vs), h =>
      .cons (by decide) (.append (printable_dumps v h.1) (.append (printable_dumpsItems vs h.2)
        (by decide)))
  | .obj [], _ => (by decide : Printable ['\x7b', '\x7d'])
  | .obj ((k, v) :: fs), h =>
      .cons (by decide) (.append (printable_dumpsStr k) (.cons (by decide) (.cons (by decide)
        (.append (printable_dumps v h.2.1) (.append (printable_dumpsFields fs h.2.2)
          (by decide))))))

theorem printable_dumpsItems : ∀ vs : List Json, ItemsWellFormed vs → Printable (dumpsItems vs)
  | [], _ => Printable.nil
  | v :: vs, h =>
      .cons (by decide) (.cons (by decide) (.append (printable_dumps v h.1)
        (printable_dumpsItems vs h.2)))

theorem printable_dumpsFields : ∀ fs : List (String × Json), FieldsWellFormed fs →
    Printable (dumpsFields fs)
  | [], _ => Printable.nil
  | (k, v) :: fs, h =>
      .cons (by decide) (.cons (by decide) (.append (printable_dumpsStr k) (.cons (by decide)
        (.cons (by decide) (.append (printable_dumps v h.1) (printable_dumpsFields fs h.2))))))
end

/-! ## Setting a field -/

theorem fieldsWellFormed_iff {fields : List (String × Json)} :
    FieldsWellFormed fields ↔ ∀ f ∈ fields, f.2.WellFormed := by
  induction fields with
  | nil => simp [FieldsWellFormed]
  | cons f fields ih => simp [FieldsWellFormed, ih]

theorem wellFormed_setField {fields : List (String × Json)} (h : WellFormed (.obj fields))
    (key : String) {v : Json} (hv : v.WellFormed) : WellFormed (.obj (setField fields key v)) := by
  rw [setField_eq]
  constructor
  · exact nodup_insertEntry h.1 key v
  · rw [fieldsWellFormed_iff]
    intro f hf
    rcases mem_insertEntry hf with rfl | hf
    · exact hv
    · exact fieldsWellFormed_iff.mp h.2 f hf

theorem get_mem {fields : List (String × Json)} {key : String} (h : get fields key ≠ .null) :
    (key, get fields key) ∈ fields := lookup_mem (lookup_get h)

theorem wellFormed_get {fields : List (String × Json)} (h : WellFormed (.obj fields))
    (key : String) : (get fields key).WellFormed := by
  by_cases hnull : get fields key = .null
  · rw [hnull]
    trivial
  · exact fieldsWellFormed_iff.mp h.2 _ (get_mem hnull)

theorem lookup_setField_self (fields : List (String × Json)) (key : String) (v : Json) :
    (setField fields key v).lookup key = some v := by
  rw [setField_eq, lookup_insertEntry, if_pos rfl]

theorem lookup_setField_of_ne {key key' : String} (h : key' ≠ key) (fields : List (String × Json))
    (v : Json) : (setField fields key v).lookup key' = fields.lookup key' := by
  rw [setField_eq, lookup_insertEntry, if_neg h]

theorem get_setField_self (fields : List (String × Json)) (key : String) (v : Json) :
    get (setField fields key v) key = v := by
  unfold get getD
  rw [lookup_setField_self]
  rfl

/-- Setting a field to the value it has. -/
theorem setField_self {fields : List (String × Json)} (h : (fields.map (·.1)).Nodup)
    {key : String} {v : Json} (hmem : (key, v) ∈ fields) : setField fields key v = fields := by
  rw [setField_eq, insertEntry_of_mem h hmem]

end Json

end LookAway.Base
