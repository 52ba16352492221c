/-
  `load_freq_table` of verl/workers/actor/lookaway_utils.py: the frequency table as a float32
  vector.

  `float` and `int` of Python are `pyFloat` and `pyInt`. The vector is a torch tensor: a number is
  rounded to float32 when it is stored, and one that is too large for it is refused. Whether a
  tensor can be allocated depends on the machine and is a parameter.

  `loadCounts_eq`: a table whose entries can be stored loads as the vector they fill.
-/
import LookAway.Base.BinaryFloat
import LookAway.Base.SparseVector
import LookAway.Priors.FreqTable
import Mathlib.Data.List.TakeWhile

namespace LookAway.Priors

open LookAway.Base LookAway.Base.Json LookAway.Data

/-- A Python float: its value, `none` for NaN and the infinities. -/
abbrev PyFloat := Option ℚ

/-! ## Numbers from text -/

/-- The digits of a text whose underscores stand between digits; the flag says that a digit comes
    before. -/
def ungroup : Bool → List Char → Option (List Char)
  | true, [] => some []
  | false, [] => none
  | afterDigit, c :: cs =>
      if c = '_' then if afterDigit then ungroup false cs else none
      else (ungroup true cs).map (c :: ·)

def natural? (cs : List Char) : Option ℕ := (ungroup false cs).bind digitsValue?

/-- A sign, and what `read` makes of the rest. -/
def signed {α : Type} [Neg α] (read : List Char → Option α) : List Char → Option α
  | '-' :: cs => (read cs).map fun x => -x
  | '+' :: cs => read cs
  | cs => read cs

/-- `int(s)`; `none` is the ValueError. -/
def intOfString? (s : String) : Option ℤ :=
  signed (fun cs => ((ungroup false cs).bind intDigits?).map fun n : ℕ => (n : ℤ)) (strip s).toList

/-- The message of that ValueError. -/
def intStringError (s : String) : String :=
  let text := (strip s).toList
  let body := if text.head? = some '-' ∨ text.head? = some '+' then text.tail else text
  let scanned := body.takeWhile fun c => c == '_' || (decimalDigit? c).isSome
  intErrorText s ((ungroup false scanned).getD [])

/-- Digits with at most one point. -/
def mantissa? (cs : List Char) : Option ℚ :=
  let whole := cs.takeWhile (· != '.')
  let fraction := (cs.dropWhile (· != '.')).drop 1
  if whole = [] ∧ fraction = [] then none
  else do
    let w ← if whole = [] then some 0 else natural? whole
    let digits ← if fraction = [] then some [] else ungroup false fraction
    let d ← if digits = [] then some 0 else digitsValue? digits
    return w + (d : ℚ) / 10 ^ digits.length

def unsignedFloat? (cs : List Char) : Option PyFloat :=
  if String.ofList (cs.map Char.toLower) ∈ ["inf", "infinity", "nan"] then some none
  else do
    let isMantissa := fun c : Char => c != 'e' && c != 'E'
    let m ← mantissa? (cs.takeWhile isMantissa)
    let x ← match cs.dropWhile isMantissa with
      | [] => some (0 : ℤ)
      | _ :: digits => signed (fun ds => (natural? ds).map fun n : ℕ => (n : ℤ)) digits
    return binary64.finite? (m * 10 ^ x)

/-- `float(s)`; the outer `none` is the ValueError. -/
def floatOfString? (s : String) : Option PyFloat :=
  match (strip s).toList with
  | '-' :: cs => (unsignedFloat? cs).map (·.map fun x => -x)
  | '+' :: cs => unsignedFloat? cs
  | cs => unsignedFloat? cs

/-! ## int and float -/

/-- `int(v)`. -/
def pyInt : Json → Except PyError ℤ
  | .bool b => .ok (if b then 1 else 0)
  | .int n => .ok n
  | .float _ (some q) => .ok (if 0 ≤ q then ⌊q⌋ else ⌈q⌉)
  | .float t none =>
      if t = "nan" then .error (.valueError "cannot convert float NaN to integer")
      else .error (.library "OverflowError" "cannot convert float infinity to integer")
  | .str s =>
      match intOfString? s with
      | some n => .ok n
      | none => .error (.valueError (intStringError s))
  | .null => .error (.typeError "int() argument must be a real number, not 'NoneType'")
  | .arr _ => .error (.typeError "int() argument must be a real number, not 'list'")
  | .obj _ => .error (.typeError "int() argument must be a real number, not 'dict'")

/-- `float(v)`. -/
def pyFloat : Json → Except PyError PyFloat
  | .bool b => .ok (some (if b then 1 else 0))
  | .int n =>
      match binary64.finite? n with
      | some d => .ok (some d)
      | none => .error (.library "OverflowError" "int too large to convert to float")
  | .float _ value => .ok value
  | .str s =>
      match floatOfString? s with
      | some x => .ok x
      | none => .error (.valueError ("could not convert string to float: " ++ quote s))
  | .null => .error (.typeError "float() argument must be a real number, not 'NoneType'")
  | .arr _ => .error (.typeError "float() argument must be a real number, not 'list'")
  | .obj _ => .error (.typeError "float() argument must be a real number, not 'dict'")

/-! ## The loader -/

/-- A float as an entry of a float32 tensor. -/
def toFloat32 (x : PyFloat) : Except PyError PyFloat :=
  match x with
  | none => .ok none
  | some d =>
      if binary32.largest < |d| then
        .error (.runtimeError "value cannot be converted to type float without overflow")
      else .ok (some (binary32.round d))

/-- `counts[i] = x`: a negative index counts from the end. -/
def setEntry (counts : List PyFloat) (i : ℤ) (x : PyFloat) : Except PyError (List PyFloat) :=
  if 0 ≤ i ∧ i < counts.length then .ok (counts.set i.toNat x)
  else if -(counts.length : ℤ) ≤ i ∧ i < 0 then .ok (counts.set (counts.length + i).toNat x)
  else .error .indexError

/-- `counts[int(key)] = float(value)` -/
def setCount (counts : List PyFloat) (entry : String × Json) : Except PyError (List PyFloat) := do
  let value ← pyFloat entry.2
  let key ← pyInt (.str entry.1)
  let x ← toFloat32 value
  setEntry counts key x

/-- `blob[key]` -/
def item (fields : List (String × Json)) (key : String) : Except PyError Json :=
  (fields.lookup key).elim (.error (.keyError key)) .ok

/-- The vector of a table that has been read. -/
def loadCounts (allocates : ℕ → Bool) (blob : Json) : Except PyError (List PyFloat) := do
  let fields ← blob.fields?.elim (.error (.typeError "indices must be integers or slices")) .ok
  let size ← pyInt (← item fields "vocab_size")
  if size < 0 then .error (.runtimeError "Trying to create tensor with negative dimension")
  else if allocates size.toNat = false then .error (.runtimeError "not enough memory")
  else do
    let counts ← item fields "counts"
    let entries ← counts.fields?.elim
      (.error (.attributeError "object has no attribute 'items'")) .ok
    entries.foldlM setCount (List.replicate size.toNat (some 0))

/-- `load_freq_table`. -/
def loadFreqTable (allocates : ℕ → Bool) (table : Doc Json) : Except PyError (List PyFloat) := do
  let blob ← table.parse
  loadCounts allocates blob

/-! ## Keys -/

/-- No digit and no sign is white space. -/
theorem isSpace_of_key {c : Char} (h : c = '-' ∨ isDigitChar c = true) :
    Data.isSpace c = false := by
  have hkey : (c == '-' || isDigitChar c) = true := by simpa using h
  exact not_isSpace (p := fun d => d == '-' || isDigitChar d) (by decide +kernel) hkey

theorem ungroup_digits {cs : List Char} (h : ∀ c ∈ cs, c ≠ '_') : ungroup true cs = some cs := by
  induction cs with
  | nil => rfl
  | cons c cs ih =>
      unfold ungroup
      rw [if_neg (h c (by simp)), ih fun d hd => h d (by simp [hd])]
      rfl

/-- Without underscores there is nothing to remove. -/
theorem bind_ungroup {cs : List Char} (h : ∀ c ∈ cs, c ≠ '_') :
    (ungroup false cs).bind intDigits? = intDigits? cs := by
  cases cs with
  | nil => rfl
  | cons c cs =>
      unfold ungroup
      rw [if_neg (h c (by simp)), ungroup_digits fun d hd => h d (by simp [hd])]
      rfl

/-- A text without white space is its own strip. -/
theorem strip_of_no_space {s : String} (h : ∀ c ∈ s.toList, Data.isSpace c = false) :
    strip s = s := by
  have hdrop : ∀ cs : List Char, (∀ c ∈ cs, Data.isSpace c = false) →
      cs.dropWhile Data.isSpace = cs := by
    intro cs hcs
    cases cs with
    | nil => rfl
    | cons c cs => exact List.dropWhile_cons_of_neg (by simp [hcs c])
  unfold strip
  rw [hdrop _ h, hdrop _ (by simpa using h), List.reverse_reverse, String.ofList_toList]

/-- The characters of a key that the validator takes for an integer. -/
theorem key_chars {k : String} (h : looksInteger k = true) :
    ∀ c ∈ k.toList, c = '-' ∨ isDigitChar c = true := by
  intro c hc
  unfold looksInteger at h
  rw [Bool.and_eq_true, List.all_eq_true] at h
  rw [← List.takeWhile_append_dropWhile (p := (· == '-')) (l := k.toList)] at hc
  rcases List.mem_append.mp hc with hc | hc
  · exact Or.inl (by simpa using List.mem_takeWhile_imp hc)
  · exact Or.inr (h.2 c hc)

/-- On such a key the loader reads what the validator reads. -/
theorem intOfString?_key {k : String} (h : looksInteger k = true) :
    intOfString? k = intOfText? k := by
  have hchars := key_chars h
  have hunder : ∀ c ∈ k.toList, c ≠ '_' := by
    rintro c hc rfl
    exact absurd (hchars _ hc) (by decide +kernel)
  have hplus : ∀ c ∈ k.toList, c ≠ '+' := by
    rintro c hc rfl
    exact absurd (hchars _ hc) (by decide +kernel)
  unfold intOfString? intOfText?
  rw [strip_of_no_space fun c hc => isSpace_of_key (hchars c hc)]
  cases hk : k.toList with
  | nil => rfl
  | cons c cs =>
      rw [hk] at hunder hplus
      have hrest : (ungroup false cs).bind intDigits? = intDigits? cs :=
        bind_ungroup fun d hd => hunder d (by simp [hd])
      have hall := bind_ungroup hunder
      by_cases hminus : c = '-'
      · subst hminus
        simp only [signed, hrest]
        cases intDigits? cs <;> rfl
      · have hne : c ≠ '+' := hplus c (by simp)
        unfold signed
        split
        · rename_i heq
          exact absurd (List.cons.inj heq).1 hminus
        · rename_i heq
          exact absurd (List.cons.inj heq).1 hne
        · split
          · rename_i heq
            exact absurd (List.cons.inj heq).1 hminus
          · exact congrArg _ hall

/-! ## A table with distinct ids -/

/-- The entry an integer count becomes; `none` where the loader raises. -/
def float32? (v : ℤ) : Option ℚ :=
  (binary64.finite? v).bind fun d =>
    if binary32.largest < |d| then none else some (binary32.round d)

/-- An entry of `counts` that the loader stores: its id, its count, and the count as a float32. -/
structure Stored (size : ℕ) (entry : String × Json) (id : ℕ) (x : ℚ) : Prop where
  key : looksInteger entry.1 = true
  id_eq : intOfText? entry.1 = some (id : ℤ)
  id_lt : id < size
  value : ∃ v, entry.2.int? = some v ∧ float32? v = some x

theorem setCount_stored {counts : List PyFloat} {entry : String × Json} {id : ℕ} {x : ℚ}
    (h : Stored counts.length entry id x) :
    setCount counts entry = .ok (counts.set id (some x)) := by
  obtain ⟨v, hv, hx⟩ := h.value
  obtain ⟨d, hd, hx⟩ := Option.bind_eq_some_iff.mp hx
  have hround : ¬ binary32.largest < |d| ∧ binary32.round d = x := by
    split at hx
    · cases hx
    · rename_i hle
      exact ⟨hle, Option.some.inj hx⟩
  have hvalue : pyFloat entry.2 = .ok (some d) := by
    obtain ⟨key, value⟩ := entry
    cases value with
    | int n =>
        obtain rfl : n = v := Option.some.inj hv
        simp only [pyFloat, hd]
    | bool b =>
        have hone : ∀ b : Bool, binary64.finite? ((if b then 1 else 0 : ℤ) : ℚ) =
            some (if b then 1 else 0) := by decide +kernel
        have hb : (if b then 1 else 0 : ℤ) = v := Option.some.inj hv
        rw [← hb, hone] at hd
        exact congrArg Except.ok hd
    | null => cases hv
    | float t q => cases hv
    | str s => cases hv
    | arr items => cases hv
    | obj fields => cases hv
  have hkey : pyInt (.str entry.1) = .ok (id : ℤ) := by
    have hread : intOfString? entry.1 = some (id : ℤ) := by
      rw [intOfString?_key h.key, h.id_eq]
    simp only [pyInt, hread]
  have hstore : toFloat32 (some d) = .ok (some x) := by
    simp only [toFloat32, if_neg hround.1, hround.2]
  have hlt : (id : ℤ) < counts.length := by exact_mod_cast h.id_lt
  unfold setCount
  rw [hvalue, hkey]
  refine except_bind_ok.mpr ⟨_, rfl, except_bind_ok.mpr ⟨_, rfl, ?_⟩⟩
  refine except_bind_ok.mpr ⟨_, hstore, ?_⟩
  unfold setEntry
  rw [if_pos ⟨Int.natCast_nonneg id, hlt⟩]
  rfl

/-- The loop over the entries. -/
theorem foldlM_stored {size : ℕ} {entries : List (String × Json)} {stored : List (ℕ × ℚ)}
    (h : List.Forall₂ (fun entry s => Stored size entry s.1 s.2) entries stored)
    {counts : List ℚ} (hlength : counts.length = size) :
    entries.foldlM setCount (counts.map some) =
      .ok ((fill counts stored).map some) := by
  induction h generalizing counts with
  | nil => rfl
  | @cons entry s entries stored hentry _ ih =>
      have hset : setCount (counts.map some) entry = .ok ((counts.set s.1 s.2).map some) := by
        rw [List.map_set]
        apply setCount_stored
        rw [List.length_map, hlength]
        exact hentry
      rw [List.foldlM_cons, hset]
      exact ih (by rw [List.length_set, hlength])

/-- The size is an integer and the counts are an object. -/
theorem loadCounts_fields {allocates : ℕ → Bool} {fields entries : List (String × Json)} {size : ℕ}
    (hsize : ∃ v, fields.lookup "vocab_size" = some v ∧ v.int? = some (size : ℤ))
    (hcounts : fields.lookup "counts" = some (.obj entries)) :
    loadCounts allocates (.obj fields) =
      if allocates size = false then .error (.runtimeError "not enough memory")
      else entries.foldlM setCount (List.replicate size (some 0)) := by
  obtain ⟨v, hv, hint⟩ := hsize
  have hread : pyInt v = .ok (size : ℤ) := by
    cases v with
    | int n => exact congrArg Except.ok (Option.some.inj hint)
    | bool b => exact congrArg Except.ok (Option.some.inj hint)
    | null => cases hint
    | float t q => cases hint
    | str s => cases hint
    | arr items => cases hint
    | obj fields => cases hint
  have hitem : item fields "vocab_size" = .ok v := by
    unfold item
    rw [hv]
    rfl
  have hitems : item fields "counts" = .ok (.obj entries) := by
    unfold item
    rw [hcounts]
    rfl
  have hloop : loadCounts allocates (.obj fields) =
      if (size : ℤ) < 0 then
        .error (.runtimeError "Trying to create tensor with negative dimension")
      else if allocates (size : ℤ).toNat = false then .error (.runtimeError "not enough memory")
      else entries.foldlM setCount (List.replicate (size : ℤ).toNat (some 0)) := by
    show (item fields "vocab_size" >>= fun v => pyInt v >>= fun size => _) = _
    rw [hitem]
    show (pyInt v >>= fun size => _) = _
    rw [hread, hitems]
    rfl
  rw [hloop, if_neg (by omega), Int.toNat_natCast]

/-- The vector of a table whose entries can all be stored. -/
theorem loadCounts_eq {allocates : ℕ → Bool} {fields entries : List (String × Json)} {size : ℕ}
    {stored : List (ℕ × ℚ)}
    (hsize : ∃ v, fields.lookup "vocab_size" = some v ∧ v.int? = some (size : ℤ))
    (hcounts : fields.lookup "counts" = some (.obj entries)) (hallocates : allocates size = true)
    (h : List.Forall₂ (fun entry s => Stored size entry s.1 s.2) entries stored) :
    loadCounts allocates (.obj fields) =
      .ok ((fill (List.replicate size 0) stored).map some) := by
  have hzeros : List.replicate size (some 0 : PyFloat) = (List.replicate size 0).map some := by
    rw [List.map_replicate]
  rw [loadCounts_fields hsize hcounts, if_neg (by simp [hallocates]), hzeros]
  exact foldlM_stored h (List.length_replicate ..)

end LookAway.Priors
