/-
  Numbers in JSON: what `json.loads` reads, and the texts that `json.dumps` writes for them.
  Nothing here names a program.

  An integer is read exactly, up to the digits `int` accepts; any other number is read in double
  precision. `intText_reads` and `floatText_reads`: the text of a number reads as the number.
-/
import LookAway.Base.Json
import LookAway.Base.ShortestDecimal
import Mathlib.Algebra.Field.Rat
import Mathlib.Data.List.TakeWhile

namespace LookAway.Base

namespace Json

/-! ## Reading -/

def isNumberChar (c : Char) : Bool :=
  c.isDigit || c == '-' || c == '+' || c == '.' || c == 'e' || c == 'E'

/-- `([eE][-+]?\d+)?`, to the end. -/
def exponent? : List Char → Option ℤ
  | [] => some 0
  | e :: cs =>
      if e = 'e' ∨ e = 'E' then
        let negative := cs.head? = some '-'
        let digits := if cs.head? = some '-' ∨ cs.head? = some '+' then cs.tail else cs
        if digits ≠ [] ∧ digits.all Char.isDigit then
          let n : ℤ := Nat.ofDigitChars 10 digits 0
          some (if negative then -n else n)
        else none
      else none

/-- `(\.\d+)?([eE][-+]?\d+)?`, to the end: the digits of the fraction and the exponent. -/
def fraction? : List Char → Option (List Char × ℤ)
  | '.' :: cs =>
      let digits := cs.takeWhile Char.isDigit
      if digits = [] then none
      else (exponent? (cs.dropWhile Char.isDigit)).map fun e => (digits, e)
  | cs => (exponent? cs).map fun e => ([], e)

/-- `float` of a decimal: the closest double, or an infinity. -/
def floatOf (negative : Bool) (value : ℚ) : Json :=
  match binary64.finite? value with
  | some x => .float (floatText negative x) (some (if negative then -x else x))
  | none => .float (if negative then "-inf" else "inf") none

/-- `(0|[1-9]\d*)`, and a float if a fraction or an exponent follows. -/
def unsigned? (negative : Bool) (body : List Char) : Option Json :=
  let digits := body.takeWhile Char.isDigit
  let rest := body.dropWhile Char.isDigit
  let n := Nat.ofDigitChars 10 digits 0
  -- a leading zero is not read
  if Nat.toDigits 10 n ≠ digits then none
  else if rest = [] then
    if maxStrDigits < digits.length then none else some (.int (if negative then -n else n))
  else (fraction? rest).map fun f =>
    floatOf negative (Nat.ofDigitChars 10 (digits ++ f.1) 0 * 10 ^ (f.2 - (f.1.length : ℤ)))

/-- The number with this text. -/
def numberOf? (text : List Char) : Option Json :=
  if text.head? = some '-' then unsigned? true text.tail else unsigned? false text

/-- An integer that `int` reads and `str` writes. -/
def Short (n : ℤ) : Prop := (Nat.toDigits 10 n.natAbs).length ≤ maxStrDigits

instance (n : ℤ) : Decidable (Short n) := inferInstanceAs (Decidable (_ ≤ _))

/-- The text of a float: a `repr` that reads as it, or a special value. -/
inductive FloatText : String → Option ℚ → Prop where
  | nan : FloatText "nan" none
  | inf : FloatText "inf" none
  | negInf : FloatText "-inf" none
  | number {text : String} {value : Option ℚ} {c : Char} {cs : List Char}
      (text_eq : text.toList = c :: cs) (head : c = '-' ∨ c.isDigit)
      (chars : ∀ d ∈ cs, isNumberChar d = true)
      (reads : numberOf? text.toList = some (.float text value)) : FloatText text value

/-! ## Digits -/

theorem isNumberChar_of_isDigit {c : Char} (h : c.isDigit) : isNumberChar c = true := by
  simp [isNumberChar, h]

theorem digitChar_of_isDigit {c : Char} (h : c.isDigit) : Nat.digitChar (c.toNat - 48) = c := by
  obtain ⟨hlo, hhi⟩ := Char.isDigit_iff_toNat.mp h
  have hlo' : 48 ≤ c.toNat := hlo
  have hhi' : c.toNat ≤ 57 := hhi
  apply Char.toNat_inj.mp
  rw [Nat.toNat_digitChar_of_lt_ten (by omega)]
  omega

/-- Digits after those of a positive number. -/
theorem toDigits_append {cs : List Char} (h : ∀ c ∈ cs, c.isDigit) {n : ℕ} (hn : 0 < n) :
    Nat.toDigits 10 n ++ cs = Nat.toDigits 10 (Nat.ofDigitChars 10 cs n) := by
  induction cs generalizing n with
  | nil => simp
  | cons c cs ih =>
      obtain ⟨hlo, hhi⟩ := Char.isDigit_iff_toNat.mp (h c (by simp))
      have hlo' : 48 ≤ c.toNat := hlo
      have hhi' : c.toNat ≤ 57 := hhi
      have hdigit : c.toNat - 48 < 10 := by omega
      have hnext := Nat.toDigits_append_toDigits (b := 10) (by decide) hn hdigit
      rw [Nat.toDigits_of_lt_base hdigit, digitChar_of_isDigit (h c (by simp))] at hnext
      rw [Nat.ofDigitChars_cons, ← ih (fun d hd => h d (by simp [hd])) (by omega)]
      calc Nat.toDigits 10 n ++ c :: cs = (Nat.toDigits 10 n ++ [c]) ++ cs := by simp
        _ = _ := by rw [hnext]; rfl

/-- Digits without a leading zero are those of a number. -/
theorem toDigits_ofDigitChars {c : Char} {cs : List Char} (hc : c.isDigit) (hzero : c ≠ '0')
    (hcs : ∀ d ∈ cs, d.isDigit) :
    Nat.toDigits 10 (Nat.ofDigitChars 10 (c :: cs) 0) = c :: cs := by
  obtain ⟨hlo, hhi⟩ := Char.isDigit_iff_toNat.mp hc
  have hlo' : 48 ≤ c.toNat := hlo
  have hhi' : c.toNat ≤ 57 := hhi
  have hne : c.toNat ≠ 48 := fun h => hzero (Char.toNat_inj.mp h)
  have hdigit : c.toNat - 48 < 10 := by omega
  rw [Nat.ofDigitChars_cons, Nat.mul_zero, Nat.zero_add]
  show Nat.toDigits 10 (Nat.ofDigitChars 10 cs (c.toNat - 48)) = _
  rw [← toDigits_append hcs (by omega), Nat.toDigits_of_lt_base hdigit, digitChar_of_isDigit hc]
  rfl

/-- A positive number has no leading zero. -/
theorem toDigits_head {n : ℕ} (hn : 0 < n) : ∃ c cs, Nat.toDigits 10 n = c :: cs ∧ c ≠ '0' := by
  induction n using Nat.strongRecOn with
  | _ n ih =>
      rw [Nat.toDigits_eq_if (by decide)]
      split
      · rename_i hlt
        refine ⟨_, [], rfl, fun h => ?_⟩
        have hnat := congrArg Char.toNat h
        rw [Nat.toNat_digitChar_of_lt_ten hlt] at hnat
        have : '0'.toNat = 48 := rfl
        omega
      · obtain ⟨c, cs, hd, hc⟩ := ih (n / 10) (by omega) (by omega)
        exact ⟨c, cs ++ [Nat.digitChar (n % 10)], by rw [hd]; rfl, hc⟩

/-! ## The text of an integer -/

theorem unsigned_toDigits (negative : Bool) {m : ℕ}
    (hm : (Nat.toDigits 10 m).length ≤ maxStrDigits) :
    unsigned? negative (Nat.toDigits 10 m) = some (.int (if negative then -m else m)) := by
  have hall : ∀ c ∈ Nat.toDigits 10 m, c.isDigit = true := fun c h => toDigits_isDigit h
  unfold unsigned?
  dsimp only
  rw [List.takeWhile_eq_self_iff.mpr hall, List.dropWhile_eq_nil_iff.mpr hall,
    Nat.ofDigitChars_ten_toDigits, if_neg (by simp), if_pos rfl, if_neg (by omega)]

theorem intText_reads {n : ℤ} (hn : Short n) : ∃ c cs, (intText n).toList = c :: cs ∧
    (c = '-' ∨ c.isDigit) ∧ (∀ d ∈ cs, isNumberChar d = true) ∧
    numberOf? (c :: cs) = some (.int n) := by
  cases n with
  | ofNat m =>
      obtain ⟨c, cs, hd, hc⟩ := toDigits_eq_cons m
      have hdigit : ∀ d ∈ c :: cs, d.isDigit = true := by
        intro d h
        exact toDigits_isDigit (hd ▸ h)
      refine ⟨c, cs, ?_, .inr (hdigit c (by simp)),
        fun d h => isNumberChar_of_isDigit (hdigit d (by simp [h])), ?_⟩
      · show (String.ofList (Nat.toDigits 10 m)).toList = _
        rw [String.toList_ofList, hd]
      · unfold numberOf?
        rw [if_neg (by simpa using hc), ← hd, unsigned_toDigits (m := m) false hn]
        rfl
  | negSucc m =>
      refine ⟨'-', Nat.toDigits 10 (m + 1), ?_, .inl rfl,
        fun d h => isNumberChar_of_isDigit (toDigits_isDigit h), ?_⟩
      · show (String.ofList ('-' :: Nat.toDigits 10 (m + 1))).toList = _
        rw [String.toList_ofList]
      · unfold numberOf?
        rw [if_pos List.head?_cons, List.tail_cons, unsigned_toDigits (m := m + 1) true hn]
        rfl

/-! ## The text of a float -/

theorem exponent?_exponentText (e : ℤ) : exponent? (exponentText e) = some e := by
  have hdigits : padDigits 2 e.natAbs ≠ [] ∧ (padDigits 2 e.natAbs).all Char.isDigit := by
    refine ⟨?_, List.all_eq_true.mpr fun c hc => isDigit_of_mem_padDigits hc⟩
    unfold padDigits
    simp
  unfold exponentText exponent?
  by_cases he : e < 0
  · simp only [he, if_true, true_or, List.head?_cons, List.tail_cons, hdigits, ne_eq,
      not_false_eq_true, and_self, ofDigitChars_padDigits]
    congr 1
    omega
  · simp only [he, if_false, List.head?_cons, List.tail_cons, hdigits, ne_eq, not_false_eq_true,
      and_self, ofDigitChars_padDigits, if_true, or_true, Option.some.injEq, Char.reduceEq,
      or_false]
    omega

section Parts

variable {whole fraction : List Char}

/-- The digits up to a character that is none. -/
theorem span_digits (hwhole : ∀ c ∈ whole, c.isDigit) {c : Char} (hc : c.isDigit = false)
    (rest : List Char) : (whole ++ c :: rest).takeWhile Char.isDigit = whole ∧
      (whole ++ c :: rest).dropWhile Char.isDigit = c :: rest := by
  rw [List.takeWhile_append_of_pos hwhole, List.dropWhile_append_of_pos hwhole,
    List.takeWhile_cons_of_neg (by simp [hc]), List.dropWhile_cons_of_neg (by simp [hc])]
  simp

/-- A fraction and an exponent. -/
theorem fraction?_exponentText (hfraction : ∀ c ∈ fraction, c.isDigit) (e : ℤ) :
    fraction? (fractionText fraction ++ exponentText e) = some (fraction, e) := by
  unfold fractionText
  split
  · rename_i h
    subst h
    show (exponent? (exponentText e)).map _ = _
    rw [exponent?_exponentText]
    rfl
  · rename_i h
    obtain ⟨htake, hdrop⟩ := span_digits hfraction (c := 'e') rfl
      ((if e < 0 then '-' else '+') :: padDigits 2 e.natAbs)
    have hexp := exponent?_exponentText e
    unfold exponentText at hexp ⊢
    rw [List.cons_append]
    unfold fraction?
    simp only [htake, hdrop, if_neg h, hexp]
    rfl

/-- A fraction to the end. -/
theorem fraction?_digits (hfraction : ∀ c ∈ fraction, c.isDigit) (hne : fraction ≠ []) :
    fraction? ('.' :: fraction) = some (fraction, 0) := by
  have htake := List.takeWhile_eq_self_iff.mpr hfraction
  have hdrop := List.dropWhile_eq_nil_iff.mpr hfraction
  unfold fraction?
  simp only [htake, hdrop, if_neg hne]
  rfl

/-- Digits that start no other number, and what makes a float of them. -/
theorem unsigned_float (negative : Bool) (hwhole : ∀ c ∈ whole, c.isDigit)
    (hcanonical : Nat.toDigits 10 (Nat.ofDigitChars 10 whole 0) = whole) {c : Char}
    (hc : c.isDigit = false) {rest : List Char} {e : ℤ}
    (hrest : fraction? (c :: rest) = some (fraction, e)) :
    unsigned? negative (whole ++ c :: rest) = some (floatOf negative
      (decimalValue (Nat.ofDigitChars 10 (whole ++ fraction) 0, e - (fraction.length : ℤ)))) := by
  obtain ⟨htake, hdrop⟩ := span_digits hwhole hc rest
  unfold unsigned?
  dsimp only
  rw [htake, hdrop, if_neg (not_not.mpr hcanonical), if_neg (List.cons_ne_nil _ _), hrest]
  rfl

end Parts

section Point

variable {c : Char} {cs : List Char} {point : ℤ}

theorem isDigit_replicate {k : ℕ} {d : Char} (h : d ∈ List.replicate k '0') : d.isDigit := by
  rw [List.eq_of_mem_replicate h]
  rfl

theorem isDigit_zero : ∀ d ∈ ['0'], d.isDigit :=
  fun _ => isDigit_replicate (k := 1)

/-- One digit, the others after the point, and an exponent. -/
theorem unsigned_scientific (negative : Bool) (hdigits : ∀ d ∈ c :: cs, d.isDigit)
    (hzero : c ≠ '0') : unsigned? negative ([c] ++ (fractionText cs ++ exponentText (point - 1))) =
      some (floatOf negative
        (decimalValue (Nat.ofDigitChars 10 (c :: cs) 0, point - (c :: cs).length))) := by
  obtain ⟨hc, hcs⟩ := List.forall_mem_cons.mp hdigits
  have hread := fraction?_exponentText hcs (point - 1)
  have hrest : ∃ e rest, fractionText cs ++ exponentText (point - 1) = e :: rest ∧
      e.isDigit = false := by
    unfold fractionText exponentText
    split <;> exact ⟨_, _, rfl, rfl⟩
  obtain ⟨e, rest, heq, he⟩ := hrest
  rw [heq] at hread ⊢
  rw [unsigned_float negative (by simpa using hc)
    (toDigits_ofDigitChars hc hzero (by simp)) he hread, List.singleton_append, List.length_cons]
  push_cast
  rw [sub_sub, add_comm (1 : ℤ)]

/-- Zeros after the point. -/
theorem unsigned_small (negative : Bool) (hdigits : ∀ d ∈ cs, d.isDigit) (hne : cs ≠ []) (k : ℕ) :
    unsigned? negative ('0' :: '.' :: (List.replicate k '0' ++ cs)) =
      some (floatOf negative (decimalValue (Nat.ofDigitChars 10 cs 0, -k - cs.length))) := by
  have hfraction : ∀ d ∈ List.replicate k '0' ++ cs, d.isDigit := fun d h =>
    (List.mem_append.mp h).elim isDigit_replicate (hdigits d)
  have hread := unsigned_float negative isDigit_zero (by decide) (c := '.') rfl
    (fraction?_digits hfraction (by simp [hne]))
  have hvalue : Nat.ofDigitChars 10 (['0'] ++ (List.replicate k '0' ++ cs)) 0 =
      Nat.ofDigitChars 10 cs 0 := by
    rw [show ['0'] ++ (List.replicate k '0' ++ cs) = List.replicate (k + 1) '0' ++ cs from rfl,
      Nat.ofDigitChars_append, Nat.ofDigitChars_replicate_zero, Nat.mul_zero]
  rw [hvalue, List.length_append, List.length_replicate] at hread
  refine hread.trans ?_
  push_cast
  rw [zero_sub, neg_add']

/-- Zeros before the point. -/
theorem unsigned_large (negative : Bool) (hdigits : ∀ d ∈ c :: cs, d.isDigit) (hzero : c ≠ '0')
    (k : ℕ) : unsigned? negative (c :: cs ++ (List.replicate k '0' ++ ['.', '0'])) =
      some (floatOf negative (decimalValue (Nat.ofDigitChars 10 (c :: cs) 0, k))) := by
  obtain ⟨hc, hcs⟩ := List.forall_mem_cons.mp hdigits
  have hwhole : ∀ d ∈ cs ++ List.replicate k '0', d.isDigit := fun d h =>
    (List.mem_append.mp h).elim (hcs d) isDigit_replicate
  have hread := unsigned_float negative (List.forall_mem_cons.mpr ⟨hc, hwhole⟩)
    (toDigits_ofDigitChars hc hzero hwhole) (c := '.') rfl
    (fraction?_digits isDigit_zero (by decide))
  have hvalue : Nat.ofDigitChars 10 (c :: (cs ++ List.replicate k '0') ++ ['0']) 0 =
      10 ^ (k + 1) * Nat.ofDigitChars 10 (c :: cs) 0 := by
    rw [show c :: (cs ++ List.replicate k '0') ++ ['0'] =
        (c :: cs) ++ List.replicate (k + 1) '0' by simp [List.replicate_succ'],
      Nat.ofDigitChars_append, Nat.ofDigitChars_replicate_zero]
  rw [hvalue] at hread
  have htext : c :: cs ++ (List.replicate k '0' ++ ['.', '0']) =
      c :: (cs ++ List.replicate k '0') ++ '.' :: ['0'] := by simp
  rw [htext, hread]
  refine congrArg (fun q => some (floatOf negative q)) ?_
  unfold decimalValue
  dsimp only
  rw [List.length_singleton, zero_sub, Nat.cast_one, zpow_neg_one, zpow_natCast]
  push_cast
  rw [pow_succ]
  field_simp

/-- Digits on both sides of the point. -/
theorem unsigned_split (negative : Bool) (hdigits : ∀ d ∈ c :: cs, d.isDigit) (hzero : c ≠ '0')
    {k : ℕ} (hk : k < cs.length) : unsigned? negative (c :: cs.take k ++ '.' :: cs.drop k) =
      some (floatOf negative (decimalValue (Nat.ofDigitChars 10 (c :: cs) 0,
        (k + 1 : ℕ) - ((c :: cs).length : ℤ)))) := by
  obtain ⟨hc, hcs⟩ := List.forall_mem_cons.mp hdigits
  have hwhole : ∀ d ∈ cs.take k, d.isDigit := fun d h => hcs d (List.mem_of_mem_take h)
  have hread := unsigned_float negative (List.forall_mem_cons.mpr ⟨hc, hwhole⟩)
    (toDigits_ofDigitChars hc hzero hwhole) (c := '.') rfl
    (fraction?_digits (show ∀ d ∈ cs.drop k, d.isDigit from
      fun d h => hcs d (List.mem_of_mem_drop h))
      (by simpa [List.drop_eq_nil_iff] using hk))
  rw [hread, List.cons_append, List.take_append_drop, List.length_drop, List.length_cons]
  push_cast [Nat.cast_sub hk.le]
  rw [show (0 : ℤ) - (cs.length - k) = k + 1 - (cs.length + 1) by omega]

end Point

/-- The text of the decimal `m * 10 ^ (point - digits)`. -/
theorem unsigned_pointText (negative : Bool) {m : ℕ} (hm : 0 < m) (point : ℤ) :
    unsigned? negative (pointText (Nat.toDigits 10 m) point) = some (floatOf negative
      (decimalValue (m, point - (Nat.toDigits 10 m).length))) := by
  obtain ⟨c, cs, hd, hzero⟩ := toDigits_head hm
  have hdigits : ∀ d ∈ c :: cs, d.isDigit := fun d h => toDigits_isDigit (hd ▸ h)
  have hm' : Nat.ofDigitChars 10 (c :: cs) 0 = m := by rw [← hd, Nat.ofDigitChars_ten_toDigits]
  rw [hd, ← hm']
  unfold pointText
  split_ifs with hscientific hsmall hlarge
  · exact unsigned_scientific negative hdigits hzero
  · obtain ⟨k, hk⟩ := Int.eq_ofNat_of_zero_le (neg_nonneg.mpr hsmall)
    rw [hk, Int.toNat_natCast, unsigned_small negative hdigits (List.cons_ne_nil _ _), ← hk,
      neg_neg]
  · obtain ⟨k, hk⟩ := Int.eq_ofNat_of_zero_le (sub_nonneg.mpr hlarge)
    rw [hk, Int.toNat_natCast, unsigned_large negative hdigits hzero]
  · obtain ⟨k, hk⟩ := Int.eq_ofNat_of_zero_le (show 0 ≤ point - 1 by omega)
    obtain rfl : point = ((k + 1 : ℕ) : ℤ) := by omega
    rw [Int.toNat_natCast]
    refine unsigned_split negative hdigits hzero ?_
    simp only [List.length_cons] at hlarge
    omega

/-! ## A float is written as what is read -/

theorem isNumberChar_pointText {digits : List Char} (hdigits : ∀ d ∈ digits, d.isDigit)
    (point : ℤ) : ∀ d ∈ pointText digits point, isNumberChar d = true := by
  have hnumber : ∀ ds : List Char, (∀ d ∈ ds, d ∈ digits) → ∀ d ∈ ds, isNumberChar d = true :=
    fun ds hds d hd => isNumberChar_of_isDigit (hdigits d (hds d hd))
  have hzeros : ∀ k, ∀ d ∈ List.replicate k '0', isNumberChar d = true :=
    fun k d hd => isNumberChar_of_isDigit (isDigit_replicate hd)
  have hexponent : ∀ e, ∀ d ∈ exponentText e, isNumberChar d = true := by
    intro e d hd
    rcases List.mem_cons.mp hd with rfl | hd
    · rfl
    rcases List.mem_cons.mp hd with rfl | hd
    · split <;> rfl
    · exact isNumberChar_of_isDigit (isDigit_of_mem_padDigits hd)
  unfold pointText fractionText
  intro d hd
  split_ifs at hd with hscientific hone hsmall hlarge
  · rcases List.mem_append.mp hd with hd | hd
    · exact hnumber _ (fun _ => List.mem_of_mem_take) d hd
    · exact hexponent _ d hd
  · rcases List.mem_append.mp hd with hd | hd
    · exact hnumber _ (fun _ => List.mem_of_mem_take) d hd
    rcases List.mem_append.mp hd with hd | hd
    · rcases List.mem_cons.mp hd with rfl | hd
      · rfl
      · exact hnumber _ (fun _ => List.mem_of_mem_drop) d hd
    · exact hexponent _ d hd
  · rcases List.mem_cons.mp hd with rfl | hd
    · rfl
    rcases List.mem_cons.mp hd with rfl | hd
    · rfl
    rcases List.mem_append.mp hd with hd | hd
    · exact hzeros _ d hd
    · exact hnumber _ (fun _ h => h) d hd
  · rcases List.mem_append.mp hd with hd | hd
    · exact hnumber _ (fun _ h => h) d hd
    rcases List.mem_append.mp hd with hd | hd
    · exact hzeros _ d hd
    · simp only [List.mem_cons, List.not_mem_nil, or_false] at hd
      rcases hd with rfl | rfl <;> rfl
  · rcases List.mem_append.mp hd with hd | hd
    · exact hnumber _ (fun _ => List.mem_of_mem_take) d hd
    rcases List.mem_cons.mp hd with rfl | hd
    · rfl
    · exact hnumber _ (fun _ => List.mem_of_mem_drop) d hd

theorem pointText_head {c : Char} (hc : c.isDigit) (cs : List Char) (point : ℤ) :
    ∃ d ds, pointText (c :: cs) point = d :: ds ∧ d.isDigit := by
  unfold pointText
  split_ifs with hscientific hsmall hlarge
  · exact ⟨c, _, rfl, hc⟩
  · exact ⟨'0', _, rfl, rfl⟩
  · exact ⟨c, _, rfl, hc⟩
  · obtain ⟨k, hk⟩ := Int.eq_ofNat_of_zero_le (show 0 ≤ point - 1 by omega)
    obtain rfl : point = ((k + 1 : ℕ) : ℤ) := by omega
    exact ⟨c, _, rfl, hc⟩

/-- The numbers of double precision that are not negative. -/
structure Double (x : ℚ) : Prop where
  round_eq : binary64.round x = x
  nonneg : 0 ≤ x
  le : x ≤ binary64.largest

section Double

variable {x q : ℚ}

/-- What is rounded to a double. -/
theorem Double.of_finite? (hq : 0 ≤ q) (h : binary64.finite? q = some x) : Double x := by
  unfold FloatFormat.finite? at h
  split at h
  · cases h
  · rename_i hle
    cases h
    have hnonneg : 0 ≤ binary64.round q := FloatFormat.round_nonneg hq
    rw [not_lt, abs_of_nonneg hnonneg] at hle
    exact ⟨FloatFormat.round_round (by decide) q, hnonneg, hle⟩

theorem floatOf_eq (h : Double x) (hq : binary64.round q = x) (negative : Bool) :
    floatOf negative q =
      .float (floatText negative x) (some (if negative then -x else x)) := by
  have hfinite : binary64.finite? q = some x := by
    unfold FloatFormat.finite?
    rw [hq, abs_of_nonneg h.nonneg, if_neg (not_lt.mpr h.le)]
  unfold floatOf
  rw [hfinite]

/-- The text of a double reads as the double. -/
theorem unsigned_unsignedText (h : Double x) (negative : Bool) :
    unsigned? negative (unsignedText x) = some (floatOf negative x) := by
  unfold unsignedText
  split
  · rename_i hzero
    subst hzero
    have hread := unsigned_float negative isDigit_zero (by decide) (c := '.') rfl
      (fraction?_digits isDigit_zero (by decide))
    refine hread.trans (congrArg (fun q => some (floatOf negative q)) ?_)
    exact zero_mul _
  · rename_i hzero
    have hpos : 0 < x := h.nonneg.lt_of_ne' hzero
    have hround := FloatFormat.round_shortest (by decide) (by decide) h.round_eq hpos h.le
    rw [unsigned_pointText negative (FloatFormat.shortest_pos hpos hround), add_sub_cancel_right,
      floatOf_eq h hround, floatOf_eq h h.round_eq]

theorem unsignedText_chars (h : Double x) : ∃ c cs, unsignedText x = c :: cs ∧ c.isDigit ∧
    ∀ d ∈ unsignedText x, isNumberChar d = true := by
  unfold unsignedText
  split
  · exact ⟨'0', ['.', '0'], rfl, rfl, List.all_eq_true.mp rfl⟩
  · rename_i hzero
    have hpos : 0 < x := h.nonneg.lt_of_ne' hzero
    have hround := FloatFormat.round_shortest (by decide) (by decide) h.round_eq hpos h.le
    have hdigits : ∀ d ∈ Nat.toDigits 10 (binary64.shortest x).1, d.isDigit :=
      fun d hd => toDigits_isDigit hd
    obtain ⟨c, cs, hd, -⟩ := toDigits_head (FloatFormat.shortest_pos hpos hround)
    obtain ⟨d, ds, htext, hdigit⟩ := pointText_head (hdigits c (by simp [hd])) cs
      ((binary64.shortest x).2 + (Nat.toDigits 10 (binary64.shortest x).1).length)
    refine ⟨d, ds, ?_, hdigit, isNumberChar_pointText hdigits _⟩
    dsimp only
    rw [← htext, ← hd]

theorem floatText_reads (h : Double x) (negative : Bool) :
    FloatText (floatText negative x) (some (if negative then -x else x)) := by
  obtain ⟨c, cs, htext, hdigit, hchars⟩ := unsignedText_chars h
  have hread := (unsigned_unsignedText h negative).trans
    (congrArg some (floatOf_eq h h.round_eq negative))
  cases negative with
  | true =>
      have hlist : (floatText true x).toList = '-' :: unsignedText x := String.toList_ofList
      refine .number hlist (.inl rfl) hchars ?_
      rw [hlist]
      unfold numberOf?
      rw [if_pos List.head?_cons, List.tail_cons]
      exact hread
  | false =>
      have hlist : (floatText false x).toList = c :: cs := String.toList_ofList.trans htext
      refine .number hlist (.inr hdigit) (fun d hd => hchars d (by simp [htext, hd])) ?_
      have hsign : c ≠ '-' := by
        rintro rfl
        cases hdigit
      rw [hlist]
      unfold numberOf?
      rw [if_neg (by simpa using hsign), ← htext]
      exact hread

end Double

/-- What a float literal is read as. -/
theorem floatText_floatOf {q : ℚ} (hq : 0 ≤ q) (negative : Bool) :
    ∃ text value, floatOf negative q = .float text value ∧ FloatText text value := by
  unfold floatOf
  cases hfinite : binary64.finite? q with
  | some x => exact ⟨_, _, rfl, floatText_reads (Double.of_finite? hq hfinite) negative⟩
  | none =>
      cases negative with
      | true => exact ⟨_, _, rfl, .negInf⟩
      | false => exact ⟨_, _, rfl, .inf⟩

/-- A number is an integer that is written again, or a float under its own text. -/
theorem numberOf?_cases {text : List Char} {v : Json} (h : numberOf? text = some v) :
    (∃ n, v = .int n ∧ Short n) ∨ ∃ text value, v = .float text value ∧ FloatText text value := by
  have hunsigned : ∀ negative body, unsigned? negative body = some v →
      (∃ n, v = .int n ∧ Short n) ∨
        ∃ text value, v = .float text value ∧ FloatText text value := by
    intro negative body h
    unfold unsigned? at h
    dsimp only at h
    split at h
    · cases h
    · rename_i hcanonical
      split at h
      · split at h
        · cases h
        · cases h
          refine .inl ⟨_, rfl, ?_⟩
          unfold Short
          split <;>
          · simp only [Int.natAbs_neg, Int.natAbs_natCast, not_not.mp hcanonical]
            omega
      · obtain ⟨f, -, rfl⟩ := Option.map_eq_some_iff.mp h
        exact .inr (floatText_floatOf (mul_nonneg (Nat.cast_nonneg _) (zpow_nonneg (by norm_num) _))
          negative)
  unfold numberOf? at h
  split at h
  · exact hunsigned _ _ h
  · exact hunsigned _ _ h

end Json

end LookAway.Base
