/-
  Which option the letter rule of judge_qwenlm.py reads from an answer that ends in
  "Answer: " and a letter.

  `extract_answer` keeps the marker. Without a delimiter after the letter only the last of the three
  regular expressions matches, and its first capital is the one of the marker
  (`option_of_bare`); after a delimiter it is the letter (`option_of_delimited`). Between answer
  tags there may be no letter at all. `option_credit_iff` puts the three together.
-/
import LookAway.Eval.TextSearch

namespace LookAway.Eval

open LookAway.Base LookAway.Base.Json LookAway.Data

/-- A model answer that gives one option. -/
structure OptionAnswer where
  pre : String
  letter : Char
  post : String
  no_tag : ¬ "<answer>".toList <:+: pre.toList
  no_marker : ¬ "Answer:".toList <:+: pre.toList
  letter_ge : 'A' ≤ letter
  letter_le : letter ≤ 'F'
  post_starts : ∀ c cs, post.toList = c :: cs → c = '.' ∨ c = ')'
  post_capitals : ∀ c ∈ post.toList, c.isUpper = true → c = letter

namespace OptionAnswer

variable (a : OptionAnswer)

def text : String := a.pre ++ "Answer: " ++ String.singleton a.letter ++ a.post

/-- The text is read as an answer between tags. -/
def Tagged (start stop : ℕ) : Prop :=
  find "<answer>".toList a.text.toList = some start ∧
    find "</answer>".toList a.text.toList = some stop

/-- What is between the tags. -/
def between (start stop : ℕ) : List Char := (a.text.toList.take stop).drop (start + 8)

/-- The rule credits option `G` for this answer when it should: after the bare letter it is A that
    is read, and between tags the letter has to be there. -/
structure CreditsOnly (G : Char) : Prop where
  bare : a.post = "" → a.letter = 'A' ∨ G ≠ 'A' ∧ a.letter ≠ G
  tagged : ∀ start stop, a.Tagged start stop → a.letter = G → a.letter ∈ a.between start stop

variable {a}

theorem text_toList : a.text.toList =
    a.pre.toList ++ ("Answer: ".toList ++ a.letter :: a.post.toList) := by
  unfold text
  simp

theorem letter_isUpper : a.letter.isUpper = true := by
  have hge : 'A'.val ≤ a.letter.val := a.letter_ge
  have hle : a.letter.val ≤ 'F'.val := a.letter_le
  have hZ : a.letter.val ≤ 'Z'.val := UInt32.le_trans hle (by decide)
  exact decide_eq_true ⟨hge, hZ⟩

theorem letter_not_space : Data.isSpace a.letter = false := isSpace_of_isUpper letter_isUpper

theorem letter_ne {c : Char} (h : c.isUpper = false) : a.letter ≠ c := by
  rintro rfl
  rw [letter_isUpper] at h
  cases h

/-! ## The marker -/

theorem search_marker {here : List Char → Option Char}
    (hlow : ∀ c cs, c.isUpper = false → c ≠ '(' → here (c :: cs) = none)
    (hA : ∀ cs, here ('A' :: 'n' :: cs) = none) (rest : List Char) :
    search here ("Answer: ".toList ++ rest) = search here rest := by
  show search here ('A' :: 'n' :: 's' :: 'w' :: 'e' :: 'r' :: ':' :: ' ' :: rest) = _
  rw [search_cons_of_none (hA _)]
  rw [search_cons_of_none (hlow 'n' _ (by decide) (by decide)),
    search_cons_of_none (hlow 's' _ (by decide) (by decide)),
    search_cons_of_none (hlow 'w' _ (by decide) (by decide)),
    search_cons_of_none (hlow 'e' _ (by decide) (by decide)),
    search_cons_of_none (hlow 'r' _ (by decide) (by decide)),
    search_cons_of_none (hlow ':' _ (by decide) (by decide)),
    search_cons_of_none (hlow ' ' _ (by decide) (by decide))]

theorem parenthesized_of_ne {c : Char} (h : c ≠ '(') (cs : List Char) :
    parenthesized (c :: cs) = none := by
  unfold parenthesized
  split
  · rename_i heq
    exact absurd (List.cons.inj heq).1 h
  · rfl

theorem delimited_of_lower {c : Char} (h : c.isUpper = false) (cs : List Char) :
    delimited (c :: cs) = none := by
  cases cs with
  | nil => rfl
  | cons d cs => simp [delimited, h]

theorem parenthesized_marker (rest : List Char) :
    search parenthesized ("Answer: ".toList ++ rest) = search parenthesized rest :=
  search_marker (fun _ cs _ hc => parenthesized_of_ne hc cs) (fun _ => rfl) rest

theorem delimited_marker (rest : List Char) :
    search delimited ("Answer: ".toList ++ rest) = search delimited rest :=
  search_marker (fun _ cs hc _ => delimited_of_lower hc cs) (fun _ => rfl) rest

/-! ## What is read -/

/-- Without a delimiter the A of the marker is read. -/
theorem option_of_bare :
    extractFirstOption (String.ofList ("Answer: ".toList ++ [a.letter])) = some 'A' := by
  unfold extractFirstOption
  rw [String.toList_ofList, parenthesized_marker, delimited_marker,
    search_cons_of_none (parenthesized_of_ne (letter_ne (by decide)) []),
    search_cons_of_none rfl]
  rfl

theorem option_of_delimited {d : Char} (hd : d = '.' ∨ d = ')') {cs : List Char}
    (hcapitals : ∀ c ∈ cs, c.isUpper = true → c = a.letter) :
    extractFirstOption (String.ofList ("Answer: ".toList ++ a.letter :: d :: cs)) =
      some a.letter := by
  have hlow : d.isUpper = false ∧ d ≠ '(' := by
    rcases hd with rfl | rfl
    · decide
    · decide
  have hdelimited : delimited (a.letter :: d :: cs) = some a.letter := by
    rcases hd with rfl | rfl
    · simp [delimited, letter_isUpper]
    · simp [delimited, letter_isUpper]
  unfold extractFirstOption
  rw [String.toList_ofList, parenthesized_marker, delimited_marker,
    search_cons_of_none (parenthesized_of_ne (letter_ne (by decide)) _),
    search_cons_of_none (parenthesized_of_ne hlow.2 cs), search_cons_of_some hdelimited,
    Option.some_or]
  cases hsearch : search parenthesized cs with
  | none => rfl
  | some c =>
      obtain ⟨hmem, hupper⟩ := search_mem parenthesized_mem hsearch
      rw [hcapitals c hmem hupper]
      rfl

/-! ## What is extracted -/

theorem find_tag : find "<answer>".toList a.text.toList =
    (find "<answer>".toList a.post.toList).map (· + (a.pre.toList.length + 9)) := by
  have hpre := find_eq_none a.no_tag
  have hskip : ∀ c ∈ "Answer: ".toList ++ [a.letter], c ≠ '<' := by
    intro c hc
    rcases List.mem_append.mp hc with hc | hc
    · rintro rfl
      exact absurd hc (by decide)
    · rw [List.mem_singleton.mp hc]
      exact letter_ne (by decide)
  have hrest : find "<answer>".toList ("Answer: ".toList ++ a.letter :: a.post.toList) =
      (find "<answer>".toList a.post.toList).map (· + 9) := by
    rw [← List.singleton_append, ← List.append_assoc]
    exact find_skip hskip
  have hall : find "<answer>".toList (a.pre.toList ++ ("Answer: ".toList ++
      a.letter :: a.post.toList)) = (find "<answer>".toList ("Answer: ".toList ++
        a.letter :: a.post.toList)).map (· + a.pre.toList.length) :=
    find_append_cons (c := 'A') hpre (by decide)
  rw [text_toList, hall, hrest, Option.map_map]
  apply congrArg (Option.map · _)
  funext k
  simp only [Function.comp_apply]
  omega

theorem find_marker : find "Answer:".toList a.text.toList = some a.pre.toList.length := by
  have hpre := find_eq_none a.no_marker
  have hall : find "Answer:".toList (a.pre.toList ++ ("Answer: ".toList ++
      a.letter :: a.post.toList)) = (find "Answer:".toList ("Answer: ".toList ++
        a.letter :: a.post.toList)).map (· + a.pre.toList.length) :=
    find_append_cons (c := 'A') hpre (by decide)
  have hhere : find "Answer:".toList ("Answer: ".toList ++ a.letter :: a.post.toList) = some 0 :=
    find_prefix ⟨' ' :: a.letter :: a.post.toList, rfl⟩
  rw [text_toList, hall, hhere, Option.map_some, Nat.zero_add]

/-- Between the tags there is a part of the text after the letter. -/
theorem mem_between {start stop : ℕ} (h : a.Tagged start stop) {c : Char}
    (hc : c ∈ a.between start stop) : c ∈ a.post.toList := by
  have hstart := h.1
  rw [find_tag] at hstart
  obtain ⟨k, -, rfl⟩ := Option.map_eq_some_iff.mp hstart
  have hdrop : a.text.toList.drop (k + (a.pre.toList.length + 9) + 8) =
      a.post.toList.drop (k + 8) := by
    have hsplit : a.text.toList =
        (a.pre.toList ++ ("Answer: ".toList ++ [a.letter])) ++ a.post.toList := by
      rw [text_toList]
      simp
    have hlength : (a.pre.toList ++ ("Answer: ".toList ++ [a.letter])).length =
        a.pre.toList.length + 9 := by
      rw [List.length_append]
      rfl
    rw [hsplit, List.drop_append, hlength, List.drop_eq_nil_of_le (by omega), List.nil_append]
    congr 1
    omega
  have hmem : c ∈ a.text.toList.drop (k + (a.pre.toList.length + 9) + 8) := by
    unfold between at hc
    rw [List.drop_take] at hc
    exact List.mem_of_mem_take hc
  rw [hdrop] at hmem
  exact List.mem_of_mem_drop hmem

theorem extract_tagged {start stop : ℕ} (h : a.Tagged start stop) :
    extractAnswer a.text = strip (String.ofList (a.between start stop)) := by
  unfold extractAnswer
  simp only [h.1, h.2]
  rfl

theorem extract_untagged (h : ¬∃ start stop, a.Tagged start stop) :
    extractAnswer a.text =
      strip (String.ofList ("Answer: ".toList ++ a.letter :: a.post.toList)) := by
  have hdrop : a.text.toList.drop a.pre.toList.length =
      "Answer: ".toList ++ a.letter :: a.post.toList := by
    rw [text_toList, List.drop_left]
  unfold extractAnswer
  cases hstart : find "<answer>".toList a.text.toList with
  | none => simp only [hstart, find_marker, hdrop]
  | some start =>
      cases hstop : find "</answer>".toList a.text.toList with
      | none => simp only [hstart, hstop, find_marker, hdrop]
      | some stop => exact absurd ⟨start, stop, hstart, hstop⟩ h

theorem extract_bare (hpost : a.post = "") (h : ¬∃ start stop, a.Tagged start stop) :
    extractAnswer a.text = String.ofList ("Answer: ".toList ++ [a.letter]) := by
  have hstrip : (strip (String.ofList ('A' :: ("nswer: ".toList ++ [a.letter])))).toList =
      "Answer: ".toList ++ [a.letter] := by
    rw [strip_eq_rstrip (by decide)]
    exact rstrip_append letter_not_space "Answer: ".toList []
  rw [extract_untagged h, hpost]
  exact String.toList_inj.mp (hstrip.trans String.toList_ofList.symm)

theorem extract_delimited {d : Char} {cs : List Char} (hpost : a.post.toList = d :: cs)
    (h : ¬∃ start stop, a.Tagged start stop) :
    extractAnswer a.text =
      String.ofList ("Answer: ".toList ++ a.letter :: d :: rstrip cs) := by
  have hd : Data.isSpace d = false := by
    rcases a.post_starts d cs hpost with rfl | rfl
    · decide
    · decide
  have hstrip : (strip (String.ofList ('A' :: ("nswer: ".toList ++ a.letter :: d :: cs)))).toList =
      "Answer: ".toList ++ a.letter :: d :: rstrip cs := by
    rw [strip_eq_rstrip (by decide)]
    have hsplit := rstrip_append hd ("Answer: ".toList ++ [a.letter]) cs
    rw [List.append_assoc, List.append_assoc] at hsplit
    exact hsplit
  rw [extract_untagged h, hpost]
  exact String.toList_inj.mp (hstrip.trans String.toList_ofList.symm)

/-! ## The rule -/

theorem firstLetterMatch_iff {gt : Json} {G : Char} (hG : extractMcqOption gt = some G)
    (text : String) : firstLetterMatch gt text = true ↔ extractFirstOption text = some G := by
  unfold firstLetterMatch
  rw [hG]
  cases extractFirstOption text with
  | none => simp
  | some c =>
      rw [beq_iff_eq, Option.some.injEq]
      exact eq_comm

/-- Between tags only the letter can be read. -/
theorem option_of_tagged {start stop : ℕ} (h : a.Tagged start stop) (G : Char) :
    extractFirstOption (extractAnswer a.text) = some G ↔
      a.letter = G ∧ a.letter ∈ a.between start stop := by
  have hletter : ∀ c, extractFirstOption (extractAnswer a.text) = some c →
      c = a.letter ∧ a.letter ∈ a.between start stop := by
    intro c hc
    obtain ⟨hmem, hupper⟩ := extractFirstOption_mem hc
    rw [extract_tagged h, mem_strip (isSpace_of_isUpper hupper)] at hmem
    have heq := a.post_capitals c (mem_between h hmem) hupper
    rw [← heq]
    exact ⟨rfl, hmem⟩
  constructor
  · intro hG
    obtain ⟨rfl, hmem⟩ := hletter G hG
    exact ⟨rfl, hmem⟩
  · rintro ⟨rfl, hmem⟩
    have hstripped : a.letter ∈ (extractAnswer a.text).toList := by
      rw [extract_tagged h, mem_strip letter_not_space]
      exact hmem
    obtain ⟨c, hc⟩ :=
      Option.isSome_iff_exists.mp (extractFirstOption_isSome hstripped letter_isUpper)
    rw [hc, (hletter c hc).1]

theorem credits_tagged {start stop : ℕ} (h : a.Tagged start stop) (G : Char) :
    (extractFirstOption (extractAnswer a.text) = some G ↔ a.letter = G) ↔ a.CreditsOnly G := by
  have hpost : a.post ≠ "" := by
    intro hpost
    have hfind := h.1
    rw [find_tag, hpost] at hfind
    cases hfind
  rw [option_of_tagged h]
  constructor
  · intro hiff
    refine ⟨fun hempty => absurd hempty hpost, fun start' stop' h' heq => ?_⟩
    obtain rfl : start = start' := Option.some.inj (h.1.symm.trans h'.1)
    obtain rfl : stop = stop' := Option.some.inj (h.2.symm.trans h'.2)
    exact (hiff.mpr heq).2
  · intro hcredits
    exact ⟨fun hread => hread.1, fun heq => ⟨heq, hcredits.tagged start stop h heq⟩⟩

theorem credits_bare (hpost : a.post = "") (htagged : ¬∃ start stop, a.Tagged start stop)
    (G : Char) :
    (extractFirstOption (extractAnswer a.text) = some G ↔ a.letter = G) ↔ a.CreditsOnly G := by
  rw [extract_bare hpost htagged, option_of_bare, Option.some.injEq]
  constructor
  · intro hiff
    refine ⟨fun _ => ?_, fun start stop h => absurd ⟨start, stop, h⟩ htagged⟩
    by_cases hA : G = 'A'
    · exact .inl ((hiff.mp hA.symm).trans hA)
    · exact .inr ⟨hA, fun heq => hA (hiff.mpr heq).symm⟩
  · intro hcredits
    rcases hcredits.bare hpost with hA | ⟨hA, hne⟩
    · rw [hA]
    · exact ⟨fun heq => absurd heq.symm hA, fun heq => absurd heq hne⟩

theorem credits_delimited {d : Char} {cs : List Char} (hchars : a.post.toList = d :: cs)
    (htagged : ¬∃ start stop, a.Tagged start stop) (G : Char) :
    (extractFirstOption (extractAnswer a.text) = some G ↔ a.letter = G) ↔ a.CreditsOnly G := by
  have hpost : a.post ≠ "" := by
    intro hempty
    rw [hempty] at hchars
    cases hchars
  have hcapitals : ∀ c ∈ rstrip cs, c.isUpper = true → c = a.letter := by
    intro c hc hupper
    have hmem : c ∈ cs := (List.rdropWhile_prefix _ _).subset hc
    exact a.post_capitals c (by rw [hchars]; exact List.mem_cons_of_mem d hmem) hupper
  rw [extract_delimited hchars htagged, option_of_delimited (a.post_starts d cs hchars) hcapitals,
    Option.some.injEq]
  constructor
  · exact fun _ => ⟨fun hempty => absurd hempty hpost,
      fun start stop h => absurd ⟨start, stop, h⟩ htagged⟩
  · exact fun _ => Iff.rfl

/-- **When the letter rule credits the option of the ground truth and no other.** -/
theorem option_credit_iff (a : OptionAnswer) {gt : Json} {G : Char}
    (hG : extractMcqOption gt = some G) :
    (firstLetterMatch gt (extractAnswer a.text) = true ↔ a.letter = G) ↔ a.CreditsOnly G := by
  rw [firstLetterMatch_iff hG]
  by_cases htagged : ∃ start stop, a.Tagged start stop
  · obtain ⟨start, stop, h⟩ := htagged
    exact credits_tagged h G
  · cases hchars : a.post.toList with
    | nil => exact credits_bare (String.toList_inj.mp hchars) htagged G
    | cons d cs => exact credits_delimited hchars htagged G

/-! ## The wrong option -/

/-- "Answer: B" -/
def bareB : OptionAnswer where
  pre := ""
  letter := 'B'
  post := ""
  no_tag := by decide
  no_marker := by decide
  letter_ge := by decide
  letter_le := by decide
  post_starts := by
    intro c cs h
    cases h
  post_capitals := by
    intro c hc
    cases hc

/-- "The right one is C. Answer: B." -/
def dottedB : OptionAnswer where
  pre := "The right one is C. "
  letter := 'B'
  post := "."
  no_tag := by decide
  no_marker := by decide
  letter_ge := by decide
  letter_le := by decide
  post_starts := by
    intro c cs h
    exact .inl (List.cons.inj h).1.symm
  post_capitals := by
    intro c hc hupper
    rw [List.mem_singleton.mp (show c ∈ ['.'] from hc)] at hupper
    exact absurd hupper (by decide)

theorem option_credit_iff_sample :
    (firstLetterMatch (.str "(B) blue") (extractAnswer dottedB.text) = true ↔
      dottedB.letter = 'B') := by
  refine (option_credit_iff dottedB (by decide)).mpr ⟨fun h => absurd h (by decide), ?_⟩
  intro start stop h
  exact absurd h.1 (by
    rw [show find "<answer>".toList dottedB.text.toList = none by decide]
    exact Option.some_ne_none start ∘ Eq.symm)

/-- "Answer: B" is credited for the ground truth A. -/
theorem bare_letter_misread : ¬∀ (a : OptionAnswer) (gt : Json) (G : Char),
    extractMcqOption gt = some G →
      (firstLetterMatch gt (extractAnswer a.text) = true ↔ a.letter = G) := by
  intro h
  have hread := (h bareB (.str "A") 'A' (by decide)).mp (by decide)
  exact absurd hread (by decide)

end OptionAnswer

end LookAway.Eval
