/-
  The teacher forward on a causal model.

  `RowCausal`: the model is a causal function of each row by itself, on rows whose text positions
  count from 0. `forward_padded`: on such a model the forward gives each response token its
  log-probability after the tokens of its row before it, whatever the padding and the other rows
  are. The roll puts the next row's first token after a row's last one; no response token inside
  the mask is read there.
-/
import LookAway.Teacher.Forward

namespace LookAway.Teacher

open LookAway.Base LookAway.Base.Packing

variable {V : ℕ} {F Px : Type}

/-! ## Rows and causal models -/

/-- An unpadded row: its tokens, their positions and the visual inputs. -/
structure Row (V : ℕ) (F : Type) where
  ids : List (Fin V)
  positions : List (List ℤ)
  features : List F

/-- The text positions count from 0, and every visual token has its input. -/
structure Row.WellFormed (visual : Fin V → Bool) (row : Row V F) : Prop where
  nonempty : row.ids ≠ []
  length_positions : row.positions.length = row.ids.length
  counted : ∀ (k : ℕ) p, row.positions[k]? = some p → p.head? = some (k : ℤ)
  length_features : row.features.length = row.ids.countP visual

/-- The first `n` tokens, with their positions and visual inputs. -/
def Row.take (visual : Fin V → Bool) (n : ℕ) (row : Row V F) : Row V F where
  ids := row.ids.take n
  positions := row.positions.take n
  features := row.features.take ((row.ids.take n).countP visual)

/-- On packed rows the model gives each token logits that depend on the tokens of its row up to
it, and on nothing else. -/
def RowCausal (visual : Fin V → Bool) (model : Model V F) (rowLogits : Row V F → Fin V → ℝ) :
    Prop :=
  ∀ rows : List (Row V F), (∀ row ∈ rows, row.WellFormed visual) →
    model (rows.flatMap (·.ids)) (rows.flatMap (·.positions)) (rows.flatMap (·.features)) =
      rows.flatMap fun row =>
        (List.range row.ids.length).map fun k => rowLogits (row.take visual (k + 1))

/-! ## Padded rows -/

/-- A row with its padding on the right, and where its response starts. -/
structure PaddedRow (V : ℕ) (F : Type) where
  row : Row V F
  idsPad : List (Fin V)
  positionsPad : List (List ℤ)
  start : ℕ

def PaddedRow.mask (p : PaddedRow V F) : List Bool :=
  List.replicate p.row.ids.length true ++ List.replicate p.idsPad.length false

structure PaddedRow.Fits (visual : Fin V → Bool) (seqlen responseLength : ℕ)
    (p : PaddedRow V F) : Prop where
  wellFormed : p.row.WellFormed visual
  length_ids : p.row.ids.length + p.idsPad.length = seqlen
  length_positions : p.positionsPad.length = p.idsPad.length
  start_pos : 1 ≤ p.start
  response_fits : p.start + responseLength ≤ seqlen

/-- The tensors of padded rows. -/
def padded (seqlen channels : ℕ) (ps : List (PaddedRow V F)) : TeacherTensors V F where
  seqlen := seqlen
  channels := channels
  inputIds := ps.map fun p => p.row.ids ++ p.idsPad
  attentionMask := ps.map PaddedRow.mask
  positionIds := ps.map fun p => p.row.positions ++ p.positionsPad
  responseStartIdx := ps.map (·.start)
  multiModalInputs := ps.map (·.row.features)

section Packed

variable {visual : Fin V → Bool} {seqlen channels responseLength : ℕ}
  {ps : List (PaddedRow V F)}

theorem count_mask (p : PaddedRow V F) : count p.mask = p.row.ids.length := by
  simp [PaddedRow.mask]

theorem count_take_mask {p : PaddedRow V F} {j : ℕ} (h : j ≤ p.row.ids.length) :
    count (p.mask.take j) = j := by
  simp [PaddedRow.mask, List.take_append_of_le_length, h]

theorem mask_get {p : PaddedRow V F} {j : ℕ} (h : j < p.row.ids.length) :
    p.mask[j]? = some true := by
  simp [PaddedRow.mask, List.getElem?_append_left, h]

theorem count_masks (ps : List (PaddedRow V F)) :
    count (ps.map PaddedRow.mask).flatten = (ps.flatMap (·.row.ids)).length := by
  induction ps with
  | nil => rfl
  | cons p ps ih =>
      rw [List.map_cons, List.flatten_cons, List.flatMap_cons, List.length_append, ← ih,
        ← count_mask p, count_append]

theorem packed_rows {α : Type} {ps : List (PaddedRow V F)} {row pad : PaddedRow V F → List α}
    (hrow : ∀ p ∈ ps, (row p).length = p.row.ids.length)
    (hpad : ∀ p ∈ ps, (pad p).length = p.idsPad.length) :
    gather (ps.map fun p => row p ++ pad p).flatten (indices (ps.map PaddedRow.mask).flatten) =
      ps.flatMap row := by
  have hlengths : List.Forall₂ (fun mask row => mask.length = row.length)
      (ps.map PaddedRow.mask) (ps.map fun p => row p ++ pad p) := by
    rw [List.forall₂_map_left_iff, List.forall₂_map_right_iff, List.forall₂_same]
    intro p hp
    simp [PaddedRow.mask, hrow p hp, hpad p hp]
  rw [gather_rows hlengths, List.zipWith_map, List.zipWith_self, List.flatMap_def]
  congr 1
  refine List.map_congr_left fun p hp => ?_
  unfold PaddedRow.mask
  rw [← hrow p hp, ← hpad p hp, kept_padded]

theorem packed_ids (ps : List (PaddedRow V F)) :
    gather (padded seqlen channels ps).inputIds.flatten
      (indices (padded seqlen channels ps).attentionMask.flatten) = ps.flatMap (·.row.ids) :=
  packed_rows (fun _ _ => rfl) (fun _ _ => rfl)

theorem packed_positions {ps : List (PaddedRow V F)}
    (h : ∀ p ∈ ps, p.Fits visual seqlen responseLength) :
    gather (padded seqlen channels ps).positionIds.flatten
      (indices (padded seqlen channels ps).attentionMask.flatten) =
        ps.flatMap (·.row.positions) :=
  packed_rows (fun p hp => (h p hp).wellFormed.length_positions)
    (fun p hp => (h p hp).length_positions)

/-- Entry `k` of row `i`, in the concatenation of lists as long as the rows. -/
theorem getElem?_flatMap_rows {α : Type} {f : PaddedRow V F → List α}
    (hf : ∀ p, (f p).length = p.row.ids.length) {i k : ℕ} (hi : i < ps.length)
    (hk : k < ps[i].row.ids.length) :
    (ps.flatMap f)[((ps.take i).flatMap (·.row.ids)).length + k]? = (f ps[i])[k]? := by
  have hoffset : ((ps.take i).flatMap (·.row.ids)).length = ((ps.map f).take i).flatten.length := by
    rw [← List.map_take, List.length_flatMap, List.length_flatten, List.map_map]
    congr 1
    exact List.map_congr_left fun p _ => (hf p).symm
  rw [hoffset, List.flatMap_def,
    getElem?_flatten_offset (by simpa using hi) (by simpa [hf] using hk)]
  simp

end Packed

/-! ## The forward on padded rows -/

section Forward

variable [NeZero V] {visual : Fin V → Bool} {model : Model V F} {rowLogits : Row V F → Fin V → ℝ}
  {seqlen channels responseLength : ℕ} {ps : List (PaddedRow V F)}

/-- The log-probs of the packed tokens: those of each row, with the next row's first token after
its last one. -/
theorem packedLogProbs_padded (hcausal : RowCausal visual model rowLogits) (temperature : ℝ)
    (h : ∀ p ∈ ps, p.Fits visual seqlen responseLength) :
    packedLogProbs model temperature (padded seqlen channels ps) =
      List.zipWith (logprob temperature)
        (ps.flatMap fun p =>
          (List.range p.row.ids.length).map fun k => rowLogits (p.row.take visual (k + 1)))
        (roll (ps.flatMap (·.row.ids))) := by
  have hcount : count (padded seqlen channels ps).attentionMask.flatten =
      (ps.flatMap (·.row.ids)).length := count_masks ps
  have hrun := hcausal (ps.map (·.row)) (by
    intro row hrow
    obtain ⟨p, hp, rfl⟩ := List.mem_map.mp hrow
    exact (h p hp).wellFormed)
  simp only [List.flatMap_map] at hrun
  unfold packedLogProbs
  simp only [packed_ids, packed_positions h, hcount]
  split
  · rename_i hzero
    -- no unmasked token, so no row
    have hnil : ps = [] := by
      cases ps with
      | nil => rfl
      | cons p ps =>
          have hids : p.row.ids = [] := by
            rw [List.flatMap_cons, List.length_append] at hzero
            exact List.eq_nil_of_length_eq_zero (by omega)
          exact absurd hids (h p (by simp)).wellFormed.nonempty
    subst hnil
    rfl
  · rw [← hrun]
    rfl

/-- Inside a row, the packed log-prob is that of the row's next token. -/
theorem packedLogProbs_get (hcausal : RowCausal visual model rowLogits) (temperature : ℝ)
    (h : ∀ p ∈ ps, p.Fits visual seqlen responseLength) {i k : ℕ} (hi : i < ps.length)
    (hk : k + 1 < ps[i].row.ids.length) :
    (packedLogProbs model temperature (padded seqlen channels ps))[
        ((ps.take i).flatMap (·.row.ids)).length + k]? =
      some (logprob temperature (rowLogits (ps[i].row.take visual (k + 1)))
        ps[i].row.ids[k + 1]) := by
  have hlogits := getElem?_flatMap_rows (f := fun p =>
    (List.range p.row.ids.length).map fun k => rowLogits (p.row.take visual (k + 1)))
    (fun p => by simp) hi (Nat.lt_of_succ_lt hk)
  have hnext := getElem?_flatMap_rows (f := fun p => p.row.ids) (fun p => rfl) hi hk
  have hlt := (List.getElem?_eq_some_iff.mp (hnext.trans (List.getElem?_eq_getElem hk))).1
  rw [packedLogProbs_padded hcausal temperature h, List.getElem?_zipWith, hlogits,
    getElem?_roll (by omega), Nat.add_assoc, hnext]
  simp [hk, Nat.lt_of_succ_lt hk]

variable (channels) in
theorem length_packedLogProbs (hcausal : RowCausal visual model rowLogits) (temperature : ℝ)
    (h : ∀ p ∈ ps, p.Fits visual seqlen responseLength) :
    (packedLogProbs model temperature (padded seqlen channels ps)).length =
      count (ps.map PaddedRow.mask).flatten := by
  rw [packedLogProbs_padded hcausal temperature h, List.length_zipWith, length_roll, count_masks]
  simp [List.length_flatMap]

/-- The log-probs of the packed tokens, back at the places of the tokens. -/
theorem fullLogProbs_get (hcausal : RowCausal visual model rowLogits) (temperature : ℝ)
    (h : ∀ p ∈ ps, p.Fits visual seqlen responseLength) {i k : ℕ} (hi : i < ps.length)
    (hk : k + 1 < ps[i].row.ids.length) :
    entry? (unflatten ps.length seqlen
        (scatter (ps.length * seqlen) (indices (ps.map PaddedRow.mask).flatten)
          (packedLogProbs model temperature (padded seqlen channels ps)))) i k =
      some (logprob temperature (rowLogits (ps[i].row.take visual (k + 1)))
        ps[i].row.ids[k + 1]) := by
  have hwidth : ∀ mask ∈ ps.map PaddedRow.mask, mask.length = seqlen := by
    intro mask hmask
    obtain ⟨p, hp, rfl⟩ := List.mem_map.mp hmask
    simp [PaddedRow.mask, (h p hp).length_ids]
  have hfit := (h ps[i] (List.getElem_mem hi)).length_ids
  have hspread := scatter_rows hwidth (length_packedLogProbs channels hcausal temperature h)
    (i := i) (j := k) (by simpa using hi)
    (by simpa using mask_get (p := ps[i]) (Nat.lt_of_succ_lt hk))
  simp only [List.length_map, List.getElem_map,
    count_take_mask (Nat.le_of_lt (Nat.lt_of_succ_lt hk)), ← List.map_take, count_masks] at hspread
  unfold entry?
  rw [getElem?_unflatten _ hi (by omega), hspread, packedLogProbs_get hcausal temperature h hi hk]

/-- On a causal model the forward gives a response token its log-probability after the tokens of
its row before it. -/
theorem forward_padded (hcausal : RowCausal visual model rowLogits) (temperature : ℝ)
    (h : ∀ p ∈ ps, p.Fits visual seqlen responseLength) :
    ∃ lp, forwardMicroBatch model temperature responseLength (padded seqlen channels ps) = .ok lp ∧
      ∀ r (hr : r < ps.length) t, t < responseLength → ∀ y,
        ps[r].row.ids[ps[r].start + t]? = some y →
          entry? lp r t = some (logprob temperature
            (rowLogits (ps[r].row.take visual (ps[r].start + t))) y) := by
  have hstart : ∀ start ∈ ps.map (·.start), 1 ≤ start ∧ start + responseLength ≤ seqlen := by
    intro start hmem
    obtain ⟨p, hp, rfl⟩ := List.mem_map.mp hmem
    exact ⟨(h p hp).start_pos, (h p hp).response_fits⟩
  obtain ⟨lp, hlp, hentry⟩ := selectResponsePositions_ok
    (unflatten ps.length seqlen
      (scatter (ps.length * seqlen) (indices (ps.map PaddedRow.mask).flatten)
        (packedLogProbs model temperature (padded seqlen channels ps))))
    (length_of_mem_unflatten (length_scatter _ _ _)) (by simp) (fun s hs => (hstart s hs).1)
    (fun s hs => (hstart s hs).2)
  refine ⟨lp, ?_, ?_⟩
  · unfold forwardMicroBatch
    simpa [padded] using hlp
  · intro r hr t ht y hy
    have hpos := (h ps[r] (List.getElem_mem hr)).start_pos
    obtain ⟨hlt, rfl⟩ := List.getElem?_eq_some_iff.mp hy
    have hprev : ps[r].start - 1 + t + 1 = ps[r].start + t := by omega
    rw [hentry r (by simpa using hr) t ht, List.getElem_map,
      fullLogProbs_get hcausal temperature h hr (by omega)]
    simp only [hprev]

end Forward

/-! ## A causal model

Its logits are the sum of the tokens and the visual inputs of the row so far; a text position 0
starts a row. -/

section SumModel

variable (visual : Fin V → Bool)

/-- The sums along packed tokens, from `sum` on. -/
def runningSums : ℕ → List (Fin V × List ℤ) → List ℕ → List ℕ
  | _, [], _ => []
  | sum, (v, p) :: rest, features =>
      let before := if p.head? = some 0 then 0 else sum
      if visual v then
        (before + v + features.headD 0) ::
          runningSums (before + v + features.headD 0) rest features.tail
      else (before + v) :: runningSums (before + v) rest features

noncomputable def sumModel : Model V ℕ := fun ids positions features =>
  (runningSums visual 0 (ids.zip positions) features).map fun sum w => ((sum + w : ℕ) : ℝ)

/-- What the model has summed up at the end of a row. -/
def Row.total (row : Row V ℕ) : ℕ := (row.ids.map Fin.val).sum + row.features.sum

variable {visual}

/-- Where no row starts, the sums go on from the one before. -/
theorem runningSums_within {ids : List (Fin V)} {ps : List (List ℤ)} {fs : List ℕ}
    (hps : ∀ p ∈ ps, p.head? ≠ some 0) (hlength : ps.length = ids.length)
    (hfs : fs.length = ids.countP visual) (sum : ℕ) (rest : List (Fin V × List ℤ))
    (more : List ℕ) :
    runningSums visual sum (ids.zip ps ++ rest) (fs ++ more) =
      ((List.range ids.length).map fun k =>
        sum + ((ids.take (k + 1)).map Fin.val).sum +
          (fs.take ((ids.take (k + 1)).countP visual)).sum) ++
      runningSums visual (sum + (ids.map Fin.val).sum + fs.sum) rest more := by
  induction ids generalizing ps fs sum with
  | nil =>
      obtain rfl : fs = [] := List.eq_nil_of_length_eq_zero hfs
      simp
  | cons v ids ih =>
      obtain ⟨p, ps, rfl⟩ := List.exists_cons_of_length_eq_add_one hlength
      have hp : p.head? ≠ some 0 := hps p (by simp)
      have hps' : ∀ q ∈ ps, q.head? ≠ some 0 := fun q hq => hps q (by simp [hq])
      have hlength' : ps.length = ids.length := by simpa using hlength
      rw [List.zip_cons_cons, List.cons_append, runningSums, List.length_cons,
        List.range_succ_eq_map]
      cases hv : visual v with
      | false =>
          have hcount : fs.length = ids.countP visual := by
            rw [hfs, List.countP_cons_of_neg (by simp [hv])]
          have hih := ih hps' hlength' hcount (sum + v)
          simp [hp, hih, hv, Nat.add_assoc]
      | true =>
          have hcount : fs.length = ids.countP visual + 1 := by
            rw [hfs, List.countP_cons_of_pos hv]
          obtain ⟨f, fs, rfl⟩ := List.exists_cons_of_length_eq_add_one hcount
          have hcount' : fs.length = ids.countP visual := by simpa using hcount
          have hih := ih hps' hlength' hcount' (sum + v + f)
          have hlast : sum + v + f + (ids.map Fin.val).sum + fs.sum =
              sum + (v + (ids.map Fin.val).sum) + (f + fs.sum) := by omega
          simp only [hp, hih, if_true, if_false, List.cons_append, List.headD_cons,
            List.tail_cons, List.map_cons, List.sum_cons, List.map_map, hlast]
          congr 2
          · simp [hv]
          · refine List.map_congr_left fun k _ => ?_
            simp [hv]
            omega

/-- The sums at the start of a row forget the sum before. -/
theorem runningSums_start {p q : List ℤ} (hp : p.head? = some 0) (hq : q.head? ≠ some 0)
    (sum : ℕ) (v : Fin V) (rest : List (Fin V × List ℤ)) (features : List ℕ) :
    runningSums visual sum ((v, p) :: rest) features =
      runningSums visual 0 ((v, q) :: rest) features := by
  simp [runningSums, hp, hq]

theorem runningSums_row {row : Row V ℕ} (h : row.WellFormed visual) (sum : ℕ)
    (rest : List (Fin V × List ℤ)) (more : List ℕ) :
    runningSums visual sum (row.ids.zip row.positions ++ rest) (row.features ++ more) =
      ((List.range row.ids.length).map fun k => (row.take visual (k + 1)).total) ++
      runningSums visual row.total rest more := by
  obtain ⟨ids, positions, features⟩ := row
  obtain ⟨v, ids, rfl⟩ := List.exists_cons_of_ne_nil h.nonempty
  obtain ⟨p, ps, rfl⟩ := List.exists_cons_of_length_eq_add_one h.length_positions
  have hps : ∀ q ∈ ([1] : List ℤ) :: ps, q.head? ≠ some 0 := by
    intro q hq
    rcases List.mem_cons.mp hq with rfl | hq
    · simp
    · obtain ⟨k, hk, rfl⟩ := List.getElem_of_mem hq
      have hcounted := h.counted (k + 1) ps[k] (by simp)
      rw [hcounted]
      simp
      omega
  have hlength : (([1] : List ℤ) :: ps).length = (v :: ids).length := by
    simpa using h.length_positions
  have hwithin := runningSums_within hps hlength h.length_features 0 rest more
  simp only [List.zip_cons_cons, List.cons_append] at hwithin ⊢
  rw [runningSums_start (h.counted 0 p rfl) (hps [1] (by simp)), hwithin]
  simp [Row.total, Row.take]

/-- The model is causal: its logits at a token are those of the row up to it. -/
theorem sumModel_causal :
    RowCausal visual (sumModel visual) fun row w => ((row.total + w : ℕ) : ℝ) := by
  intro rows hrows
  unfold sumModel
  suffices h : ∀ sum, runningSums visual sum
      ((rows.flatMap (·.ids)).zip (rows.flatMap (·.positions))) (rows.flatMap (·.features)) =
        rows.flatMap fun row =>
          (List.range row.ids.length).map fun k => (row.take visual (k + 1)).total by
    rw [h 0, List.map_flatMap]
    simp only [List.map_map]
    rfl
  intro sum
  induction rows generalizing sum with
  | nil => simp [runningSums]
  | cons row rows ih =>
      have hrow := hrows row (by simp)
      simp only [List.flatMap_cons]
      rw [List.zip_append hrow.length_positions.symm, runningSums_row hrow,
        ih (fun r hr => hrows r (by simp [hr]))]

end SumModel

end LookAway.Teacher
