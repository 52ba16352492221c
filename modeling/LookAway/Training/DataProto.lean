/-
  `DataProto` of verl/protocol.py: the columns of a batch of tensors, the columns of other objects,
  and the meta info. Left out: devices, the keys of `metrics` that `concat` collects, automatic
  padding, and a batch that has tensors but no rows.

  `DataProto.items`: the rows, as `data[i]` gives them. What an operation does to the columns it
  does to the rows: `items_selectIdxs`, `items_slice`, `items_chunk`, `items_concat`,
  `items_repeat`, `items_union`. So tensors and objects of one sample stay together.
-/
import LookAway.Base.Table
import LookAway.Training.Errors

namespace LookAway.Training

open LookAway.Base LookAway.Base.Packing

/-! ## The data -/

/-- A `TensorDict` with one batch dimension; a tensor is the list of its entries. -/
structure TensorDict (α : Type) where
  batchSize : ℕ
  columns : List (String × List α)
  length_columns : ∀ c ∈ columns, c.2.length = batchSize

/-- `DataProto`, with what `check_consistency` asserts. -/
structure DataProto (α μ : Type) where
  batch : Option (TensorDict α)
  nonTensorBatch : List (String × List α)
  metaInfo : List (String × μ)
  consistent : ∀ td, batch = some td → ∀ c ∈ nonTensorBatch, c.2.length = td.batchSize

/-- The keys of a batch. -/
inductive Key where
  | tensor (key : String)
  | nonTensor (key : String)
  deriving DecidableEq

namespace DataProto

variable {α μ : Type}

/-- `check_consistency`, on new data. -/
def make (batch : Option (TensorDict α)) (nonTensorBatch : List (String × List α))
    (metaInfo : List (String × μ)) : Except TrainingError (DataProto α μ) :=
  if h : ∀ td, batch = some td → ∀ c ∈ nonTensorBatch, c.2.length = td.batchSize then
    .ok ⟨batch, nonTensorBatch, metaInfo, h⟩
  else
    let batchSize := batch.elim 0 (·.batchSize)
    let bad := (nonTensorBatch.find? fun c => c.2.length ≠ batchSize).getD ("", [])
    .error (.assertionError
      s!"key {bad.1} length {bad.2.length} is not equal to batch size {batchSize}")

/-- `__len__`. -/
def len (d : DataProto α μ) : ℕ :=
  match d.batch with
  | some td => td.batchSize
  | none => d.nonTensorBatch.head?.elim 0 (·.2.length)

/-- All columns. -/
def columns (d : DataProto α μ) : List (String × List α) :=
  d.batch.elim [] (·.columns) ++ d.nonTensorBatch

/-- Each column changed in one way, to a length that its length settles. -/
def mapColumns (d : DataProto α μ) (f : List α → List α) (size : ℕ → ℕ)
    (h : ∀ c ∈ d.columns, (f c.2).length = size c.2.length) : DataProto α μ where
  batch := d.batch.pmap
    (fun td (htd : ∀ c ∈ td.columns, (f c.2).length = size c.2.length) => {
      batchSize := size td.batchSize
      columns := td.columns.map fun c => (c.1, f c.2)
      length_columns := by
        intro c hc
        obtain ⟨c', hc', rfl⟩ := List.mem_map.mp hc
        rw [htd c' hc', td.length_columns c' hc'] })
    fun td htd c hc => h c (List.mem_append_left _ (by rw [htd]; exact hc))
  nonTensorBatch := d.nonTensorBatch.map fun c => (c.1, f c.2)
  metaInfo := d.metaInfo
  consistent := by
    intro td htd c hc
    obtain ⟨td', -, htd', rfl⟩ := Option.pmap_eq_some_iff.mp htd
    obtain ⟨c', hc', rfl⟩ := List.mem_map.mp hc
    rw [h c' (List.mem_append_right _ hc'), d.consistent td' htd' c' hc']

/-- `data.meta_info = ...`. -/
def withMetaInfo (d : DataProto α μ) (metaInfo : List (String × μ)) : DataProto α μ where
  batch := d.batch
  nonTensorBatch := d.nonTensorBatch
  metaInfo := metaInfo
  consistent := d.consistent

/-- A batch of samples, column by column. -/
def ofSamples {ρ : Type} (tensorColumns nonTensorColumns : List (String × (ρ → α)))
    (samples : List ρ) (metaInfo : List (String × μ)) : DataProto α μ where
  batch := some {
    batchSize := samples.length
    columns := tensorColumns.map fun c => (c.1, samples.map c.2)
    length_columns := by
      intro c hc
      obtain ⟨c', -, rfl⟩ := List.mem_map.mp hc
      exact List.length_map _ }
  nonTensorBatch := nonTensorColumns.map fun c => (c.1, samples.map c.2)
  metaInfo := metaInfo
  consistent := by
    intro td htd c hc
    obtain rfl := Option.some.inj htd
    obtain ⟨c', -, rfl⟩ := List.mem_map.mp hc
    exact List.length_map _

/-- Each tensor changed entry by entry. -/
def mapTensors (d : DataProto α μ) (f : String → α → α) : DataProto α μ where
  batch := d.batch.map fun td => {
    batchSize := td.batchSize
    columns := td.columns.map fun c => (c.1, c.2.map (f c.1))
    length_columns := by
      intro c hc
      obtain ⟨c', hc', rfl⟩ := List.mem_map.mp hc
      rw [List.length_map, td.length_columns c' hc'] }
  nonTensorBatch := d.nonTensorBatch
  metaInfo := d.metaInfo
  consistent := by
    intro td htd c hc
    obtain ⟨td', htd', rfl⟩ := Option.map_eq_some_iff.mp htd
    exact d.consistent td' htd' c hc

/-- `select_idxs`. -/
def selectIdxs (d : DataProto α μ) (idxs : List ℕ) : Except TrainingError (DataProto α μ) :=
  if h : ∀ c ∈ d.columns, ∀ i ∈ idxs, i < c.2.length then
    .ok (d.mapColumns (gather · idxs) (fun _ => idxs.length) fun c hc =>
      length_gather (h c hc))
  else .error .indexError

/-- `slice`. -/
def slice (d : DataProto α μ) (start stop : ℕ) : DataProto α μ :=
  d.mapColumns (fun col => (col.take stop).drop start) (fun n => min stop n - start) fun c _ => by
    simp

/-- Piece `i` of `chunks` pieces of a column, the first ones longer by one if need be. -/
def piece (chunks i : ℕ) (col : List α) : List α :=
  (col.drop (i * (col.length / chunks) + min i (col.length % chunks))).take
    (col.length / chunks + if i < col.length % chunks then 1 else 0)

/-- `chunk`. -/
def chunk (d : DataProto α μ) (chunks : ℕ) : Except TrainingError (List (DataProto α μ)) := do
  raiseIf (chunks = 0) .zeroDivisionError
  check (d.len % chunks = 0)
    s!"only support equal chunk. Got size of DataProto {d.len} and chunk {chunks}."
  return (List.range chunks).map fun i =>
    d.mapColumns (piece chunks i) (fun n => (piece chunks i (List.replicate n ())).length)
      fun c _ => by simp [piece]

/-- `split`. -/
def split (d : DataProto α μ) (splitSize : ℕ) : Except TrainingError (List (DataProto α μ)) := do
  raiseIf (splitSize = 0) (.valueError "range() arg 3 must not be zero")
  return (List.range ((d.len + splitSize - 1) / splitSize)).map fun i =>
    d.slice (i * splitSize) (i * splitSize + splitSize)

/-- `repeat`. -/
def repeatTimes (d : DataProto α μ) (times : ℕ) (interleave : Bool) : DataProto α μ :=
  d.mapColumns
    (fun col => if interleave then col.flatMap (List.replicate times)
      else (List.replicate times col).flatten)
    (· * times) fun c _ => by cases interleave <;> simp [List.length_flatMap, Nat.mul_comm]

/-- `reorder`. -/
def reorder (d : DataProto α μ) (indices : List ℕ) : Except TrainingError (DataProto α μ) := do
  raiseIf (d.batch.isNone) .typeError
  d.selectIdxs indices

/-! ## Concatenation -/

/-- `torch.cat` of the tensors: every batch has the keys of the first. -/
def catTensorDicts (first : TensorDict α) (tds : List (TensorDict α)) :
    Except TrainingError (TensorDict α) :=
  if h : ∀ c ∈ first.columns, ∀ td ∈ tds, (td.columns.lookup c.1).isSome then
    if ∃ td ∈ tds, ∃ c ∈ td.columns, (first.columns.lookup c.1).isNone then .error .keyError
    else .ok {
      batchSize := (tds.map (·.batchSize)).sum
      columns := first.columns.map fun c =>
        (c.1, tds.flatMap fun td => (td.columns.lookup c.1).getD [])
      length_columns := by
        intro c hc
        obtain ⟨c', hc', rfl⟩ := List.mem_map.mp hc
        rw [List.length_flatMap]
        congr 1
        refine List.map_congr_left fun td htd => ?_
        obtain ⟨col, hcol⟩ := Option.isSome_iff_exists.mp (h c' hc' td htd)
        rw [hcol]
        exact td.length_columns _ (lookup_mem hcol) }
  else .error .keyError

/-- `list_of_dict_to_dict_of_list` and `np.concatenate`: the keys of the first. -/
def catColumns (first : List (String × List α)) (css : List (List (String × List α))) :
    Except TrainingError (List (String × List α)) := do
  check (∀ cs ∈ css, ∀ c ∈ cs, (first.lookup c.1).isSome) ""
  return first.map fun c => (c.1, css.flatMap fun cs => (cs.lookup c.1).getD [])

/-- The entries of `meta_info`, later ones equal to earlier ones. -/
def mergeMetaInfo [DecidableEq μ] (merged : List (String × μ)) :
    List (String × μ) → Except TrainingError (List (String × μ))
  | [] => .ok merged
  | (k, v) :: rest =>
      match merged.lookup k with
      | some v' =>
          if v' = v then mergeMetaInfo merged rest
          else .error (.assertionError s!"Conflicting values for meta_info key '{k}'")
      | none => mergeMetaInfo (merged ++ [(k, v)]) rest

/-- The tensors of a batch that has some. -/
def tensors (d : DataProto α μ) : Except TrainingError (TensorDict α) :=
  match d.batch with
  | some td => .ok td
  | none => .error .typeError

/-- The tensors of the concatenation, if the first batch has some. -/
def catBatch (first : Option (TensorDict α)) (data : List (DataProto α μ)) :
    Except TrainingError (Option (TensorDict α)) :=
  match first with
  | none => .ok none
  | some td => do
      let tds ← data.mapM tensors
      let catted ← catTensorDicts td tds
      return some catted

/-- `concat`. -/
def concat [DecidableEq μ] : List (DataProto α μ) → Except TrainingError (DataProto α μ)
  | [] => .error .indexError
  | first :: rest => do
      let batch ← catBatch first.batch (first :: rest)
      let nonTensorBatch ← catColumns first.nonTensorBatch ((first :: rest).map (·.nonTensorBatch))
      let metaInfo ← mergeMetaInfo [] ((first :: rest).flatMap (·.metaInfo))
      make batch nonTensorBatch metaInfo

/-! ## Union -/

/-- `union_tensor_dict`. -/
def unionTensorDict [DecidableEq α] (td other : TensorDict α) :
    Except TrainingError (TensorDict α) :=
  if h : td.batchSize = other.batchSize then do
    other.columns.forM fun c => check ((td.columns.lookup c.1).all (· = c.2))
      s!"{c.1} in tensor_dict1 and tensor_dict2 are not the same object"
    return {
      batchSize := td.batchSize
      columns := td.columns ++ other.columns.filter fun c => (td.columns.lookup c.1).isNone
      length_columns := by
        intro c hc
        rcases List.mem_append.mp hc with hc | hc
        · exact td.length_columns c hc
        · rw [h]
          exact other.length_columns c (List.mem_of_mem_filter hc) }
  else .error (.assertionError ("Two tensor dict must have identical batch size. Got " ++
    s!"torch.Size([{td.batchSize}]) and torch.Size([{other.batchSize}])"))

/-- `union_numpy_dict`. -/
def unionNumpyDict [DecidableEq α] (d other : List (String × List α)) :
    Except TrainingError (List (String × List α)) := do
  other.forM fun c => check ((d.lookup c.1).all (· = c.2))
    s!"`{c.1}` in tensor_dict1 and tensor_dict2 are not the same object."
  return other.foldl (fun d c => insertEntry d c.1 c.2) d

/-- `union_two_dict`. -/
def unionTwoDict [DecidableEq μ] (d other : List (String × μ)) :
    Except TrainingError (List (String × μ)) := do
  other.forM fun c => check ((d.lookup c.1).all (c.2 = ·))
    s!"{c.1} in meta_dict1 and meta_dict2 are not the same object"
  return other.foldl (fun d c => insertEntry d c.1 c.2) d

/-- `union`. -/
def union [DecidableEq α] [DecidableEq μ] (d other : DataProto α μ) :
    Except TrainingError (DataProto α μ) :=
  match d.batch, other.batch with
  | some td, some td' => do
      let batch ← unionTensorDict td td'
      let nonTensorBatch ← unionNumpyDict d.nonTensorBatch other.nonTensorBatch
      let metaInfo ← unionTwoDict d.metaInfo other.metaInfo
      make (some batch) nonTensorBatch metaInfo
  | _, _ => .error .attributeError

/-! ## Padding -/

/-- The parts that `pad_dataproto_to_divisor` appends: the rows from the front, again and again. -/
def paddingProtos (d : DataProto α μ) (remainingPad : ℕ) : List (DataProto α μ) :=
  if d.len = 0 ∨ remainingPad = 0 then []
  else
    let takeSize := min remainingPad d.len
    d.slice 0 takeSize :: paddingProtos d (remainingPad - takeSize)
  termination_by remainingPad

/-- `pad_dataproto_to_divisor`. -/
def padDataprotoToDivisor [DecidableEq μ] (d : DataProto α μ) (sizeDivisor : ℕ) :
    Except TrainingError (DataProto α μ × ℕ) := do
  raiseIf (sizeDivisor = 0) .zeroDivisionError
  if d.len % sizeDivisor ≠ 0 then do
    let padSize := sizeDivisor - d.len % sizeDivisor
    let padded ← concat (d :: paddingProtos d padSize)
    return (padded, padSize)
  else return (d, 0)

/-- `unpad_dataproto`. -/
def unpadDataproto (d : DataProto α μ) (padSize : ℕ) : DataProto α μ :=
  if padSize ≠ 0 then d.slice 0 (d.len - padSize) else d

/-! ## The rows -/

/-- The columns by key. -/
def table (d : DataProto α μ) : Key → Option (List α)
  | .tensor key => d.batch.bind (·.columns.lookup key)
  | .nonTensor key => d.nonTensorBatch.lookup key

/-- `data[i]`, for every row `i`. -/
def items (d : DataProto α μ) : List (Key → Option α) := rows d.len d.table

/-- Every column has one entry for each row. -/
def Uniform (d : DataProto α μ) : Prop := HasLength d.len d.table

/-! ## What the operations do to the rows -/

section Rows

variable {d other : DataProto α μ} {ds : List (DataProto α μ)} {f : List α → List α}
  {size : ℕ → ℕ}

theorem table_tensor (d : DataProto α μ) (key : String) :
    d.table (.tensor key) = d.batch.bind (·.columns.lookup key) := rfl

theorem table_nonTensor (d : DataProto α μ) (key : String) :
    d.table (.nonTensor key) = d.nonTensorBatch.lookup key := rfl

@[simp] theorem length_items (d : DataProto α μ) : d.items.length = d.len := length_rows _ _

theorem len_of_batch {td : TensorDict α} (h : d.batch = some td) : d.len = td.batchSize := by
  unfold len
  rw [h]

theorem uniform_of_batch {td : TensorDict α} (h : d.batch = some td) : d.Uniform := by
  intro k col hk
  rw [len_of_batch h]
  cases k with
  | tensor key =>
      simp only [table, h, Option.bind_some] at hk
      exact td.length_columns _ (lookup_mem hk)
  | nonTensor key => exact d.consistent td h _ (lookup_mem hk)

theorem table_mapColumns (h : ∀ c ∈ d.columns, (f c.2).length = size c.2.length) (k : Key) :
    (d.mapColumns f size h).table k = (d.table k).map f := by
  obtain ⟨batch, nonTensorBatch, metaInfo, hconsistent⟩ := d
  cases k with
  | tensor key =>
      cases batch with
      | none => rfl
      | some td => exact lookup_map _ _ _
  | nonTensor key => exact lookup_map _ _ _

theorem len_mapColumns (h : ∀ c ∈ d.columns, (f c.2).length = size c.2.length)
    (hsize : d.batch.isSome ∨ size 0 = 0) : (d.mapColumns f size h).len = size d.len := by
  obtain ⟨batch, nonTensorBatch, metaInfo, hconsistent⟩ := d
  cases batch with
  | some td => rfl
  | none =>
      have hzero : size 0 = 0 := hsize.resolve_left Bool.false_ne_true
      cases nonTensorBatch with
      | nil => exact hzero.symm
      | cons c cs => exact h c (by simp [columns])

theorem isSome_batch_mapColumns (h : ∀ c ∈ d.columns, (f c.2).length = size c.2.length) :
    (d.mapColumns f size h).batch.isSome = d.batch.isSome := by
  unfold mapColumns
  simp only [Option.isSome_pmap]

/-- Entries taken in an order, column by column: the rows in that order. -/
theorem items_mapColumns (hd : d.Uniform) {is : List ℕ} (his : ∀ i ∈ is, i < d.len)
    (hf : ∀ col, col.length = d.len → f col = gather col is)
    (h : ∀ c ∈ d.columns, (f c.2).length = size c.2.length)
    (hlen : (d.mapColumns f size h).len = is.length) :
    (d.mapColumns f size h).items = gather d.items is ∧ (d.mapColumns f size h).Uniform := by
  have htable : (d.mapColumns f size h).table = fun k => (d.table k).map (gather · is) := by
    funext k
    rw [table_mapColumns]
    cases hk : d.table k with
    | none => rfl
    | some col =>
        rw [Option.map_some, Option.map_some, hf col (hd k col hk)]
  refine ⟨?_, ?_⟩
  · unfold items
    rw [hlen, htable, rows_gather hd his]
  · intro k col hk
    rw [hlen]
    rw [htable] at hk
    obtain ⟨col', hcol', rfl⟩ := Option.map_eq_some_iff.mp hk
    exact length_gather fun i hi => by rw [hd k col' hcol']; exact his i hi

theorem lookup_map_getter {ρ : Type} (columns : List (String × (ρ → α))) (samples : List ρ)
    (key : String) : (columns.map fun c => (c.1, samples.map c.2)).lookup key =
      (columns.lookup key).map (samples.map ·) := by
  induction columns with
  | nil => rfl
  | cons c columns ih =>
      obtain ⟨key', f⟩ := c
      simp only [List.map_cons, List.lookup_cons]
      cases key == key' with
      | true => rfl
      | false => exact ih

/-- The row of a sample. -/
def sampleRow {ρ : Type} (tensorColumns nonTensorColumns : List (String × (ρ → α))) (x : ρ) :
    Key → Option α
  | .tensor key => (tensorColumns.lookup key).map (· x)
  | .nonTensor key => (nonTensorColumns.lookup key).map (· x)

theorem items_ofSamples {ρ : Type} (tensorColumns nonTensorColumns : List (String × (ρ → α)))
    (samples : List ρ) (metaInfo : List (String × μ)) :
    (ofSamples tensorColumns nonTensorColumns samples metaInfo).items =
      samples.map (sampleRow tensorColumns nonTensorColumns) := by
  have hlen : (ofSamples tensorColumns nonTensorColumns samples metaInfo).len = samples.length :=
    rfl
  apply List.ext_getElem?
  intro i
  unfold items
  rcases Nat.lt_or_ge i samples.length with hi | hi
  · rw [getElem?_rows (hlen ▸ hi), List.getElem?_map, List.getElem?_eq_getElem hi, Option.map_some]
    congr 1
    funext k
    cases k with
    | tensor key =>
        simp only [table, ofSamples, Option.bind_some, lookup_map_getter, sampleRow]
        cases tensorColumns.lookup key with
        | none => rfl
        | some f => simp [List.getElem?_eq_getElem hi]
    | nonTensor key =>
        simp only [table, ofSamples, lookup_map_getter, sampleRow]
        cases nonTensorColumns.lookup key with
        | none => rfl
        | some f => simp [List.getElem?_eq_getElem hi]
  · rw [List.getElem?_eq_none (by simpa [hlen] using hi), List.getElem?_eq_none (by simpa using hi)]

/-- The keys of a batch of samples do not depend on the samples. -/
theorem isSome_table_ofSamples {ρ : Type} (tensorColumns nonTensorColumns : List (String × (ρ → α)))
    (samples samples' : List ρ) (metaInfo metaInfo' : List (String × μ)) (k : Key) :
    ((ofSamples tensorColumns nonTensorColumns samples metaInfo).table k).isSome =
      ((ofSamples tensorColumns nonTensorColumns samples' metaInfo').table k).isSome := by
  cases k with
  | tensor key =>
      simp only [table, ofSamples, Option.bind_some, lookup_map_getter, Option.isSome_map]
  | nonTensor key => simp only [table, ofSamples, lookup_map_getter, Option.isSome_map]

theorem items_selectIdxs {idxs : List ℕ} {out : DataProto α μ} (hd : d.Uniform)
    (hbatch : d.batch.isSome) (hidxs : ∀ i ∈ idxs, i < d.len) (h : d.selectIdxs idxs = .ok out) :
    out.items = gather d.items idxs ∧ out.Uniform := by
  unfold selectIdxs at h
  split at h
  · cases h
    exact items_mapColumns hd hidxs (fun _ _ => rfl) _ (len_mapColumns _ (.inl hbatch))
  · cases h

theorem selectIdxs_ok {idxs : List ℕ} (h : ∀ c ∈ d.columns, ∀ i ∈ idxs, i < c.2.length) :
    ∃ out, d.selectIdxs idxs = .ok out := by
  unfold selectIdxs
  rw [dif_pos h]
  exact ⟨_, rfl⟩

theorem items_slice (hd : d.Uniform) (start stop : ℕ) :
    (d.slice start stop).items = (d.items.take stop).drop start ∧ (d.slice start stop).Uniform := by
  rw [drop_take_eq_gather, length_items]
  refine items_mapColumns hd ?_ ?_ _ ?_
  · intro i hi
    have := List.mem_range'_1.mp hi
    omega
  · intro col hcol
    rw [drop_take_eq_gather, hcol]
  · rw [List.length_range']
    exact len_mapColumns _ (.inr (by simp))

theorem items_repeat (hd : d.Uniform) (times : ℕ) :
    (d.repeatTimes times true).items = d.items.flatMap (List.replicate times) ∧
      (d.repeatTimes times true).Uniform := by
  have hrange : d.items.flatMap (List.replicate times) =
      gather d.items ((List.range d.len).flatMap (List.replicate times)) := by
    rw [gather_flatMap_replicate, ← length_items d, gather_range]
  rw [hrange]
  refine items_mapColumns hd ?_ ?_ _ ?_
  · intro i hi
    obtain ⟨j, hj, hi⟩ := List.mem_flatMap.mp hi
    rw [List.eq_of_mem_replicate hi]
    exact List.mem_range.mp hj
  · intro col hcol
    rw [gather_flatMap_replicate, ← hcol, gather_range]
    rfl
  · rw [List.length_flatMap]
    simp only [List.length_replicate, List.map_const', List.length_range, List.sum_replicate_nat]
    exact len_mapColumns _ (.inr (Nat.zero_mul times))

/-- An even split in pieces. -/
theorem piece_eq {γ : Type} {chunks i : ℕ} {xs : List γ} (h : xs.length % chunks = 0) :
    piece chunks i xs =
      (xs.drop (i * (xs.length / chunks))).take (xs.length / chunks) := by
  unfold piece
  rw [h, Nat.min_zero, if_neg (Nat.not_lt_zero i)]
  rfl

theorem take_drop_eq_gather {γ : Type} {xs : List γ} {start count : ℕ}
    (h : start + count ≤ xs.length) :
    (xs.drop start).take count = gather xs (List.range' start count) := by
  rw [List.take_drop, drop_take_eq_gather]
  congr 2
  omega

theorem items_chunk {chunks : ℕ} (hd : d.Uniform) (h : d.chunk chunks = .ok ds) :
    0 < chunks ∧ d.len = chunks * (d.len / chunks) ∧
      ds.map items = unflatten chunks (d.len / chunks) d.items ∧
      ∀ out ∈ ds, out.Uniform ∧ out.metaInfo = d.metaInfo := by
  obtain ⟨_, hchunks, h⟩ := except_bind_ok.mp h
  obtain ⟨_, hmod, h⟩ := except_bind_ok.mp h
  have hpos := Nat.pos_of_ne_zero (raiseIf_ok hchunks)
  have hmod := check_ok hmod
  have hdiv : chunks * (d.len / chunks) = d.len := Nat.mul_div_cancel' (Nat.dvd_of_mod_eq_zero hmod)
  cases h
  have hpiece : ∀ i, i < chunks →
      (d.mapColumns (piece chunks i) (fun n => (piece chunks i (List.replicate n ())).length)
        (fun c _ => by simp [piece])).items =
          (d.items.drop (i * (d.len / chunks))).take (d.len / chunks) ∧
      (d.mapColumns (piece chunks i) (fun n => (piece chunks i (List.replicate n ())).length)
        (fun c _ => by simp [piece])).Uniform := by
    intro i hi
    have hfit : i * (d.len / chunks) + d.len / chunks ≤ d.len := by
      have := Nat.mul_le_mul_right (d.len / chunks) hi
      rw [Nat.succ_mul, hdiv] at this
      exact this
    rw [take_drop_eq_gather (by rw [length_items]; exact hfit)]
    refine items_mapColumns hd ?_ ?_ _ ?_
    · intro j hj
      have := List.mem_range'_1.mp hj
      omega
    · intro col hcol
      rw [piece_eq (by rw [hcol]; exact hmod), hcol, take_drop_eq_gather (by rw [hcol]; exact hfit)]
    · rw [len_mapColumns _ (.inr (by simp [piece])), List.length_range',
        piece_eq (by simpa using hmod)]
      simp
      omega
  refine ⟨hpos, hdiv.symm, ?_, ?_⟩
  · rw [List.map_map]
    exact List.map_congr_left fun i hi => (hpiece i (List.mem_range.mp hi)).1
  · intro out hout
    obtain ⟨i, hi, rfl⟩ := List.mem_map.mp hout
    exact ⟨(hpiece i (List.mem_range.mp hi)).2, rfl⟩

/-- An even chunking, and its pieces. -/
theorem chunk_exists {chunks : ℕ} (hd : d.Uniform) (hlen : 0 < d.len) (hchunks : 0 < chunks)
    (hdvd : chunks ∣ d.len) :
    ∃ pieces, d.chunk chunks = .ok pieces ∧ pieces.length = chunks ∧
      (pieces.map items).flatten = d.items ∧
      ∀ piece ∈ pieces, piece.Uniform ∧ piece.metaInfo = d.metaInfo ∧ piece.items ≠ [] ∧
        piece.items.length = d.len / chunks ∧ ∀ row ∈ piece.items, row ∈ d.items := by
  obtain ⟨pieces, hpieces⟩ : ∃ pieces, d.chunk chunks = .ok pieces :=
    ⟨_, except_bind_ok.mpr ⟨(), raiseIf_neg (by omega), except_bind_ok.mpr
      ⟨(), check_pos (Nat.mod_eq_zero_of_dvd hdvd), rfl⟩⟩⟩
  obtain ⟨-, hdiv, hitems, hpiece⟩ := items_chunk hd hpieces
  have hflat : (pieces.map items).flatten = d.items := by
    rw [hitems, flatten_unflatten, ← hdiv, ← length_items, List.take_length]
  refine ⟨pieces, hpieces, ?_, hflat, fun piece hmem => ?_⟩
  · have := congrArg List.length hitems
    rwa [List.length_map, length_unflatten] at this
  · have hmem_items : piece.items ∈ pieces.map items := List.mem_map_of_mem hmem
    have hrow : piece.items.length = d.len / chunks := by
      rw [hitems] at hmem_items
      exact length_of_mem_unflatten (by rw [length_items, ← hdiv]) _ hmem_items
    refine ⟨(hpiece piece hmem).1, (hpiece piece hmem).2, ?_, hrow,
      fun row hrow => hflat ▸ List.mem_flatten_of_mem hmem_items hrow⟩
    rw [← List.length_pos_iff, hrow]
    exact Nat.div_pos (Nat.le_of_dvd hlen hdvd) hchunks

theorem make_ok {batch : Option (TensorDict α)} {nonTensorBatch : List (String × List α)}
    {metaInfo : List (String × μ)} {out : DataProto α μ}
    (h : make batch nonTensorBatch metaInfo = .ok out) :
    out.batch = batch ∧ out.nonTensorBatch = nonTensorBatch ∧ out.metaInfo = metaInfo := by
  unfold make at h
  split at h
  · cases h
    exact ⟨rfl, rfl, rfl⟩
  · cases h

theorem catTensorDicts_ok {first td : TensorDict α} {tds : List (TensorDict α)}
    (h : catTensorDicts first tds = .ok td) :
    td.batchSize = (tds.map (·.batchSize)).sum ∧ ∀ k, td.columns.lookup k =
      (first.columns.lookup k).map fun _ =>
        tds.flatMap fun td => (td.columns.lookup k).getD [] := by
  unfold catTensorDicts at h
  split at h
  · split at h
    · cases h
    · cases h
      exact ⟨rfl, lookup_map_key (fun k => tds.flatMap fun td => (td.columns.lookup k).getD [])
        first.columns⟩
  · cases h

/-- The tensors of batches that all have some. -/
theorem map_tensors {γ : Type} {tds : List (TensorDict α)} (h : ds.mapM tensors = .ok tds)
    (f : TensorDict α → γ) (g : DataProto α μ → γ) (hfg : ∀ d td, d.batch = some td → g d = f td) :
    tds.map f = ds.map g := by
  have hpairs := forall₂_of_mapM h
  clear h
  induction hpairs with
  | nil => rfl
  | @cons d td ds tds hd _ ih =>
      have hbatch : d.batch = some td := by
        unfold tensors at hd
        split at hd
        · rename_i td' htd'
          rw [htd', Except.ok.inj hd]
        · cases hd
      rw [List.map_cons, List.map_cons, ih, hfg d td hbatch]

/-- Batches that can stand one behind the other: the same keys, and columns to count the rows of. -/
structure Aligned (ds : List (DataProto α μ)) : Prop where
  uniform : ∀ d ∈ ds, d.Uniform
  has_columns : ∀ d ∈ ds, d.batch.isSome ∨ d.nonTensorBatch ≠ []
  same_batch : ∀ d ∈ ds, ∀ d' ∈ ds, d.batch.isSome = d'.batch.isSome
  same_keys : ∀ d ∈ ds, ∀ d' ∈ ds, ∀ k, (d.table k).isSome = (d'.table k).isSome

theorem isSome_lookup_of_mem {cs : List (String × List α)} {c : String × List α} (h : c ∈ cs) :
    (cs.lookup c.1).isSome := by
  rw [List.lookup_isSome_iff]
  exact ⟨c, h, beq_self_eq_true _⟩

/-- The tables of the parts, with the length of each. -/
theorem Aligned.parts (hds : Aligned ds) {first : DataProto α μ} (hfirst : first ∈ ds) :
    ∀ t ∈ ds.map (fun d => (d.len, d.table)), HasLength t.1 t.2 ∧
      ∀ k, (t.2 k).isSome = (first.table k).isSome := by
  intro t ht
  obtain ⟨d, hd, rfl⟩ := List.mem_map.mp ht
  exact ⟨hds.uniform d hd, hds.same_keys d hd first hfirst⟩

theorem Aligned.hasLength (hds : Aligned ds) (first : DataProto α μ) (hfirst : first ∈ ds) :
    HasLength (ds.map len).sum
      (appendTables (fun k => (first.table k).isSome) (ds.map table)) := by
  have hlength := hasLength_appendTables (hds.parts hfirst)
  rwa [List.map_map, List.map_map] at hlength

/-- A column of objects of the concatenation. -/
theorem appendTables_nonTensor {first : DataProto α μ} {c : String × List α}
    (hc : c ∈ first.nonTensorBatch) :
    appendTables (fun k => (first.table k).isSome) (ds.map table) (.nonTensor c.1) =
      some ((ds.map (·.nonTensorBatch)).flatMap fun cs => (cs.lookup c.1).getD []) := by
  obtain ⟨col, hcol⟩ := Option.isSome_iff_exists.mp (isSome_lookup_of_mem hc)
  unfold appendTables
  simp only [table_nonTensor, hcol, List.flatMap_map]
  rfl

/-- The tensors of the concatenation. -/
theorem catBatch_ok {first : DataProto α μ} {batch : Option (TensorDict α)}
    (h : catBatch first.batch ds = .ok batch) :
    batch.isSome = first.batch.isSome ∧
      (∀ td, batch = some td → td.batchSize = (ds.map len).sum) ∧
      ∀ key, (batch.bind (·.columns.lookup key)) =
        appendTables (fun k => (first.table k).isSome) (ds.map table) (.tensor key) := by
  unfold catBatch at h
  cases hbatch : first.batch with
  | none =>
      rw [hbatch] at h
      cases h
      refine ⟨rfl, fun _ h => (nomatch h), fun key => ?_⟩
      have hkey : first.table (.tensor key) = none := by simp only [table, hbatch, Option.bind_none]
      unfold appendTables
      simp only [hkey]
      rfl
  | some td =>
      rw [hbatch] at h
      obtain ⟨tds, htds, h⟩ := except_bind_ok.mp h
      obtain ⟨catted, hcatted, h⟩ := except_bind_ok.mp h
      cases h
      obtain ⟨hsize, hlookup⟩ := catTensorDicts_ok hcatted
      refine ⟨rfl, ?_, fun key => ?_⟩
      · rintro _ ⟨rfl⟩
        rw [hsize, map_tensors htds (·.batchSize) len fun d td => len_of_batch]
      · have hcolumn := map_tensors htds (fun td => (td.columns.lookup key).getD [])
          (fun d => (d.table (.tensor key)).getD []) fun d td hd => by
            simp only [table, hd, Option.bind_some]
        have hkey : first.table (.tensor key) = td.columns.lookup key := by
          simp only [table, hbatch, Option.bind_some]
        unfold appendTables
        simp only [hkey]
        rw [List.flatMap_map, List.flatMap_def, ← hcolumn, ← List.flatMap_def, Option.bind_some,
          hlookup]
        cases td.columns.lookup key <;> rfl

/-- The columns and the length of a concatenation. -/
theorem concat_ok [DecidableEq μ] {out : DataProto α μ} (hds : Aligned ds)
    (h : concat ds = .ok out) : out.len = (ds.map len).sum ∧
      (∃ first ∈ ds, out.batch.isSome = first.batch.isSome ∧
        out.table = appendTables (fun k => (first.table k).isSome) (ds.map table)) := by
  cases ds with
  | nil => cases h
  | cons first rest =>
      obtain ⟨batch, hcat, h⟩ := except_bind_ok.mp h
      obtain ⟨nonTensorBatch, hcolumns, h⟩ := except_bind_ok.mp h
      obtain ⟨metaInfo, -, h⟩ := except_bind_ok.mp h
      obtain ⟨hout, hnon, -⟩ := make_ok h
      obtain ⟨_, -, hcolumns⟩ := except_bind_ok.mp hcolumns
      cases hcolumns
      obtain ⟨hsome, hsize, hlookup⟩ := catBatch_ok hcat
      have hkey : ∀ key, out.nonTensorBatch.lookup key =
          appendTables (fun k => (first.table k).isSome) ((first :: rest).map table)
            (.nonTensor key) := by
        intro key
        rw [hnon, lookup_map_key fun key => ((first :: rest).map (·.nonTensorBatch)).flatMap
          fun cs => (cs.lookup key).getD []]
        unfold appendTables
        simp only [table_nonTensor, List.flatMap_map]
        cases first.nonTensorBatch.lookup key <;> rfl
      refine ⟨?_, first, by simp, by rw [hout, hsome], ?_⟩
      · cases hbatch : batch with
        | some td => rw [len_of_batch (hout.trans hbatch), hsize td hbatch]
        | none =>
            -- no tensors: the first column of objects counts the rows
            have hfirst : first.batch.isSome = false := by rw [← hsome, hbatch]; rfl
            obtain ⟨c, cs, hcs⟩ := List.exists_cons_of_ne_nil
              ((hds.has_columns first (by simp)).resolve_left (by simp [hfirst]))
            have hcol : out.nonTensorBatch.head? = some (c.1,
                ((first :: rest).map (·.nonTensorBatch)).flatMap fun cs =>
                  (cs.lookup c.1).getD []) := by
              rw [hnon, hcs]
              rfl
            have hlen : out.len = (((first :: rest).map (·.nonTensorBatch)).flatMap fun cs =>
                (cs.lookup c.1).getD []).length := by
              unfold len
              rw [hout, hbatch, hcol]
              rfl
            rw [hlen]
            exact hds.hasLength first (by simp) _ _
              (appendTables_nonTensor (by rw [hcs]; simp))
      · funext k
        cases k with
        | tensor key =>
            unfold table
            simp only [hout]
            exact hlookup key
        | nonTensor key => exact hkey key

/-- Batches with the same keys, one behind the other: so are their rows. -/
theorem items_concat [DecidableEq μ] {out : DataProto α μ} (hds : Aligned ds)
    (h : concat ds = .ok out) : out.items = (ds.map items).flatten ∧ out.Uniform := by
  obtain ⟨hlen, first, hfirst, -, htable⟩ := concat_ok hds h
  have hrows := rows_appendTables (hds.parts hfirst)
  have hlength := hds.hasLength first hfirst
  rw [List.map_map, List.map_map, List.map_map] at hrows
  refine ⟨?_, ?_⟩
  · unfold items
    rw [hlen, htable]
    exact hrows
  · unfold Uniform
    rw [hlen, htable]
    exact hlength

theorem mergeMetaInfo_append [DecidableEq μ] (merged xs ys : List (String × μ)) :
    mergeMetaInfo merged (xs ++ ys) = mergeMetaInfo merged xs >>= (mergeMetaInfo · ys) := by
  induction xs generalizing merged with
  | nil => rfl
  | cons e xs ih =>
      obtain ⟨k, v⟩ := e
      rw [List.cons_append, mergeMetaInfo, mergeMetaInfo]
      split
      · split
        · exact ih merged
        · rfl
      · exact ih _

theorem mergeMetaInfo_fresh [DecidableEq μ] {merged xs : List (String × μ)}
    (h : ((merged ++ xs).map (·.1)).Nodup) : mergeMetaInfo merged xs = .ok (merged ++ xs) := by
  induction xs generalizing merged with
  | nil => rw [List.append_nil]; rfl
  | cons e xs ih =>
      obtain ⟨k, v⟩ := e
      have hfresh : merged.lookup k = none := by
        rw [lookup_eq_none]
        rw [List.map_append, List.map_cons] at h
        exact fun hmem => (List.nodup_append.mp h).2.2 _ hmem _ (by simp) rfl
      rw [mergeMetaInfo, hfresh]
      dsimp only
      rw [ih (by rwa [List.append_assoc]), List.append_assoc]
      rfl

theorem mergeMetaInfo_known [DecidableEq μ] {merged xs : List (String × μ)}
    (h : ∀ e ∈ xs, merged.lookup e.1 = some e.2) : mergeMetaInfo merged xs = .ok merged := by
  induction xs with
  | nil => rfl
  | cons e xs ih =>
      obtain ⟨k, v⟩ := e
      rw [mergeMetaInfo, h (k, v) (by simp)]
      dsimp only
      rw [if_pos rfl]
      exact ih fun e he => h e (by simp [he])

/-- Equal meta info merges to itself. -/
theorem mergeMetaInfo_same [DecidableEq μ] {metaInfo : List (String × μ)}
    (hnodup : (metaInfo.map (·.1)).Nodup) (hne : ds ≠ []) (h : ∀ d ∈ ds, d.metaInfo = metaInfo) :
    mergeMetaInfo [] (ds.flatMap (·.metaInfo)) = .ok metaInfo := by
  cases ds with
  | nil => exact absurd rfl hne
  | cons d ds =>
      rw [List.flatMap_cons, h d (by simp), mergeMetaInfo_append,
        mergeMetaInfo_fresh (by simpa using hnodup), List.nil_append]
      refine mergeMetaInfo_known fun e he => ?_
      obtain ⟨d', hd', he⟩ := List.mem_flatMap.mp he
      rw [h d' (by simp [hd'])] at he
      exact lookup_of_mem hnodup he

/-- Batches with the same keys and the same meta info can be concatenated. -/
theorem concat_exists [DecidableEq μ] {metaInfo : List (String × μ)} (hne : ds ≠ [])
    (hds : Aligned ds) (hnodup : (metaInfo.map (·.1)).Nodup)
    (hmeta : ∀ d ∈ ds, d.metaInfo = metaInfo) :
    ∃ out, concat ds = .ok out ∧ out.metaInfo = metaInfo := by
  cases ds with
  | nil => exact absurd rfl hne
  | cons first rest =>
      have hbatch : ∃ batch, catBatch first.batch (first :: rest) = .ok batch := by
        unfold catBatch
        cases hfirst : first.batch with
        | none => exact ⟨none, rfl⟩
        | some td =>
            obtain ⟨tds, htds⟩ : ∃ tds, (first :: rest).mapM tensors = .ok tds := by
              refine mapM_exists fun d hd => ?_
              have hsome := hds.same_batch d hd first (by simp)
              rw [hfirst] at hsome
              obtain ⟨td', htd'⟩ := Option.isSome_iff_exists.mp hsome
              exact ⟨td', by unfold tensors; rw [htd']⟩
            have htable : ∀ td' ∈ tds, ∀ key,
                (td'.columns.lookup key).isSome = (td.columns.lookup key).isSome := by
              intro td' htd' key
              obtain ⟨d, hd, hdtd⟩ := exists_of_mem_mapM htds td' htd'
              have hdbatch : d.batch = some td' := by
                unfold tensors at hdtd
                split at hdtd
                · rename_i td'' htd''
                  rw [htd'', Except.ok.inj hdtd]
                · cases hdtd
              have hkey := hds.same_keys d hd first (by simp) (.tensor key)
              rwa [table_tensor, table_tensor, hdbatch, hfirst, Option.bind_some,
                Option.bind_some] at hkey
            have hcat : ∃ catted, catTensorDicts td tds = .ok catted := by
              unfold catTensorDicts
              rw [dif_pos fun c hc td' htd' => by
                rw [htable td' htd']; exact isSome_lookup_of_mem hc, if_neg]
              · exact ⟨_, rfl⟩
              · rintro ⟨td', htd', c, hc, hnone⟩
                have hsome := (htable td' htd' c.1).symm.trans (isSome_lookup_of_mem hc)
                rw [Option.isNone_iff_eq_none.mp hnone] at hsome
                cases hsome
            obtain ⟨catted, hcatted⟩ := hcat
            exact ⟨some catted, except_bind_ok.mpr ⟨tds, htds,
              except_bind_ok.mpr ⟨catted, hcatted, rfl⟩⟩⟩
      obtain ⟨batch, hcat⟩ := hbatch
      have hcheck : ∀ cs ∈ (first :: rest).map (·.nonTensorBatch), ∀ c ∈ cs,
          (first.nonTensorBatch.lookup c.1).isSome := by
        intro cs hcs c hc
        obtain ⟨d, hd, rfl⟩ := List.mem_map.mp hcs
        rw [← table_nonTensor, ← hds.same_keys d hd first (by simp)]
        exact isSome_lookup_of_mem hc
      have hcolumns : catColumns first.nonTensorBatch
          ((first :: rest).map (·.nonTensorBatch)) = .ok _ :=
        except_bind_ok.mpr ⟨(), check_pos hcheck, rfl⟩
      have hconsistent : ∀ td, batch = some td → ∀ c ∈ first.nonTensorBatch.map (fun c =>
          (c.1, ((first :: rest).map (·.nonTensorBatch)).flatMap fun cs =>
            (cs.lookup c.1).getD [])), c.2.length = td.batchSize := by
        intro td htd c hc
        obtain ⟨c', hc', rfl⟩ := List.mem_map.mp hc
        rw [(catBatch_ok hcat).2.1 td htd]
        exact hds.hasLength first (by simp) _ _ (appendTables_nonTensor hc')
      refine ⟨_, except_bind_ok.mpr ⟨batch, hcat, except_bind_ok.mpr ⟨_, hcolumns,
        except_bind_ok.mpr ⟨metaInfo, mergeMetaInfo_same hnodup hne hmeta, dif_pos hconsistent⟩⟩⟩,
        rfl⟩

theorem unionTensorDict_ok [DecidableEq α] {td td' out : TensorDict α}
    (h : unionTensorDict td td' = .ok out) :
    td.batchSize = td'.batchSize ∧ out.batchSize = td.batchSize ∧
      ∀ k, out.columns.lookup k = (td'.columns.lookup k).or (td.columns.lookup k) := by
  unfold unionTensorDict at h
  split at h
  · rename_i hsize
    obtain ⟨_, hsame, h⟩ := except_bind_ok.mp h
    cases h
    refine ⟨hsize, rfl, fun k => ?_⟩
    dsimp only
    rw [List.lookup_append]
    cases hk : td.columns.lookup k with
    | none =>
        rw [Option.none_or, Option.or_none,
          lookup_filter_fresh (fun k => (td.columns.lookup k).isNone) _ (by rw [hk]; rfl)]
    | some col =>
        rw [Option.some_or]
        cases hk' : td'.columns.lookup k with
        | none => rfl
        | some col' =>
            have hcheck := check_ok (forM_ok.mp hsame _ (lookup_mem hk'))
            rw [hk, Option.all_some, decide_eq_true_eq] at hcheck
            rw [hcheck]
            rfl
  · cases h

/-- The union of two batches: each row of one laid over the same row of the other. -/
theorem items_union [DecidableEq α] [DecidableEq μ] {out : DataProto α μ}
    (hnodup : (other.nonTensorBatch.map (·.1)).Nodup) (h : d.union other = .ok out) :
    d.len = other.len ∧ out.batch.isSome ∧
      out.items = List.zipWith (fun row row' k => (row' k).or (row k)) d.items other.items := by
  unfold union at h
  split at h
  · rename_i td td' htd htd'
    obtain ⟨batch, hbatch, h⟩ := except_bind_ok.mp h
    obtain ⟨nonTensorBatch, hnon, h⟩ := except_bind_ok.mp h
    obtain ⟨metaInfo, -, h⟩ := except_bind_ok.mp h
    obtain ⟨hout, houtnon, -⟩ := make_ok h
    obtain ⟨_, -, hnon⟩ := except_bind_ok.mp hnon
    cases hnon
    obtain ⟨hsize, hbatchSize, hlookup⟩ := unionTensorDict_ok hbatch
    have hlen : d.len = other.len := by rw [len_of_batch htd, len_of_batch htd', hsize]
    have houtlen : out.len = d.len := by rw [len_of_batch hout, len_of_batch htd, hbatchSize]
    have htable : out.table = fun k => (other.table k).or (d.table k) := by
      funext k
      cases k with
      | tensor key =>
          simp only [table, hout, htd, htd', Option.bind_some]
          exact hlookup key
      | nonTensor key =>
          simp only [table, houtnon]
          exact lookup_foldl_insertEntry hnodup _ key
    refine ⟨hlen, by rw [hout]; rfl, ?_⟩
    unfold items
    rw [houtlen, htable, ← hlen]
    exact rows_overlay d.table (hlen ▸ uniform_of_batch htd')
  · cases h

/-- No key is there twice. -/
structure Keyed (d : DataProto α μ) : Prop where
  tensors : ∀ td, d.batch = some td → (td.columns.map (·.1)).Nodup
  nonTensors : (d.nonTensorBatch.map (·.1)).Nodup

/-- A column, entry by entry, is in the rows. -/
theorem getElem?_column (hd : d.Uniform) {k : Key} {col : List α} (hk : d.table k = some col)
    (i : ℕ) :
    col[i]? = (d.items[i]?).bind (· k) := by
  unfold items
  rcases Nat.lt_or_ge i d.len with hi | hi
  · rw [getElem?_rows hi, Option.bind_some]
    dsimp only
    rw [hk, Option.bind_some]
  · rw [List.getElem?_eq_none (by rw [hd k col hk]; exact hi),
      List.getElem?_eq_none (by rwa [length_rows]), Option.bind_none]

/-- The first entry of a column is in the first row. -/
theorem head?_column (hd : d.Uniform) {row : Key → Option α} {rest : List (Key → Option α)}
    (hitems : d.items = row :: rest) (k : Key) : (d.table k).bind List.head? = row k := by
  cases hk : d.table k with
  | some col =>
      have hentry := getElem?_column hd hk 0
      rw [hitems] at hentry
      rw [Option.bind_some, List.head?_eq_getElem?, hentry]
      rfl
  | none =>
      have hlen : 0 < d.len := by
        rw [← length_items, hitems]
        exact Nat.succ_pos _
      have hrow := getElem?_rows (t := d.table) hlen
      change d.items[0]? = _ at hrow
      rw [hitems] at hrow
      obtain rfl := Option.some.inj hrow
      dsimp only
      rw [hk]
      rfl

/-- A row has the keys of its batch. -/
theorem isSome_item (hd : d.Uniform) {k : Key} (hk : (d.table k).isSome) {i : ℕ}
    {row : Key → Option α} (hrow : d.items[i]? = some row) : (row k).isSome := by
  obtain ⟨col, hcol⟩ := Option.isSome_iff_exists.mp hk
  have hentry := getElem?_column hd hcol i
  have hi := (List.getElem?_eq_some_iff.mp hrow).1
  rw [length_items, ← hd k col hcol] at hi
  rw [hrow, Option.bind_some, List.getElem?_eq_getElem hi] at hentry
  rw [← hentry]
  rfl

/-- Two batches whose rows agree on their common keys have a union. -/
theorem union_exists [DecidableEq α] [DecidableEq μ] {td td' : TensorDict α}
    (htd : d.batch = some td) (htd' : other.batch = some td') (hkeyed : other.Keyed)
    (hlen : d.len = other.len)
    (hrows : ∀ k, (d.table k).isSome → (other.table k).isSome → ∀ i, i < d.len →
      (d.items[i]?).bind (· k) = (other.items[i]?).bind (· k))
    (hmeta : ∀ c ∈ other.metaInfo, ∀ v, d.metaInfo.lookup c.1 = some v → v = c.2) :
    ∃ out, d.union other = .ok out := by
  have hd := uniform_of_batch htd
  have hother := uniform_of_batch htd'
  have hcolumn : ∀ {k : Key} {col col' : List α}, d.table k = some col →
      other.table k = some col' → col = col' := by
    intro k col col' hk hk'
    apply List.ext_getElem?
    intro i
    rcases Nat.lt_or_ge i d.len with hi | hi
    · rw [getElem?_column hd hk, getElem?_column hother hk']
      exact hrows k (by rw [hk]; rfl) (by rw [hk']; rfl) i hi
    · rw [List.getElem?_eq_none (by rw [hd k col hk]; exact hi),
        List.getElem?_eq_none (by rw [hother k col' hk', ← hlen]; exact hi)]
  have hsame : ∀ {β : Type} [DecidableEq β] {o : Option β} {b : β}, (∀ a, o = some a → a = b) →
      o.all (fun a => decide (a = b)) = true := by
    intro β _ o b h
    cases o with
    | none => rfl
    | some a => exact decide_eq_true (h a rfl)
  have hsize : td.batchSize = td'.batchSize := by
    rw [← len_of_batch htd, ← len_of_batch htd', hlen]
  have hbatch : ∃ batch, unionTensorDict td td' = .ok batch := by
    unfold unionTensorDict
    rw [dif_pos hsize]
    refine ⟨_, except_bind_ok.mpr ⟨(), forM_ok.mpr fun c hc => check_pos (hsame fun col hcol => ?_),
      rfl⟩⟩
    refine hcolumn (k := .tensor c.1) ?_ ?_
    · rw [table_tensor, htd, Option.bind_some, hcol]
    · rw [table_tensor, htd', Option.bind_some]
      exact lookup_of_mem (hkeyed.tensors td' htd') hc
  obtain ⟨batch, hbatch⟩ := hbatch
  have hnonTensor : unionNumpyDict d.nonTensorBatch other.nonTensorBatch =
      .ok (other.nonTensorBatch.foldl (fun d c => insertEntry d c.1 c.2) d.nonTensorBatch) := by
    refine except_bind_ok.mpr
      ⟨(), forM_ok.mpr fun c hc => check_pos (hsame fun col hcol => ?_), rfl⟩
    exact hcolumn (k := .nonTensor c.1) hcol (lookup_of_mem hkeyed.nonTensors hc)
  have hmetaInfo : unionTwoDict d.metaInfo other.metaInfo =
      .ok (other.metaInfo.foldl (fun d c => insertEntry d c.1 c.2) d.metaInfo) := by
    refine except_bind_ok.mpr ⟨(), forM_ok.mpr fun c hc => check_pos ?_, rfl⟩
    cases hv : d.metaInfo.lookup c.1 with
    | none => rfl
    | some v => exact decide_eq_true (hmeta c hc v hv).symm
  have hconsistent : ∀ td'', some batch = some td'' → ∀ c ∈ other.nonTensorBatch.foldl
      (fun d c => insertEntry d c.1 c.2) d.nonTensorBatch, c.2.length = td''.batchSize := by
    intro td'' htd'' c hc
    obtain rfl := Option.some.inj htd''
    rw [(unionTensorDict_ok hbatch).2.1]
    rcases mem_foldl_insertEntry hc with hc | hc
    · exact d.consistent td htd c hc
    · rw [hsize]
      exact other.consistent td' htd' c hc
  unfold union
  rw [htd, htd']
  exact ⟨_, except_bind_ok.mpr ⟨batch, hbatch, except_bind_ok.mpr ⟨_, hnonTensor,
    except_bind_ok.mpr ⟨_, hmetaInfo, dif_pos hconsistent⟩⟩⟩⟩

/-- The concatenation has the keys of the first batch. -/
theorem keyed_concat [DecidableEq μ] {out : DataProto α μ} (hds : ∀ d ∈ ds, d.Keyed)
    (h : concat ds = .ok out) : out.Keyed := by
  cases ds with
  | nil => cases h
  | cons first rest =>
      have hfirst := hds first (by simp)
      obtain ⟨batch, hcat, h⟩ := except_bind_ok.mp h
      obtain ⟨nonTensorBatch, hcolumns, h⟩ := except_bind_ok.mp h
      obtain ⟨metaInfo, -, h⟩ := except_bind_ok.mp h
      obtain ⟨hout, houtnon, -⟩ := make_ok h
      refine ⟨?_, ?_⟩
      · intro td htd
        obtain rfl := hout.symm.trans htd
        unfold catBatch at hcat
        split at hcat
        · cases hcat
        · rename_i first' hfirst'
          obtain ⟨tds, -, hcat⟩ := except_bind_ok.mp hcat
          obtain ⟨td', hcat, htd'⟩ := except_bind_ok.mp hcat
          obtain rfl := Option.some.inj (Except.ok.inj htd')
          unfold catTensorDicts at hcat
          split at hcat
          · split at hcat
            · cases hcat
            · cases hcat
              have hkeys := hfirst.tensors first' hfirst'
              simpa [Function.comp_def] using hkeys
          · cases hcat
      · obtain ⟨_, -, hcolumns⟩ := except_bind_ok.mp hcolumns
        cases hcolumns
        have hkeys := hfirst.nonTensors
        rw [houtnon]
        simpa [Function.comp_def] using hkeys

/-! ## Padding and unpadding -/

theorem len_slice (d : DataProto α μ) (start stop : ℕ) :
    (d.slice start stop).len = min stop d.len - start := len_mapColumns _ (.inr (by simp))

/-- A batch and slices of it can stand one behind the other. -/
theorem aligned_slices (hd : d.Uniform) (hcolumns : d.batch.isSome ∨ d.nonTensorBatch ≠ [])
    (h : ∀ d' ∈ ds, ∃ stop, d' = d.slice 0 stop) : Aligned (d :: ds) := by
  have hpart : ∀ d' ∈ d :: ds, d'.Uniform ∧ d'.batch.isSome = d.batch.isSome ∧
      (d'.nonTensorBatch = [] ↔ d.nonTensorBatch = []) ∧
      ∀ k, (d'.table k).isSome = (d.table k).isSome := by
    intro d' hd'
    rcases List.mem_cons.mp hd' with rfl | hd'
    · exact ⟨hd, rfl, Iff.rfl, fun _ => rfl⟩
    · obtain ⟨stop, rfl⟩ := h d' hd'
      refine ⟨(items_slice hd 0 stop).2, ?_, List.map_eq_nil_iff, fun k => ?_⟩
      · exact isSome_batch_mapColumns _
      · unfold slice
        rw [table_mapColumns, Option.isSome_map]
  refine ⟨fun d' hd' => (hpart d' hd').1, fun d' hd' => ?_, fun d' hd' d'' hd'' => ?_,
    fun d' hd' d'' hd'' k => ?_⟩
  · rw [(hpart d' hd').2.1, Ne, (hpart d' hd').2.2.1]
    exact hcolumns
  · rw [(hpart d' hd').2.1, (hpart d'' hd'').2.1]
  · rw [(hpart d' hd').2.2.2, (hpart d'' hd'').2.2.2]

theorem paddingProtos_ok (hpos : 0 < d.len) (remainingPad : ℕ) :
    (∀ d' ∈ d.paddingProtos remainingPad, ∃ stop, d' = d.slice 0 stop) ∧
      ((d.paddingProtos remainingPad).map len).sum = remainingPad := by
  induction remainingPad using Nat.strongRecOn with
  | ind remainingPad ih =>
      rw [paddingProtos]
      split
      · rename_i hzero
        obtain rfl : remainingPad = 0 := hzero.resolve_left (by omega)
        exact ⟨fun d' hd' => (nomatch hd'), rfl⟩
      · rename_i hzero
        have htake : 0 < min remainingPad d.len := Nat.lt_min.mpr ⟨by omega, hpos⟩
        obtain ⟨hslices, hsum⟩ := ih (remainingPad - min remainingPad d.len) (by omega)
        refine ⟨?_, ?_⟩
        · intro d' hd'
          rcases List.mem_cons.mp hd' with rfl | hd'
          · exact ⟨_, rfl⟩
          · exact hslices d' hd'
        · rw [List.map_cons, List.sum_cons, hsum, len_slice]
          omega

/-- The padded batch: the rows, then copies of rows, up to a multiple of the divisor. -/
theorem padDataprotoToDivisor_ok [DecidableEq μ] {sizeDivisor : ℕ} (hd : d.Uniform)
    (hcolumns : d.batch.isSome ∨ d.nonTensorBatch ≠ []) (hpos : 0 < d.len)
    (hdivisor : 0 < sizeDivisor) (hnodup : (d.metaInfo.map (·.1)).Nodup) :
    ∃ padded padSize, d.padDataprotoToDivisor sizeDivisor = .ok (padded, padSize) ∧
      padded.Uniform ∧ padded.metaInfo = d.metaInfo ∧ padded.len = d.len + padSize ∧
      sizeDivisor ∣ padded.len ∧ padSize < sizeDivisor ∧
      ∃ copies, padded.items = d.items ++ copies ∧ ∀ row ∈ copies, row ∈ d.items := by
  unfold padDataprotoToDivisor
  rw [raiseIf_neg (by omega)]
  by_cases hmod : d.len % sizeDivisor = 0
  · refine ⟨d, 0, ?_, hd, rfl, rfl, Nat.dvd_of_mod_eq_zero hmod, hdivisor, [], ?_, by simp⟩
    · rw [if_neg (not_not.mpr hmod)]
      rfl
    · rw [List.append_nil]
  · have hlt := Nat.mod_lt d.len hdivisor
    obtain ⟨hslices, hsum⟩ := paddingProtos_ok hpos (sizeDivisor - d.len % sizeDivisor)
    have haligned := aligned_slices hd hcolumns hslices
    obtain ⟨padded, hconcat, hmeta⟩ := concat_exists (List.cons_ne_nil _ _) haligned hnodup (by
      intro d' hd'
      rcases List.mem_cons.mp hd' with rfl | hd'
      · rfl
      · obtain ⟨stop, rfl⟩ := hslices d' hd'
        rfl)
    obtain ⟨hitems, huniform⟩ := items_concat haligned hconcat
    have hlen : padded.len = d.len + (sizeDivisor - d.len % sizeDivisor) := by
      rw [(concat_ok haligned hconcat).1, List.map_cons, List.sum_cons, hsum]
    refine ⟨padded, sizeDivisor - d.len % sizeDivisor, ?_, huniform, hmeta, hlen, ?_, by omega,
      ((d.paddingProtos (sizeDivisor - d.len % sizeDivisor)).map items).flatten, hitems, ?_⟩
    · rw [if_pos hmod]
      exact except_bind_ok.mpr ⟨(), rfl, except_bind_ok.mpr ⟨padded, hconcat, rfl⟩⟩
    · rw [hlen]
      have hdiv := Nat.div_add_mod d.len sizeDivisor
      refine ⟨d.len / sizeDivisor + 1, ?_⟩
      rw [Nat.mul_succ]
      omega
    · intro row hrow
      obtain ⟨rows', hrows', hrow⟩ := List.mem_flatten.mp hrow
      obtain ⟨d', hd', rfl⟩ := List.mem_map.mp hrows'
      obtain ⟨stop, rfl⟩ := hslices d' hd'
      rw [(items_slice hd 0 stop).1, List.drop_zero] at hrow
      exact List.mem_of_mem_take hrow

theorem items_unpadDataproto (hd : d.Uniform) (padSize : ℕ) :
    (d.unpadDataproto padSize).items = d.items.take (d.len - padSize) := by
  unfold unpadDataproto
  split
  · rw [(items_slice hd 0 _).1, List.drop_zero]
  · rename_i hzero
    rw [not_not.mp hzero, Nat.sub_zero, ← length_items, List.take_length]

end Rows

end DataProto

end LookAway.Training
