/-
  ConcatenatedReader of build_trainset.py: the parts of a split archive as one stream of bytes.

  The parts are opened one after the other, each when the one before it is at its end. A file may
  return less than it is asked for, but something before its end (`Files`); whatever it does, the
  calls of `read` return what the same calls return on one stream with the bytes of all the parts
  (`reads_refines`), and no loop takes more rounds than there are bytes and parts left (`cost`).

  Every path can be opened. How short a read is may depend on the path and on what was read from the
  file before: an open file is of any type.
-/
import LookAway.Base.Loop
import LookAway.Data.Rows

namespace LookAway.Data

open LookAway.Base

/-- `open(path, "rb")`, and the files it gives: what is left of a file, and its `read`. A size of -1
    asks for everything. -/
structure Files (π φ : Type) where
  openFile : π → φ
  left : φ → Bytes
  read : φ → ℤ → Bytes × φ
  read_left : ∀ f n, -1 ≤ n → (read f n).1 ++ left (read f n).2 = left f
  read_le : ∀ f n, 0 ≤ n → ((read f n).1.length : ℤ) ≤ n
  read_ne_nil : ∀ f n, -1 ≤ n → n ≠ 0 → left f ≠ [] → (read f n).1 ≠ []

/-- Files that give no more than `k + 1` bytes at a time. -/
def inPieces (k : ℕ) : Files Bytes Bytes where
  openFile bytes := bytes
  left bytes := bytes
  read bytes n := bytes.splitAt (if n < 0 then k + 1 else min (k + 1) n.toNat)
  read_left bytes n _ := by
    rw [List.splitAt_eq]
    exact List.take_append_drop _ bytes
  read_le bytes n hn := by
    rw [List.splitAt_eq, if_neg (by omega)]
    have hle := List.length_take_le (min (k + 1) n.toNat) bytes
    dsimp only
    omega
  read_ne_nil bytes n hn hne hbytes := by
    rw [List.splitAt_eq, Ne, List.take_eq_nil_iff, not_or]
    refine ⟨?_, hbytes⟩
    split <;> omega

/-- The paths that are not opened yet, and the open file. -/
structure ConcatenatedReader (π φ : Type) where
  paths : List π
  current : Option φ

/-- The locals of `read`. -/
structure Reading (π φ : Type) where
  reader : ConcatenatedReader π φ
  chunks : List Bytes
  remaining : ℤ

namespace ConcatenatedReader

variable {π φ : Type}

/-- `ConcatenatedReader(paths)` -/
def init (paths : List π) : ConcatenatedReader π φ := ⟨paths, none⟩

section Reader

variable (files : Files π φ)

/-- A chunk of the open file, with the paths after it. -/
def readChunk (paths : List π) (f : φ) (s : Reading π φ) : Reading π φ :=
  let (chunk, f) := files.read f s.remaining
  if chunk ≠ [] then
    ⟨⟨paths, some f⟩, s.chunks ++ [chunk],
      if 0 < s.remaining then s.remaining - chunk.length else s.remaining⟩
  else ⟨⟨paths, none⟩, s.chunks, s.remaining⟩

/-- The body of the loop. It ends at its test, or when there is no next path. -/
def readRound (s : Reading π φ) : Option (Reading π φ) :=
  if s.remaining = 0 then none
  else
    match s.reader.current, s.reader.paths with
    | some f, paths => some (readChunk files paths f s)
    | none, [] => none
    | none, path :: paths => some (readChunk files paths (files.openFile path) s)

/-- `read(size)`, with so many rounds. -/
def read (fuel : ℕ) (r : ConcatenatedReader π φ) (size : ℤ) :
    Option (Bytes × ConcatenatedReader π φ) :=
  (Loop.rounds (readRound files) fuel ⟨r, [], size⟩).map fun s => (s.chunks.flatten, s.reader)

/-- The calls with these sizes. -/
def reads (fuel : ℕ) (r : ConcatenatedReader π φ) :
    List ℤ → Option (List Bytes × ConcatenatedReader π φ)
  | [] => some ([], r)
  | size :: sizes => do
      let (out, r) ← read files fuel r size
      let (outs, r) ← reads fuel r sizes
      return (out :: outs, r)

/-- The bytes of a part. -/
def content (path : π) : Bytes := files.left (files.openFile path)

/-- The bytes that are not read yet. -/
def unread (r : ConcatenatedReader π φ) : Bytes :=
  r.current.elim [] files.left ++ r.paths.flatMap (content files)

/-- A round reads a byte, opens a part or closes one. -/
def cost (r : ConcatenatedReader π φ) : ℕ :=
  (unread files r).length + r.paths.length + r.current.elim 0 fun _ => 1

end Reader

/-! ## One stream -/

/-- `read(size)` on a stream with these bytes, and the bytes after it. -/
def streamRead (bytes : Bytes) (size : ℤ) : Bytes × Bytes :=
  if size = -1 then (bytes, []) else (bytes.take size.toNat, bytes.drop size.toNat)

def streamReads (bytes : Bytes) : List ℤ → List Bytes
  | [] => []
  | size :: sizes => (streamRead bytes size).1 :: streamReads (streamRead bytes size).2 sizes

/-- What calls with these sizes give of the content: its bytes in order, and each call the bytes it
    asks for, or those that are left. -/
structure InOrder (bytes : Bytes) (sizes : List ℤ) (outs : List Bytes) : Prop where
  length_eq : outs.length = sizes.length
  start : outs.flatten <+: bytes
  sized : ∀ (i : ℕ) (size : ℤ) (out : Bytes), sizes[i]? = some size → outs[i]? = some out →
    0 ≤ size → (out.length : ℤ) = min size (bytes.length - (outs.take i).flatten.length)
  everything : ∀ (i : ℕ) (out : Bytes), sizes[i]? = some (-1) → outs[i]? = some out →
    out = bytes.drop (outs.take i).flatten.length

theorem streamRead_append (bytes : Bytes) (size : ℤ) :
    (streamRead bytes size).1 ++ (streamRead bytes size).2 = bytes := by
  unfold streamRead
  split
  · exact List.append_nil bytes
  · exact List.take_append_drop _ bytes

theorem streamRead_length {bytes : Bytes} {size : ℤ} (h : 0 ≤ size) :
    ((streamRead bytes size).1.length : ℤ) = min size bytes.length := by
  unfold streamRead
  rw [if_neg (by omega), List.length_take]
  omega

/-- One more call, before the others. -/
theorem InOrder.cons {bytes out rest : Bytes} {size : ℤ} {sizes : List ℤ} {outs : List Bytes}
    (happend : out ++ rest = bytes)
    (hsized : 0 ≤ size → (out.length : ℤ) = min size bytes.length)
    (heverything : size = -1 → out = bytes) (h : InOrder rest sizes outs) :
    InOrder bytes (size :: sizes) (out :: outs) where
  length_eq := by rw [List.length_cons, List.length_cons, h.length_eq]
  start := by
    rw [List.flatten_cons, ← happend]
    exact (List.prefix_append_right_inj out).mpr h.start
  sized := by
    intro i n o hn ho hpos
    cases i with
    | zero =>
        obtain rfl : size = n := Option.some.inj hn
        obtain rfl : out = o := Option.some.inj ho
        rw [hsized hpos]
        simp
    | succ i =>
        have hlength := congrArg List.length happend
        rw [List.length_append] at hlength
        rw [h.sized i n o hn ho hpos, List.take_succ_cons, List.flatten_cons, List.length_append]
        omega
  everything := by
    intro i o hn ho
    cases i with
    | zero =>
        obtain rfl : out = o := Option.some.inj ho
        exact heverything (Option.some.inj hn)
    | succ i =>
        rw [h.everything i o hn ho, List.take_succ_cons, List.flatten_cons, List.length_append,
          ← happend, List.drop_length_add_append]

theorem streamReads_inOrder (bytes : Bytes) (sizes : List ℤ) :
    InOrder bytes sizes (streamReads bytes sizes) := by
  induction sizes generalizing bytes with
  | nil => exact ⟨rfl, List.nil_prefix, by simp, by simp⟩
  | cons size sizes ih =>
      refine .cons (streamRead_append bytes size) streamRead_length ?_ (ih _)
      rintro rfl
      rfl

/-! ## The loop -/

section Loops

variable {files : Files π φ} {r : ConcatenatedReader π φ} {s t : Reading π φ} {bytes : Bytes}
  {size : ℤ} {paths : List π} {f : φ} {fuel : ℕ}

/-- Nothing is lost, and what is still to be read is counted down from the size. -/
structure Inv (files : Files π φ) (bytes : Bytes) (size : ℤ) (s : Reading π φ) : Prop where
  bytes_eq : s.chunks.flatten ++ unread files s.reader = bytes
  everything : size = -1 → s.remaining = -1
  counted : 0 ≤ size → 0 ≤ s.remaining ∧ (s.chunks.flatten.length : ℤ) + s.remaining = size

theorem Inv.remaining_ge (h : Inv files bytes size s) (hsize : -1 ≤ size) : -1 ≤ s.remaining := by
  by_cases hall : size = -1
  · have hremaining := h.everything hall
    omega
  · have hcounted := h.counted (by omega)
    omega

theorem unread_some (paths : List π) (f : φ) :
    unread files ⟨paths, some f⟩ = files.left f ++ paths.flatMap (content files) := rfl

theorem unread_none (paths : List π) :
    unread files ⟨paths, none⟩ = paths.flatMap (content files) := rfl

theorem unread_open (path : π) :
    unread files ⟨paths, some (files.openFile path)⟩ = unread files ⟨path :: paths, none⟩ := rfl

theorem cost_some (paths : List π) (f : φ) :
    cost files ⟨paths, some f⟩ = (unread files ⟨paths, some f⟩).length + paths.length + 1 := rfl

theorem cost_none (paths : List π) :
    cost files ⟨paths, none⟩ = (unread files ⟨paths, none⟩).length + paths.length := rfl

/-- A file that gives nothing is at its end. -/
theorem left_eq_nil {n : ℤ} (hn : -1 ≤ n) (hne : n ≠ 0) (h : (files.read f n).1 = []) :
    files.left f = [] := by
  by_contra hleft
  exact files.read_ne_nil f n hn hne hleft h

/-- What a round does: it reads from a file that is open, or from the next one. -/
theorem readRound_cases (h : readRound files s = some t) : s.remaining ≠ 0 ∧
    ∃ paths f, t = readChunk files paths f s ∧
      unread files ⟨paths, some f⟩ = unread files s.reader ∧
      cost files ⟨paths, some f⟩ = cost files s.reader := by
  obtain ⟨⟨paths, current⟩, chunks, remaining⟩ := s
  unfold readRound at h
  split at h
  · cases h
  · rename_i hne
    refine ⟨hne, ?_⟩
    cases current with
    | some f => exact ⟨paths, f, (Option.some.inj h).symm, rfl, rfl⟩
    | none =>
        cases paths with
        | nil => cases h
        | cons path paths =>
            refine ⟨paths, files.openFile path, (Option.some.inj h).symm, unread_open path, ?_⟩
            rw [cost_some, cost_none, unread_open, List.length_cons, Nat.add_assoc]

/-- The loop ends with its count, or with the last part. -/
theorem readRound_end (h : readRound files s = none) :
    s.remaining = 0 ∨ unread files s.reader = [] := by
  obtain ⟨⟨paths, current⟩, chunks, remaining⟩ := s
  unfold readRound at h
  split at h
  · rename_i hzero
    exact .inl hzero
  · cases current with
    | some f => cases h
    | none =>
        cases paths with
        | nil => exact .inr rfl
        | cons path paths => cases h

theorem readChunk_of_ne_nil (h : (files.read f s.remaining).1 ≠ []) :
    readChunk files paths f s =
      ⟨⟨paths, some (files.read f s.remaining).2⟩, s.chunks ++ [(files.read f s.remaining).1],
        if 0 < s.remaining then s.remaining - (files.read f s.remaining).1.length
        else s.remaining⟩ :=
  if_pos h

theorem readChunk_of_nil (h : (files.read f s.remaining).1 = []) :
    readChunk files paths f s = ⟨⟨paths, none⟩, s.chunks, s.remaining⟩ :=
  if_neg (not_not.mpr h)

theorem readChunk_inv (hs : Inv files bytes size s) (hsize : -1 ≤ size) (hne : s.remaining ≠ 0)
    (hunread : unread files ⟨paths, some f⟩ = unread files s.reader) :
    Inv files bytes size (readChunk files paths f s) := by
  have hge := hs.remaining_ge hsize
  have hbytes := hs.bytes_eq
  rw [← hunread, unread_some] at hbytes
  by_cases hchunk : (files.read f s.remaining).1 = []
  · have hleft := left_eq_nil hge hne hchunk
    rw [readChunk_of_nil hchunk]
    refine ⟨?_, hs.everything, hs.counted⟩
    rw [hleft, List.nil_append] at hbytes
    rw [unread_none, hbytes]
  · rw [readChunk_of_ne_nil hchunk]
    refine ⟨?_, ?_, ?_⟩
    · rw [unread_some, List.flatten_append, List.flatten_singleton, List.append_assoc,
        ← List.append_assoc _ (files.left _), files.read_left f s.remaining hge, hbytes]
    · intro hall
      have hremaining := hs.everything hall
      dsimp only
      rw [if_neg (by omega)]
      exact hremaining
    · intro hpos
      obtain ⟨hleast, hcount⟩ := hs.counted hpos
      have hle := files.read_le f s.remaining hleast
      dsimp only
      rw [if_pos (by omega), List.flatten_append, List.length_append, List.flatten_singleton]
      omega

theorem readChunk_cost (hge : -1 ≤ s.remaining) :
    cost files (readChunk files paths f s).reader < cost files ⟨paths, some f⟩ := by
  by_cases hchunk : (files.read f s.remaining).1 = []
  · rw [readChunk_of_nil hchunk, cost_some, cost_none, unread_some, unread_none,
      List.length_append]
    omega
  · have hleft := congrArg List.length (files.read_left f s.remaining hge)
    have hpos := List.length_pos_iff.mpr hchunk
    rw [List.length_append] at hleft
    rw [readChunk_of_ne_nil hchunk, cost_some, cost_some, unread_some, unread_some,
      List.length_append, List.length_append]
    omega

theorem readRound_inv (hsize : -1 ≤ size) (s t : Reading π φ) (hs : Inv files bytes size s)
    (h : readRound files s = some t) :
    Inv files bytes size t ∧ cost files t.reader < cost files s.reader := by
  obtain ⟨hne, paths, f, rfl, hunread, hcost⟩ := readRound_cases h
  refine ⟨readChunk_inv hs hsize hne hunread, ?_⟩
  rw [← hcost]
  exact readChunk_cost (hs.remaining_ge hsize)

/-- At the end the chunks are what one stream gives. -/
theorem Inv.stream (hs : Inv files bytes size s) (hsize : -1 ≤ size)
    (hend : readRound files s = none) :
    streamRead bytes size = (s.chunks.flatten, unread files s.reader) := by
  have hbytes := hs.bytes_eq
  unfold streamRead
  split
  · rename_i hall
    have hremaining := hs.everything hall
    have hnone := (readRound_end hend).resolve_left (by omega)
    rw [hnone, List.append_nil] at hbytes
    rw [hnone, hbytes]
  · obtain ⟨hleast, hcount⟩ := hs.counted (by omega)
    rcases readRound_end hend with hzero | hnone
    · have hlength : size.toNat = s.chunks.flatten.length := by omega
      rw [← hbytes, hlength, List.take_left, List.drop_left]
    · rw [hnone, List.append_nil] at hbytes
      have hlength : bytes.length ≤ size.toNat := by
        rw [← hbytes]
        omega
      rw [List.take_of_length_le hlength, List.drop_eq_nil_of_le hlength, hbytes, hnone]

/-! ## The calls -/

/-- A call ends, and does what it does on one stream. -/
theorem read_refines (hsize : -1 ≤ size) (hfuel : cost files r < fuel) :
    ∃ r', read files fuel r size = some ((streamRead (unread files r) size).1, r') ∧
      unread files r' = (streamRead (unread files r) size).2 ∧ cost files r' ≤ cost files r := by
  have hstart : Inv files (unread files r) size ⟨r, [], size⟩ :=
    ⟨rfl, id, fun hpos => ⟨hpos, by simp⟩⟩
  obtain ⟨s, hs, hinv, hcost, hend⟩ := Loop.rounds_of_measure
    (fun s : Reading π φ => cost files s.reader) (readRound_inv hsize) hstart hfuel
  refine ⟨s.reader, ?_, ?_, hcost⟩
  · unfold read
    rw [hs, hinv.stream hsize hend]
    rfl
  · rw [hinv.stream hsize hend]

/-- Calls in a row do what they do on one stream. -/
theorem reads_refines {sizes : List ℤ} (hsizes : ∀ size ∈ sizes, -1 ≤ size)
    (hfuel : cost files r < fuel) :
    ∃ r', reads files fuel r sizes = some (streamReads (unread files r) sizes, r') := by
  induction sizes generalizing r with
  | nil => exact ⟨r, rfl⟩
  | cons size sizes ih =>
      obtain ⟨hsize, hrest⟩ := List.forall_mem_cons.mp hsizes
      obtain ⟨u, hread, hunread, hcost⟩ := read_refines hsize hfuel
      obtain ⟨r', hreads⟩ := ih hrest (lt_of_le_of_lt hcost hfuel)
      refine ⟨r', ?_⟩
      rw [hunread] at hreads
      rw [reads, hread, Option.bind_eq_bind, Option.bind_some]
      dsimp only
      rw [hreads]
      rfl

end Loops

/-- **The reader is the concatenation of its parts.** A call takes no more rounds than there are
    bytes and parts, and one to see the end. -/
theorem reads_concatenation (files : Files π φ) (paths : List π) (sizes : List ℤ)
    (hsizes : ∀ size ∈ sizes, -1 ≤ size) :
    ∃ outs, InOrder (paths.flatMap (content files)) sizes outs ∧
      ∀ fuel, (paths.flatMap (content files)).length + paths.length < fuel →
        ∃ r, reads files fuel (init paths) sizes = some (outs, r) :=
  ⟨_, streamReads_inOrder _ sizes, fun _ hfuel => reads_refines hsizes hfuel⟩

/-- Three parts, the second of them empty, and files that give a byte at a time. -/
theorem reads_concatenation_sample :
    ∃ outs, InOrder [1, 2, 3] [2, -1] outs ∧ ∀ fuel, 6 < fuel →
      ∃ r, reads (inPieces 0) fuel (init [[1, 2], [], [3]]) [2, -1] = some (outs, r) :=
  reads_concatenation (inPieces 0) [[1, 2], [], [3]] [2, -1] (by decide)

example : (reads (inPieces 0) 7 (init [[1, 2], [], [3]]) [2, -1]).map Prod.fst =
    some [[1, 2], [3]] := by
  decide

end ConcatenatedReader

end LookAway.Data
