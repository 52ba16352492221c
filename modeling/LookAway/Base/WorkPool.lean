/-
  A pool of workers over a queue of tasks, under every interleaving.

  A worker takes a chunk of tasks and works through it. A task stores a value under its key and
  then, reading that key back, has a result; or it fails and has its result at once. The results
  of a finished chunk arrive together and are delivered one by one. `Step` is one step of one
  worker or of the receiver; `Runs` lets them interleave in any order.

  `Runs.results_perm`, `Runs.stored_iff`: neither the delivered results, up to their order, nor
  the stored values depend on the number of workers, on the chunks or on the interleaving.
  `exists_finish`: no pool is stuck. `exists_order`: with a worker for each chunk, the results of
  the chunks can arrive in any order.
-/
import Mathlib.Algebra.BigOperators.Group.List.Basic
import Mathlib.Algebra.Order.Group.Multiset
import Mathlib.Logic.Function.Basic
import Mathlib.Tactic.Abel
import Mathlib.Tactic.Tauto

namespace LookAway.Base.WorkPool

/-- What the outside sees of a pool: a value is stored, or a result is delivered. -/
inductive Event (κ β ρ : Type) where
  | staged (key : κ) (value : β)
  | result (r : ρ)

/-- A task `t` fails with a result, or stores a value under `key t`; `finish` is its result, from
    what it kept and what it finds under its key. -/
structure Job (τ κ β π ρ : Type) where
  key : τ → κ
  start : τ → Except ρ (β × π)
  finish : τ → π → Option β → ρ

inductive Worker (τ π ρ : Type) where
  | idle
  | busy (todo : List τ) (done : List ρ)
  | saved (t : τ) (kept : π) (todo : List τ) (done : List ρ)

/-- The chunks not taken yet, the workers, the results not delivered yet, and the stored values. -/
structure Pool (τ κ β π ρ : Type) where
  tasks : List (List τ)
  workers : List (Worker τ π ρ)
  arrived : List ρ
  store : κ → Option β

/-- `xs` in chunks of `n`; a chunk of zero counts as one. -/
def chunks {τ : Type} (n : ℕ) : List τ → List (List τ)
  | [] => []
  | x :: xs => (x :: xs.take (n - 1)) :: chunks n (xs.drop (n - 1))
termination_by xs => xs.length
decreasing_by
  simp only [List.length_cons, List.length_drop]
  omega

theorem flatten_chunks {τ : Type} (n : ℕ) (xs : List τ) : (chunks n xs).flatten = xs := by
  induction xs using chunks.induct n with
  | case1 => simp [chunks]
  | case2 x xs ih => rw [chunks, List.flatten_cons, ih]; simp

section Pools

variable {τ κ β π ρ : Type} [DecidableEq κ]

/-- `n` idle workers and an empty store. -/
def Pool.start (n : ℕ) (tasks : List (List τ)) : Pool τ κ β π ρ :=
  ⟨tasks, List.replicate n .idle, [], fun _ => none⟩

structure Pool.Finished (p : Pool τ κ β π ρ) : Prop where
  tasks : p.tasks = []
  workers : ∀ w ∈ p.workers, w = .idle
  arrived : p.arrived = []

/-! ## Steps -/

/-- One step of the pool, and what the outside sees of it. -/
inductive Step (job : Job τ κ β π ρ) :
    Pool τ κ β π ρ → List (Event κ β ρ) → Pool τ κ β π ρ → Prop where
  | take {chunk tasks pre post arrived store} :
      Step job ⟨chunk :: tasks, pre ++ .idle :: post, arrived, store⟩ []
        ⟨tasks, pre ++ .busy chunk [] :: post, arrived, store⟩
  | fail {t todo done r tasks pre post arrived store} (h : job.start t = .error r) :
      Step job ⟨tasks, pre ++ .busy (t :: todo) done :: post, arrived, store⟩ []
        ⟨tasks, pre ++ .busy todo (done ++ [r]) :: post, arrived, store⟩
  | save {t todo done b kept tasks pre post arrived store} (h : job.start t = .ok (b, kept)) :
      Step job ⟨tasks, pre ++ .busy (t :: todo) done :: post, arrived, store⟩
        [.staged (job.key t) b]
        ⟨tasks, pre ++ .saved t kept todo done :: post, arrived,
          Function.update store (job.key t) (some b)⟩
  | report {t todo done kept tasks pre post arrived store} :
      Step job ⟨tasks, pre ++ .saved t kept todo done :: post, arrived, store⟩ []
        ⟨tasks, pre ++ .busy todo (done ++ [job.finish t kept (store (job.key t))]) :: post,
          arrived, store⟩
  | finish {done tasks pre post arrived store} :
      Step job ⟨tasks, pre ++ .busy [] done :: post, arrived, store⟩ []
        ⟨tasks, pre ++ .idle :: post, arrived ++ done, store⟩
  | deliver {r tasks workers arrived store} :
      Step job ⟨tasks, workers, r :: arrived, store⟩ [.result r] ⟨tasks, workers, arrived, store⟩

inductive Runs (job : Job τ κ β π ρ) :
    Pool τ κ β π ρ → List (Event κ β ρ) → Pool τ κ β π ρ → Prop where
  | refl {p} : Runs job p [] p
  | head {p q r es es'} (h : Step job p es q) (hr : Runs job q es' r) : Runs job p (es ++ es') r

/-- The delivered results, in order. -/
def results (es : List (Event κ β ρ)) : List ρ :=
  es.filterMap fun
    | .staged _ _ => none
    | .result r => some r

/-- The store after some events, over the store before them. -/
def storeAfter (store : κ → Option β) (es : List (Event κ β ρ)) : κ → Option β :=
  es.foldl (fun acc e =>
    match e with
    | .staged k b => Function.update acc k (some b)
    | .result _ => acc) store

/-- The result of a task that finds its own value. -/
def outcome (job : Job τ κ β π ρ) (t : τ) : ρ :=
  match job.start t with
  | .error r => r
  | .ok (b, kept) => job.finish t kept (some b)

/-- The value a task stores. -/
def value? (job : Job τ κ β π ρ) (t : τ) : Option β :=
  match job.start t with
  | .error _ => none
  | .ok (b, _) => some b

/-! ## Nothing is lost or duplicated -/

/-- The results a worker owes. -/
def Worker.share (job : Job τ κ β π ρ) : Worker τ π ρ → Multiset ρ
  | .idle => 0
  | .busy todo done => done + todo.map (outcome job)
  | .saved t _ todo done => done + {outcome job t} + todo.map (outcome job)

def Worker.todo : Worker τ π ρ → List τ
  | .idle => []
  | .busy todo _ => todo
  | .saved _ _ todo _ => todo

@[simp] theorem todo_idle : (Worker.idle : Worker τ π ρ).todo = [] := rfl

@[simp] theorem todo_busy (todo : List τ) (done : List ρ) :
    (Worker.busy todo done : Worker τ π ρ).todo = todo := rfl

@[simp] theorem todo_saved (t : τ) (kept : π) (todo : List τ) (done : List ρ) :
    (Worker.saved t kept todo done).todo = todo := rfl

/-- The results that a pool still owes. -/
def Pool.owed (job : Job τ κ β π ρ) (p : Pool τ κ β π ρ) : Multiset ρ :=
  p.arrived + (p.workers.map (Worker.share job)).sum + p.tasks.flatten.map (outcome job)

/-- Nobody has started on the task yet. -/
def Pool.Pending (p : Pool τ κ β π ρ) (t : τ) : Prop :=
  t ∈ p.tasks.flatten ∨ ∃ w ∈ p.workers, t ∈ w.todo

/-- A worker that has saved a task finds its value. -/
def Worker.Finds (job : Job τ κ β π ρ) (store : κ → Option β) : Worker τ π ρ → Prop
  | .idle => True
  | .busy _ _ => True
  | .saved t kept _ _ => ∃ b, job.start t = .ok (b, kept) ∧ store (job.key t) = some b

/-- The values in the store are those of tasks in `all`, and those of every one of them that is
    no longer pending. -/
structure Pool.Inv (job : Job τ κ β π ρ) (all : List τ) (p : Pool τ κ β π ρ) : Prop where
  finds : ∀ w ∈ p.workers, w.Finds job p.store
  known : ∀ t, p.Pending t → t ∈ all
  sound : ∀ k b, p.store k = some b → ∃ t ∈ all, job.key t = k ∧ value? job t = some b
  complete : ∀ t ∈ all, p.Pending t ∨ ∀ b, value? job t = some b → p.store (job.key t) = some b

section Outcome

variable {job : Job τ κ β π ρ} {t : τ} {r : ρ} {b : β} {kept : π}

omit [DecidableEq κ]

theorem outcome_of_error (h : job.start t = .error r) : outcome job t = r := by
  unfold outcome
  rw [h]

theorem outcome_of_ok (h : job.start t = .ok (b, kept)) :
    outcome job t = job.finish t kept (some b) := by
  unfold outcome
  rw [h]

theorem value?_of_error (h : job.start t = .error r) : value? job t = none := by
  unfold value?
  rw [h]

theorem value?_of_ok (h : job.start t = .ok (b, kept)) : value? job t = some b := by
  unfold value?
  rw [h]

/-- What a pool owes, with one of its workers apart from the others. -/
theorem owed_at (w : Worker τ π ρ) {tasks : List (List τ)} {pre post : List (Worker τ π ρ)}
    {arrived : List ρ} {store : κ → Option β} :
    Pool.owed job ⟨tasks, pre ++ w :: post, arrived, store⟩ =
      w.share job + (arrived + tasks.flatten.map (outcome job)) +
        ((pre ++ post).map (Worker.share job)).sum := by
  simp only [Pool.owed, List.map_append, List.map_cons, List.sum_append, List.sum_cons]
  abel

end Outcome

variable {job : Job τ κ β π ρ} {p q r : Pool τ κ β π ρ} {es es' : List (Event κ β ρ)}
  {all : List τ}

/-- What a step delivers is no longer owed. -/
theorem Step.owed (h : Step job p es q) (hp : ∀ w ∈ p.workers, w.Finds job p.store) :
    p.owed job = results es + q.owed job := by
  cases h with
  | take =>
      simp only [owed_at, results, Worker.share, List.flatten_cons, List.map_append,
        ← Multiset.coe_add, List.filterMap_nil, Multiset.coe_nil]
      abel
  | fail hr =>
      simp only [owed_at, results, Worker.share, outcome_of_error hr, List.map_cons,
        ← Multiset.coe_add, ← Multiset.cons_coe, ← Multiset.singleton_add, List.filterMap_nil,
        Multiset.coe_nil]
      abel
  | save hr =>
      simp only [owed_at, results, Worker.share, List.map_cons, ← Multiset.cons_coe,
        ← Multiset.singleton_add, List.filterMap_cons, List.filterMap_nil, Multiset.coe_nil]
      abel
  | @report t todo done kept tasks pre post arrived store =>
      obtain ⟨b, hb, hstore⟩ := hp (.saved t kept todo done) (by simp)
      dsimp only at hstore
      simp only [owed_at, results, Worker.share, hstore, outcome_of_ok hb, ← Multiset.coe_add,
        ← Multiset.cons_coe, ← Multiset.singleton_add, List.filterMap_nil, Multiset.coe_nil]
      abel
  | finish =>
      simp only [owed_at, results, Worker.share, List.map_nil, ← Multiset.coe_add,
        List.filterMap_nil, Multiset.coe_nil]
      abel
  | deliver =>
      simp only [Pool.owed, results, ← Multiset.cons_coe, ← Multiset.singleton_add,
        List.filterMap_cons, List.filterMap_nil, Multiset.coe_nil]
      abel

/-! ## The store -/

theorem storeAfter_append (store : κ → Option β) :
    storeAfter store (es ++ es') = storeAfter (storeAfter store es) es' :=
  List.foldl_append

omit [DecidableEq κ] in
theorem results_append : results (es ++ es') = results es ++ results es' :=
  List.filterMap_append

theorem Step.store (h : Step job p es q) : q.store = storeAfter p.store es := by
  cases h <;> rfl

/-- A worker keeps finding its value: another one writes it only if it has the same task. -/
theorem Worker.Finds.update (hkey : Function.Injective job.key) {store : κ → Option β}
    {w : Worker τ π ρ} (h : w.Finds job store) {t : τ} {b : β} {kept : π}
    (hr : job.start t = .ok (b, kept)) :
    w.Finds job (Function.update store (job.key t) (some b)) := by
  cases w with
  | idle => trivial
  | busy todo done => trivial
  | saved u kept' todo done =>
      obtain ⟨c, hc, hstore⟩ := h
      by_cases hu : u = t
      · subst hu
        rw [hr] at hc
        cases hc
        exact ⟨b, hr, Function.update_self ..⟩
      · refine ⟨c, hc, ?_⟩
        rw [Function.update_of_ne (fun h => hu (hkey h)), hstore]

omit [DecidableEq κ] in
theorem pending_at (w : Worker τ π ρ) {t : τ} {tasks : List (List τ)}
    {pre post : List (Worker τ π ρ)} {arrived : List ρ} {store : κ → Option β} :
    Pool.Pending ⟨tasks, pre ++ w :: post, arrived, store⟩ t ↔
      t ∈ w.todo ∨ t ∈ tasks.flatten ∨ ∃ v ∈ pre ++ post, t ∈ v.todo := by
  simp only [Pool.Pending, List.mem_append, List.mem_cons, or_and_right, exists_or,
    exists_eq_left]
  rw [or_left_comm (a := ∃ x, x ∈ pre ∧ t ∈ x.todo), or_left_comm]

omit [DecidableEq κ] in
/-- A step that stores nothing keeps the invariant, if it starts no task with a value. -/
theorem Pool.Inv.of_same (hp : p.Inv job all) (hstore : q.store = p.store)
    (hfinds : ∀ w ∈ q.workers, w.Finds job q.store) (hknown : ∀ t, q.Pending t → p.Pending t)
    (hleft : ∀ t, p.Pending t → q.Pending t ∨ value? job t = none) : q.Inv job all where
  finds := hfinds
  known t ht := hp.known t (hknown t ht)
  sound := hstore ▸ hp.sound
  complete t ht := by
    rcases hp.complete t ht with hpending | hvalue
    · refine (hleft t hpending).imp_right fun hnone b hb => ?_
      rw [hnone] at hb
      cases hb
    · exact .inr (hstore ▸ hvalue)

omit [DecidableEq κ] in
/-- What every worker finds, with one of them apart. -/
theorem finds_at {w : Worker τ π ρ} {pre post : List (Worker τ π ρ)} {store : κ → Option β} :
    (∀ v ∈ pre ++ w :: post, v.Finds job store) ↔
      w.Finds job store ∧ ∀ v ∈ pre ++ post, v.Finds job store := by
  simp only [List.forall_mem_append, List.forall_mem_cons]
  exact and_left_comm

/-- A step that stores the value of a pending task keeps the invariant. -/
theorem Pool.Inv.of_stored (hkey : Function.Injective job.key) (hp : p.Inv job all) {t : τ} {b : β}
    (hvalue : value? job t = some b) (ht : p.Pending t)
    (hstore : q.store = Function.update p.store (job.key t) (some b))
    (hfinds : ∀ w ∈ q.workers, w.Finds job q.store) (hknown : ∀ u, q.Pending u → p.Pending u)
    (hleft : ∀ u, p.Pending u → u = t ∨ q.Pending u) : q.Inv job all where
  finds := hfinds
  known u hu := hp.known u (hknown u hu)
  sound k c hc := by
    rw [hstore] at hc
    by_cases hk : k = job.key t
    · subst hk
      rw [Function.update_self] at hc
      cases hc
      exact ⟨t, hp.known t ht, rfl, hvalue⟩
    · rw [Function.update_of_ne hk] at hc
      exact hp.sound k c hc
  complete u hu := by
    rw [hstore]
    by_cases hut : u = t
    · subst hut
      refine .inr fun c hc => ?_
      rw [hvalue] at hc
      cases hc
      exact Function.update_self ..
    · rcases hp.complete u hu with hu' | hu'
      · exact .inl ((hleft u hu').resolve_left hut)
      · refine .inr fun c hc => ?_
        rw [Function.update_of_ne (fun h => hut (hkey h))]
        exact hu' c hc

theorem Step.inv (hkey : Function.Injective job.key) (h : Step job p es q) (hp : p.Inv job all) :
    q.Inv job all := by
  have hfinds := hp.finds
  cases h with
  | @take chunk tasks pre post arrived store =>
      refine hp.of_same rfl (finds_at.mpr ⟨trivial, (finds_at.mp hfinds).2⟩) ?_ ?_
      · intro t
        simp only [pending_at, todo_idle, todo_busy, List.flatten_cons, List.mem_append,
          List.not_mem_nil, false_or]
        exact or_assoc.mpr
      · intro t
        simp only [pending_at, todo_idle, todo_busy, List.flatten_cons, List.mem_append,
          List.not_mem_nil, false_or]
        exact fun h => .inl (or_assoc.mp h)
  | @fail t todo done r tasks pre post arrived store hr =>
      refine hp.of_same rfl (finds_at.mpr ⟨trivial, (finds_at.mp hfinds).2⟩) ?_ ?_
      · intro u
        simp only [pending_at, todo_busy, List.mem_cons]
        tauto
      · intro u
        simp only [pending_at, todo_busy, List.mem_cons]
        rintro ((rfl | hu) | hu)
        · exact .inr (value?_of_error hr)
        · exact .inl (.inl hu)
        · exact .inl (.inr hu)
  | @save t todo done b kept tasks pre post arrived store hr =>
      refine hp.of_stored hkey (value?_of_ok hr) (by simp [pending_at]) rfl
        (finds_at.mpr ⟨⟨b, hr, Function.update_self ..⟩, fun w hw => ?_⟩) ?_ ?_
      · exact ((finds_at.mp hfinds).2 w hw).update hkey hr
      · intro u
        simp only [pending_at, todo_busy, todo_saved, List.mem_cons]
        tauto
      · intro u
        simp only [pending_at, todo_busy, todo_saved, List.mem_cons]
        tauto
  | @report t todo done kept tasks pre post arrived store =>
      refine hp.of_same rfl (finds_at.mpr ⟨trivial, (finds_at.mp hfinds).2⟩) ?_ ?_
      · intro u
        simp only [pending_at, todo_busy, todo_saved]
        exact id
      · intro u
        simp only [pending_at, todo_busy, todo_saved]
        exact .inl
  | @finish done tasks pre post arrived store =>
      refine hp.of_same rfl (finds_at.mpr ⟨trivial, (finds_at.mp hfinds).2⟩) ?_ ?_
      · intro u
        simp only [pending_at, todo_idle, todo_busy]
        exact id
      · intro u
        simp only [pending_at, todo_idle, todo_busy]
        exact .inl
  | deliver => exact hp.of_same rfl hfinds (fun _ ht => ht) fun _ ht => .inl ht

/-! ## Whole runs -/

theorem Runs.inv (hkey : Function.Injective job.key) (h : Runs job p es q) (hp : p.Inv job all) :
    q.Inv job all := by
  induction h with
  | refl => exact hp
  | head hstep _ ih => exact ih (hstep.inv hkey hp)

theorem Runs.owed (hkey : Function.Injective job.key) (h : Runs job p es q)
    (hp : p.Inv job all) : p.owed job = results es + q.owed job := by
  induction h with
  | refl => simp [results]
  | head hstep _ ih =>
      rw [hstep.owed hp.finds, ih (hstep.inv hkey hp), results_append, ← Multiset.coe_add,
        add_assoc]

theorem Runs.store (h : Runs job p es q) : q.store = storeAfter p.store es := by
  induction h with
  | refl => rfl
  | head hstep _ ih => rw [ih, hstep.store, storeAfter_append]

section Start

variable {n : ℕ} {tasks : List (List τ)}

omit [DecidableEq κ] in
theorem start_inv : (Pool.start n tasks : Pool τ κ β π ρ).Inv job tasks.flatten where
  finds w hw := by
    rw [List.eq_of_mem_replicate hw]
    trivial
  known t ht := by
    rcases ht with ht | ⟨w, hw, ht⟩
    · exact ht
    · rw [List.eq_of_mem_replicate hw] at ht
      exact absurd ht List.not_mem_nil
  sound k b h := by cases h
  complete t ht := .inl (.inl ht)

omit [DecidableEq κ] in
theorem start_owed : (Pool.start n tasks : Pool τ κ β π ρ).owed job =
    tasks.flatten.map (outcome job) := by
  simp [Pool.owed, Pool.start, Worker.share]

omit [DecidableEq κ] in
theorem Pool.Finished.owed (h : q.Finished) : q.owed job = 0 := by
  have hshare : ∀ x ∈ q.workers.map (Worker.share job), x = 0 := by
    intro x hx
    obtain ⟨w, hw, rfl⟩ := List.mem_map.mp hx
    rw [h.workers w hw]
    rfl
  simp [Pool.owed, h.tasks, h.arrived, List.sum_eq_zero hshare]

omit [DecidableEq κ] in
theorem Pool.Finished.not_pending (h : q.Finished) (t : τ) : ¬q.Pending t := by
  rintro (ht | ⟨w, hw, ht⟩)
  · rw [h.tasks] at ht
    exact absurd ht List.not_mem_nil
  · rw [h.workers w hw] at ht
    exact absurd ht List.not_mem_nil

/-- **Every finished run delivers the result of each task exactly once**, whatever the number of
    workers and the interleaving. -/
theorem Runs.results_perm (hkey : Function.Injective job.key)
    (h : Runs job (Pool.start n tasks) es q) (hq : q.Finished) :
    (results es).Perm (tasks.flatten.map (outcome job)) := by
  have howed := h.owed hkey start_inv
  rw [start_owed, hq.owed, add_zero] at howed
  exact (Multiset.coe_eq_coe.mp howed).symm

/-- **Every finished run has stored the value of each task that has one**, and nothing else. -/
theorem Runs.stored_iff (hkey : Function.Injective job.key)
    (h : Runs job (Pool.start n tasks) es q) (hq : q.Finished) (k : κ) (b : β) :
    storeAfter (fun _ => none) es k = some b ↔
      ∃ t ∈ tasks.flatten, job.key t = k ∧ value? job t = some b := by
  have hinv := h.inv hkey start_inv
  have hstore : q.store = storeAfter (fun _ => none) es := h.store
  rw [← hstore]
  constructor
  · exact hinv.sound k b
  · rintro ⟨t, ht, rfl, hvalue⟩
    exact (hinv.complete t ht).resolve_left (hq.not_pending t) b hvalue

end Start

/-! ## No pool is stuck -/

/-- The steps a worker has left to do. -/
def Worker.work : Worker τ π ρ → ℕ
  | .idle => 0
  | .busy todo done => 3 * todo.length + done.length + 1
  | .saved _ _ todo done => 3 * todo.length + done.length + 3

def Pool.work (p : Pool τ κ β π ρ) : ℕ :=
  (p.tasks.map fun chunk => 3 * chunk.length + 2).sum + (p.workers.map Worker.work).sum +
    p.arrived.length

theorem Step.work (h : Step job p es q) : q.work < p.work := by
  cases h <;>
    simp only [Pool.work, Worker.work, List.map_append, List.map_cons, List.sum_append,
      List.sum_cons, List.length_append, List.length_cons, List.length_nil] <;>
    omega

theorem Step.workers (h : Step job p es q) : q.workers.length = p.workers.length := by
  cases h <;> simp

/-- A pool with a worker can take a step until it has finished. -/
theorem exists_step (hw : p.workers ≠ []) (hp : ¬p.Finished) : ∃ es q, Step job p es q := by
  obtain ⟨tasks, workers, arrived, store⟩ := p
  by_cases hidle : ∀ w ∈ workers, w = .idle
  · obtain ⟨w, post, rfl⟩ := List.exists_cons_of_ne_nil hw
    obtain rfl := hidle w (by simp)
    cases tasks with
    | cons chunk tasks =>
        rw [← List.nil_append (.idle :: post)]
        exact ⟨_, _, .take⟩
    | nil =>
        cases arrived with
        | cons r arrived => exact ⟨_, _, .deliver⟩
        | nil => exact absurd ⟨rfl, hidle, rfl⟩ hp
  · push Not at hidle
    obtain ⟨w, hmem, hne⟩ := hidle
    obtain ⟨pre, post, rfl⟩ := List.append_of_mem hmem
    cases w with
    | idle => exact absurd rfl hne
    | saved t kept todo done => exact ⟨_, _, .report⟩
    | busy todo done =>
        cases todo with
        | nil => exact ⟨_, _, .finish⟩
        | cons t todo =>
            cases hr : job.start t with
            | error r => exact ⟨_, _, .fail hr⟩
            | ok x =>
                obtain ⟨b, kept⟩ := x
                exact ⟨_, _, .save hr⟩

theorem Runs.trans (h : Runs job p es q) (h' : Runs job q es' r) : Runs job p (es ++ es') r := by
  induction h with
  | refl => exact h'
  | head hstep _ ih =>
      rw [List.append_assoc]
      exact .head hstep (ih h')

theorem Runs.workers (h : Runs job p es q) : q.workers.length = p.workers.length := by
  induction h with
  | refl => rfl
  | head hstep _ ih => rw [ih, hstep.workers]

/-- A pool with a worker can be finished. -/
theorem exists_finish (hw : p.workers ≠ []) : ∃ es q, Runs job p es q ∧ q.Finished := by
  induction hn : p.work using Nat.strong_induction_on generalizing p with
  | _ n ih =>
      by_cases hp : p.Finished
      · exact ⟨[], p, .refl, hp⟩
      · obtain ⟨es, q, hstep⟩ : ∃ es q, Step job p es q := exists_step hw hp
        have hq : q.workers ≠ [] := by
          rw [← List.length_pos_iff, hstep.workers]
          exact List.length_pos_iff.mpr hw
        obtain ⟨es', r, hruns, hr⟩ := ih q.work (hn ▸ hstep.work) hq rfl
        exact ⟨es ++ es', r, .head hstep hruns, hr⟩

/-- Whatever the workers have done so far, they can finish. -/
theorem Runs.exists_finish {n : ℕ} {tasks : List (List τ)}
    (h : Runs job (Pool.start (n + 1) tasks) es p) :
    ∃ es' q, Runs job (Pool.start (n + 1) tasks) (es ++ es') q ∧ q.Finished := by
  have hlength : p.workers.length = n + 1 := by
    rw [h.workers]
    exact List.length_replicate
  have hw : p.workers ≠ [] := by
    intro hnil
    rw [hnil] at hlength
    cases hlength
  obtain ⟨es', q, hruns, hq⟩ := WorkPool.exists_finish hw
  exact ⟨es', q, h.trans hruns, hq⟩

/-! ## The chunks arrive in any order -/

/-- A worker works through its chunk while the others wait. -/
theorem exists_runs_busy (todo : List τ) (done : List ρ) {tasks : List (List τ)}
    {pre post : List (Worker τ π ρ)} {arrived : List ρ} (store : κ → Option β) :
    ∃ es store', results es = [] ∧
      Runs job ⟨tasks, pre ++ .busy todo done :: post, arrived, store⟩ es
        ⟨tasks, pre ++ .idle :: post, arrived ++ (done ++ todo.map (outcome job)), store'⟩ := by
  induction todo generalizing done store with
  | nil =>
      rw [List.map_nil, List.append_nil]
      exact ⟨_, _, rfl, .head .finish .refl⟩
  | cons t todo ih =>
      rw [List.map_cons, List.append_cons done]
      cases hr : job.start t with
      | error r =>
          obtain ⟨es, store', hes, hruns⟩ := ih (done ++ [r]) store
          rw [outcome_of_error hr]
          exact ⟨_, store', by simpa using hes, .head (.fail hr) hruns⟩
      | ok x =>
          obtain ⟨b, kept⟩ := x
          -- nobody overwrites the value before it is read back
          have hread := Function.update_self (job.key t) (some b) store
          rw [outcome_of_ok hr, ← hread]
          obtain ⟨es, store', hes, hruns⟩ := ih (done ++ [job.finish t kept _]) _
          refine ⟨_, store', ?_, .head (.save hr) (.head .report hruns)⟩
          rw [results_append, results_append, hes]
          rfl

/-- Every chunk finds a worker. -/
theorem exists_runs_take (tasks : List (List τ)) (m : ℕ) (pre : List (Worker τ π ρ))
    {store : κ → Option β} :
    ∃ es, results es = [] ∧
      Runs job ⟨tasks, pre ++ List.replicate (tasks.length + m) .idle, [], store⟩ es
        ⟨[], pre ++ (tasks.map (.busy · []) ++ List.replicate m .idle), [], store⟩ := by
  induction tasks generalizing pre with
  | nil =>
      rw [List.length_nil, Nat.zero_add]
      exact ⟨[], rfl, .refl⟩
  | cons chunk tasks ih =>
      obtain ⟨es, hes, hruns⟩ := ih (pre ++ [.busy chunk []])
      rw [List.append_assoc, List.append_assoc] at hruns
      rw [List.length_cons, Nat.succ_add, List.replicate_succ]
      exact ⟨_, hes, .head .take hruns⟩

/-- The busy workers finish in this order. -/
theorem exists_runs_order (order : List (List τ)) {m : ℕ} {workers : List (Worker τ π ρ)}
    (hworkers : workers.Perm (order.map (.busy · []) ++ List.replicate m .idle))
    (arrived : List ρ) (store : κ → Option β) :
    ∃ es workers' store', results es = [] ∧ (∀ w ∈ workers', w = .idle) ∧
      Runs job ⟨[], workers, arrived, store⟩ es
        ⟨[], workers', arrived ++ order.flatten.map (outcome job), store'⟩ := by
  induction order generalizing m workers arrived store with
  | nil =>
      rw [List.flatten_nil, List.map_nil, List.append_nil]
      refine ⟨[], workers, store, rfl, fun w hw => ?_, .refl⟩
      exact List.eq_of_mem_replicate (hworkers.mem_iff.mp hw)
  | cons chunk order ih =>
      rw [List.map_cons, List.cons_append] at hworkers
      obtain ⟨pre, post, rfl⟩ := List.append_of_mem (hworkers.symm.mem_iff.mp List.mem_cons_self)
      have hrest : (pre ++ .idle :: post).Perm
          (order.map (.busy · []) ++ List.replicate (m + 1) (.idle : Worker τ π ρ)) := by
        refine List.perm_middle.trans ?_
        rw [List.replicate_succ]
        exact ((List.perm_middle.symm.trans hworkers).cons_inv.cons _).trans List.perm_middle.symm
      obtain ⟨es, store₁, hes, hbusy⟩ : ∃ es store₁, results es = [] ∧
          Runs job ⟨[], pre ++ .busy chunk [] :: post, arrived, store⟩ es
            ⟨[], pre ++ .idle :: post, arrived ++ chunk.map (outcome job), store₁⟩ :=
        exists_runs_busy chunk [] store
      obtain ⟨es', workers', store', hes', hidle, hruns⟩ :=
        ih hrest (arrived ++ chunk.map (outcome job)) store₁
      refine ⟨es ++ es', workers', store', by rw [results_append, hes, hes']; rfl, hidle, ?_⟩
      rw [List.flatten_cons, List.map_append, ← List.append_assoc]
      exact hbusy.trans hruns

theorem exists_runs_deliver (workers : List (Worker τ π ρ)) (arrived : List ρ)
    (store : κ → Option β) :
    ∃ es, results es = arrived ∧
      Runs job ⟨[], workers, arrived, store⟩ es ⟨[], workers, [], store⟩ := by
  induction arrived with
  | nil => exact ⟨[], rfl, .refl⟩
  | cons r arrived ih =>
      obtain ⟨es, hes, hruns⟩ := ih
      refine ⟨_, ?_, .head .deliver hruns⟩
      rw [results_append, hes]
      rfl

/-- **The chunks can arrive in any order**, if there is a worker for each. -/
theorem exists_order (job : Job τ κ β π ρ) {tasks order : List (List τ)} {n : ℕ}
    (hn : tasks.length ≤ n) (hperm : order.Perm tasks) :
    ∃ es q, Runs job (Pool.start n tasks) es q ∧ q.Finished ∧
      results es = order.flatten.map (outcome job) := by
  obtain ⟨m, rfl⟩ := Nat.exists_eq_add_of_le hn
  obtain ⟨es₁, hes₁, htake⟩ : ∃ es, results es = [] ∧
      Runs job (Pool.start (tasks.length + m) tasks) es
        ⟨[], tasks.map (.busy · []) ++ List.replicate m .idle, [], fun _ => none⟩ :=
    exists_runs_take tasks m []
  obtain ⟨es₂, workers, store, hes₂, hidle, hwork⟩ : ∃ es workers store, results es = [] ∧
      (∀ w ∈ workers, w = .idle) ∧
      Runs job ⟨[], tasks.map (.busy · []) ++ List.replicate m .idle, [], fun _ => none⟩ es
        ⟨[], workers, order.flatten.map (outcome job), store⟩ :=
    exists_runs_order order ((hperm.symm.map _).append_right _) [] fun _ => none
  obtain ⟨es₃, hes₃, hdeliver⟩ : ∃ es, results es = order.flatten.map (outcome job) ∧
      Runs job ⟨[], workers, order.flatten.map (outcome job), store⟩ es ⟨[], workers, [], store⟩ :=
    exists_runs_deliver workers _ store
  refine ⟨_, _, htake.trans (hwork.trans hdeliver), ⟨rfl, hidle, rfl⟩, ?_⟩
  rw [results_append, results_append, hes₁, hes₂, hes₃]
  rfl

end Pools

end LookAway.Base.WorkPool
