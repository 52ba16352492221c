/-
  Scripts that can be interrupted at every step, and a program logic for them.

  A script runs against a schedule of verdicts, one for each step: the step proceeds, raises
  with part of its effect done, or the process stops there with part of it done. The final
  states of the stopped runs are the states an observer can find between any two steps.
  `wp c Q E C s` says that from `s` and under every schedule `c` returns in `Q`, raises in `E`
  or stops in `C`; the rules are `wp_bind`, `wp_act`, `wp_tryExcept`, `wp_tryFinally`,
  `wp_forEach` and `wp_mono`. `Keeps I c` is an invariant of all three exits.
-/
import Mathlib.Data.List.Basic
import Mathlib.Tactic.Common

namespace LookAway.Base

/-! ## Scripts -/

/-- What happens to one step: it proceeds, it raises `e` after `progress` of its effect, or the
    process stops after `progress` of its effect. -/
inductive Verdict (ε : Type) where
  | proceed
  | fail (e : ε) (progress : ℕ)
  | stop (progress : ℕ)

inductive Outcome (ε α : Type) where
  | done (a : α)
  | raised (e : ε)
  | stopped
  deriving DecidableEq

/-- A finished run: its outcome, the verdicts it has not used, and the state it leaves. -/
structure Ran (σ ε α : Type) where
  outcome : Outcome ε α
  rest : List (Verdict ε)
  state : σ

/-- A script over states `σ` that raises `ε`. A schedule that has run out lets every step
    proceed. -/
structure Script (σ ε α : Type) where
  run : List (Verdict ε) → σ → Ran σ ε α

namespace Script

variable {σ ε α β : Type}

def settle (r : Except ε (α × σ)) (rest : List (Verdict ε)) (s : σ) : Ran σ ε α :=
  match r with
  | .ok (a, s') => ⟨.done a, rest, s'⟩
  | .error e => ⟨.raised e, rest, s⟩

/-- One step. `onFail` and `onStop` give the part of the effect that is left behind. -/
def act (f : σ → Except ε (α × σ)) (onFail onStop : ℕ → σ → σ) : Script σ ε α where
  run faults s :=
    match faults with
    | [] => settle (f s) [] s
    | .proceed :: rest => settle (f s) rest s
    | .fail e n :: rest => ⟨.raised e, rest, onFail n s⟩
    | .stop n :: rest => ⟨.stopped, rest, onStop n s⟩

def ret (a : α) : Script σ ε α where
  run faults s := ⟨.done a, faults, s⟩

def andThen (c : Script σ ε α) (k : α → Script σ ε β) : Script σ ε β where
  run faults s :=
    match c.run faults s with
    | ⟨.done a, rest, s'⟩ => (k a).run rest s'
    | ⟨.raised e, rest, s'⟩ => ⟨.raised e, rest, s'⟩
    | ⟨.stopped, rest, s'⟩ => ⟨.stopped, rest, s'⟩

instance : Monad (Script σ ε) where
  pure := ret
  bind := andThen

/-- A step that happens wholly or not at all. -/
def atomic (f : σ → σ) : Script σ ε Unit :=
  act (fun s => .ok ((), f s)) (fun _ s => s) (fun _ s => s)

/-- A step that can be left half done. -/
def write (f : σ → σ) (torn : ℕ → σ → σ) : Script σ ε Unit :=
  act (fun s => .ok ((), f s)) torn torn

/-- A step that reads the state, or raises on what it reads. -/
def read (g : σ → Except ε α) : Script σ ε α :=
  act (fun s => (g s).map fun a => (a, s)) (fun _ s => s) (fun _ s => s)

def raise (e : ε) : Script σ ε α where
  run faults s := ⟨.raised e, faults, s⟩

/-- `try c except catches e: handler e`. -/
def tryExcept (c : Script σ ε α) (catches : ε → Bool) (handler : ε → Script σ ε α) :
    Script σ ε α where
  run faults s :=
    match c.run faults s with
    | ⟨.raised e, rest, s'⟩ =>
        if catches e then (handler e).run rest s' else ⟨.raised e, rest, s'⟩
    | r => r

/-- `try c finally fin`: `fin` runs when `c` returns or raises, not when the process stops. -/
def tryFinally (c : Script σ ε α) (fin : Script σ ε Unit) : Script σ ε α where
  run faults s :=
    match c.run faults s with
    | ⟨.done a, rest, s'⟩ => (fin.andThen fun _ => ret a).run rest s'
    | ⟨.raised e, rest, s'⟩ => (fin.andThen fun _ => raise e).run rest s'
    | ⟨.stopped, rest, s'⟩ => ⟨.stopped, rest, s'⟩

def forEach (xs : List β) (body : β → Script σ ε Unit) : Script σ ε Unit :=
  match xs with
  | [] => pure ()
  | x :: rest => do
      body x
      forEach rest body

/-! ## The logic -/

/-- Every run of `c` from `s` returns in `Q`, raises in `E` or stops in `C`. -/
def wp (c : Script σ ε α) (Q : α → σ → Prop) (E : ε → σ → Prop) (C : σ → Prop) (s : σ) : Prop :=
  ∀ faults, match c.run faults s with
    | ⟨.done a, _, s'⟩ => Q a s'
    | ⟨.raised e, _, s'⟩ => E e s'
    | ⟨.stopped, _, s'⟩ => C s'

variable {Q Q' : α → σ → Prop} {E E' : ε → σ → Prop} {C C' : σ → Prop} {s : σ}
  {c : Script σ ε α}

theorem wp_pure {a : α} (h : Q a s) : wp (pure a) Q E C s := fun _ => h

theorem wp_raise {e : ε} (h : E e s) : wp (raise e) Q E C s := fun _ => h

theorem wp_act {f : σ → Except ε (α × σ)} {onFail onStop : ℕ → σ → σ}
    (hfail : ∀ e n, E e (onFail n s)) (hstop : ∀ n, C (onStop n s))
    (hok : ∀ a s', f s = .ok (a, s') → Q a s') (herr : ∀ e, f s = .error e → E e s) :
    wp (act f onFail onStop) Q E C s := by
  have hsettle : ∀ rest, match settle (f s) rest s with
      | ⟨.done a, _, s'⟩ => Q a s'
      | ⟨.raised e, _, s'⟩ => E e s'
      | ⟨.stopped, _, s'⟩ => C s' := by
    intro rest
    unfold settle
    cases hf : f s with
    | error e => exact herr e hf
    | ok r => exact hok r.1 r.2 hf
  intro faults
  cases faults with
  | nil => exact hsettle []
  | cons v rest =>
      cases v with
      | proceed => exact hsettle rest
      | fail e n => exact hfail e n
      | stop n => exact hstop n

theorem wp_bind {k : α → Script σ ε β} {Q : β → σ → Prop}
    (h : wp c (fun a => wp (k a) Q E C) E C s) : wp (c >>= k) Q E C s := by
  intro faults
  have hc := h faults
  show match (andThen c k).run faults s with
    | ⟨.done a, _, s'⟩ => Q a s'
    | ⟨.raised e, _, s'⟩ => E e s'
    | ⟨.stopped, _, s'⟩ => C s'
  unfold andThen
  dsimp only
  generalize c.run faults s = r at hc ⊢
  obtain ⟨o, rest, s'⟩ := r
  cases o with
  | done a => exact hc rest
  | raised e => exact hc
  | stopped => exact hc

theorem wp_mono (h : wp c Q E C s) (hQ : ∀ a s', Q a s' → Q' a s')
    (hE : ∀ e s', E e s' → E' e s') (hC : ∀ s', C s' → C' s') : wp c Q' E' C' s := by
  intro faults
  have hc := h faults
  generalize c.run faults s = r at hc ⊢
  obtain ⟨o, rest, s'⟩ := r
  cases o with
  | done a => exact hQ a s' hc
  | raised e => exact hE e s' hc
  | stopped => exact hC s' hc

theorem wp_atomic {f : σ → σ} {Q : Unit → σ → Prop} (hE : ∀ e, E e s) (hC : C s)
    (hQ : Q () (f s)) : wp (atomic f) Q E C s := by
  refine wp_act (fun e _ => hE e) (fun _ => hC) ?_ (fun e _ => hE e)
  intro a s' h
  cases h
  exact hQ

theorem wp_write {f : σ → σ} {torn : ℕ → σ → σ} {Q : Unit → σ → Prop}
    (hE : ∀ e n, E e (torn n s)) (hC : ∀ n, C (torn n s)) (hQ : Q () (f s)) :
    wp (write f torn) Q E C s := by
  refine wp_act hE hC ?_ ?_
  · intro a s' h
    cases h
    exact hQ
  · intro e h
    cases h

theorem wp_read {g : σ → Except ε α} (hE : ∀ e, E e s) (hC : C s)
    (hQ : ∀ a, g s = .ok a → Q a s) : wp (read g) Q E C s := by
  refine wp_act (fun e _ => hE e) (fun _ => hC) ?_ (fun e _ => hE e)
  intro a s' h
  cases hg : g s with
  | error e =>
      rw [hg] at h
      cases h
  | ok b =>
      rw [hg] at h
      cases h
      exact hQ _ hg

theorem wp_tryExcept {catches : ε → Bool} {handler : ε → Script σ ε α}
    (h : wp c Q (fun e s' => (catches e = true → wp (handler e) Q E C s') ∧
      (catches e = false → E e s')) C s) : wp (tryExcept c catches handler) Q E C s := by
  intro faults
  have hc := h faults
  unfold tryExcept
  dsimp only
  generalize c.run faults s = r at hc ⊢
  obtain ⟨o, rest, s'⟩ := r
  cases o with
  | done a => exact hc
  | stopped => exact hc
  | raised e =>
      dsimp only
      cases hcat : catches e with
      | true =>
          rw [if_pos rfl]
          exact hc.1 hcat rest
      | false =>
          rw [if_neg Bool.false_ne_true]
          exact hc.2 hcat

theorem wp_tryFinally {fin : Script σ ε Unit}
    (h : wp c (fun a => wp fin (fun _ => Q a) E C) (fun e => wp fin (fun _ => E e) E C) C s) :
    wp (tryFinally c fin) Q E C s := by
  intro faults
  have hc := h faults
  unfold tryFinally
  dsimp only
  generalize c.run faults s = r at hc ⊢
  obtain ⟨o, rest, s'⟩ := r
  cases o with
  | done a => exact wp_bind (wp_mono hc (fun _ _ hq => wp_pure hq) (fun _ _ he => he)
      (fun _ hs => hs)) rest
  | raised e => exact wp_bind (wp_mono hc (fun _ _ hq => wp_raise hq) (fun _ _ he => he)
      (fun _ hs => hs)) rest
  | stopped => exact hc

/-- The loop rule. `I` speaks of the part of the list that is done. -/
theorem wp_forEach {xs : List β} {body : β → Script σ ε Unit} (I : List β → σ → Prop)
    (hbody : ∀ pre x post s', xs = pre ++ x :: post → I pre s' →
      wp (body x) (fun _ => I (pre ++ [x])) E C s')
    (h : I [] s) : wp (forEach xs body) (fun _ => I xs) E C s := by
  suffices ∀ post pre s', xs = pre ++ post → I pre s' →
      wp (forEach post body) (fun _ => I xs) E C s' from this xs [] s rfl h
  intro post
  induction post with
  | nil =>
      intro pre s' hxs hI
      rw [List.append_nil] at hxs
      subst hxs
      exact wp_pure hI
  | cons x post ih =>
      intro pre s' hxs hI
      refine wp_bind (wp_mono (hbody pre x post s' hxs hI) ?_ (fun _ _ he => he) (fun _ hs => hs))
      intro _ s'' hI'
      exact ih (pre ++ [x]) s'' (by simp [hxs]) hI'

/-! ## Runs -/

theorem run_bind_done {k : α → Script σ ε β} {faults rest : List (Verdict ε)} {s' : σ} {a : α}
    (h : c.run faults s = ⟨.done a, rest, s'⟩) :
    (c >>= k).run faults s = (k a).run rest s' := by
  show (andThen c k).run faults s = _
  unfold andThen
  dsimp only
  rw [h]

theorem run_bind_raised {k : α → Script σ ε β} {faults rest : List (Verdict ε)} {s' : σ} {e : ε}
    (h : c.run faults s = ⟨.raised e, rest, s'⟩) :
    (c >>= k).run faults s = ⟨.raised e, rest, s'⟩ := by
  show (andThen c k).run faults s = _
  unfold andThen
  dsimp only
  rw [h]

theorem run_tryFinally_raised {fin : Script σ ε Unit} {faults rest : List (Verdict ε)} {s' : σ}
    {e : ε} (h : c.run faults s = ⟨.raised e, rest, s'⟩) :
    (tryFinally c fin).run faults s = (fin >>= fun _ => (raise e : Script σ ε α)).run rest s' := by
  unfold tryFinally
  dsimp only
  rw [h]
  rfl

/-! Scripts with the same runs can be exchanged. -/

theorem run_bind_congr {c' : Script σ ε α} {faults : List (Verdict ε)} {k : α → Script σ ε β}
    (h : c.run faults s = c'.run faults s) : (c >>= k).run faults s = (c' >>= k).run faults s := by
  show (andThen c k).run faults s = (andThen c' k).run faults s
  unfold andThen
  dsimp only
  rw [h]

theorem run_bind_congr_right {faults : List (Verdict ε)} {k k' : α → Script σ ε β}
    (h : ∀ a rest s', c.run faults s = ⟨.done a, rest, s'⟩ →
      (k a).run rest s' = (k' a).run rest s') :
    (c >>= k).run faults s = (c >>= k').run faults s := by
  show (andThen c k).run faults s = (andThen c k').run faults s
  unfold andThen
  dsimp only
  generalize c.run faults s = r at h
  obtain ⟨o, rest, s'⟩ := r
  cases o with
  | done a => exact h a rest s' rfl
  | raised e => rfl
  | stopped => rfl

theorem run_tryFinally_congr {c' : Script σ ε α} {fin : Script σ ε Unit}
    {faults : List (Verdict ε)} (h : c.run faults s = c'.run faults s) :
    (tryFinally c fin).run faults s = (tryFinally c' fin).run faults s := by
  unfold tryFinally
  dsimp only
  rw [h]

theorem wp.done (h : wp c Q E C s) {faults : List (Verdict ε)} {a : α}
    (ho : (c.run faults s).outcome = .done a) : Q a (c.run faults s).state := by
  have hc := h faults
  generalize c.run faults s = r at hc ho ⊢
  obtain ⟨o, rest, s'⟩ := r
  cases ho
  exact hc

theorem wp.of_run (h : wp c Q E C s) {faults rest : List (Verdict ε)} {a : α} {s' : σ}
    (hr : c.run faults s = ⟨.done a, rest, s'⟩) : Q a s' := by
  have hc := h faults
  rw [hr] at hc
  exact hc

/-- What holds of every exit holds of the state a run leaves. -/
theorem wp.state {R : σ → Prop} (h : wp c (fun _ => R) (fun _ => R) R s)
    (faults : List (Verdict ε)) : R (c.run faults s).state := by
  have hc := h faults
  generalize c.run faults s = r at hc ⊢
  obtain ⟨o, rest, s'⟩ := r
  cases o with
  | done a => exact hc
  | raised e => exact hc
  | stopped => exact hc

/-- The run raises or stops. -/
def Unfinished (r : Ran σ ε α) : Prop := ∀ a, r.outcome ≠ .done a

/-- What holds of the exits other than the return holds of the state an unfinished run leaves. -/
theorem wp.unfinished {R : σ → Prop} (h : wp c Q (fun _ => R) R s) {faults : List (Verdict ε)}
    (hu : Unfinished (c.run faults s)) : R (c.run faults s).state := by
  have hc := h faults
  unfold Unfinished at hu
  generalize c.run faults s = r at hc hu ⊢
  obtain ⟨o, rest, s'⟩ := r
  cases o with
  | done a => exact absurd rfl (hu a)
  | raised e => exact hc
  | stopped => exact hc

/-! ## Possible runs -/

/-- Some schedule takes `c` from `s` to its return with `a` in `s'`. -/
def Finishes (c : Script σ ε α) (s : σ) (a : α) (s' : σ) : Prop :=
  ∃ faults, ∀ rest, c.run (faults ++ rest) s = ⟨.done a, rest, s'⟩

/-- Some schedule stops `c`, started in `s`, in the state `s'`. -/
def Stops (c : Script σ ε α) (s s' : σ) : Prop :=
  ∃ faults, ∃ rest, c.run faults s = ⟨.stopped, rest, s'⟩

theorem Finishes.post {a : α} {s' : σ} (h : Finishes c s a s') (hwp : wp c Q E C s) : Q a s' := by
  obtain ⟨faults, hrun⟩ := h
  exact hwp.of_run (hrun [])

theorem Finishes.run {a : α} {s' : σ} (h : Finishes c s a s') :
    ∃ faults, (c.run faults s).outcome = .done a ∧ (c.run faults s).state = s' := by
  obtain ⟨faults, hrun⟩ := h
  refine ⟨faults ++ [], ?_⟩
  rw [hrun]
  exact ⟨rfl, rfl⟩

theorem Stops.unfinished {s' : σ} (h : Stops c s s') :
    ∃ faults, Unfinished (c.run faults s) ∧ (c.run faults s).state = s' := by
  obtain ⟨faults, rest, h⟩ := h
  refine ⟨faults, fun a ha => ?_, by rw [h]⟩
  rw [h] at ha
  cases ha

theorem finishes_pure (a : α) (s : σ) : Finishes (pure a : Script σ ε α) s a s :=
  ⟨[], fun _ => rfl⟩

theorem finishes_atomic (f : σ → σ) (s : σ) : Finishes (atomic f : Script σ ε Unit) s () (f s) :=
  ⟨[.proceed], fun _ => rfl⟩

theorem finishes_write (f : σ → σ) (torn : ℕ → σ → σ) (s : σ) :
    Finishes (write f torn : Script σ ε Unit) s () (f s) :=
  ⟨[.proceed], fun _ => rfl⟩

theorem finishes_act {f : σ → Except ε (α × σ)} {onFail onStop : ℕ → σ → σ} {a : α} {s' : σ}
    (h : f s = .ok (a, s')) : Finishes (act f onFail onStop) s a s' := by
  refine ⟨[.proceed], fun rest => ?_⟩
  show settle (f s) rest s = _
  rw [h]
  rfl

theorem finishes_read {g : σ → Except ε α} {a : α} (h : g s = .ok a) :
    Finishes (read g) s a s := finishes_act (by rw [h]; rfl)

theorem Finishes.bind {k : α → Script σ ε β} {a : α} {b : β} {s' s'' : σ}
    (h : Finishes c s a s') (hk : Finishes (k a) s' b s'') : Finishes (c >>= k) s b s'' := by
  obtain ⟨f, hf⟩ := h
  obtain ⟨g, hg⟩ := hk
  refine ⟨f ++ g, fun rest => ?_⟩
  rw [List.append_assoc, run_bind_done (hf (g ++ rest)), hg]

theorem Finishes.tryFinally {fin : Script σ ε Unit} {a : α} {s' s'' : σ}
    (h : Finishes c s a s') (hf : Finishes fin s' () s'') :
    Finishes (tryFinally c fin) s a s'' := by
  obtain ⟨f, hc⟩ := h
  obtain ⟨g, hg⟩ := hf
  refine ⟨f ++ g, fun rest => ?_⟩
  unfold Script.tryFinally
  dsimp only
  rw [List.append_assoc, hc (g ++ rest)]
  exact run_bind_done (hg rest)

theorem Finishes.tryExcept {catches : ε → Bool} {handler : ε → Script σ ε α} {a : α} {s' : σ}
    (h : Finishes c s a s') : Finishes (tryExcept c catches handler) s a s' := by
  obtain ⟨f, hc⟩ := h
  refine ⟨f, fun rest => ?_⟩
  unfold Script.tryExcept
  dsimp only
  rw [hc rest]

theorem stops_atomic (f : σ → σ) (s : σ) : Stops (atomic f : Script σ ε Unit) s s :=
  ⟨[.stop 0], [], rfl⟩

theorem stops_write (f : σ → σ) (torn : ℕ → σ → σ) (n : ℕ) (s : σ) :
    Stops (write f torn : Script σ ε Unit) s (torn n s) :=
  ⟨[.stop n], [], rfl⟩

theorem stops_read (g : σ → Except ε α) (s : σ) : Stops (read g) s s := ⟨[.stop 0], [], rfl⟩

theorem Stops.bind_left {k : α → Script σ ε β} {s' : σ} (h : Stops c s s') :
    Stops (c >>= k) s s' := by
  obtain ⟨faults, rest, h⟩ := h
  refine ⟨faults, rest, ?_⟩
  show (andThen c k).run faults s = _
  unfold andThen
  dsimp only
  rw [h]

theorem Stops.bind_right {k : α → Script σ ε β} {a : α} {s' s'' : σ} (h : Finishes c s a s')
    (hk : Stops (k a) s' s'') : Stops (c >>= k) s s'' := by
  obtain ⟨f, hf⟩ := h
  obtain ⟨g, rest, hg⟩ := hk
  exact ⟨f ++ g, rest, by rw [run_bind_done (hf g), hg]⟩

theorem Stops.tryFinally_right {fin : Script σ ε Unit} {a : α} {s' s'' : σ}
    (h : Finishes c s a s') (hf : Stops fin s' s'') : Stops (Script.tryFinally c fin) s s'' := by
  obtain ⟨f, hc⟩ := h
  obtain ⟨g, rest, hg⟩ := hf
  refine ⟨f ++ g, rest, ?_⟩
  unfold Script.tryFinally
  dsimp only
  rw [hc g]
  show (andThen fin _).run g s' = _
  unfold andThen
  dsimp only
  rw [hg]

/-- A loop whose rounds take `s` to `f s x` folds `f` over the list. -/
theorem finishes_forEach {xs : List β} {body : β → Script σ ε Unit} {f : σ → β → σ}
    (h : ∀ x ∈ xs, ∀ s, Finishes (body x) s () (f s x)) (s : σ) :
    Finishes (forEach xs body) s () (xs.foldl f s) := by
  induction xs generalizing s with
  | nil => exact finishes_pure () s
  | cons x xs ih =>
      exact (h x (by simp) s).bind (ih (fun y hy => h y (by simp [hy])) (f s x))

/-- A loop stops in the round of `x` after the rounds before it. -/
theorem stops_forEach {xs ys : List β} {x : β} {body : β → Script σ ε Unit} {f : σ → β → σ}
    (h : ∀ x ∈ xs, ∀ s, Finishes (body x) s () (f s x)) {s' : σ}
    (hx : Stops (body x) (xs.foldl f s) s') : Stops (forEach (xs ++ x :: ys) body) s s' := by
  induction xs generalizing s with
  | nil => exact hx.bind_left
  | cons y xs ih =>
      exact .bind_right (h y (by simp) s) (ih (fun z hz => h z (by simp [hz])) hx)

/-- A loop and what follows it stop after any number of rounds. -/
theorem stops_after_rounds {xs ys : List β} {body : β → Script σ ε Unit} {f : σ → β → σ}
    {k : Unit → Script σ ε α} (h : ∀ x ∈ xs, ∀ s, Finishes (body x) s () (f s x))
    (hy : ∀ y ∈ ys, ∀ s, Stops (body y) s s) (hk : ∀ s, Stops (k ()) s s) (s : σ) :
    Stops (forEach (xs ++ ys) body >>= k) s (xs.foldl f s) := by
  cases ys with
  | nil =>
      rw [List.append_nil]
      exact .bind_right (finishes_forEach h s) (hk _)
  | cons y ys => exact (stops_forEach h (hy y (by simp) _)).bind_left

/-! ## Invariants -/

/-- `I` holds at every exit when it holds at the start. -/
def Keeps (I : σ → Prop) (c : Script σ ε α) : Prop :=
  ∀ s, I s → wp c (fun _ => I) (fun _ => I) I s

variable {I : σ → Prop}

theorem keeps_pure (a : α) : Keeps I (pure a : Script σ ε α) := fun _ h => wp_pure h

theorem keeps_raise (e : ε) : Keeps I (raise e : Script σ ε α) := fun _ h => wp_raise h

theorem keeps_bind {k : α → Script σ ε β} (hc : Keeps I c) (hk : ∀ a, Keeps I (k a)) :
    Keeps I (c >>= k) := fun s h =>
  wp_bind (wp_mono (hc s h) (fun a s' => hk a s') (fun _ _ he => he) (fun _ hs => hs))

theorem keeps_atomic {f : σ → σ} (h : ∀ s, I s → I (f s)) :
    Keeps I (atomic f : Script σ ε Unit) := fun s hs => wp_atomic (fun _ => hs) hs (h s hs)

theorem keeps_write {f : σ → σ} {torn : ℕ → σ → σ} (h : ∀ s, I s → I (f s))
    (ht : ∀ n s, I s → I (torn n s)) : Keeps I (write f torn : Script σ ε Unit) := fun s hs =>
  wp_write (fun _ n => ht n s hs) (fun n => ht n s hs) (h s hs)

theorem keeps_read (g : σ → Except ε α) : Keeps I (read g) := fun _ hs =>
  wp_read (fun _ => hs) hs (fun _ _ => hs)

theorem keeps_tryExcept {catches : ε → Bool} {handler : ε → Script σ ε α} (hc : Keeps I c)
    (hh : ∀ e, Keeps I (handler e)) : Keeps I (tryExcept c catches handler) := fun s h =>
  wp_tryExcept (wp_mono (hc s h) (fun _ _ hq => hq)
    (fun e s' he => ⟨fun _ => hh e s' he, fun _ => he⟩) (fun _ hs => hs))

theorem keeps_tryFinally {fin : Script σ ε Unit} (hc : Keeps I c) (hf : Keeps I fin) :
    Keeps I (tryFinally c fin) := fun s h =>
  wp_tryFinally (wp_mono (hc s h) (fun _ s' => hf s') (fun _ s' => hf s') (fun _ hs => hs))

theorem keeps_forEach {xs : List β} {body : β → Script σ ε Unit} (h : ∀ x ∈ xs, Keeps I (body x)) :
    Keeps I (forEach xs body) := by
  intro s hs
  refine wp_forEach (fun _ => I) ?_ hs
  intro pre x post s' hxs hI
  exact h x (by simp [hxs]) s' hI

end Script

end LookAway.Base
