/-
  A while loop, run round by round. Nothing here names a program.

  The body of a loop is a partial function on its state: `none` is the end of the loop, at its test
  or at a break. `rounds body n` gives the loop `n` rounds, the last of which only sees the end.
  `rounds_of_measure`: a loop whose rounds keep an invariant and lower a measure ends, after no more
  rounds than the measure allows, with the invariant and at the end of its body.
-/
import Mathlib.Tactic.Common

namespace LookAway.Base.Loop

variable {σ : Type}

/-- The state at the end of the loop, if that is seen in `n` rounds. -/
def rounds (body : σ → Option σ) : ℕ → σ → Option σ
  | 0, _ => none
  | n + 1, s =>
      match body s with
      | none => some s
      | some t => rounds body n t

variable {body : σ → Option σ} {s t : σ}

theorem rounds_end (h : body s = none) (n : ℕ) : rounds body (n + 1) s = some s := by
  rw [rounds, h]

theorem rounds_next (h : body s = some t) (n : ℕ) :
    rounds body (n + 1) s = rounds body n t := by
  rw [rounds, h]

theorem rounds_of_measure {inv : σ → Prop} (measure : σ → ℕ)
    (hround : ∀ s t, inv s → body s = some t → inv t ∧ measure t < measure s)
    (hs : inv s) {n : ℕ} (hn : measure s < n) :
    ∃ t, rounds body n s = some t ∧ inv t ∧ measure t ≤ measure s ∧ body t = none := by
  induction n generalizing s with
  | zero => omega
  | succ n ih =>
      cases hbody : body s with
      | none => exact ⟨s, rounds_end hbody n, hs, Nat.le_refl _, hbody⟩
      | some u =>
          obtain ⟨hu, hlt⟩ := hround s u hs hbody
          obtain ⟨t, ht, hinv, hle, hend⟩ := ih hu (by omega)
          exact ⟨t, (rounds_next hbody n).trans ht, hinv, by omega, hend⟩

end LookAway.Base.Loop
