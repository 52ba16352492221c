/-
  What the training code (verl) raises, with `assert` and `raise` as steps of a computation.
-/
import LookAway.Base.Control
import Mathlib.Data.List.Forall2
import Mathlib.Tactic.Common

namespace LookAway.Training

open LookAway.Base

inductive TrainingError where
  | assertionError (text : String)
  | attributeError
  | indexError
  | keyError
  | notImplementedError (text : String)
  | runtimeError
  | typeError
  | valueError (text : String)
  | zeroDivisionError
  deriving DecidableEq, Repr

/-- `assert`. -/
def check (condition : Prop) [Decidable condition] (text : String) : Except TrainingError Unit :=
  if condition then .ok () else .error (.assertionError text)

/-- `raise` under a condition. -/
def raiseIf (condition : Prop) [Decidable condition] (e : TrainingError) :
    Except TrainingError Unit :=
  if condition then .error e else .ok ()

variable {condition : Prop} [Decidable condition] {text : String} {e : TrainingError} {u : Unit}

theorem check_pos (h : condition) : check condition text = .ok () := if_pos h

theorem check_neg (h : ¬ condition) : check condition text = .error (.assertionError text) :=
  if_neg h

theorem check_ok (h : check condition text = .ok u) : condition := by
  by_contra hc
  rw [check_neg hc] at h
  cases h

theorem raiseIf_pos (h : condition) : raiseIf condition e = .error e := if_pos h

theorem raiseIf_neg (h : ¬ condition) : raiseIf condition e = .ok () := if_neg h

theorem raiseIf_ok (h : raiseIf condition e = .ok u) : ¬ condition := by
  intro hc
  rw [raiseIf_pos hc] at h
  cases h

/-- A loop of checks. -/
theorem forM_ok {α : Type} {f : α → Except TrainingError Unit} {xs : List α} :
    xs.forM f = .ok () ↔ ∀ x ∈ xs, f x = .ok () := by
  induction xs with
  | nil => exact ⟨by simp, fun _ => rfl⟩
  | cons x xs ih =>
      rw [List.forM_eq_forM, List.forM_cons, List.forall_mem_cons, ← ih, except_bind_ok]
      constructor
      · rintro ⟨_, hx, hxs⟩
        exact ⟨hx, hxs⟩
      · rintro ⟨hx, hxs⟩
        exact ⟨(), hx, hxs⟩

/-- Step by step, what a `mapM` returns. -/
theorem forall₂_of_mapM {ε α β : Type} {f : α → Except ε β} {xs : List α} {ys : List β}
    (h : xs.mapM f = .ok ys) : List.Forall₂ (fun x y => f x = .ok y) xs ys := by
  induction xs generalizing ys with
  | nil =>
      cases h
      exact .nil
  | cons x xs ih =>
      rw [List.mapM_cons] at h
      obtain ⟨y, hy, h⟩ := except_bind_ok.mp h
      obtain ⟨rest, hrest, h⟩ := except_bind_ok.mp h
      cases h
      exact .cons hy (ih hrest)

/-- Steps that all return, each with a value of one shape. -/
theorem mapM_forall₂ {ε α β γ : Type} {f : α → Except ε β} {g : γ → β} {R : α → γ → Prop}
    (xs : List α) (h : ∀ x ∈ xs, ∃ y, f x = .ok (g y) ∧ R x y) :
    ∃ ys, xs.mapM f = .ok (ys.map g) ∧ List.Forall₂ R xs ys := by
  induction xs with
  | nil => exact ⟨[], rfl, .nil⟩
  | cons x xs ih =>
      obtain ⟨y, hy, hxy⟩ := h x (by simp)
      obtain ⟨ys, hys, hrest⟩ := ih fun x' hx' => h x' (List.mem_cons_of_mem x hx')
      refine ⟨y :: ys, ?_, .cons hxy hrest⟩
      rw [List.mapM_cons]
      exact except_bind_ok.mpr ⟨g y, hy, except_bind_ok.mpr ⟨ys.map g, hys, rfl⟩⟩

theorem except_bind_error {ε α β : Type} {x : Except ε α} {f : α → Except ε β} {e : ε} :
    (x >>= f) = .error e ↔ x = .error e ∨ ∃ a, x = .ok a ∧ f a = .error e := by
  cases x with
  | error e' =>
      constructor
      · intro h
        cases h
        exact .inl rfl
      · rintro (h | ⟨a, h, -⟩)
        · cases h
          rfl
        · cases h
  | ok a =>
      refine ⟨fun h => .inr ⟨a, rfl, h⟩, ?_⟩
      rintro (h | ⟨a', ha, h⟩)
      · cases h
      · cases ha
        exact h

/-- The error of a `mapM` is that of one of its steps. -/
theorem error_of_mapM {ε α β : Type} {f : α → Except ε β} {xs : List α} {e : ε}
    (h : xs.mapM f = .error e) : ∃ x ∈ xs, f x = .error e := by
  induction xs with
  | nil => cases h
  | cons x xs ih =>
      rw [List.mapM_cons] at h
      rcases except_bind_error.mp h with hx | ⟨y, -, h⟩
      · exact ⟨x, List.mem_cons_self, hx⟩
      rcases except_bind_error.mp h with hxs | ⟨ys, -, h⟩
      · obtain ⟨x', hx', he⟩ := ih hxs
        exact ⟨x', List.mem_cons_of_mem x hx', he⟩
      · cases h

theorem except_bind_congr {ε α β : Type} {x : Except ε α} {f g : α → Except ε β}
    (h : ∀ a, x = .ok a → f a = g a) : (x >>= f) = x >>= g := by
  cases x with
  | error e => rfl
  | ok a => exact h a rfl

theorem mapM_congr {ε α β : Type} {f g : α → Except ε β} {xs : List α}
    (h : ∀ x ∈ xs, f x = g x) : xs.mapM f = xs.mapM g := by
  induction xs with
  | nil => rfl
  | cons x xs ih =>
      rw [List.mapM_cons, List.mapM_cons, h x (by simp),
        ih fun y hy => h y (List.mem_cons_of_mem x hy)]

theorem foldlM_congr {ε α β : Type} {f g : β → α → Except ε β} {xs : List α}
    (h : ∀ b, ∀ x ∈ xs, f b x = g b x) (b : β) : xs.foldlM f b = xs.foldlM g b := by
  induction xs generalizing b with
  | nil => rfl
  | cons x xs ih =>
      rw [List.foldlM_cons, List.foldlM_cons, h b x (by simp)]
      exact except_bind_congr fun c _ => ih (fun b y hy => h b y (List.mem_cons_of_mem x hy)) c

/-- A loop whose rounds return under an invariant. -/
theorem foldlM_ok {ε α β : Type} {f : β → α → Except ε β} {g : β → α → β} {I : β → Prop}
    {xs : List α} {b : β} (hstep : ∀ b, I b → ∀ x ∈ xs, f b x = .ok (g b x) ∧ I (g b x))
    (hb : I b) : xs.foldlM f b = .ok (xs.foldl g b) ∧ I (xs.foldl g b) := by
  induction xs generalizing b with
  | nil => exact ⟨rfl, hb⟩
  | cons x xs ih =>
      obtain ⟨hx, hinv⟩ := hstep b hb x (by simp)
      rw [List.foldlM_cons, hx, List.foldl_cons]
      exact ih (fun b hb y hy => hstep b hb y (List.mem_cons_of_mem x hy)) hinv

/-- What the rounds of a loop that returns keep. -/
theorem foldlM_inv {ε α β : Type} {f : β → α → Except ε β} {I : β → Prop} {xs : List α} {b c : β}
    (hstep : ∀ x b c, I b → f b x = .ok c → I c) (h : xs.foldlM f b = .ok c) (hb : I b) : I c := by
  induction xs generalizing b with
  | nil =>
      cases h
      exact hb
  | cons x xs ih =>
      rw [List.foldlM_cons] at h
      obtain ⟨d, hd, h⟩ := except_bind_ok.mp h
      exact ih h (hstep x b d hb hd)

/-- Pairs with an index, without it. -/
theorem forall₂_zipIdx {α β : Type} {R : α → β → Prop} {xs : List α} {ys : List β}
    (h : List.Forall₂ (fun e y => R e.1 y) xs.zipIdx ys) : List.Forall₂ R xs ys := by
  rw [← List.forall₂_map_left_iff (f := fun e : α × ℕ => e.1), List.zipIdx_map_fst] at h
  exact h

end LookAway.Training
