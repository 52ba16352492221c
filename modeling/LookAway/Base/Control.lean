/-
  Computations in `Except`: peeling a bind and a `mapM` apart (`except_bind_ok`,
  `exists_of_mem_mapM`), and relating two runs stage by stage (`Related`, `Related.bind`).
-/
namespace LookAway.Base

theorem except_bind_ok {ε α β : Type} {x : Except ε α} {f : α → Except ε β} {b : β} :
    (x >>= f) = .ok b ↔ ∃ a, x = .ok a ∧ f a = .ok b := by
  cases x with
  | error e =>
      constructor
      · intro h
        cases h
      · rintro ⟨a, h, _⟩
        cases h
  | ok a =>
      constructor
      · intro h
        exact ⟨a, rfl, h⟩
      · rintro ⟨a', h, hf⟩
        cases h
        exact hf

/-- `mapM` returns when each of its steps does. -/
theorem mapM_exists {ε α β : Type} {f : α → Except ε β} {xs : List α}
    (h : ∀ x ∈ xs, ∃ y, f x = .ok y) : ∃ ys, xs.mapM f = .ok ys := by
  induction xs with
  | nil => exact ⟨[], rfl⟩
  | cons x xs ih =>
      obtain ⟨y, hy⟩ := h x (by simp)
      obtain ⟨ys, hys⟩ := ih fun z hz => h z (by simp [hz])
      refine ⟨y :: ys, ?_⟩
      rw [List.mapM_cons]
      exact except_bind_ok.mpr ⟨y, hy, except_bind_ok.mpr ⟨ys, hys, rfl⟩⟩

/-- What `mapM` returns comes from its steps. -/
theorem exists_of_mem_mapM {ε α β : Type} {f : α → Except ε β} {xs : List α} {ys : List β}
    (h : xs.mapM f = .ok ys) : ∀ y ∈ ys, ∃ x ∈ xs, f x = .ok y := by
  induction xs generalizing ys with
  | nil =>
      cases h
      exact fun y hy => nomatch hy
  | cons x xs ih =>
      rw [List.mapM_cons] at h
      obtain ⟨y, hy, h⟩ := except_bind_ok.mp h
      obtain ⟨rest, hrest, h⟩ := except_bind_ok.mp h
      cases h
      intro z hz
      rcases List.mem_cons.mp hz with rfl | hz
      · exact ⟨x, by simp, hy⟩
      · obtain ⟨x', hx', hz'⟩ := ih hrest z hz
        exact ⟨x', by simp [hx'], hz'⟩

/-- Each step of a `mapM` that returns gives one of its values. -/
theorem mapM_of_mem {ε α β : Type} {f : α → Except ε β} {xs : List α} {ys : List β}
    (h : xs.mapM f = .ok ys) : ∀ x ∈ xs, ∃ y ∈ ys, f x = .ok y := by
  induction xs generalizing ys with
  | nil => simp
  | cons x xs ih =>
      rw [List.mapM_cons] at h
      obtain ⟨y, hy, h⟩ := except_bind_ok.mp h
      obtain ⟨rest, hrest, h⟩ := except_bind_ok.mp h
      cases h
      intro z hz
      rcases List.mem_cons.mp hz with rfl | hz
      · exact ⟨y, by simp, hy⟩
      · obtain ⟨y', hy', hz'⟩ := ih hrest z hz
        exact ⟨y', by simp [hy'], hz'⟩

theorem length_of_mapM {ε α β : Type} {f : α → Except ε β} {xs : List α} {ys : List β}
    (h : xs.mapM f = .ok ys) : ys.length = xs.length := by
  induction xs generalizing ys with
  | nil =>
      cases h
      rfl
  | cons x xs ih =>
      rw [List.mapM_cons] at h
      obtain ⟨y, -, h⟩ := except_bind_ok.mp h
      obtain ⟨rest, hrest, h⟩ := except_bind_ok.mp h
      cases h
      simp [ih hrest]

/-- The steps of a `mapM` that returns give its values in their places. -/
theorem getElem?_mapM {ε α β : Type} {f : α → Except ε β} {xs : List α} {ys : List β}
    (h : xs.mapM f = .ok ys) {i : Nat} {x : α} (hx : xs[i]? = some x) :
    ∃ y, ys[i]? = some y ∧ f x = .ok y := by
  induction xs generalizing ys i with
  | nil => simp at hx
  | cons first xs ih =>
      rw [List.mapM_cons] at h
      obtain ⟨y, hy, h⟩ := except_bind_ok.mp h
      obtain ⟨rest, hrest, h⟩ := except_bind_ok.mp h
      cases h
      cases i with
      | zero =>
          obtain rfl : first = x := by simpa using hx
          exact ⟨y, rfl, hy⟩
      | succ i => simpa using ih hrest (by simpa using hx)

/-- `mapM` with steps that all return. -/
theorem mapM_eq_map {ε α β : Type} {f : α → Except ε β} {g : α → β} {xs : List α}
    (h : ∀ x ∈ xs, f x = .ok (g x)) : xs.mapM f = .ok (xs.map g) := by
  induction xs with
  | nil => rfl
  | cons x xs ih =>
      rw [List.mapM_cons]
      exact except_bind_ok.mpr ⟨g x, h x (by simp), except_bind_ok.mpr
        ⟨xs.map g, ih fun y hy => h y (by simp [hy]), rfl⟩⟩

/-- Two runs are related: they raise the same error, or return values related by `R`. -/
inductive Related {ε α β : Type} (R : α → β → Prop) : Except ε α → Except ε β → Prop where
  | error (e : ε) : Related R (.error e) (.error e)
  | ok {a : α} {b : β} (h : R a b) : Related R (.ok a) (.ok b)

theorem Related.bind {ε α β γ δ : Type} {R : α → β → Prop} {S : γ → δ → Prop}
    {x : Except ε α} {y : Except ε β} {f : α → Except ε γ} {g : β → Except ε δ}
    (h : Related R x y) (hfg : ∀ a b, R a b → Related S (f a) (g b)) :
    Related S (x >>= f) (y >>= g) := by
  cases h with
  | error e => exact .error e
  | ok h => exact hfg _ _ h

/-- A computation is related to itself by equality. -/
theorem Related.refl {ε α : Type} (x : Except ε α) : Related Eq x x := by
  cases x with
  | error e => exact .error e
  | ok a => exact .ok rfl

/-- Results related by equality of an observation have equal observations. -/
theorem Related.map_eq {ε α β γ : Type} {x : Except ε α} {y : Except ε β} {f : α → γ} {g : β → γ}
    (h : Related (fun a b => f a = g b) x y) : x.map f = y.map g := by
  cases h with
  | error e => rfl
  | ok h => exact congrArg Except.ok h

end LookAway.Base
