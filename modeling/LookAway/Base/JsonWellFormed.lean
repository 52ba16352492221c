/-
  What `json.loads` reads is well formed: its objects have distinct keys, its integers are short
  and its floats have their own texts (`loads_wellFormed`). Nothing here names a program.

  The invariant of the machine is that everything it has finished is well formed (`Sound`), with a
  lemma for each of its steps.
-/
import LookAway.Base.JsonText

namespace LookAway.Base

namespace Json

theorem itemsWellFormed_iff {items : List Json} :
    ItemsWellFormed items ↔ ∀ v ∈ items, v.WellFormed := by
  induction items with
  | nil => simp [ItemsWellFormed]
  | cons v items ih => simp [ItemsWellFormed, ih]

theorem wellFormed_empty : WellFormed (.obj []) := ⟨by simp, trivial⟩

theorem wellFormed_numberOf? {acc : List Char} {v : Json} (h : numberOf? acc = some v) :
    v.WellFormed := by
  rcases numberOf?_cases h with ⟨n, rfl, hn⟩ | ⟨text, value, rfl, hfloat⟩
  · exact hn
  · exact hfloat

/-! ## The invariant -/

def Frame.Sound : Frame → Prop
  | .arr items => ItemsWellFormed items
  | .obj fields _ => WellFormed (.obj fields)

def Target.Sound : Target → Prop
  | .key fields => WellFormed (.obj fields)
  | .value => True

/-- Everything the machine has finished is well formed. -/
def State.Sound : State → Prop
  | .value st | .firstItem st | .firstKey st | .number _ st => ∀ f ∈ st, f.Sound
  | .nextKey fields st | .colon fields _ st | .afterField fields st =>
      WellFormed (.obj fields) ∧ ∀ f ∈ st, f.Sound
  | .str target _ _ st => target.Sound ∧ ∀ f ∈ st, f.Sound
  | .word _ v st => v.WellFormed ∧ ∀ f ∈ st, f.Sound
  | .afterItem items st => ItemsWellFormed items ∧ ∀ f ∈ st, f.Sound
  | .done v => v.WellFormed

section Steps

variable {v : Json} {st : List Frame} {s t : State} {c : Char}

theorem sound_deliver (hv : v.WellFormed) (hst : ∀ f ∈ st, f.Sound) : (deliver v st).Sound := by
  cases st with
  | nil => exact hv
  | cons f st =>
      have hrest : ∀ f ∈ st, f.Sound := fun g hg => hst g (List.mem_cons_of_mem _ hg)
      have hf := hst f (List.mem_cons_self ..)
      cases f with
      | arr items =>
          refine ⟨itemsWellFormed_iff.mpr ?_, hrest⟩
          intro w hw
          rcases List.mem_append.mp hw with hw | hw
          · exact itemsWellFormed_iff.mp hf w hw
          · rw [List.mem_singleton.mp hw]
            exact hv
      | obj fields key => exact ⟨wellFormed_setField hf key hv, hrest⟩

theorem sound_settle (hs : s.Sound) (h : settle s = some t) : t.Sound := by
  cases s with
  | number acc st =>
      obtain ⟨v, hv, rfl⟩ := Option.map_eq_some_iff.mp h
      exact sound_deliver (wellFormed_numberOf? hv) hs
  | _ =>
      cases h
      exact hs

/-- A branch of a step. -/
theorem sound_ite {p : Prop} [Decidable p] {o : Option State}
    (h : (if p then some s else o) = some t) (hs : p → s.Sound) (ho : o = some t → t.Sound) :
    t.Sound := by
  split at h
  · rename_i hp
    cases h
    exact hs hp
  · exact ho h

theorem sound_startValue (hst : ∀ f ∈ st, f.Sound) (h : startValue st c = some t) : t.Sound := by
  unfold startValue at h
  refine sound_ite h (fun _ => hst) fun h => ?_
  refine sound_ite h (fun _ => ⟨trivial, hst⟩) fun h => ?_
  -- a container is opened
  refine sound_ite h (fun _ => hst) fun h => ?_
  refine sound_ite h (fun _ => hst) fun h => ?_
  -- a word
  refine sound_ite h (fun _ => ⟨trivial, hst⟩) fun h => ?_
  refine sound_ite h (fun _ => ⟨trivial, hst⟩) fun h => ?_
  refine sound_ite h (fun _ => ⟨trivial, hst⟩) fun h => ?_
  refine sound_ite h (fun _ => ⟨FloatText.nan, hst⟩) fun h => ?_
  refine sound_ite h (fun _ => ⟨FloatText.inf, hst⟩) fun h => ?_
  refine sound_ite h (fun _ => hst) fun h => ?_
  cases h

theorem sound_endStr {target : Target} (htarget : target.Sound) (hst : ∀ f ∈ st, f.Sound)
    (acc : List Char) : (endStr target acc st).Sound := by
  cases target with
  | key fields => exact ⟨htarget, hst⟩
  | value => exact sound_deliver trivial hst

section Strings

variable {lone : Bool} {target : Target} {acc : List Char}

theorem sound_firstUnit (htarget : target.Sound) (hst : ∀ f ∈ st, f.Sound) {n : ℕ}
    (h : firstUnit lone target acc n st = some t) : t.Sound := by
  refine sound_ite h (fun _ => ⟨htarget, hst⟩) fun h => ?_
  split at h
  · refine sound_ite h (fun _ => ⟨htarget, hst⟩) fun h => ?_
    cases h
  · cases h
    exact ⟨htarget, hst⟩

theorem sound_codeUnit (htarget : target.Sound) (hst : ∀ f ∈ st, f.Sound) {n : ℕ}
    {high : Option ℕ} (h : codeUnit lone target acc n high st = some t) : t.Sound := by
  cases high with
  | none => exact sound_firstUnit htarget hst h
  | some high =>
      refine sound_ite h (fun _ => ⟨htarget, hst⟩) fun h => ?_
      split at h
      · exact sound_firstUnit htarget hst h
      · cases h

theorem sound_stepPlain (htarget : target.Sound) (hst : ∀ f ∈ st, f.Sound)
    (h : stepPlain target acc st c = some t) : t.Sound := by
  refine sound_ite h (fun _ => sound_endStr htarget hst acc) fun h => ?_
  refine sound_ite h (fun _ => ⟨htarget, hst⟩) fun h => ?_
  split at h
  · cases h
  · cases h
    exact ⟨htarget, hst⟩

theorem sound_stepBackslash (htarget : target.Sound) (hst : ∀ f ∈ st, f.Sound)
    (h : stepBackslash target acc st c = some t) : t.Sound := by
  refine sound_ite h (fun _ => ⟨htarget, hst⟩) fun h => ?_
  obtain ⟨d, -, rfl⟩ := Option.map_eq_some_iff.mp h
  exact ⟨htarget, hst⟩

theorem sound_stepStr (htarget : target.Sound) (hst : ∀ f ∈ st, f.Sound) {esc : Escape}
    (h : stepStr lone target acc esc st c = some t) : t.Sound := by
  cases esc with
  | plain => exact sound_stepPlain htarget hst h
  | backslash => exact sound_stepBackslash htarget hst h
  | unicode digits high =>
      obtain ⟨d, -, h⟩ := Option.bind_eq_some_iff.mp h
      exact sound_ite h (fun _ => ⟨htarget, hst⟩) (sound_codeUnit htarget hst)
  | lowSlash high =>
      refine sound_ite h (fun _ => ⟨htarget, hst⟩) fun h => ?_
      split at h
      · exact sound_stepPlain htarget hst h
      · cases h
  | lowU high =>
      refine sound_ite h (fun _ => ⟨htarget, hst⟩) fun h => ?_
      split at h
      · exact sound_stepBackslash htarget hst h
      · cases h

end Strings

theorem sound_stepAfter (hs : s.Sound) (h : stepAfter c s = some t) : t.Sound := by
  cases s with
  | afterItem items st =>
      refine sound_ite h (fun _ => hs) fun h => ?_
      refine sound_ite h (fun _ => List.forall_mem_cons.mpr hs) fun h => ?_
      refine sound_ite h (fun _ => sound_deliver hs.1 hs.2) fun h => ?_
      cases h
  | afterField fields st =>
      refine sound_ite h (fun _ => hs) fun h => ?_
      refine sound_ite h (fun _ => hs) fun h => ?_
      refine sound_ite h (fun _ => sound_deliver hs.1 hs.2) fun h => ?_
      cases h
  | done v =>
      refine sound_ite h (fun _ => hs) fun h => ?_
      cases h
  | _ => cases h

variable {lone : Bool}

/-- A character after a number, or in it. -/
theorem sound_stepNumber {acc : List Char} (hs : (State.number acc st).Sound)
    (h : step lone (.number acc st) c = some t) : t.Sound := by
  refine sound_ite h (fun _ => hs) fun h => ?_
  refine sound_ite h (fun _ => ⟨FloatText.negInf, hs⟩) fun h => ?_
  obtain ⟨v, hv, h⟩ := Option.bind_eq_some_iff.mp h
  exact sound_stepAfter (sound_deliver (wellFormed_numberOf? hv) hs) h

/-- A character of a word. -/
theorem sound_stepWord {rest : List Char} (hs : (State.word rest v st).Sound)
    (h : step lone (.word rest v st) c = some t) : t.Sound := by
  unfold step at h
  dsimp only at h
  split at h
  · cases h
  · refine sound_ite h (fun _ => sound_deliver hs.1 hs.2) fun h => ?_
    cases h
  · refine sound_ite h (fun _ => hs) fun h => ?_
    cases h

theorem sound_step (hs : s.Sound) (h : step lone s c = some t) : t.Sound := by
  cases s with
  | value st => exact sound_startValue hs h
  | firstItem st =>
      have hframe : ∀ f ∈ Frame.arr [] :: st, f.Sound := List.forall_mem_cons.mpr ⟨trivial, hs⟩
      refine sound_ite h (fun _ => hs) fun h => ?_
      exact sound_ite h (fun _ => sound_deliver trivial hs) (sound_startValue hframe)
  | firstKey st =>
      refine sound_ite h (fun _ => hs) fun h => ?_
      refine sound_ite h (fun _ => ⟨wellFormed_empty, hs⟩) fun h => ?_
      refine sound_ite h (fun _ => sound_deliver wellFormed_empty hs) fun h => ?_
      cases h
  | nextKey fields st =>
      refine sound_ite h (fun _ => hs) fun h => ?_
      refine sound_ite h (fun _ => hs) fun h => ?_
      cases h
  | str target acc esc st => exact sound_stepStr hs.1 hs.2 h
  | colon fields key st =>
      refine sound_ite h (fun _ => hs) fun h => ?_
      refine sound_ite h (fun _ => List.forall_mem_cons.mpr hs) fun h => ?_
      cases h
  | number acc st => exact sound_stepNumber hs h
  | word rest v st => exact sound_stepWord hs h
  | afterItem items st => exact sound_stepAfter hs h
  | afterField fields st => exact sound_stepAfter hs h
  | done v => exact sound_stepAfter hs h

theorem sound_run {cs : List Char} (hs : s.Sound) (h : run lone s cs = some t) : t.Sound := by
  induction cs generalizing s with
  | nil =>
      cases h
      exact hs
  | cons c cs ih =>
      unfold run at h
      rw [List.foldlM_cons] at h
      obtain ⟨u, hu, h⟩ := Option.bind_eq_some_iff.mp h
      exact ih (sound_step hs hu) h

end Steps

/-- What is read is well formed. -/
theorem loads_wellFormed {text : List Char} {v : Json} (h : loads text = some v) :
    v.WellFormed := by
  obtain ⟨s, hs, hsettle⟩ := loadsWith_eq_some.mp h
  have hstart : (State.value []).Sound := fun f hf => nomatch hf
  exact sound_settle (sound_run hstart hs) hsettle

end Json

end LookAway.Base
