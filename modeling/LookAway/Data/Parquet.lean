/-
  What convert_to_parquet leaves at each of its exits.
-/
import LookAway.Data.BuildTrainset

namespace LookAway.Data

open LookAway.Base LookAway.Base.Script

/-- A temporary file is removed on the way out; `Q` and `R` do not speak of it. -/
theorem wp_tryFinally_removeTemp {c : Py Unit} {Q R : DataDir → Prop} {s : DataDir}
    (hQR : ∀ t, Q t → R t) (hQ : ∀ t, Q t → Q { t with temp := false })
    (hR : ∀ t, R t → R { t with temp := false }) (h : wp c (fun _ => Q) (fun _ => R) R s) :
    wp (tryFinally c removeTemp) (fun _ => Q) (fun _ => R) R s := by
  refine wp_tryFinally (wp_mono h ?_ ?_ (fun _ ht => ht))
  · exact fun _ t ht => wp_atomic (fun _ => hQR t ht) (hQR t ht) (hQ t ht)
  · exact fun _ t ht => wp_atomic (fun _ => ht) ht (hR t ht)

/-- `t` is `s` up to the temporary file. -/
def Tempered (s t : DataDir) : Prop := ∃ b, t = { s with temp := b }

theorem Tempered.refl (s : DataDir) : Tempered s s := ⟨s.temp, rfl⟩

theorem Tempered.remove {s t : DataDir} (h : Tempered s t) :
    Tempered s { t with temp := false } := by
  obtain ⟨b, rfl⟩ := h
  exact ⟨false, rfl⟩

/-- `t` is `s` with the parquet of these results. -/
def Converted (results : List ResultRecord) (s t : DataDir) : Prop :=
  ∃ lines records, s.jsonl = some lines ∧
    parquetRecords s.root.1 lines results = .ok records ∧
    Tempered { s with parquet := some ⟨.complete records, s.generation, s.view⟩ } t

theorem wp_convertToParquet (results : List ResultRecord) (s : DataDir) :
    wp (convertToParquet results) (fun _ => Converted results s)
      (fun _ t => Tempered s t ∨ Converted results s t)
      (fun t => Tempered s t ∨ Converted results s t) s := by
  have h0 : Tempered s s ∨ Converted results s s := .inl (.refl s)
  refine wp_bind (wp_read (fun _ => h0) h0 fun records hrecords => ?_)
  obtain ⟨lines, hjsonl, hrecords⟩ : ∃ lines, s.jsonl = some lines ∧
      parquetRecords s.root.1 lines results = .ok records := by
    cases hjsonl : s.jsonl with
    | none =>
        rw [hjsonl] at hrecords
        cases hrecords
    | some lines =>
        rw [hjsonl] at hrecords
        exact ⟨lines, rfl, hrecords⟩
  have htemp : Tempered s { s with temp := true } := ⟨true, rfl⟩
  refine wp_tryFinally_removeTemp (fun _ h => .inr h) ?_ ?_ ?_
  · rintro t ⟨lines, records, hjsonl, hrecords, ht⟩
    exact ⟨lines, records, hjsonl, hrecords, ht.remove⟩
  · rintro t (h | ⟨lines, records, hjsonl, hrecords, ht⟩)
    · exact .inl h.remove
    · exact .inr ⟨lines, records, hjsonl, hrecords, ht.remove⟩
  · refine wp_bind (wp_atomic (fun _ => h0) h0 ?_)
    exact wp_atomic (fun _ => .inl htemp) (.inl htemp)
      ⟨lines, records, hjsonl, hrecords, false, rfl⟩

end LookAway.Data
