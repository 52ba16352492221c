/-
  prepare_priors.py and build_freq_table.py leave the dataset alone: whatever happens to a run of
  theirs, the rows, the images, the manifest and the parquet stay (`keeps_sameSet_prepareMain`,
  `keeps_sameSet_freqMain`).
-/
import LookAway.Priors.DumpSpec
import LookAway.Priors.FreqSpec

namespace LookAway.Priors

open LookAway.Base LookAway.Base.Script LookAway.Data

/-- The rows, the images, the manifest and the parquet are those of `s`. -/
structure SameSet (s t : DataDir) : Prop where
  root : t.root = s.root
  view : t.view = s.view
  manifest : t.manifest = s.manifest
  parquet : t.parquet = s.parquet

theorem SameSet.refl (s : DataDir) : SameSet s s := ⟨rfl, rfl, rfl, rfl⟩

theorem Aside.sameSet {s t : DataDir} (h : Aside s t) : SameSet s t :=
  ⟨h.root, h.view, h.manifest, h.parquet⟩

theorem SameSet.trans {s t u : DataDir} (h : SameSet s t) (h' : SameSet t u) : SameSet s u :=
  ⟨h'.root.trans h.root, h'.view.trans h.view, h'.manifest.trans h.manifest,
    h'.parquet.trans h.parquet⟩

section Derived

variable {sha256 : Digest} {world : World}

theorem sameSet_dumpExit {args : DumpArgs} {s t : DataDir} (h : DumpExit args s t) :
    SameSet s t := by
  rcases h with rfl | ⟨_, _, _, _, _, _, _, _, rfl⟩
  · exact ⟨rfl, rfl, rfl, rfl⟩
  · cases args.part? <;> exact ⟨rfl, rfl, rfl, rfl⟩

theorem sameSet_tempered {s t : DataDir} (h : Tempered s t) : SameSet s t := by
  obtain ⟨b, rfl⟩ := h
  exact ⟨rfl, rfl, rfl, rfl⟩

theorem sameSet_published {args : PrepareArgs} {revision : Option String} {tok : Tokenizer}
    {s t : DataDir} (h : Published sha256 world args revision tok s t) : SameSet s t := by
  obtain ⟨_, _, _, rfl⟩ := h
  exact ⟨rfl, rfl, rfl, rfl⟩

theorem keeps_sameSet_runPriors (args : PrepareArgs) (revision : Option String) (tok : Tokenizer)
    (s : DataDir) : Keeps (SameSet s) (runPriors sha256 world args revision tok) := by
  intro t ht
  have hexit : ∀ u, Tempered t u ∨ Published sha256 world args revision tok t u → SameSet s u := by
    rintro u (hu | hu)
    · exact ht.trans (sameSet_tempered hu)
    · exact ht.trans (sameSet_published hu)
  exact wp_mono (wp_runPriors sha256 world args revision tok t) (fun _ u hu => hexit u (.inr hu))
    (fun _ => hexit) hexit

theorem keeps_sameSet_prepareMain (sha256 : Digest) (world : World) (args : PrepareArgs)
    (s : DataDir) :
    Keeps (SameSet s) (prepareMain sha256 world args) := by
  refine keeps_bind (keeps_read _) fun loaded => ?_
  split
  · refine keeps_bind (fun t ht => ?_) fun _ => keeps_sameSet_runPriors _ _ _ s
    exact wp_mono (wp_mergeShards _ t) (fun _ _ ⟨_, _, hu, _⟩ => ht.trans hu.sameSet)
      (fun _ _ hu => ht.trans hu.sameSet) (fun _ hu => ht.trans hu.sameSet)
  · refine keeps_bind (keeps_read _) fun model => keeps_bind (fun t ht => ?_) fun _ => ?_
    · exact wp_mono (wp_runDump _ t) (fun _ _ hu => ht.trans (sameSet_dumpExit hu.exit))
        (fun _ _ hu => ht.trans (sameSet_dumpExit hu)) (fun _ hu => ht.trans (sameSet_dumpExit hu))
    · split
      · exact keeps_pure ()
      · exact keeps_bind (keeps_atomic fun _ h => ⟨h.root, h.view, h.manifest, h.parquet⟩) fun _ =>
          keeps_sameSet_runPriors _ _ _ s

theorem keeps_sameSet_freqMain (sha256 : Digest) (world : World) (args : FreqArgs) (s : DataDir) :
    Keeps (SameSet s) (freqMain sha256 world args) := by
  intro t ht
  refine wp_mono (wp_freqMain sha256 world args t) ?_
    (fun _ _ hu => ht.trans (sameSet_tempered hu)) (fun _ hu => ht.trans (sameSet_tempered hu))
  rintro _ u ⟨_, _, _, rfl⟩
  exact ⟨ht.root, ht.view, ht.manifest, ht.parquet⟩

end Derived

end LookAway.Priors
