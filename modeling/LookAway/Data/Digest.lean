/-
  A digest without collisions: everything the scripts hash can be counted, so the assumption that
  SHA-256 has no collision is consistent.
-/
import Mathlib.Data.Countable.Basic
import Mathlib.Data.Rat.Encodable
import Mathlib.Logic.Equiv.List
import Mathlib.Tactic.DeriveCountable
import LookAway.Data.Launch

namespace LookAway.Data

open LookAway.Base

instance charCountable : Countable Char :=
  Function.Injective.countable (f := Char.toNat) fun a b h => by
    rw [← Char.ofNat_toNat a, h, Char.ofNat_toNat]

instance stringCountable : Countable String :=
  Function.Injective.countable (f := String.toList) fun _ _ h => String.toList_inj.mp h

instance byteCountable : Countable UInt8 :=
  Function.Injective.countable (f := UInt8.toNat) fun _ _ h => UInt8.toNat_inj.mp h

deriving instance Countable for Binary64
deriving instance Countable for PyNumber
deriving instance Countable for Geometry
deriving instance Countable for Generated
deriving instance Countable for ResultRecord
deriving instance Countable for TrainRecord
deriving instance Countable for Doc
deriving instance Countable for DumpToken
deriving instance Countable for DumpRecord
deriving instance Countable for DumpLine
deriving instance Countable for TokenizerPayload
deriving instance Countable for Hashed

theorem exists_collisionFree : ∃ sha256 : Digest, Function.Injective sha256 := by
  obtain ⟨f, hf⟩ := exists_injective_nat Hashed
  refine ⟨fun x => zeroPadded 64 (f x), fun a b h => hf ?_⟩
  exact Int.ofNat.inj (zeroPadded_injective 64 h)

end LookAway.Data
