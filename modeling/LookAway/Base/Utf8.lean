/-
  UTF-8 texts, and what is left of one when its bytes are cut. Nothing here names a program.

  * `decodeUtf8_eq_some`: a byte string decodes to the text it encodes, and to no other.
  * `prefix_of_utf8`: a text whose bytes are a prefix of the bytes of another is a prefix of it. So
    a cut between two bytes is a cut between two characters, or the rest is not readable.
-/
import Mathlib.Data.List.Infix
import Mathlib.Tactic.Common

namespace LookAway.Base

/-- The bytes of a text. -/
def utf8 (text : List Char) : List UInt8 := text.flatMap String.utf8EncodeChar

/-- The text of a byte string; `none` is the UnicodeDecodeError. -/
def decodeUtf8 (bytes : List UInt8) : Option (List Char) :=
  (String.fromUTF8? bytes.toByteArray).map String.toList

theorem utf8_append (xs ys : List Char) : utf8 (xs ++ ys) = utf8 xs ++ utf8 ys := by
  simp [utf8]

theorem toByteArray_utf8 (text : List Char) : (utf8 text).toByteArray = text.utf8Encode := rfl

/-- A byte string decodes to the text it encodes, and to no other. -/
theorem decodeUtf8_eq_some {bytes : List UInt8} {text : List Char} :
    decodeUtf8 bytes = some text ↔ utf8 text = bytes := by
  unfold decodeUtf8 String.fromUTF8?
  constructor
  · intro h
    obtain ⟨s, hs, rfl⟩ := Option.map_eq_some_iff.mp h
    split at hs
    · cases hs
      apply List.toByteArray_inj.mp
      rw [toByteArray_utf8, String.utf8Encode_toList]
      rfl
    · cases hs
  · rintro rfl
    have hvalid : (utf8 text).toByteArray.IsValidUTF8 := ⟨text, rfl⟩
    rw [dif_pos hvalid]
    exact congrArg some (String.toList_ofList (l := text))

theorem decodeUtf8_utf8 (text : List Char) : decodeUtf8 (utf8 text) = some text :=
  decodeUtf8_eq_some.mpr rfl

/-- A text whose bytes start the bytes of another starts the other. -/
theorem prefix_of_utf8 {xs ys : List Char} (h : utf8 xs <+: utf8 ys) : xs <+: ys := by
  obtain ⟨rest, hrest⟩ := h
  refine List.isPrefix_of_utf8Encode_append_eq_utf8Encode rest.toByteArray ?_
  rw [← toByteArray_utf8, ← toByteArray_utf8, ← hrest, List.toByteArray_append]

end LookAway.Base
