import Mathlib.Data.String.Basic

/-!
# UTF-8 octets

The octets of a text, from which the text and nothing else is read back.
-/

namespace Utf8

def octets (text : String) : List UInt8 := text.toByteArray.data.toList

def text? (bytes : List UInt8) : Option String := String.fromUTF8? ⟨bytes.toArray⟩

theorem text?_octets (text : String) : text? (octets text) = some text := by
  have valid : (⟨(octets text).toArray⟩ : ByteArray) = text.toByteArray := by
    rw [octets, Array.toArray_toList]
  rw [text?, valid, String.fromUTF8?, dif_pos text.isValidUTF8]
  rfl

theorem octets_of_text? {bytes : List UInt8} {text : String} (decoded : text? bytes = some text) :
    octets text = bytes := by
  unfold text? String.fromUTF8? at decoded
  split_ifs at decoded with valid
  rw [← Option.some.inj decoded, octets]
  rfl

end Utf8
