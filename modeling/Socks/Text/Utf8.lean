/-!
Texts and the bytes that carry them. Every length in the wire formats counts
the UTF-8 bytes of a text, and a text field is accepted only when its bytes are
the UTF-8 form of some text. The two functions here are inverse to each other:
`ofBytes?_bytes` and `bytes_of_ofBytes?`.
-/
namespace Socks.Text

/-- The UTF-8 bytes of a text. -/
def bytes (text : String) : List UInt8 := text.toByteArray.data.toList

/-- The text whose UTF-8 form these bytes are, if there is one. -/
def ofBytes? (bytes : List UInt8) : Option String := String.fromUTF8? ⟨bytes.toArray⟩

/-- The bytes of a text spell that text. -/
theorem ofBytes?_bytes (text : String) : ofBytes? (bytes text) = some text := by
  have whole : (⟨(bytes text).toArray⟩ : ByteArray) = text.toByteArray := by
    simp [bytes]
  have valid : (⟨(bytes text).toArray⟩ : ByteArray).IsValidUTF8 := whole ▸ text.isValidUTF8
  unfold ofBytes? String.fromUTF8?
  rw [dif_pos valid]
  simp only [String.fromUTF8, whole]

/-- Bytes that spell a text are the bytes of that text, so no two byte strings
spell the same one. -/
theorem bytes_of_ofBytes? {source : List UInt8} {text : String}
    (spelled : ofBytes? source = some text) : bytes text = source := by
  unfold ofBytes? String.fromUTF8? at spelled
  split at spelled
  · cases spelled
    simp [bytes, String.fromUTF8]
  · cases spelled

end Socks.Text
