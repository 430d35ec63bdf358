/-!
# Texts as bytes

The UTF-8 form of a text, and the text of a byte string that is one.
-/

namespace TemplateEngine.Text

def utf8 (s : String) : List UInt8 := s.toUTF8.data.toList

/-- The text of well-formed UTF-8. -/
def ofUtf8? (bytes : List UInt8) : Option String := String.fromUTF8? ⟨bytes.toArray⟩

@[simp] theorem ofUtf8?_utf8 (s : String) : ofUtf8? (utf8 s) = some s := by
  have h : (⟨(utf8 s).toArray⟩ : ByteArray) = s.toByteArray := by simp [utf8]
  simp only [ofUtf8?, h, String.fromUTF8?, s.isValidUTF8, dite_true]
  rfl

end TemplateEngine.Text
