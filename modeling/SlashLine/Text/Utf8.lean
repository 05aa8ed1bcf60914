/-!
# Texts of bytes

The text that bytes spell in UTF-8.
-/

namespace SlashLine.Text

/-- The text that bytes spell; none if they spell none. -/
def ofUtf8? (bytes : List UInt8) : Option String := String.fromUTF8? ⟨bytes.toArray⟩

end SlashLine.Text
