/-
**Texts as bytes.**

* `utf8` — the bytes of a text;
* `ofUtf8?` — the text with given bytes, if there is one;
* `ofUtf8?_utf8` — reading back what was written.
-/

namespace ProtoSwift.Text

/-- The bytes of a text. -/
def utf8 (text : String) : List UInt8 :=
  text.toUTF8.data.toList

/-- The text with the given bytes, if they are well formed. -/
def ofUtf8? (bytes : List UInt8) : Option String :=
  String.fromUTF8? ⟨bytes.toArray⟩

theorem ofUtf8?_utf8 (text : String) : ofUtf8? (utf8 text) = some text := by
  simp only [ofUtf8?, utf8, String.fromUTF8?, Array.toArray_toList]
  exact dif_pos text.isValidUTF8

end ProtoSwift.Text
