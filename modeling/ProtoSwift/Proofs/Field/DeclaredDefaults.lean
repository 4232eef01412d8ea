/-
**Declared defaults survive.**

The front end hands over the default of a string field as it is and that of a bytes field with backslash escapes. What
generated code says instead is read back as the same text and the same bytes.

* `declaredDefault_of_string`, `declaredDefault_of_bytes` — the default of a string field and of a bytes field;
* `string_default_survives` — a string literal is read as the text of the default, holds no control character and
  differs from the literals of all other texts;
* `bytes_default_survives` — bytes are read back from their escapes, and listed by the expression for the default.
-/

import ProtoSwift.Field.Default
import ProtoSwift.Proofs.Swift.Literals
import ProtoSwift.Proofs.Text.EscapedBytes

namespace ProtoSwift.ResolvedField

open Schema Swift Text

variable {table : SymbolTable} {field : ResolvedField} {text : String}

theorem declaredDefault_of_string (kind : field.schema.kind = .scalar .string)
    (declared : field.schema.default? = some text) :
    field.declaredDefault table = .ok (if text = "" then none else some (.string text)) := by
  unfold declaredDefault
  simp only [declared, kind]

/-- The default of a bytes field whose escapes can be read. -/
theorem declaredDefault_of_bytes {bytes : List UInt8} (kind : field.schema.kind = .scalar .bytes)
    (declared : field.schema.default? = some text) (read : CEscape.decode (utf8 text) = .ok bytes) :
    field.declaredDefault table = .ok (if text = "" then none else some (.data bytes)) := by
  unfold declaredDefault
  simp only [declared, kind, read]
  split <;> rfl

/-- A text is written as its literal. -/
theorem toList_text_string (text : String) : (Value.string text).text.toList = stringLiteral text.toList :=
  String.toList_ofList

/-- Bytes are written as the expression that lists them. -/
theorem toList_text_data (bytes : List UInt8) : (Value.data bytes).text.toList = dataLiteral bytes :=
  String.toList_ofList

/-- **String defaults survive.** A string literal is read as its text, to its last character and whatever comes after
it; none of its characters is a control character, and different texts have different literals. The default of a
string field is the literal of the declared text, unless that is empty. -/
theorem string_default_survives :
    (∀ (text : String) (rest : List Char),
        readLiteral ((Value.string text).text.toList ++ rest) = .text text.toList rest)
      ∧ (∀ text : String, ∀ c ∈ (Value.string text).text.toList, Legible c)
      ∧ (∀ text other : String, (Value.string text).text = (Value.string other).text → text = other)
      ∧ ∀ (table : SymbolTable) (field : ResolvedField) (text : String), field.schema.kind = .scalar .string →
        field.schema.default? = some text → text ≠ "" →
        ∃ value, field.declaredDefault table = .ok (some value)
          ∧ readLiteral value.text.toList = .text text.toList [] := by
  refine ⟨fun text rest => ?_, fun text c among => ?_, fun text other same => ?_, ?_⟩
  · rw [toList_text_string, readLiteral_stringLiteral]
  · rw [toList_text_string] at among
    exact legible_of_mem_stringLiteral among
  · have literals := congrArg String.toList same
    rw [toList_text_string, toList_text_string] at literals
    exact String.toList_inj.mp (stringLiteral_inj literals)
  · intro table field text kind declared some
    refine ⟨.string text, ?_, ?_⟩
    · rw [declaredDefault_of_string kind declared, if_neg some]
    · have read := readLiteral_stringLiteral text.toList []
      rwa [List.append_nil, ← toList_text_string] at read

/-- The motto of a bank, with a quotation mark, a backslash before a parenthesis, and a control character before a
digit. -/
def mottoField : ResolvedField :=
  { schema := { name? := some "motto", type? := some 9, default? := some "\"\\(0)\x001\x85a" }
    era := .proto2
    type := .scalar .string }

theorem string_default_survives_motto : mottoField.schema.kind = .scalar .string
    ∧ mottoField.schema.default? = some "\"\\(0)\x001\x85a" ∧ "\"\\(0)\x001\x85a" ≠ ""
    ∧ ∃ value, mottoField.declaredDefault {} = .ok (some value)
      ∧ readLiteral value.text.toList = .text "\"\\(0)\x001\x85a".toList [] := by
  have some : "\"\\(0)\x001\x85a" ≠ "" := by decide
  exact ⟨rfl, rfl, some, string_default_survives.2.2.2 {} mottoField _ rfl rfl some⟩

/-- **Bytes defaults survive.** Bytes are read back from what is written for them with escapes. The default of a bytes
field for which they are written lists them, and there is none for no bytes. -/
theorem bytes_default_survives (bytes : List UInt8) :
    CEscape.decode (utf8 (CEscape.encode bytes)) = .ok bytes
      ∧ ∀ (table : SymbolTable) (field : ResolvedField), field.schema.kind = .scalar .bytes →
        field.schema.default? = some (CEscape.encode bytes) →
        (bytes = [] → field.declaredDefault table = .ok none)
          ∧ (bytes ≠ [] → ∃ value, field.declaredDefault table = .ok (some value)
            ∧ readData? value.text.toList = some bytes) := by
  have read := CEscape.decode_encode bytes
  refine ⟨read, fun table field kind declared => ?_⟩
  rw [declaredDefault_of_bytes kind declared read]
  constructor
  · intro none
    rw [if_pos (CEscape.encode_eq_empty_iff.mpr none)]
  · intro some
    rw [if_neg (mt CEscape.encode_eq_empty_iff.mp some)]
    refine ⟨.data bytes, rfl, ?_⟩
    rw [toList_text_data, readData?_dataLiteral]

/-- The seal of a bank: a byte with octal digits before a digit, a quotation mark, a backslash and a byte that is no
character. -/
def sealBytes : List UInt8 :=
  [0x00, 0x31, 0x22, 0x5c, 0x78, 0xff]

def sealField : ResolvedField :=
  { schema := { name? := some "seal", type? := some 12, default? := some (CEscape.encode sealBytes) }
    era := .proto2
    type := .scalar .bytes }

theorem bytes_default_survives_seal : sealField.schema.kind = .scalar .bytes
    ∧ sealField.schema.default? = some (CEscape.encode sealBytes) ∧ sealBytes ≠ []
    ∧ ∃ value, sealField.declaredDefault {} = .ok (some value) ∧ readData? value.text.toList = some sealBytes := by
  have some : sealBytes ≠ [] := List.cons_ne_nil _ _
  exact ⟨rfl, rfl, some, ((bytes_default_survives sealBytes).2 {} sealField rfl rfl).2 some⟩

example : CEscape.encode sealBytes = "\\0001\\\"\\\\x\\377" := by
  decide

end ProtoSwift.ResolvedField
