/-
**What a field holds before it is set.**

* `ResolvedField.declaredDefault` — the default that the schema declares; an empty string or empty bytes
  count as none;
* `ResolvedField.unsetValue` — what the property reads while the field is not set;
* `ResolvedField.initialValue` — what the slot starts with.
-/

import ProtoSwift.Field.Resolved
import ProtoSwift.Swift.Value
import ProtoSwift.Text.Utf8

namespace ProtoSwift.ResolvedField

open Swift

/-- A floating-point default of a type. -/
def floatDefault (type text : String) : Value :=
  if text = "inf" then .infinity type
  else if text = "-inf" then .negativeInfinity type
  else if text = "nan" then .notANumber type
  else .verbatim text

/-- The default that the schema declares. -/
def declaredDefault (table : SymbolTable) (field : ResolvedField) : Except Error (Option Value) :=
  match field.schema.default? with
  | none => .ok none
  | some text =>
    match field.schema.kind with
    | .scalar .double => .ok (some (floatDefault "Double" text))
    | .scalar .float => .ok (some (floatDefault "Float" text))
    | .scalar .string => .ok (if text = "" then none else some (.string text))
    | .scalar .bytes =>
      if text = "" then .ok none
      else
        match Text.CEscape.decode (Text.utf8 text) with
        | .ok bytes => .ok (some (.data bytes))
        | .error fault => .error (.invalidDefault field.name text fault)
    | .enumeration => (table.resolveCase field.schema.typeName text).map fun name => some (.enumCase name)
    | .scalar _ | .message | .group => .ok (some (.verbatim text))

/-- The default of a type when the schema declares none. An enumeration without values has none. -/
def typeDefault : FieldType → Value
  | .message node | .group node => .newMessage node.swiftName
  | .enumeration node =>
    match node.firstCase? with
    | some name => .enumCase name
    | none => .nilValue
  | .scalar .bool => .falseValue
  | .scalar .string => .emptyString
  | .scalar .bytes => .emptyData
  | .scalar _ => .zero
  | .map .. => .emptyDictionary

/-- What the property reads while the field is not set. -/
def unsetValue (table : SymbolTable) (field : ResolvedField) : Except Error Value :=
  if field.isMap then .ok .emptyDictionary
  else if field.isRepeated then .ok .emptyArray
  else (field.declaredDefault table).map fun declared? => declared?.getD (typeDefault field.type)

/-- What the slot starts with. -/
def initialValue (table : SymbolTable) (field : ResolvedField) : Except Error Value :=
  if field.isMap then .ok .emptyDictionary
  else if field.isRepeated then .ok .emptyArray
  else if field.tracksPresence then .ok .nilValue
  else field.unsetValue table

end ProtoSwift.ResolvedField
