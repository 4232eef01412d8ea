/-
**The Swift types of a field.**

* `ResolvedField.elementType` — the type of one value;
* `ResolvedField.propertyType` — the type of the property;
* `ResolvedField.slotType` — the type of the slot, optional where presence is tracked;
* `ResolvedField.codecType` — the runtime codec.
-/

import ProtoSwift.Field.Resolved
import ProtoSwift.Swift.Type

namespace ProtoSwift

open Swift

namespace FieldType

/-- The Swift type of one value. -/
def elementType : FieldType → SwiftType
  | scalar type => .named type.swiftName
  | enumeration node => .named node.swiftName
  | message node | group node => .named node.swiftName
  | map _ key value => .dictionary key.elementType value.elementType

/-- What the runtime takes the values of a map for. Only messages proper count as messages. -/
def mapKind : FieldType → MapKind
  | message _ | map .. => .messages
  | enumeration _ => .enumerations
  | scalar _ | group _ => .scalars

/-- The runtime codec of the values. -/
def codecType : FieldType → CodecType
  | scalar type => .scalar type
  | enumeration node => .declared node.swiftName
  | message node | group node => .declared node.swiftName
  | map _ key value => .map value.mapKind key.codecType value.codecType

/-- The runtime's name for the type; a message is named by its Swift type. -/
def runtimeName : FieldType → String
  | scalar type => type.codecName
  | enumeration _ => "Enum"
  | message node | group node | map node _ _ => node.swiftName

end FieldType

namespace ResolvedField

def elementType (field : ResolvedField) : SwiftType :=
  field.type.elementType

/-- The type of the property. A map is a collection already. -/
def propertyType (field : ResolvedField) : SwiftType :=
  if field.isRepeated && !field.isMap then .array field.elementType else field.elementType

/-- The type of the slot. -/
def slotType (field : ResolvedField) : SwiftType :=
  if field.isRepeated || !field.tracksPresence then field.propertyType else .optional field.elementType

def codecType (field : ResolvedField) : CodecType :=
  field.type.codecType

end ResolvedField

end ProtoSwift
