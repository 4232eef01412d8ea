/-
**Where the fields of a generated message live.**

A struct cannot contain itself, so a message with a singular message field keeps its fields in a shared
object on the heap, and so does a message with many fields. All other messages hold their fields inline.

* `Schema.Message.keepsFieldsOnHeap` — the choice.
-/

import ProtoSwift.Schema

namespace ProtoSwift.Schema

/-- A message with more fields than this keeps them on the heap. -/
def inlineFieldLimit : Nat :=
  16

/-- Whether a field puts one value of another message into its own message. -/
def Field.embedsMessage (field : Field) : Bool :=
  field.label ≠ .repeated && !field.isOneofMember && field.refersToMessage

/-- Whether a message keeps its fields on the heap. -/
def Message.keepsFieldsOnHeap (message : Message) : Bool :=
  inlineFieldLimit < message.fields.length || message.fields.any (·.embedsMessage)

end ProtoSwift.Schema
