/-
**What can be wrong with the bytes of a message.**

* `Fault` — the cause, found at one place of the input;
* `DecodeError` — the cause with the fields around that place, innermost first;
* `DecodeError.message` — its wording.
-/

namespace ProtoSwift.Wire

/-- How the value of a field is delimited. -/
inductive WireType
  | varint
  | sixtyFourBit
  | lengthDelimited
  | startGroup
  | endGroup
  | thirtyTwoBit
  deriving DecidableEq, Repr

/-- The wire type of the low three bits of a key; two of the eight values mean none. -/
def WireType.ofNumber? : Nat → Option WireType
  | 0 => some .varint
  | 1 => some .sixtyFourBit
  | 2 => some .lengthDelimited
  | 3 => some .startGroup
  | 4 => some .endGroup
  | 5 => some .thirtyTwoBit
  | _ => none

def WireType.name : WireType → String
  | .varint => "Varint"
  | .sixtyFourBit => "SixtyFourBit"
  | .lengthDelimited => "LengthDelimited"
  | .startGroup => "StartGroup"
  | .endGroup => "EndGroup"
  | .thirtyTwoBit => "ThirtyTwoBit"

/-- Why bytes are not a message. -/
inductive Fault
  /-- A varint does not end in time, or is too large. -/
  | invalidVarint
  /-- A key has more than 32 bits. -/
  | invalidKey (key : Nat)
  /-- A key has an unassigned wire type. -/
  | invalidWireType (number : Nat)
  /-- A key has the tag zero. -/
  | zeroTag
  /-- A known field comes with the wrong wire type. -/
  | unexpectedWireType (actual expected : WireType)
  /-- A length is larger than what is left of the input. -/
  | bufferUnderflow
  /-- The bytes of a string are not UTF-8. -/
  | notUtf8
  /-- Messages or groups are nested too deeply. -/
  | recursionLimitReached
  /-- The last field of a message goes on after its end. -/
  | lengthExceeded
  /-- A group ends that was not begun, or was begun with another tag. -/
  | unexpectedGroupEnd
  deriving DecidableEq, Repr

/-- The wording of a cause. -/
def Fault.message : Fault → String
  | .invalidVarint => "invalid varint"
  | .invalidKey key => "invalid key value: " ++ toString key
  | .invalidWireType number => "invalid wire type value: " ++ toString number
  | .zeroTag => "invalid tag value: 0"
  | .unexpectedWireType actual expected =>
    "invalid wire type: " ++ actual.name ++ " (expected " ++ expected.name ++ ")"
  | .bufferUnderflow => "buffer underflow"
  | .notUtf8 => "invalid string value: data is not UTF-8 encoded"
  | .recursionLimitReached => "recursion limit reached"
  | .lengthExceeded => "delimited length exceeded"
  | .unexpectedGroupEnd => "unexpected end group tag"

/-- A known field of a message, by their names. -/
structure FieldName where
  message : String
  field : String
  deriving DecidableEq, Repr

/-- A fault and the known fields whose values were being read, innermost first. -/
structure DecodeError where
  fault : Fault
  path : List FieldName := []
  deriving DecidableEq, Repr

/-- The error seen from outside one more field. -/
def DecodeError.inside (error : DecodeError) (field : FieldName) : DecodeError :=
  { error with path := error.path ++ [field] }

/-- The wording of a decoding error. -/
def DecodeError.message (error : DecodeError) : String :=
  "failed to decode Protobuf message: "
    ++ String.join (error.path.map fun name => name.message ++ "." ++ name.field ++ ": ")
    ++ error.fault.message

end ProtoSwift.Wire
