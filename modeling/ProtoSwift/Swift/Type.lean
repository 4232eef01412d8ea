/-
**Types and runtime codecs in generated Swift code.**

* `SwiftType` — the type of a variable;
* `CodecType` — the runtime type that reads and writes values of a field in a map;
* `Scalar.codecName`, `Scalar.swiftName` — the runtime's name for a scalar, and its Swift type.
-/

import ProtoSwift.Schema

namespace ProtoSwift

/-! ## Scalars -/

namespace Schema.Scalar

/-- The part of the runtime's method names that stands for a scalar. -/
def codecName : Scalar → String
  | double => "Double"
  | float => "Float"
  | int64 => "Int64"
  | uint64 => "UInt64"
  | int32 => "Int32"
  | fixed64 => "Fixed64"
  | fixed32 => "Fixed32"
  | bool => "Bool"
  | string => "String"
  | bytes => "Bytes"
  | uint32 => "UInt32"
  | sfixed32 => "SFixed32"
  | sfixed64 => "SFixed64"
  | sint32 => "SInt32"
  | sint64 => "SInt64"

/-- The Swift type of a scalar. -/
def swiftName : Scalar → String
  | double => "Double"
  | float => "Float"
  | int64 | sint64 | sfixed64 => "Int64"
  | uint64 | fixed64 => "UInt64"
  | int32 | sint32 | sfixed32 => "Int32"
  | uint32 | fixed32 => "UInt32"
  | bool => "Bool"
  | string => "String"
  | bytes => "Data"

end Schema.Scalar

namespace Swift

/-! ## Types -/

/-- The type of a variable. -/
inductive SwiftType
  | named (name : String)
  | optional (wrapped : SwiftType)
  | array (element : SwiftType)
  | dictionary (key value : SwiftType)
  deriving DecidableEq, Repr

def SwiftType.text : SwiftType → String
  | named name => name
  | optional wrapped => wrapped.text ++ "?"
  | array element => "[" ++ element.text ++ "]"
  | dictionary key value => "Dictionary<" ++ key.text ++ "," ++ value.text ++ ">"

/-! ## Codecs -/

/-- What the values of a map are, as far as the runtime's codec tells them apart. -/
inductive MapKind
  | scalars
  | enumerations
  | messages
  deriving DecidableEq, Repr

def MapKind.codecName : MapKind → String
  | scalars => "_ProtobufMap"
  | enumerations => "_ProtobufEnumMap"
  | messages => "_ProtobufMessageMap"

/-- The runtime type that reads and writes the values of a field. -/
inductive CodecType
  | scalar (type : Schema.Scalar)
  /-- A generated type is its own codec. -/
  | declared (name : String)
  | map (kind : MapKind) (key value : CodecType)
  deriving DecidableEq, Repr

def CodecType.text : CodecType → String
  | scalar type => "SwiftProtobuf.Protobuf" ++ type.codecName
  | declared name => name
  | map kind key value => "SwiftProtobuf." ++ kind.codecName ++ "<" ++ key.text ++ "," ++ value.text ++ ">"

end Swift

end ProtoSwift
