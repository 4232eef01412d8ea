/-
**Values that generated code starts with.**

* `Value` — the expressions that serve as defaults;
* `Value.text` — how an expression is written.
-/

import ProtoSwift.Swift.Literal

namespace ProtoSwift.Swift

/-- An expression that serves as a default. -/
inductive Value
  | nilValue
  | emptyArray
  | emptyDictionary
  | falseValue
  | zero
  | emptyString
  | emptyData
  /-- A value of a message type without any field set. -/
  | newMessage (type : String)
  /-- A case of the enumeration that is expected. -/
  | enumCase (name : String)
  | infinity (type : String)
  | negativeInfinity (type : String)
  | notANumber (type : String)
  | string (text : String)
  | data (bytes : List UInt8)
  /-- A number or truth value, spelt as the schema spells it. -/
  | verbatim (text : String)
  deriving DecidableEq, Repr

def Value.text : Value → String
  | nilValue => "nil"
  | emptyArray => "[]"
  | emptyDictionary => "[:]"
  | falseValue => "false"
  | zero => "0"
  | emptyString => "String()"
  | emptyData => "SwiftProtobuf.Internal.emptyData"
  | newMessage type => type ++ "()"
  | enumCase name => "." ++ name
  | infinity type => type ++ ".infinity"
  | negativeInfinity type => "-" ++ type ++ ".infinity"
  | notANumber type => type ++ ".nan"
  | string text => String.ofList (stringLiteral text.toList)
  | data bytes => String.ofList (dataLiteral bytes)
  | verbatim text => text

end ProtoSwift.Swift
