/-
**Why a run fails.**

* `Error` — the causes, each with the names it is about;
* `Error.isSchemaViolation` — whether the schema is at fault, not the parameter or the request;
* `Error.message` — the wording.
-/

import ProtoSwift.Text.CEscape
import ProtoSwift.Text.Quoted
import ProtoSwift.Wire.Fault

namespace ProtoSwift

/-- The two kinds of declared types. Messages and enumerations have separate name spaces. -/
inductive SymbolKind
  | message
  | enumeration
  deriving DecidableEq, Repr

def SymbolKind.word : SymbolKind → String
  | .message => "message"
  | .enumeration => "enum"

/-- Why a run fails. Every cause ends the run without any output. -/
inductive Error
  /-- A reference names no declared type. -/
  | unresolvedSymbol (kind : SymbolKind) (path : String)
  /-- A default names no value of the enumeration. -/
  | unresolvedEnumCase (path value : String)
  /-- A map entry lacks its key or its value. -/
  | malformedMapEntry (path : String)
  /-- A file declares an unknown schema era. -/
  | unsupportedEra (era : String)
  /-- A default value cannot be decoded. -/
  | invalidDefault (field text : String) (fault : Text.CEscape.Fault)
  /-- A requested file is not part of the request. -/
  | unknownFile (name : String)
  /-- The parameter sets an unknown option. -/
  | unknownOption (key : String)
  /-- The parameter sets an option to an unknown value. -/
  | invalidOption (key value : String)
  /-- The bytes of the request are not a request. -/
  | undecodable (cause : Wire.DecodeError)
  deriving DecidableEq, Repr

namespace Error

/-- Whether the schema is at fault. -/
def isSchemaViolation : Error → Bool
  | unresolvedSymbol .. | unresolvedEnumCase .. | malformedMapEntry .. | unsupportedEra ..
  | invalidDefault .. => true
  | unknownFile .. | unknownOption .. | invalidOption .. | undecodable .. => false

/-- The wording of an error. -/
def message : Error → String
  | unresolvedSymbol kind path => "unable to resolve " ++ kind.word ++ " " ++ path
  | unresolvedEnumCase path value => "unable to locate enum case " ++ value ++ " in " ++ path
  | malformedMapEntry path =>
    "map entry " ++ path ++ " must declare a key (1) and a value (2) field"
  | unsupportedEra era => "unsupported syntax: " ++ era
  | invalidDefault field text fault =>
    "invalid default value for field " ++ field ++ ": " ++ fault.message text
  | unknownFile name => "requested file " ++ name ++ " was not supplied in the request"
  | unknownOption key => "unknown generator option: " ++ key
  | invalidOption key value =>
    "invalid value " ++ String.ofList (Text.quoted value.toList) ++ " for generator option " ++ key
  | undecodable cause => "invalid CodeGeneratorRequest: " ++ cause.message

end Error

end ProtoSwift
