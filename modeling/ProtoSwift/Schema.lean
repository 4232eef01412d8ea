/-
**Schemas as the front end of the compiler hands them over.**

A request holds the files of one compilation unit. Every optional setting is an `Option`, because unset
and empty are different settings; the getters without a question mark read an unset one as the empty
string, zero or `false`.

* `Request`, `File`, `Message`, `Field`, `Enumeration`, `EnumValue` — the schema itself;
* `Location` — the comments written on a declaration, which is named by its path;
* `Label`, `Scalar`, `Kind` — the meaning of the label and type numbers of a field.
-/

namespace ProtoSwift.Schema

/-! ## Enumerations -/

/-- A named number of an enumeration. -/
structure EnumValue where
  name? : Option String := none
  number? : Option Int32 := none
  deriving DecidableEq, Inhabited, Repr

def EnumValue.name (value : EnumValue) : String :=
  value.name?.getD ""

def EnumValue.number (value : EnumValue) : Int32 :=
  value.number?.getD 0

/-- An enumeration type. -/
structure Enumeration where
  name? : Option String := none
  values : List EnumValue := []
  deriving DecidableEq, Inhabited, Repr

def Enumeration.name (enumeration : Enumeration) : String :=
  enumeration.name?.getD ""

/-! ## Fields -/

/-- How often a field occurs. -/
inductive Label
  | optional
  | required
  | repeated
  deriving DecidableEq, Inhabited, Repr

/-- A label number that is not set, or is unknown, means an optional field. -/
def Label.ofNumber? (number? : Option Int32) : Label :=
  if number? = some 2 then .required
  else if number? = some 3 then .repeated
  else .optional

/-- The types whose values hold no other message or enumeration. -/
inductive Scalar
  | double
  | float
  | int64
  | uint64
  | int32
  | fixed64
  | fixed32
  | bool
  | string
  | bytes
  | uint32
  | sfixed32
  | sfixed64
  | sint32
  | sint64
  deriving DecidableEq, Inhabited, Repr

/-- What kind of type a field has, before its type name is resolved. -/
inductive Kind
  | scalar (type : Scalar)
  | group
  | message
  | enumeration
  deriving DecidableEq, Repr

/-- The kind of a type number. -/
def Kind.ofNumber : Int → Kind
  | 2 => .scalar .float
  | 3 => .scalar .int64
  | 4 => .scalar .uint64
  | 5 => .scalar .int32
  | 6 => .scalar .fixed64
  | 7 => .scalar .fixed32
  | 8 => .scalar .bool
  | 9 => .scalar .string
  | 10 => .group
  | 11 => .message
  | 12 => .scalar .bytes
  | 13 => .scalar .uint32
  | 14 => .enumeration
  | 15 => .scalar .sfixed32
  | 16 => .scalar .sfixed64
  | 17 => .scalar .sint32
  | 18 => .scalar .sint64
  | _ => .scalar .double

/-- A type number that is not set, or is unknown, means a double. -/
def Kind.ofNumber? (number? : Option Int32) : Kind :=
  match number? with
  | some number => .ofNumber number.toInt
  | none => .scalar .double

structure FieldOptions where
  packed? : Option Bool := none
  deriving DecidableEq, Inhabited, Repr

/-- A field of a message. -/
structure Field where
  name? : Option String := none
  number? : Option Int32 := none
  label? : Option Int32 := none
  type? : Option Int32 := none
  typeName? : Option String := none
  default? : Option String := none
  options? : Option FieldOptions := none
  oneofIndex? : Option Int32 := none
  proto3Optional? : Option Bool := none
  deriving DecidableEq, Inhabited, Repr

def Field.name (field : Field) : String :=
  field.name?.getD ""

def Field.number (field : Field) : Int32 :=
  field.number?.getD 0

def Field.typeName (field : Field) : String :=
  field.typeName?.getD ""

def Field.label (field : Field) : Label :=
  .ofNumber? field.label?

def Field.kind (field : Field) : Kind :=
  .ofNumber? field.type?

/-- Whether the field is declared `optional` in a file of the third era. -/
def Field.isProto3Optional (field : Field) : Bool :=
  field.proto3Optional?.getD false

/-- The packing asked for explicitly, if any. -/
def Field.packed? (field : Field) : Option Bool :=
  field.options?.bind (·.packed?)

/-- Whether the field refers to a message by its type name. -/
def Field.refersToMessage (field : Field) : Bool :=
  field.kind = .message || field.kind = .group

/-- Whether the field is a member of a oneof. The oneof around a single `optional` field does not count. -/
def Field.isOneofMember (field : Field) : Bool :=
  field.oneofIndex?.isSome && !field.isProto3Optional

/-! ## Messages -/

structure MessageOptions where
  entryOfMap? : Option Bool := none
  deriving DecidableEq, Inhabited, Repr

/-- A message type with the types declared inside it. -/
structure Message where
  name? : Option String := none
  fields : List Field := []
  messages : List Message := []
  enumerations : List Enumeration := []
  options? : Option MessageOptions := none
  deriving Inhabited

def Message.name (message : Message) : String :=
  message.name?.getD ""

/-- Whether the message is the entry type of a map field. -/
def Message.isMapEntry (message : Message) : Bool :=
  (message.options?.bind (·.entryOfMap?)).getD false

/-- The first field with a number. -/
def Message.field? (message : Message) (number : Int32) : Option Field :=
  message.fields.find? (·.number = number)

/-- Whether one of the message's own fields is required. -/
def Message.declaresRequired (message : Message) : Bool :=
  message.fields.any (·.label = .required)

/-! ## Files -/

/-- The comments on the declaration at a path. -/
structure Location where
  path : List Int32 := []
  span : List Int32 := []
  leading? : Option String := none
  trailing? : Option String := none
  detached : List String := []
  deriving DecidableEq, Inhabited, Repr

structure SourceInfo where
  locations : List Location := []
  deriving DecidableEq, Inhabited, Repr

structure FileOptions where
  swiftPrefix? : Option String := none
  deriving DecidableEq, Inhabited, Repr

/-- A schema file. -/
structure File where
  name? : Option String := none
  package? : Option String := none
  dependencies : List String := []
  messages : List Message := []
  enumerations : List Enumeration := []
  options? : Option FileOptions := none
  sourceInfo? : Option SourceInfo := none
  era? : Option String := none
  deriving Inhabited

def File.name (file : File) : String :=
  file.name?.getD ""

def File.package (file : File) : String :=
  file.package?.getD ""

/-- The prefix that the file sets for the Swift names of its types. -/
def File.typePrefix? (file : File) : Option String :=
  file.options?.bind (·.swiftPrefix?)

def File.locations (file : File) : List Location :=
  (file.sourceInfo?.map (·.locations)).getD []

/-! ## Requests -/

/-- The version of the front end. -/
structure CompilerVersion where
  major? : Option Int32 := none
  minor? : Option Int32 := none
  patch? : Option Int32 := none
  suffix? : Option String := none
  deriving DecidableEq, Inhabited, Repr

/-- A compilation unit and the files of it to generate. -/
structure Request where
  filesToGenerate : List String := []
  parameter? : Option String := none
  compiler? : Option CompilerVersion := none
  files : List File := []
  deriving Inhabited

def Request.parameter (request : Request) : String :=
  request.parameter?.getD ""

end ProtoSwift.Schema
