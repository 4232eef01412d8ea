/-
**The code of a field, part by part.**

A message puts the code of its fields together from eight parts per field. A part is data first and text
second, so that what the parts share can be stated without reading text.

* `FieldCode` — the eight parts;
* `FieldPlan.code` — the parts for a field;
* the functions named `code` — how each part is written.
-/

import ProtoSwift.Field.Plan
import ProtoSwift.Printer

namespace ProtoSwift

open Swift

/-- The decimal digits of a field number. -/
def numberText (number : Int32) : String :=
  toString number.toInt

/-! ## Declarations -/

/-- A stored variable with its initial value. -/
structure SlotDeclaration where
  /-- The modifiers in front of the declaration, with the space after them. -/
  modifier : String
  name : String
  type : SwiftType
  initial : Value
  deriving DecidableEq, Repr

def SlotDeclaration.code (slot : SlotDeclaration) : Code :=
  .line (slot.modifier ++ "var " ++ slot.name ++ ": " ++ slot.type.text ++ " = " ++ slot.initial.text)

/-- What is behind a property. -/
inductive PropertyBody
  /-- The property is a stored variable. -/
  | stored (initial : Value)
  /-- The property reads a slot, or a fallback while the slot is empty, and writes a slot. -/
  | computed (read : Slot) (fallback? : Option Value) (write : Slot)
  deriving DecidableEq, Repr

/-- The query whether a field is set, and the method that unsets it. -/
structure PresenceMembers where
  modifier : String
  /-- The property that the comments on the members speak of. -/
  property : String
  query : String
  reset : String
  read : Slot
  write : Slot
  deriving DecidableEq, Repr

def PresenceMembers.code (members : PresenceMembers) : Code :=
  Code.line ("/// Returns true if \x60" ++ members.property ++ "\x60 has been explicitly set.")
    ++ Code.line (members.modifier ++ "var " ++ members.query ++ ": Bool \x7breturn " ++ members.read.text
      ++ " != nil\x7d")
    ++ Code.line ("/// Clears the value of \x60" ++ members.property
      ++ "\x60. Subsequent reads from it will return its default value.")
    ++ Code.line (members.modifier ++ "mutating func " ++ members.reset ++ "() \x7b"
      ++ members.write.text ++ " = nil\x7d")

/-- The members through which the users of a message reach a field. -/
structure Interface where
  /-- The comment lines of the property. -/
  comments : String
  modifier : String
  name : String
  type : SwiftType
  body : PropertyBody
  presence? : Option PresenceMembers
  deriving DecidableEq, Repr

/-- The property of an interface. -/
def Interface.propertyCode (interface : Interface) : Code :=
  let head := interface.modifier ++ "var " ++ interface.name ++ ": " ++ interface.type.text
  match interface.body with
  | .stored initial => .line (head ++ " = " ++ initial.text)
  | .computed read fallback? write =>
    let fallback := match fallback? with
      | some value => " ?? " ++ value.text
      | none => ""
    .block (head ++ " \x7b")
      (Code.line ("get \x7breturn " ++ read.text ++ fallback ++ "\x7d")
        ++ Code.line ("set \x7b" ++ write.text ++ " = newValue\x7d"))
      "\x7d"

def Interface.code (interface : Interface) : Code :=
  Code.blank ++ Code.lines interface.comments ++ interface.propertyCode
    ++ (interface.presence?.map PresenceMembers.code).getD []

/-! ## Statements -/

/-- The assignment that copies a slot from another object. -/
structure SlotCopy where
  target : Slot
  source : Slot
  deriving DecidableEq, Repr

def SlotCopy.code (copy : SlotCopy) : Code :=
  .line (copy.target.text ++ " = " ++ copy.source.text)

/-- The test that finds two messages different. -/
structure SlotComparison where
  own : Slot
  other : Slot
  deriving DecidableEq, Repr

def SlotComparison.code (comparison : SlotComparison) : Code :=
  .line ("if " ++ comparison.own.text ++ " != " ++ comparison.other.text ++ " \x7breturn false\x7d")

/-- The test that finds a required field unset. -/
structure RequiredCheck where
  slot : Slot
  deriving DecidableEq, Repr

def RequiredCheck.code (check : RequiredCheck) : Code :=
  .line ("if " ++ check.slot.text ++ " == nil \x7breturn false\x7d")

/-- The test that finds an unset required field in the values of a field. -/
structure ValueCheck where
  slot : Slot
  /-- Whether the slot holds many values, not one or none. -/
  many : Bool
  deriving DecidableEq, Repr

def ValueCheck.code (check : ValueCheck) : Code :=
  if check.many then
    .line ("if !SwiftProtobuf.Internal.areAllInitialized(" ++ check.slot.text ++ ") \x7breturn false\x7d")
  else .line ("if let v = " ++ check.slot.text ++ ", !v.isInitialized \x7breturn false\x7d")

/-- How many values a runtime method handles at once. -/
inductive Multiplicity
  | singular
  | repeated
  | packed
  deriving DecidableEq, Repr

def Multiplicity.word : Multiplicity → String
  | singular => "Singular"
  | repeated => "Repeated"
  | packed => "Packed"

/-- The family of runtime methods that handles a field. -/
inductive Codec
  /-- A map is handled by its codec type. -/
  | map (type : CodecType)
  /-- Any other field is handled by the name of its type. -/
  | values (multiplicity : Multiplicity) (type : String)
  deriving DecidableEq, Repr

/-- The name of a runtime method of the family. -/
def Codec.method (codec : Codec) (verb : String) : String :=
  match codec with
  | .map _ => verb ++ "MapField"
  | .values multiplicity type => verb ++ multiplicity.word ++ type ++ "Field"

/-- The argument that tells the method the type of the field, with the comma after it. -/
def Codec.typeArgument : Codec → String
  | .map type => "fieldType: " ++ type.text ++ ".self, "
  | .values .. => ""

/-- The case of the decoder that reads a field. -/
structure DecodeCase where
  number : Int32
  codec : Codec
  slot : Slot
  deriving DecidableEq, Repr

def DecodeCase.code (decode : DecodeCase) : Code :=
  .line ("case " ++ numberText decode.number ++ ": try decoder." ++ decode.codec.method "decode" ++ "("
    ++ decode.codec.typeArgument ++ "value: &" ++ decode.slot.text ++ ")")

/-- The test that decides whether a field is written. -/
inductive VisitGuard
  | notEmpty (slot : Slot)
  /-- Holds if the slot has a value, and gives it a name. -/
  | isSet (slot : Slot)
  | differs (slot : Slot) (value : Value)
  deriving DecidableEq, Repr

/-- The condition of a guard. -/
def VisitGuard.condition : VisitGuard → String
  | notEmpty slot => "!" ++ slot.text ++ ".isEmpty"
  | isSet slot => "let v = " ++ slot.text
  | differs slot value => slot.text ++ " != " ++ value.text

/-- The expression for the value of the field inside a guard. -/
def VisitGuard.argument : VisitGuard → String
  | notEmpty slot | differs slot _ => slot.text
  | isSet _ => "v"

/-- The statement that writes a field. -/
structure VisitStatement where
  number : Int32
  codec : Codec
  guard : VisitGuard
  deriving DecidableEq, Repr

def VisitStatement.code (visit : VisitStatement) : Code :=
  .block ("if " ++ visit.guard.condition ++ " \x7b")
    (Code.line ("try visitor." ++ visit.codec.method "visit" ++ "(" ++ visit.codec.typeArgument ++ "value: "
      ++ visit.guard.argument ++ ", fieldNumber: " ++ numberText visit.number ++ ")"))
    "\x7d"

/-! ## The parts of a field -/

/-- The code of a field. -/
structure FieldCode where
  /-- The slot, unless the property is stored itself. -/
  storage? : Option SlotDeclaration
  interface : Interface
  clone : SlotCopy
  comparison : SlotComparison
  required? : Option RequiredCheck
  initialized? : Option ValueCheck
  decode : DecodeCase
  visit : VisitStatement
  deriving DecidableEq, Repr

def FieldCode.number (code : FieldCode) : Int32 :=
  code.decode.number

namespace FieldPlan

/-- The part of the runtime's method names that stands for the type of the field. -/
def codecName (plan : FieldPlan) : String :=
  if plan.field.isGroup then "Group"
  else if plan.field.isMessage then "Message"
  else if plan.field.isEnum then "Enum"
  else plan.field.type.runtimeName

def storage? (plan : FieldPlan) : Option SlotDeclaration :=
  if plan.heap then
    some ⟨"", plan.names.slot, plan.field.slotType, plan.initialValue⟩
  else if plan.field.tracksPresence then
    some ⟨"fileprivate ", plan.names.slot, plan.field.slotType, plan.initialValue⟩
  else none

/-- What the property of a field on the heap reads while the slot is empty. A collection is never empty in
this sense. -/
def heapFallback? (plan : FieldPlan) : Option Value :=
  if plan.field.isMap || plan.field.isRepeated then none
  else if plan.field.isMessageOrGroup then some plan.unsetValue
  else match plan.declaredDefault? with
    | some explicit => some explicit
    | none => if plan.field.tracksPresence then some plan.unsetValue else none

/-- The property of a field on the heap passes reads and writes on. -/
def heapBody (plan : FieldPlan) : PropertyBody :=
  .computed ⟨"_storage.", plan.names.slot⟩ plan.heapFallback?
    ⟨"_uniqueStorage().", plan.names.slot⟩

/-- The property of an inline field is stored unless presence is tracked. -/
def inlineBody (plan : FieldPlan) : PropertyBody :=
  if plan.field.tracksPresence then
    .computed ⟨"", plan.names.slot⟩ (some plan.unsetValue) ⟨"", plan.names.slot⟩
  else .stored plan.initialValue

def presence? (plan : FieldPlan) : Option PresenceMembers :=
  if plan.field.tracksPresence then
    some {
      modifier := plan.access.modifier
      property := plan.names.property
      query := plan.names.query
      reset := plan.names.reset
      read := ⟨if plan.heap then "_storage." else "self.", plan.names.slot⟩
      write := ⟨if plan.heap then "_uniqueStorage()." else "self.", plan.names.slot⟩ }
  else none

def interface (plan : FieldPlan) : Interface :=
  { comments := plan.comments
    modifier := plan.access.modifier
    name := plan.names.property
    type := if plan.heap || plan.field.tracksPresence then plan.field.propertyType else plan.field.slotType
    body := if plan.heap then plan.heapBody else plan.inlineBody
    presence? := plan.presence? }

def clone (plan : FieldPlan) : SlotCopy :=
  ⟨⟨"", plan.names.slot⟩, ⟨"source.", plan.names.slot⟩⟩

def comparison (plan : FieldPlan) : SlotComparison :=
  ⟨plan.slot .own, plan.slot .other⟩

def required? (plan : FieldPlan) : Option RequiredCheck :=
  if plan.field.isRequired then some ⟨plan.slot .own⟩ else none

def initialized? (plan : FieldPlan) : Option ValueCheck :=
  if plan.checksValues then some ⟨plan.slot .own, plan.field.isRepeated⟩ else none

def decode (plan : FieldPlan) : DecodeCase :=
  { number := plan.number
    codec :=
      if plan.field.isMap then .map plan.field.codecType
      else .values (if plan.field.isRepeated then .repeated else .singular) plan.codecName
    slot := plan.slot .own }

def visitGuard (plan : FieldPlan) : VisitGuard :=
  if plan.field.isRepeated then .notEmpty (plan.slot .own)
  else if plan.field.isMessageOrGroup || plan.field.tracksPresence then .isSet (plan.slot .own)
  else if plan.field.isString || plan.field.isBytes then .notEmpty (plan.slot .own)
  else .differs (plan.slot .own) plan.unsetValue

def visit (plan : FieldPlan) : VisitStatement :=
  { number := plan.number
    codec :=
      if plan.field.isMap then .map plan.field.codecType
      else .values
        (if plan.field.isPacked then .packed else if plan.field.isRepeated then .repeated else .singular)
        plan.codecName
    guard := plan.visitGuard }

/-- The code of a field. -/
def code (plan : FieldPlan) : FieldCode :=
  { storage? := plan.storage?
    interface := plan.interface
    clone := plan.clone
    comparison := plan.comparison
    required? := plan.required?
    initialized? := plan.initialized?
    decode := plan.decode
    visit := plan.visit }

end FieldPlan

end ProtoSwift
