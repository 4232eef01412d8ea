/-
**Everything decided about a field before code is written for it.**

* `FieldPlan` — the resolved field, its names and comments, and its defaults;
* `FieldPlan.make` — the plan for a field of the schema, or why there is none;
* `FieldPlan.slot` — the variable that holds the field.
-/

import ProtoSwift.CompilationUnit
import ProtoSwift.Field.Default
import ProtoSwift.Field.Typing
import ProtoSwift.Swift.FieldNames

namespace ProtoSwift

open Swift

/-- A stored variable as generated code reads or writes it. -/
structure Slot where
  /-- The expression in front of the name, with the dot after it. -/
  owner : String
  name : String
  deriving DecidableEq, Repr

def Slot.text (slot : Slot) : String :=
  slot.owner ++ slot.name

/-- A message of which generated code reads a field. -/
inductive Side
  | own
  | other
  deriving DecidableEq, Repr

/-- What is decided about a field before code is written for it. -/
structure FieldPlan where
  field : ResolvedField
  names : FieldNames
  /-- The comment lines of the property. -/
  comments : String
  access : AccessLevel
  /-- Whether the message keeps its fields on the heap. -/
  heap : Bool
  /-- Whether values of the field have to be checked for unset required fields. -/
  checksValues : Bool
  declaredDefault? : Option Value
  unsetValue : Value
  initialValue : Value

namespace FieldPlan

/-- The plan for a field of a file of an era. -/
def make (unit : CompilationUnit) (era : Era) (names : FieldNames) (comments : String) (heap : Bool)
    (schema : Schema.Field) : Except Error FieldPlan := do
  let field ← ResolvedField.resolve unit.symbols era schema
  let declaredDefault? ← field.declaredDefault unit.symbols
  let unsetValue ← field.unsetValue unit.symbols
  let initialValue ← field.initialValue unit.symbols
  return {
    field, names, comments, heap, declaredDefault?, unsetValue, initialValue
    access := unit.options.access
    checksValues := field.type.message?.any unit.leadsToRequired }

def number (plan : FieldPlan) : Int32 :=
  plan.field.number

/-- The variable that holds the field: on the heap a slot of the shared object, inline the slot behind the
property, or the property itself if presence is not tracked. -/
def slot (plan : FieldPlan) (side : Side) : Slot :=
  if plan.heap then
    match side with
    | .own => ⟨"_storage.", plan.names.slot⟩
    | .other => ⟨"other_storage.", plan.names.slot⟩
  else
    let owner := match side with
      | .own => "self."
      | .other => "other."
    if plan.field.tracksPresence then ⟨owner, plan.names.slot⟩ else ⟨owner, plan.names.property⟩

end FieldPlan

end ProtoSwift
