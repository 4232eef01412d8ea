/-
**The fields of a message that are generated, and their names.**

Members of a oneof are left out. A field whose property name is taken by an earlier one gets its number as a
suffix.

* `Member` — a field of a message, left out or kept with its position and names;
* `members` — the fields of a message, in order;
* `fieldPlans` — the plans of the kept fields, with a warning for every other one.
-/

import ProtoSwift.Decl.Storage
import ProtoSwift.Field.Code

namespace ProtoSwift

open Swift

/-- A field of a message. -/
inductive Member
  | skipped (field : Schema.Field)
  | kept (position : Nat) (field : Schema.Field) (names : FieldNames)
  deriving DecidableEq, Repr

/-- The names of a field after those that are used. -/
def freshNames (used : List String) (field : Schema.Field) : FieldNames :=
  let names := FieldNames.ofField field.name
  if used.contains names.property then names.suffixed (numberText field.number) else names

/-- The members from a position on, after the used property names. -/
def membersFrom (used : List String) (position : Nat) : List Schema.Field → List Member
  | [] => []
  | field :: rest =>
    if field.isOneofMember then .skipped field :: membersFrom used (position + 1) rest
    else
      let names := freshNames used field
      .kept position field names :: membersFrom (names.property :: used) (position + 1) rest

/-- The members of a message. -/
def members (node : MessageNode) : List Member :=
  membersFrom [] 0 node.fields

/-- The plan of a member of a message of a file, if it is kept. -/
def Member.plan (unit : CompilationUnit) (file : FileNode) (node : MessageNode) :
    Member → Run (Option FieldPlan)
  | .skipped field => do
    Run.warn [.skippedOneofMember node.fullName field.name]
    return none
  | .kept position field names => do
    let comments := file.commentText (node.path.field position)
    let plan ← FieldPlan.make unit file.era names comments node.schema.keepsFieldsOnHeap field
    return some plan

/-- The plans of the kept fields of a message. -/
def fieldPlans (unit : CompilationUnit) (file : FileNode) (node : MessageNode) : Run (List FieldPlan) := do
  let plans ← (members node).mapM (Member.plan unit file node)
  return plans.filterMap id

end ProtoSwift
