/-
**The sections of a struct that speak of its fields.**

The code of a struct depends on its fields in a few places only. Each of them is a section that writes one part
of every field, in the order of the declaration or in the order of the numbers. All other code stays the same
if the struct gets other fields.

* `Section` — a part of every field, and the order of the fields;
* `LaysOut` — code that consists of sections and of code between them that does not depend on the fields;
* `StructDecl.sections` — the sections of a struct, in the order in which they are written;
* `StructDecl.laysOut_code` — the code of a struct consists of them.
-/

import ProtoSwift.Decl.Struct

namespace ProtoSwift

/-! ### Sections -/

/-- A part that is written for every field. -/
structure Section where
  part : FieldCode → Code
  /-- Whether the fields are in the order of their numbers, not in that of their declaration. -/
  numbered : Bool := false
  /-- What comes first, if there is anything to write. -/
  lead : Code := []

/-- Fields in the order of their numbers. -/
def inNumberOrder (fields : List FieldCode) : List FieldCode :=
  fields.mergeSort fun first second => first.number.toInt ≤ second.number.toInt

/-- The parts of the fields, one after another. -/
def Section.body (part : Section) (fields : List FieldCode) : Code :=
  (if part.numbered then inNumberOrder fields else fields).flatMap part.part

def Section.code (part : Section) (fields : List FieldCode) : Code :=
  if part.body fields = [] then [] else part.lead ++ part.body fields

/-- A section that starts with its first part. -/
theorem Section.code_of_lead {part : Section} (none : part.lead = []) : part.code = part.body := by
  funext fields
  unfold code
  split
  · rename_i empty
    exact empty.symm
  · rw [none, List.nil_append]

/-- **Code that is made of sections.** What comes before, between and after them does not depend on the
fields. -/
inductive LaysOut : (List FieldCode → Code) → List Section → Prop
  | frame (code : Code) : LaysOut (fun _ => code) []
  | next (gap : Code) (first : Section) {make : List FieldCode → Code} {rest : List Section}
    (after : LaysOut make rest) : LaysOut (fun fields => gap ++ first.code fields ++ make fields) (first :: rest)

namespace LaysOut

variable {make other : List FieldCode → Code} {sections more : List Section}

theorem before (laid : LaysOut make sections) (code : Code) :
    LaysOut (fun fields => code ++ make fields) sections := by
  cases laid with
  | frame rest => exact .frame (code ++ rest)
  | next gap first after =>
    have joined := next (code ++ gap) first after
    simp only [List.append_assoc] at joined ⊢
    exact joined

theorem append (laid : LaysOut make sections) (next : LaysOut other more) :
    LaysOut (fun fields => make fields ++ other fields) (sections ++ more) := by
  induction laid with
  | frame code => exact next.before code
  | next gap first _ inRest =>
    have joined := LaysOut.next gap first inRest
    simp only [List.append_assoc] at joined ⊢
    exact joined

theorem after (laid : LaysOut make sections) (code : Code) :
    LaysOut (fun fields => make fields ++ code) sections := by
  have joined := laid.append (frame code)
  rwa [List.append_nil] at joined

/-- Code that is the same for all fields is not made of sections. -/
theorem constant (same : ∀ fields, make fields = make []) : LaysOut make [] := by
  have whole : make = fun _ => make [] := funext same
  rw [whole]
  exact frame (make [])

/-- A section alone. -/
theorem of (part : Section) : LaysOut part.code [part] := by
  have alone := next [] part (frame [])
  simp only [List.nil_append, List.append_nil] at alone
  exact alone

theorem ofBody {part : Section} (none : part.lead = []) : LaysOut part.body [part] := by
  rw [← Section.code_of_lead none]
  exact of part

theorem block (laid : LaysOut make sections) (opening closing : String) :
    LaysOut (fun fields => Code.block opening (make fields) closing) sections :=
  (((laid.before [.indent]).after [.outdent]).before (Code.line opening)).after (Code.line closing)

/-- Code that is one thing or another, which does not depend on the fields. -/
theorem ite {condition : Bool} (laid : condition = true → LaysOut make sections)
    (otherwise : condition = false → LaysOut other more) :
    LaysOut (fun fields => if condition then make fields else other fields)
      (if condition then sections else more) := by
  cases condition with
  | true => exact laid rfl
  | false => exact otherwise rfl

/-- The same if both consist of the same sections. -/
theorem either {condition : Bool} (laid : LaysOut make sections) (otherwise : LaysOut other sections) :
    LaysOut (fun fields => if condition then make fields else other fields) sections := by
  cases condition with
  | true => exact laid
  | false => exact otherwise

end LaysOut

/-! ### The sections of a struct -/

namespace StructDecl

/-- The declarations of the slots, on the heap. -/
def slots : Section :=
  { part := fun field => (field.storage?.map SlotDeclaration.code).getD [] }

/-- The declarations of the slots in the struct itself, after an empty line. -/
def inlineSlots : Section :=
  { slots with lead := Code.blank }

/-- The properties, and the members that tell if they are set. -/
def accessors : Section :=
  { part := fun field => field.interface.code }

def requiredChecks : Section :=
  { part := fun field => (field.required?.map RequiredCheck.code).getD [] }

def valueChecks : Section :=
  { part := fun field => (field.initialized?.map ValueCheck.code).getD [] }

/-- The cases of the decoder. -/
def decodeCases : Section :=
  { part := fun field => field.decode.code, numbered := true }

/-- The statements that write the fields. -/
def visits : Section :=
  { part := fun field => field.visit.code, numbered := true }

def comparisons : Section :=
  { part := fun field => field.comparison.code }

/-- The assignments that copy the slots, on the heap. -/
def clones : Section :=
  { part := fun field => field.clone.code }

/-- **The sections of a struct** in the order in which they are written. Slots inside the struct come before the
properties, and those on the heap come last, with the copy of each. -/
def sections (decl : StructDecl) : List Section :=
  (if decl.heap then [] else [inlineSlots])
    ++ [accessors]
    ++ (if decl.checksRequired then [requiredChecks, valueChecks] else [])
    ++ [decodeCases, visits, comparisons]
    ++ (if decl.heap then [slots, clones] else [])

/-- The struct with other fields. -/
def withFields (decl : StructDecl) (fields : List FieldCode) : StructDecl :=
  { decl with fields }

section WithFields

variable (decl : StructDecl) (fields : List FieldCode)

@[simp] theorem fields_withFields : (decl.withFields fields).fields = fields := rfl

@[simp] theorem fieldsByNumber_withFields :
    (decl.withFields fields).fieldsByNumber = inNumberOrder fields := rfl

@[simp] theorem modifier_withFields : (decl.withFields fields).modifier = decl.modifier := rfl

@[simp] theorem swiftName_withFields : (decl.withFields fields).swiftName = decl.swiftName := rfl

@[simp] theorem schemaName_withFields : (decl.withFields fields).schemaName = decl.schemaName := rfl

@[simp] theorem heap_withFields : (decl.withFields fields).heap = decl.heap := rfl

@[simp] theorem checksRequired_withFields :
    (decl.withFields fields).checksRequired = decl.checksRequired := rfl

@[simp] theorem comparisonsCode_withFields :
    (decl.withFields fields).comparisonsCode = comparisons.body fields := rfl

@[simp] theorem slotsCode_withFields : (decl.withFields fields).slotsCode = slots.body fields := rfl

/-- Slots inside the struct are written after an empty line, if there are any. -/
theorem inlineSlotsCode_withFields : (decl.withFields fields).inlineSlotsCode
    = if decl.heap then [] else inlineSlots.code fields := by
  have none : slots.body fields = [] ↔ fields.all (·.storage?.isNone) = true := by
    show List.flatMap slots.part fields = [] ↔ _
    rw [List.flatMap_eq_nil_iff, List.all_eq_true]
    refine forall₂_congr fun field _ => ?_
    show (field.storage?.map SlotDeclaration.code).getD [] = [] ↔ _
    cases field.storage? <;> simp [SlotDeclaration.code, Code.line]
  show (if (decl.heap || fields.all (·.storage?.isNone)) = true then [] else Code.blank ++ slots.body fields)
    = if decl.heap then [] else if slots.body fields = [] then [] else Code.blank ++ slots.body fields
  cases decl.heap with
  | true => rfl
  | false => simp only [Bool.false_or, none, Bool.false_eq_true, if_false]

end WithFields

variable (decl : StructDecl)

theorem laysOut_withStorage {make : List FieldCode → Code} {sections : List Section}
    (laid : LaysOut make sections) (call : String) :
    LaysOut (fun fields => (decl.withFields fields).withStorage call (make fields)) sections := by
  simp only [withStorage, heap_withFields]
  exact (laid.block _ _).either laid

theorem laysOut_isInitializedCode :
    LaysOut (fun fields => (decl.withFields fields).isInitializedCode) [requiredChecks, valueChecks] := by
  simp only [isInitializedCode, modifier_withFields, fields_withFields]
  have required : LaysOut requiredChecks.body [requiredChecks] := .ofBody rfl
  have values : LaysOut valueChecks.body [valueChecks] := .ofBody rfl
  exact (decl.laysOut_withStorage ((required.append values).after (Code.line "return true")) _).block _ _

theorem laysOut_decodeMessageCode :
    LaysOut (fun fields => (decl.withFields fields).decodeMessageCode) [decodeCases] := by
  simp only [decodeMessageCode, modifier_withFields, heap_withFields, fieldsByNumber_withFields]
  have cases : LaysOut decodeCases.body [decodeCases] := .ofBody rfl
  refine LaysOut.block (LaysOut.append (.constant fun _ => rfl) ?_) _ _
  refine decl.laysOut_withStorage (LaysOut.block ?_ _ _) _
  exact ((cases.before _).after _).after _

theorem laysOut_traverseCode : LaysOut (fun fields => (decl.withFields fields).traverseCode) [visits] := by
  simp only [traverseCode, modifier_withFields, fieldsByNumber_withFields]
  have written : LaysOut visits.body [visits] := .ofBody rfl
  exact ((decl.laysOut_withStorage written _).after _).block _ _

theorem laysOut_storageComparisonCode :
    LaysOut (fun fields => (decl.withFields fields).storageComparisonCode) [comparisons] := by
  simp only [storageComparisonCode, comparisonsCode_withFields]
  have compared : LaysOut comparisons.body [comparisons] := .ofBody rfl
  refine .block (.after (.block ?_ _ _) _) _ _
  exact (compared.before _).after _

theorem laysOut_equalityCode : LaysOut (fun fields => (decl.withFields fields).equalityCode) [comparisons] := by
  simp only [equalityCode, modifier_withFields, swiftName_withFields, heap_withFields,
    comparisonsCode_withFields]
  have compared : LaysOut comparisons.body [comparisons] := .ofBody rfl
  exact (((decl.laysOut_storageComparisonCode.either compared).after _).after _).block _ _

theorem laysOut_storageClassCode :
    LaysOut (fun fields => (decl.withFields fields).storageClassCode) [slots, clones] := by
  simp only [storageClassCode, slotsCode_withFields, fields_withFields]
  have declared : LaysOut slots.body [slots] := .ofBody rfl
  have copied : LaysOut clones.body [clones] := .ofBody rfl
  refine .after (.after (.after (.after (.block ?_ _ _) _) _) _) _
  exact (((declared.after _).after _).after _).append (copied.block _ _)

/-- What a struct declares before its nested types. -/
theorem laysOut_membersCode : LaysOut (fun fields => (decl.withFields fields).membersCode)
    ((if decl.heap then [] else [inlineSlots]) ++ [accessors]) := by
  simp only [membersCode, modifier_withFields, schemaName_withFields, fields_withFields]
  have properties : LaysOut accessors.body [accessors] := .ofBody rfl
  have inline : LaysOut (fun fields => (decl.withFields fields).inlineSlotsCode)
      (if decl.heap then [] else [inlineSlots]) := by
    simp only [inlineSlotsCode_withFields]
    exact .ite (fun _ => .frame []) fun _ => .of inlineSlots
  exact (((inline.before _).append properties).after _).after _

/-- What a struct declares after its nested types. -/
theorem laysOut_conformanceCode : LaysOut (fun fields => (decl.withFields fields).conformanceCode)
    ((if decl.checksRequired then [requiredChecks, valueChecks] else [])
      ++ [decodeCases, visits, comparisons] ++ (if decl.heap then [slots, clones] else [])) := by
  simp only [conformanceCode, modifier_withFields, checksRequired_withFields, heap_withFields]
  have parts : [decodeCases, visits, comparisons] = [decodeCases] ++ ([visits] ++ [comparisons]) := rfl
  rw [parts, ← List.append_assoc, ← List.append_assoc]
  refine LaysOut.append ?_ (.ite (fun _ => decl.laysOut_storageClassCode.before _) fun _ => .frame [])
  refine LaysOut.append (LaysOut.after ?_ _) decl.laysOut_equalityCode
  refine LaysOut.append (LaysOut.after ?_ _) decl.laysOut_traverseCode
  refine LaysOut.append (LaysOut.after (LaysOut.before ?_ _) _) decl.laysOut_decodeMessageCode
  exact .ite (fun _ => decl.laysOut_isInitializedCode.before _) fun _ => .frame []

/-- **The code of a struct consists of its sections.** Its name, its comments and its nested types are the same
whatever its fields are. -/
theorem laysOut_code : LaysOut (fun fields => (decl.withFields fields).code) decl.sections := by
  have whole : (fun fields => (decl.withFields fields).code) = fun fields =>
      Code.lines decl.comments ++ Code.block decl.opening
        ((decl.withFields fields).membersCode
          ++ decl.enums.flatMap (fun nested => Code.blank ++ nested.code)
          ++ codes decl.structs
          ++ (decl.withFields fields).conformanceCode)
        "\x7d" := by
    funext fields
    cases decl
    exact code.eq_1 ..
  rw [whole]
  have parts : decl.sections = ((if decl.heap then [] else [inlineSlots]) ++ [accessors])
      ++ ((if decl.checksRequired then [requiredChecks, valueChecks] else [])
        ++ [decodeCases, visits, comparisons] ++ (if decl.heap then [slots, clones] else [])) := by
    simp only [sections, List.append_assoc]
  rw [parts]
  refine LaysOut.before (LaysOut.block ?_ _ _) _
  refine LaysOut.append (LaysOut.after (LaysOut.after ?_ _) _) decl.laysOut_conformanceCode
  exact decl.laysOut_membersCode

end StructDecl

end ProtoSwift
