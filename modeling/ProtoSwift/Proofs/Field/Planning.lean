/-
**What is known of a field once there is a plan for it.**

* `FieldPlan.Planned` — the parts of a plan, each as the decision about the field that it stands for;
* `FieldPlan.planned_of_make` — a plan holds nothing but these decisions;
* `FieldPlan.make_eq` — only the type and the declared default of a field can keep it from having a plan;
* `FieldPlan.make_of_scalar` — so a field of a scalar type has one;
* `ledgerUnit` — a compilation unit with a map of messages, to try statements about fields on.
-/

import ProtoSwift.Field.Plan
import ProtoSwift.Proofs.Field.Resolution

namespace ProtoSwift

open Swift

/-! ### Defaults -/

namespace ResolvedField

variable {table : SymbolTable} {field : ResolvedField} {declared? : Option Value}

/-- What the property of a field reads while it is not set, for a default that the schema declares. -/
def unsetOf (field : ResolvedField) (declared? : Option Value) : Value :=
  if field.isMap then .emptyDictionary
  else if field.isRepeated then .emptyArray
  else declared?.getD (typeDefault field.type)

/-- What the slot of a field starts with, for a default that the schema declares. -/
def initialOf (field : ResolvedField) (declared? : Option Value) : Value :=
  if field.tracksPresence && !field.isMap then .nilValue else field.unsetOf declared?

theorem unsetValue_eq (declared : field.declaredDefault table = .ok declared?) :
    field.unsetValue table = .ok (field.unsetOf declared?) := by
  unfold unsetValue unsetOf
  rw [declared]
  split
  · rfl
  · split <;> rfl

theorem initialValue_eq (declared : field.declaredDefault table = .ok declared?) :
    field.initialValue table = .ok (field.initialOf declared?) := by
  unfold initialValue initialOf
  rw [unsetValue_eq declared]
  unfold unsetOf tracksPresence
  cases field.isMap <;> cases field.isRepeated <;> simp
  split <;> rfl

end ResolvedField

/-! ### Plans -/

namespace FieldPlan

/-- **The decisions in a plan.** -/
structure Planned (unit : CompilationUnit) (era : Era) (names : FieldNames) (comments : String)
    (heap : Bool) (schema : Schema.Field) (plan : FieldPlan) : Prop where
  resolve_eq : ResolvedField.resolve unit.symbols era schema = .ok plan.field
  declaredDefault_eq : plan.field.declaredDefault unit.symbols = .ok plan.declaredDefault?
  unsetValue_eq : plan.unsetValue = plan.field.unsetOf plan.declaredDefault?
  initialValue_eq : plan.initialValue = plan.field.initialOf plan.declaredDefault?
  names_eq : plan.names = names
  comments_eq : plan.comments = comments
  access_eq : plan.access = unit.options.access
  heap_eq : plan.heap = heap
  checksValues_eq : plan.checksValues = plan.field.type.message?.any unit.leadsToRequired

variable {unit : CompilationUnit} {era : Era} {names : FieldNames} {comments : String} {heap : Bool}
  {schema : Schema.Field} {plan : FieldPlan}

/-- The plan for a field with a type and a declared default. -/
def ofDecisions (unit : CompilationUnit) (names : FieldNames) (comments : String) (heap : Bool)
    (field : ResolvedField) (declared? : Option Value) : FieldPlan :=
  { field, names, comments, heap
    declaredDefault? := declared?
    unsetValue := field.unsetOf declared?
    initialValue := field.initialOf declared?
    access := unit.options.access
    checksValues := field.type.message?.any unit.leadsToRequired }

/-- **Nothing but its type and its declared default can keep a field from having a plan.** -/
theorem make_eq (unit : CompilationUnit) (era : Era) (names : FieldNames) (comments : String)
    (heap : Bool) (schema : Schema.Field) :
    make unit era names comments heap schema = (do
      let field ← ResolvedField.resolve unit.symbols era schema
      let declared? ← field.declaredDefault unit.symbols
      return ofDecisions unit names comments heap field declared?) := by
  unfold make
  refine bind_congr fun field => ?_
  cases declared : field.declaredDefault unit.symbols with
  | error cause => rfl
  | ok declared? =>
    simp only [ResolvedField.unsetValue_eq declared, ResolvedField.initialValue_eq declared]
    rfl

/-- A field of a scalar type has a plan if it declares no default. -/
theorem make_of_scalar (unit : CompilationUnit) {type : Schema.Scalar} (kind : schema.kind = .scalar type)
    (plain : schema.default? = none) (era : Era) (names : FieldNames) (comments : String) (heap : Bool) :
    make unit era names comments heap schema
      = .ok (ofDecisions unit names comments heap ⟨schema, era, .scalar type⟩ none) := by
  have resolved : FieldType.resolve unit.symbols schema = .ok (.scalar type) := by
    unfold FieldType.resolve FieldType.resolveInside
    rw [kind]
  rw [make_eq, ResolvedField.resolve, resolved]
  show ((⟨schema, era, .scalar type⟩ : ResolvedField).declaredDefault _ >>= _) = _
  unfold ResolvedField.declaredDefault
  rw [plain]
  rfl

theorem planned_of_make (made : make unit era names comments heap schema = .ok plan) :
    Planned unit era names comments heap schema plan := by
  rw [make_eq] at made
  obtain ⟨field, resolved, made⟩ := bind_eq_ok.mp made
  obtain ⟨declared?, declared, made⟩ := bind_eq_ok.mp made
  cases made
  exact ⟨resolved, declared, rfl, rfl, rfl, rfl, rfl, rfl, rfl⟩

theorem Planned.resolved (planned : Planned unit era names comments heap schema plan) :
    ResolvedField.Resolved unit.symbols era schema plan.field :=
  ResolvedField.resolved_of_resolve planned.resolve_eq

theorem Planned.initialValue (planned : Planned unit era names comments heap schema plan) :
    plan.field.initialValue unit.symbols = .ok plan.initialValue := by
  rw [planned.initialValue_eq]
  exact ResolvedField.initialValue_eq planned.declaredDefault_eq

theorem Planned.unsetValue (planned : Planned unit era names comments heap schema plan) :
    plan.field.unsetValue unit.symbols = .ok plan.unsetValue := by
  rw [planned.unsetValue_eq]
  exact ResolvedField.unsetValue_eq planned.declaredDefault_eq

end FieldPlan

/-! ### A ledger -/

/-- An account has to have a balance. -/
def balanceSchema : Schema.Field :=
  { name? := some "balance", number? := some 1, label? := some 2, type? := some 3 }

def accountSchema : Schema.Message :=
  { name? := some "Account", fields := [balanceSchema] }

/-- The entries of the map from owners to accounts. -/
def accountsEntrySchema : Schema.Message :=
  { name? := some "AccountsEntry"
    fields := [
      { name? := some "key", number? := some 1, label? := some 1, type? := some 9 },
      { name? := some "value", number? := some 2, label? := some 1, type? := some 11,
        typeName? := some ".bank.Account" }]
    options? := some { entryOfMap? := some true } }

/-- The map from owners to accounts. -/
def accountsSchema : Schema.Field :=
  { name? := some "accounts", number? := some 2, label? := some 3, type? := some 11,
    typeName? := some ".bank.Ledger.AccountsEntry" }

def ledgerSchema : Schema.Message :=
  { name? := some "Ledger", fields := [accountsSchema], messages := [accountsEntrySchema] }

def ledgerFile : Schema.File :=
  { name? := some "bank.proto", package? := some "bank", messages := [ledgerSchema, accountSchema] }

def ledgerUnit : CompilationUnit :=
  { options := {}, symbols := ⟨[FileNode.declare .proto2 ledgerFile]⟩, requested := [] }

def accountNode : MessageNode :=
  MessageNode.declare (.ofPackage "bank") (.file (Swift.typePrefix "bank" none)) [4, 1] accountSchema

def ledgerNode : MessageNode :=
  MessageNode.declare (.ofPackage "bank") (.file (Swift.typePrefix "bank" none)) [4, 0] ledgerSchema

def accountsEntryNode : MessageNode :=
  MessageNode.declare ledgerNode.fullName (.message ledgerNode.swiftName) [4, 0, 3, 0] accountsEntrySchema

theorem ledgerUnit_entriesEnd : ledgerUnit.symbols.EntriesEnd :=
  SymbolTable.entriesEnd_of_flat (by decide)

theorem accountsSchema_resolves : FieldType.Resolves ledgerUnit.symbols accountsSchema
    (.map accountsEntryNode (.scalar .string) (.message accountNode)) := by
  have found : ledgerUnit.symbols.entryOf? accountsSchema = some accountsEntryNode := rfl
  have declared : ledgerUnit.symbols.message? ".bank.Account" = some accountNode := rfl
  exact .map found rfl rfl (.scalar rfl) (.message rfl declared rfl)

/-- There is a plan for the map, however its message is stored. -/
theorem accountsSchema_make (era : Era) (names : FieldNames) (comments : String) (heap : Bool) :
    FieldPlan.make ledgerUnit era names comments heap accountsSchema
      = .ok (FieldPlan.ofDecisions ledgerUnit names comments heap
        ⟨accountsSchema, era, .map accountsEntryNode (.scalar .string) (.message accountNode)⟩ none) := by
  have resolved := (FieldType.resolve_eq_ok_iff ledgerUnit_entriesEnd).mpr accountsSchema_resolves
  rw [FieldPlan.make_eq, ResolvedField.resolve, resolved]
  rfl

/-- There is a plan for the balance of an account. -/
theorem balanceSchema_make (era : Era) (names : FieldNames) (comments : String) (heap : Bool) :
    FieldPlan.make ledgerUnit era names comments heap balanceSchema
      = .ok (FieldPlan.ofDecisions ledgerUnit names comments heap
        ⟨balanceSchema, era, .scalar .int64⟩ none) := by
  have resolves : FieldType.Resolves ledgerUnit.symbols balanceSchema (.scalar .int64) := .scalar rfl
  have resolved := (FieldType.resolve_eq_ok_iff ledgerUnit_entriesEnd).mpr resolves
  rw [FieldPlan.make_eq, ResolvedField.resolve, resolved]
  rfl

end ProtoSwift
