/-
**No struct has another struct in it.**

A struct that holds a value of its own type, or of a type that holds one of it in turn, has no finite size. Whether
the fields of a message go to the heap is decided from the schema alone, which fields are kept is decided as the
members are named, and the types of the variables are decided last, from what the fields refer to. The three
decisions fit together: the variables of a struct hold scalars, enumerations and references.

* `Swift.SwiftType.HoldsInPlace` — a variable of a type holds a value of a named type in itself;
* `MessageNode.Contains` — the lines of one struct declare a variable with another struct in it;
* `MessageNode.keepsField_iff` — the fields that are kept are those outside of oneofs;
* `MessageNode.keepsFieldsOnHeap_eq_true_iff` — which messages keep their fields on the heap;
* `StructDecl.exists_of_stored` — what the stored variables are that a struct declares;
* `MessageNode.finite_size` — no struct has another one in it.
-/

import ProtoSwift.Proofs.Decl.MemberVariables
import Mathlib

namespace ProtoSwift

open Swift

/-! ### Variables -/

/-- **A variable of the type holds a value of a named type in itself**, if it holds any value. The elements of
arrays and dictionaries are somewhere else. -/
inductive Swift.SwiftType.HoldsInPlace (name : String) : SwiftType → Prop
  | value : HoldsInPlace name (.named name)
  | optional {wrapped : SwiftType} (inside : HoldsInPlace name wrapped) : HoldsInPlace name (.optional wrapped)

namespace MessageNode

/-- The field has a property in the struct of the message. -/
def KeepsField (node : MessageNode) (field : Schema.Field) : Prop :=
  ∃ position names, Member.kept position field names ∈ members node

/-- **The struct of one message has the struct of another one in it**: a member of the struct is the line of a stored
variable, the variable belongs to a field that refers to the other message, and it holds a value of the struct of that
message in itself. -/
def Contains (unit : CompilationUnit) (file : FileNode) (outer inner : MessageNode) : Prop :=
  ∃ decl plans, (StructDecl.ofNode unit file outer).result = .ok decl
    ∧ (fieldPlans unit file outer).result = .ok plans ∧ ∃ plan ∈ plans, plan.field.type.message? = some inner
      ∧ ∃ own ∈ plan.code.storedVariables, own.line ∈ decl.code.members ∧ own.type.HoldsInPlace inner.swiftName

/-- **The struct of a message has a finite size**, and no message is kept on the heap without need. -/
structure HasFiniteSize (unit : CompilationUnit) (file : FileNode) (node : MessageNode) : Prop where
  /-- Inline messages have no field for a single message. -/
  inline : node.schema.keepsFieldsOnHeap = false → ∀ field, node.KeepsField field →
    field.label = .repeated ∨ field.refersToMessage = false
  /-- Small messages are on the heap only for such a field. -/
  heap : node.schema.keepsFieldsOnHeap = true → node.fields.length ≤ 16 → ∃ field, node.KeepsField field
    ∧ field.label ≠ .repeated ∧ field.refersToMessage = true
  /-- Whatever stored variable a line of the struct declares, it is one of a field and holds no more than a scalar or an
  enumeration in itself, or it keeps unknown fields, or it is a reference to an object of a class. -/
  held : ∀ decl, (StructDecl.ofNode unit file node).result = .ok decl →
    ∀ line ∈ decl.code.members, ∀ head, VariableHead.read? line = some head → head.stored = true →
      (∃ code ∈ decl.fields, ∃ own ∈ code.storedVariables, line = own.line
        ∧ ∀ name, own.type.HoldsInPlace name → (∃ scalar : Schema.Scalar, name = scalar.swiftName)
          ∨ ∃ declared ∈ unit.symbols.enums, name = declared.swiftName)
      ∨ line = decl.modifier ++ "var unknownFields = SwiftProtobuf.UnknownStorage()\n"
      ∨ decl.heap = true ∧ line = "fileprivate var _storage = _StorageClass()\n"
        ∧ "fileprivate class _StorageClass \x7b\n" ∈ decl.code.members
  apart : ∀ inner, ¬ node.Contains unit file inner

end MessageNode

/-! ### Fields that are kept -/

theorem exists_kept_mem_membersFrom {used : List String} {start : Nat} {fields : List Schema.Field}
    {field : Schema.Field} (among : field ∈ fields) (kept : field.isOneofMember = false) :
    ∃ position names, Member.kept position field names ∈ membersFrom used start fields := by
  induction fields generalizing used start with
  | nil => exact absurd among List.not_mem_nil
  | cons first rest inRest =>
    unfold membersFrom
    by_cases member : first.isOneofMember = true
    · rw [if_pos member]
      rcases List.mem_cons.mp among with rfl | among
      · rw [kept] at member
        cases member
      · obtain ⟨position, names, isMember⟩ := inRest among
        exact ⟨position, names, List.mem_cons_of_mem _ isMember⟩
    · rw [if_neg member]
      rcases List.mem_cons.mp among with rfl | among
      · exact ⟨start, freshNames used field, List.mem_cons_self⟩
      · obtain ⟨position, names, isMember⟩ := inRest among
        exact ⟨position, names, List.mem_cons_of_mem _ isMember⟩

namespace MessageNode

variable {node : MessageNode} {field : Schema.Field}

/-- **The fields that are kept** are those that are no members of a oneof. -/
theorem keepsField_iff : node.KeepsField field ↔ field ∈ node.fields ∧ field.isOneofMember = false := by
  constructor
  · rintro ⟨position, names, among⟩
    exact kept_of_mem_membersFrom among
  · rintro ⟨among, kept⟩
    exact exists_kept_mem_membersFrom among kept

/-- **A message keeps its fields on the heap** if it has many of them, or keeps one for a single message. -/
theorem keepsFieldsOnHeap_eq_true_iff : node.schema.keepsFieldsOnHeap = true ↔ 16 < node.fields.length
    ∨ ∃ field, node.KeepsField field ∧ field.label ≠ .repeated ∧ field.refersToMessage = true := by
  have embeds : (node.schema.fields.any (·.embedsMessage)) = true ↔ ∃ field, node.KeepsField field
      ∧ field.label ≠ .repeated ∧ field.refersToMessage = true := by
    rw [List.any_eq_true]
    refine exists_congr fun field => ?_
    rw [keepsField_iff]
    simp only [Schema.Field.embedsMessage, Bool.and_eq_true, decide_eq_true_eq, Bool.not_eq_true', fields]
    constructor
    · rintro ⟨among, ⟨single, kept⟩, message⟩
      exact ⟨⟨among, kept⟩, single, message⟩
    · rintro ⟨⟨among, kept⟩, single, message⟩
      exact ⟨among, ⟨single, kept⟩, message⟩
  unfold Schema.Message.keepsFieldsOnHeap Schema.inlineFieldLimit
  rw [Bool.or_eq_true, decide_eq_true_eq, embeds]
  rfl

/-- A message with an optional field for one of its own kind goes to the heap. The oneof around the field does not
count. -/
example : Schema.Message.keepsFieldsOnHeap
    { fields := [{ label? := some 1, type? := some 11, oneofIndex? := some 0, proto3Optional? := some true }] }
      = true := by
  decide

end MessageNode

/-! ### Types of slots -/

namespace ResolvedField

variable {field : ResolvedField} {name : String}

/-- **A slot that holds a value in itself** is that of a single value of a named type. -/
theorem single_of_holdsInPlace (holds : field.slotType.HoldsInPlace name) :
    field.isRepeated = false ∧ field.elementType = .named name := by
  have element : field.elementType.HoldsInPlace name → field.elementType = .named name := by
    unfold elementType
    cases field.type with
    | scalar | enumeration | message | group =>
      rintro ⟨⟩
      rfl
    | map => rintro ⟨⟩
  unfold slotType propertyType at holds
  cases many : field.isRepeated with
  | false =>
    refine ⟨rfl, element ?_⟩
    simp only [many, Bool.false_or, Bool.false_and, Bool.false_eq_true, if_false] at holds
    split_ifs at holds with untracked
    · exact holds
    · cases holds with
      | optional inside => exact inside
  | true =>
    simp only [many, Bool.true_or, if_true, Bool.true_and] at holds
    by_cases isMap : field.isMap = true
    · simp only [isMap, Bool.not_true, Bool.false_eq_true, if_false] at holds
      have named := element holds
      unfold ResolvedField.isMap at isMap
      unfold elementType at named
      cases typed : field.type with
      | map =>
        rw [typed] at named
        cases named
      | scalar | enumeration | message | group => simp [typed] at isMap
    · simp only [isMap, Bool.not_false, if_true] at holds
      cases holds

theorem noMap_of_elementType (named : field.elementType = .named name) : field.isMap = false := by
  unfold elementType at named
  unfold isMap
  cases typed : field.type with
  | map =>
    rw [typed] at named
    cases named
  | scalar | enumeration | message | group => rfl

/-- A single value of a named type belongs to a scalar, an enumeration or a message. -/
theorem name_of_elementType {table : SymbolTable} {era : Era} {schema : Schema.Field}
    (resolved : Resolved table era schema field) (named : field.elementType = .named name) :
    (∃ scalar : Schema.Scalar, name = scalar.swiftName)
      ∨ (∃ declared ∈ table.enums, name = declared.swiftName)
      ∨ schema.refersToMessage = true := by
  obtain ⟨_, _, resolves⟩ := resolved
  unfold elementType at named
  generalize field.type = type at named resolves
  cases resolves with
  | @scalar _ scalar =>
    cases named
    exact .inl ⟨scalar, rfl⟩
  | @enumeration _ held _ declared =>
    cases named
    exact .inr (.inl ⟨held, List.mem_of_find?_eq_some declared, rfl⟩)
  | group kind | message kind => exact .inr (.inr (by simp [Schema.Field.refersToMessage, kind]))
  | map => cases named

end ResolvedField

/-! ### Variables of fields -/

namespace FieldPlan

variable {unit : CompilationUnit} {file : FileNode} {node : MessageNode} {plans : List FieldPlan}
  {plan : FieldPlan}

/-- **A field for a single message has put its message on the heap.** -/
theorem heap_of_message (planned : (fieldPlans unit file node).result = .ok plans) (among : plan ∈ plans)
    (single : plan.field.isRepeated = false) (message : plan.field.schema.refersToMessage = true) :
    plan.heap = true := by
  obtain ⟨schema, schemaAmong, kept, names, comments, decisions⟩ := planned_of_mem_fieldPlans planned among
  rw [decisions.resolved.schema_eq] at message
  rw [decisions.heap_eq]
  refine MessageNode.keepsFieldsOnHeap_eq_true_iff.mpr (.inr ⟨schema, ?_, ?_, message⟩)
  · exact MessageNode.keepsField_iff.mpr ⟨schemaAmong, kept⟩
  · rw [← decisions.resolved.schema_eq]
    simpa [ResolvedField.isRepeated] using single

/-- **What the variable of an inline field holds in itself** is a scalar or a value of an enumeration. -/
theorem name_of_holdsInPlace (planned : (fieldPlans unit file node).result = .ok plans) (among : plan ∈ plans)
    (inline : plan.heap = false) {name : String} (holds : plan.field.slotType.HoldsInPlace name) :
    (∃ scalar : Schema.Scalar, name = scalar.swiftName) ∨ ∃ declared ∈ unit.symbols.enums, name = declared.swiftName := by
  obtain ⟨schema, _, _, names, comments, decisions⟩ := planned_of_mem_fieldPlans planned among
  obtain ⟨single, element⟩ := ResolvedField.single_of_holdsInPlace holds
  rcases ResolvedField.name_of_elementType decisions.resolved element with scalar | enumeration | message
  · exact .inl scalar
  · exact .inr enumeration
  · rw [← decisions.resolved.schema_eq] at message
    rw [heap_of_message planned among single message] at inline
    cases inline

/-- A field for a single message starts unset. -/
theorem initial_of_message (planned : (fieldPlans unit file node).result = .ok plans) (among : plan ∈ plans)
    (single : plan.field.isRepeated = false) (noMap : plan.field.isMap = false)
    (message : plan.field.schema.refersToMessage = true) : plan.initialValue = .nilValue := by
  obtain ⟨schema, _, _, names, comments, decisions⟩ := planned_of_mem_fieldPlans planned among
  have tracked : plan.field.tracksPresence = true := ResolvedField.tracked_of_message single message
  rw [decisions.initialValue_eq, ResolvedField.initialOf]
  simp [tracked, noMap]

end FieldPlan

/-! ### Variables of structs -/

namespace StructDecl

variable {unit : CompilationUnit} {file : FileNode} {node : MessageNode} {decl : StructDecl}

/-- The fields of a struct on the heap have no stored property. -/
theorem inline_of_stored? (made : (ofNode unit file node).result = .ok decl) {field : FieldCode}
    (among : field ∈ decl.fields) {own : SlotDeclaration} (stored : field.interface.stored? = some own) :
    decl.heap = false := by
  obtain ⟨plans, structs, planned, _, rfl⟩ := ofNode_eq_ok.mp made
  obtain ⟨plan, isPlan, rfl⟩ := List.mem_map.mp among
  obtain ⟨_, _, _, _, _, decisions⟩ := planned_of_mem_fieldPlans planned isPlan
  rw [← decisions.heap_eq]
  exact FieldPlan.inline_of_stored? stored

/-- A struct on the heap declares the class that its reference is to. -/
theorem storageClass_mem_members (heap : decl.heap = true) :
    "fileprivate class _StorageClass \x7b\n" ∈ decl.code.members := by
  obtain ⟨storageClass, unique, isClass, _, whole⟩ := decl.storageClassCode_eq
  have inClass : "fileprivate class _StorageClass \x7b\n" ∈ storageClass.outer := by
    obtain ⟨inside⟩ := isClass
    rw [Code.outer_block inside]
    exact List.mem_cons_self
  have inStorage : "fileprivate class _StorageClass \x7b\n" ∈ decl.storageClassCode.outer := by
    rw [whole]
    simp only [List.append_assoc]
    exact Code.mem_outer_append_left isClass.balanced inClass _
  have behind : "fileprivate class _StorageClass \x7b\n" ∈ decl.afterChecks.outer := by
    unfold afterChecks
    rw [if_pos heap]
    exact Code.mem_outer_append_right decl.balanced_methods (Code.mem_outer_append_right .blank inStorage)
  rw [members_eq]
  exact List.mem_append_right _ behind

/-- **The stored variables that a struct declares**: those of its fields, if they are inline, the unknown fields, and on
the heap a reference. -/
theorem exists_of_stored (made : (ofNode unit file node).result = .ok decl) {line : String}
    (among : line ∈ decl.code.members) {head : VariableHead} (found : VariableHead.read? line = some head)
    (stored : head.stored = true) :
    (decl.heap = false ∧ ∃ code ∈ decl.fields, ∃ own ∈ code.storedVariables, line = own.line)
      ∨ line = decl.modifier ++ "var unknownFields = SwiftProtobuf.UnknownStorage()\n"
      ∨ decl.heap = true ∧ line = "fileprivate var _storage = _StorageClass()\n" := by
  rcases memberLine_of_mem (readable_of_ofNode made) among with own | checks
  · cases own with
    | noVariable none =>
      rw [none] at found
      cases found
    | @slot field slot inline isField declared =>
      exact .inl ⟨inline, field, isField, slot, List.mem_append_left _ (Option.mem_toList.mpr declared), rfl⟩
    | @property field property isField isStored =>
      exact .inl ⟨inline_of_stored? made isField isStored, field, isField, property,
        List.mem_append_right _ (Option.mem_toList.mpr isStored), rfl⟩
    | computed isHead computed =>
      rw [isHead] at found
      cases found
      rw [stored] at computed
      cases computed
    | unknownFields => exact .inr (.inl rfl)
    | reference heap => exact .inr (.inr ⟨heap, rfl⟩)
  · rw [checks] at found
    cases found
    cases stored

/-- **A struct on the heap declares no variable that starts as `nil`.** The end of its line tells it from those of the
unknown fields and of the reference. -/
theorem line_not_mem_members (made : (ofNode unit file node).result = .ok decl) (heap : decl.heap = true)
    {own : SlotDeclaration} (known : IsAccess own.modifier) (unset : own.initial = .nilValue) :
    own.line ∉ decl.code.members := by
  intro among
  obtain ⟨front, line⟩ : ∃ front, own.line = front ++ "l\n" := by
    refine ⟨own.modifier ++ "var " ++ own.name ++ ": " ++ own.type.text ++ " = ni", ?_⟩
    unfold SlotDeclaration.line variableLine
    rw [unset]
    simp only [String.append_assoc]
    rfl
  have found := read?_variableLine known own.name own.type own.initial
  have stored : (!endsInBrace own.line) = true := by
    rw [line, endsInBrace_eq_false rfl (by decide) (by decide)]
    rfl
  have differ : "l\n" ≠ ")\n" := by decide
  rcases exists_of_stored made among found stored with ⟨inline, _⟩ | unknown | ⟨_, reference⟩
  · rw [heap] at inline
    cases inline
  · have ends : decl.modifier ++ "var unknownFields = SwiftProtobuf.UnknownStorage()\n"
        = decl.modifier ++ "var unknownFields = SwiftProtobuf.UnknownStorage(" ++ ")\n" := by
      rw [String.append_assoc]
      rfl
    rw [line, ends] at unknown
    exact append_ne_append differ rfl _ _ unknown
  · have ends : "fileprivate var _storage = _StorageClass()\n"
        = "fileprivate var _storage = _StorageClass(" ++ ")\n" := rfl
    rw [line, ends] at reference
    exact append_ne_append differ rfl _ _ reference

end StructDecl

namespace MessageNode

variable {unit : CompilationUnit} {file : FileNode}

/-- **Every struct has a finite size.** A message that is not kept on the heap has no field for a single message,
so the variables of its struct hold no struct, and a struct of a message on the heap has a reference only. -/
theorem finite_size (unit : CompilationUnit) (file : FileNode) (node : MessageNode) :
    node.HasFiniteSize unit file := by
  constructor
  case inline =>
    intro inline field kept
    by_contra single
    rw [not_or, Bool.not_eq_false] at single
    have heap := keepsFieldsOnHeap_eq_true_iff.mpr (.inr ⟨field, kept, single⟩)
    rw [inline] at heap
    cases heap
  case heap =>
    intro heap few
    rcases keepsFieldsOnHeap_eq_true_iff.mp heap with many | embeds
    · omega
    · exact embeds
  case held =>
    intro decl made line among head found stored
    rcases StructDecl.exists_of_stored made among found stored with ⟨inline, code, isCode, own, isOwn, rfl⟩
      | unknown | ⟨heap, reference⟩
    · refine .inl ⟨code, isCode, own, isOwn, rfl, fun name holds => ?_⟩
      obtain ⟨plans, structs, planned, _, rfl⟩ := StructDecl.ofNode_eq_ok.mp made
      obtain ⟨plan, isPlan, rfl⟩ := List.mem_map.mp isCode
      obtain ⟨_, _, _, _, _, decisions⟩ := planned_of_mem_fieldPlans planned isPlan
      rw [(FieldPlan.of_mem_storedVariables isOwn).1] at holds
      exact FieldPlan.name_of_holdsInPlace planned isPlan (decisions.heap_eq.trans inline) holds
    · exact .inr (.inl unknown)
    · exact .inr (.inr ⟨heap, reference, StructDecl.storageClass_mem_members heap⟩)
  case apart =>
    rintro inner ⟨decl, plans, made, planned, plan, among, refers, own, isOwn, inCode, holds⟩
    obtain ⟨schema, _, _, names, comments, decisions⟩ := planned_of_mem_fieldPlans planned among
    obtain ⟨type, initial⟩ := FieldPlan.of_mem_storedVariables isOwn
    rw [type] at holds
    obtain ⟨single, element⟩ := ResolvedField.single_of_holdsInPlace holds
    obtain ⟨message, _⟩ := decisions.resolved.type_resolves.declared_of_message? refers
    rw [← decisions.resolved.schema_eq] at message
    have noMap : plan.field.isMap = false := ResolvedField.noMap_of_elementType element
    have onHeap := FieldPlan.heap_of_message planned among single message
    have unset := initial.trans (FieldPlan.initial_of_message planned among single noMap message)
    have known := FieldCode.isAccess_of_mem_storedVariables (FieldCode.readable_of_planned planned among) isOwn
    refine StructDecl.line_not_mem_members made ?_ known unset inCode
    obtain ⟨_, _, _, _, rfl⟩ := StructDecl.ofNode_eq_ok.mp made
    exact decisions.heap_eq.symm.trans onHeap

end MessageNode

end ProtoSwift
