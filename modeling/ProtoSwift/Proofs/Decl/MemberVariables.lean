/-
**The variables that a struct declares.**

The members of a struct are properties, functions and types, each under its comments. Which of them are variables, and
which of these are stored, is read from their lines. The variables of fields have the lines that the plans of the
fields give them, and the others are the same for all structs.

* `FieldCode.storedVariables` — the stored variables in the code of a field, of which there is one;
* `FieldCode.Readable`, `StructDecl.Readable` — declarations whose members are told apart by how they start;
* `StructDecl.MemberLine` — what a line of a struct can declare;
* `StructDecl.beforeChecks`, `StructDecl.afterChecks` — what is around the property that checks the required fields;
* `StructDecl.memberLine_of_mem` — each member of a struct is such a line, or the head of that property;
* `StructDecl.declares_of_mem` — the variables of fields are declared, in the struct or in the class of its object;
* `StructDecl.readable_of_ofNode` — the struct of a message is readable.
-/

import ProtoSwift.Proofs.Decl.Indentation
import ProtoSwift.Proofs.Decl.MemberNames
import ProtoSwift.Proofs.Field.Declarations
import Mathlib

namespace ProtoSwift

open Swift

/-! ### Lines of variables -/

namespace VariableHead

/-- The first character of a name is that of the text behind `var`, unless it parts the name from the rest. -/
theorem head?_nameOf {text : List Char} {first : Char} (starts : text.head? = some first)
    (inName : first ≠ ':' ∧ first ≠ ' ') : (nameOf text).toList.head? = some first := by
  cases text with
  | nil => cases starts
  | cons head rest =>
    cases starts
    unfold nameOf
    rw [String.toList_ofList, List.takeWhile_cons_of_pos (by simp [inName])]
    rfl

/-- A name that starts with another character is another name. -/
theorem nameOf_ne {text : List Char} {first : Char} (starts : text.head? = some first)
    (inName : first ≠ ':' ∧ first ≠ ' ') {name : String} (other : name.toList.head? ≠ some first) :
    nameOf text ≠ name := by
  rintro rfl
  exact other (head?_nameOf starts inName)

end VariableHead

/-! ### Readable declarations -/

/-- The property of an interface, if it is a stored variable. -/
def Interface.stored? (interface : Interface) : Option SlotDeclaration :=
  match interface.body with
  | .stored initial => some ⟨interface.modifier, interface.name, interface.type, initial⟩
  | .computed .. => none

/-- The stored variables in the code of a field: the slot, and the property if it is stored. Whether the struct declares
them, or the class of its object on the heap, is another question. -/
def FieldCode.storedVariables (code : FieldCode) : List SlotDeclaration :=
  code.storage?.toList ++ code.interface.stored?.toList

/-- **The code of a field whose lines are told apart by how they start.** -/
structure FieldCode.Readable (code : FieldCode) : Prop where
  comments : IsCommentText code.interface.comments
  access : IsAccess code.interface.modifier
  name : ':' ∉ code.interface.name.toList ∧ ' ' ∉ code.interface.name.toList
  other : code.interface.name ∉ messageMembers
  members : ∀ members, code.interface.presence? = some members →
    IsAccess members.modifier ∧ members.query.toList.head? = some 'h'
  slot : ∀ slot, code.storage? = some slot → IsAccess slot.modifier ∧ slot.name.toList.head? = some '_'

theorem FieldCode.isAccess_of_mem_storedVariables {code : FieldCode} (readable : code.Readable) {own : SlotDeclaration}
    (isOwn : own ∈ code.storedVariables) : IsAccess own.modifier := by
  rcases List.mem_append.mp isOwn with slot | property
  · exact (readable.slot own (Option.mem_toList.mp slot)).1
  · have stored : code.interface.stored? = some own := Option.mem_toList.mp property
    unfold Interface.stored? at stored
    split at stored <;> cases stored
    exact readable.access

namespace FieldPlan

variable {plan : FieldPlan} {own : SlotDeclaration}

/-- **A field has one variable**, behind its property or as its property. -/
theorem storedVariables_eq (plan : FieldPlan) : ∃ modifier, plan.code.storedVariables
    = [⟨modifier, plan.variableName, plan.field.slotType, plan.initialValue⟩] := by
  cases heap : plan.heap <;> cases tracked : plan.field.tracksPresence <;>
    simp [FieldCode.storedVariables, Interface.stored?, code, storage?, interface, inlineBody, heapBody, variableName,
      heap, tracked]

theorem of_mem_storedVariables (isOwn : own ∈ plan.code.storedVariables) :
    own.type = plan.field.slotType ∧ own.initial = plan.initialValue := by
  obtain ⟨modifier, only⟩ := plan.storedVariables_eq
  rw [only] at isOwn
  obtain rfl := List.mem_singleton.mp isOwn
  exact ⟨rfl, rfl⟩

/-- A property that is stored belongs to an inline field. -/
theorem inline_of_stored? (stored : plan.code.interface.stored? = some own) : plan.heap = false := by
  have shape : plan.interface.stored? = some own := stored
  unfold Interface.stored? interface at shape
  cases heap : plan.heap with
  | true => simp [heap, heapBody] at shape
  | false => rfl

end FieldPlan

/-- **A struct whose members are told apart by how they start.** -/
structure StructDecl.Readable (decl : StructDecl) : Prop where
  access : IsAccess decl.modifier
  fields : ∀ field ∈ decl.fields, field.Readable
  enums : ∀ nested ∈ decl.enums, IsCommentText nested.comments ∧ IsAccess nested.modifier
  structs : ∀ nested ∈ decl.structs, IsCommentText nested.comments ∧ IsAccess nested.modifier

/-! ### Members line by line -/

namespace StructDecl

/-- **What a line of a struct can declare**, if it is not the head of the property that checks the required fields. -/
inductive MemberLine (decl : StructDecl) : String → Prop
  | noVariable {line : String} (none : VariableHead.read? line = none) : MemberLine decl line
  | slot {field : FieldCode} {slot : SlotDeclaration} (inline : decl.heap = false) (among : field ∈ decl.fields)
    (declared : field.storage? = some slot) : MemberLine decl slot.line
  | property {field : FieldCode} {property : SlotDeclaration} (among : field ∈ decl.fields)
    (stored : field.interface.stored? = some property) : MemberLine decl property.line
  | computed {line : String} {head : VariableHead} (found : VariableHead.read? line = some head)
    (computed : head.stored = false) (other : head.name ≠ "isInitialized") : MemberLine decl line
  | unknownFields : MemberLine decl (decl.modifier ++ "var unknownFields = SwiftProtobuf.UnknownStorage()\n")
  /-- The reference to the object with the fields. -/
  | reference (heap : decl.heap = true) : MemberLine decl "fileprivate var _storage = _StorageClass()\n"

/-- What is in front of the property that checks the required fields. -/
def beforeChecks (decl : StructDecl) : Code :=
  decl.membersCode ++ decl.enums.flatMap (fun nested => Code.blank ++ nested.code) ++ codes decl.structs
    ++ (Code.blank ++ Code.line (decl.modifier ++ "init() \x7b\x7d"))

/-- What is behind the property that checks the required fields. -/
def afterChecks (decl : StructDecl) : Code :=
  Code.blank ++ decl.decodeMessageCode ++ Code.blank ++ decl.traverseCode ++ Code.blank ++ decl.equalityCode
    ++ (if decl.heap then Code.blank ++ decl.storageClassCode else [])

/-- The property that checks the required fields, if there is one. -/
def checksCode (decl : StructDecl) : Code :=
  if decl.checksRequired then Code.blank ++ decl.isInitializedCode else []

/-- A struct has the property that checks the required fields between its other members, if at all. -/
theorem code_eq_around (decl : StructDecl) : decl.code = Code.lines decl.comments ++ Code.block decl.opening
    (decl.beforeChecks ++ decl.checksCode ++ decl.afterChecks) "\x7d" := by
  rw [code_eq]
  simp only [conformanceCode, beforeChecks, checksCode, afterChecks, List.append_assoc]

theorem balanced_beforeChecks (decl : StructDecl) : decl.beforeChecks.Balanced :=
  ((decl.balanced_membersCode.append decl.balanced_enums).append (balanced_codes decl.structs)).append
    (Code.Balanced.blank.append (.line _))

theorem balanced_checksCode (decl : StructDecl) : decl.checksCode.Balanced :=
  .ite (Code.Balanced.blank.append decl.isBlock_isInitializedCode.balanced) .nil

theorem balanced_methods (decl : StructDecl) : Code.Balanced (Code.blank ++ decl.decodeMessageCode ++ Code.blank
    ++ decl.traverseCode ++ Code.blank ++ decl.equalityCode) :=
  ((((Code.Balanced.blank.append decl.isBlock_decodeMessageCode.balanced).append .blank).append
    decl.isBlock_traverseCode.balanced).append .blank).append decl.isBlock_equalityCode.balanced

theorem balanced_afterChecks (decl : StructDecl) : decl.afterChecks.Balanced :=
  decl.balanced_methods.append (.ite (Code.Balanced.blank.append decl.balanced_storageClassCode) .nil)

/-- The members of a struct, in front of the property that checks the required fields, this property, and those behind
it. -/
theorem members_eq (decl : StructDecl) :
    decl.code.members = decl.beforeChecks.outer ++ decl.checksCode.outer ++ decl.afterChecks.outer := by
  have around := decl.balanced_beforeChecks.append decl.balanced_checksCode
  rw [code_eq_around, Code.members_declaration (around.append decl.balanced_afterChecks), Code.outer_append around,
    Code.outer_append decl.balanced_beforeChecks]

section Lines

variable {decl : StructDecl}

theorem MemberLine.blank : MemberLine decl "\n" :=
  .noVariable rfl

theorem MemberLine.closing : MemberLine decl "\x7d\n" :=
  .noVariable rfl

theorem MemberLine.comments {text : String} (comment : IsCommentText text) : MemberLine decl text :=
  .noVariable (VariableHead.read?_comment comment)

/-- A line with another word behind its modifier declares no variable. -/
theorem MemberLine.word {modifier text : String} (known : IsAccess modifier) {first second : Char}
    (starts : StartsWith first second text) (other : (first, second) ∉ ('v', 'a') :: modifierStarts) :
    MemberLine decl (modifier ++ text) :=
  .noVariable (VariableHead.read?_eq_none known starts other)

/-- The query for the presence of a field is computed. -/
theorem MemberLine.query {modifier query : String} (known : IsAccess modifier) (starts : query.toList.head? = some 'h')
    (read : String) : MemberLine decl (queryLine modifier query read) := by
  have begins : (query ++ (": Bool \x7breturn " ++ read ++ " != nil\x7d\n")).toList.head? = some 'h' := by
    rw [String.toList_append, List.head?_append, starts, Option.some_or]
  exact .computed (read?_queryLine known query read) rfl (VariableHead.nameOf_ne begins (by decide) (by decide))

/-- No such line is the head of the property that checks the required fields. -/
theorem MemberLine.read?_ne (readable : decl.Readable) {line : String} (own : MemberLine decl line) :
    VariableHead.read? line ≠ some ⟨"isInitialized", false⟩ := by
  intro found
  cases own with
  | noVariable none =>
    rw [none] at found
    cases found
  | @slot field slot inline among declared =>
    obtain ⟨known, starts⟩ := (readable.fields field among).slot slot declared
    rw [SlotDeclaration.line, read?_variableLine known, Option.some.injEq, VariableHead.mk.injEq] at found
    have begins : (slot.name ++ (": " ++ (slot.type.text ++ " = " ++ slot.initial.text ++ "\n"))).toList.head?
        = some '_' := by
      rw [String.toList_append, List.head?_append, starts, Option.some_or]
    exact VariableHead.nameOf_ne begins (by decide) (by decide) found.1
  | @property field property among stored =>
    have readable := readable.fields field among
    unfold Interface.stored? at stored
    split at stored <;> cases stored
    rw [SlotDeclaration.line, read?_variableLine readable.access, VariableHead.nameOf_append readable.name,
      Option.some.injEq, VariableHead.mk.injEq] at found
    exact readable.other (found.1 ▸ by decide)
  | computed isHead computed other =>
    rw [isHead] at found
    cases found
    exact other rfl
  | unknownFields =>
    have line : decl.modifier ++ "var unknownFields = SwiftProtobuf.UnknownStorage()\n"
        = decl.modifier ++ ("var " ++ "unknownFields = SwiftProtobuf.UnknownStorage()\n") := rfl
    rw [line, VariableHead.read?_var readable.access, Option.some.injEq, VariableHead.mk.injEq] at found
    exact absurd found.1 (by decide)
  | reference heap => exact absurd found (by decide)

/-- **The members for a field**: its property is the only one of them that can be stored. -/
theorem madeOf_interface {field : FieldCode} (readable : field.Readable) (among : field ∈ decl.fields) :
    field.interface.code.MadeOf (MemberLine decl) := by
  have top : Code.MadeOf (MemberLine decl) (Code.blank ++ Code.lines field.interface.comments) :=
    (Code.MadeOf.lines .blank).append (.lines (.comments readable.comments))
  have members : field.interface.membersCode.MadeOf (MemberLine decl) := by
    refine .getD fun members emitted => ⟨?_, fun text isText => ?_⟩
    · rw [← members.code_eq]
      exact members.balanced_code
    · obtain ⟨known, starts⟩ := readable.members members emitted
      rcases read?_of_mem_presenceMembers known isText with rfl | none
      · exact .query known starts _
      · exact .noVariable none
  cases body : field.interface.body with
  | stored initial =>
    have stored : field.interface.stored? = some ⟨field.interface.modifier, field.interface.name,
        field.interface.type, initial⟩ := by simp [Interface.stored?, body]
    rw [Interface.code_of_stored body]
    exact (top.append (.lines (.property among stored))).append members
  | computed read fallback? write =>
    have head := read?_propertyHead readable.access readable.name field.interface.type
    have other : field.interface.name ≠ "isInitialized" := by
      intro same
      exact readable.other (same ▸ by decide)
    rw [Interface.code_of_computed body]
    exact (top.append (.block ⟨balanced_accessors _ _⟩ (.computed head rfl other) .closing)).append members

/-- A type inside a struct declares no variable of the struct. -/
theorem madeOf_declaration {inside : Code} (balanced : inside.Balanced) {comments modifier text : String}
    (comment : IsCommentText comments) (known : IsAccess modifier) {first second : Char}
    (starts : StartsWith first second text) (other : (first, second) ∉ ('v', 'a') :: modifierStarts) :
    (Code.lines comments ++ Code.block (modifier ++ text) inside "\x7d").MadeOf (MemberLine decl) := by
  refine (Code.MadeOf.lines (.comments comment)).append (.block ⟨balanced⟩ ?_ .closing)
  rw [String.append_assoc]
  exact .word known (starts.append "\n") other

theorem madeOf_enumeration {nested : EnumDecl} (comment : IsCommentText nested.comments)
    (known : IsAccess nested.modifier) : nested.code.MadeOf (MemberLine decl) := by
  have starts : StartsWith 'e' 'n' ("enum " ++ (nested.name ++ ": SwiftProtobuf.Enum \x7b")) :=
    StartsWith.append ⟨_, rfl⟩ _
  have made : Code.MadeOf (MemberLine decl) _ :=
    madeOf_declaration nested.balanced_inside comment known starts (by decide)
  simpa only [EnumDecl.code, String.append_assoc] using made

theorem madeOf_struct {nested : StructDecl} (comment : IsCommentText nested.comments)
    (known : IsAccess nested.modifier) : nested.code.MadeOf (MemberLine decl) := by
  have starts : StartsWith 's' 't' ("struct " ++ (nested.name
      ++ ": SwiftProtobuf.Message, SwiftProtobuf._MessageImplementationBase \x7b")) :=
    StartsWith.append ⟨_, rfl⟩ _
  have made : Code.MadeOf (MemberLine decl) _ :=
    madeOf_declaration nested.balanced_inside comment known starts (by decide)
  simpa only [code_eq, opening, String.append_assoc] using made

/-- **What is declared in front of the nested types.** -/
theorem madeOf_membersCode (readable : decl.Readable) : decl.membersCode.MadeOf (MemberLine decl) := by
  have schemaName : MemberLine decl (decl.modifier ++ "static let protoMessageName: String = " ++ decl.schemaName.text
      ++ "\n") := by
    simp only [String.append_assoc]
    exact .word readable.access (StartsWith.append ⟨_, rfl⟩ _) (by decide)
  have slots : decl.inlineSlotsCode.MadeOf (MemberLine decl) := by
    refine .ite (fun _ => .nil) fun inline => ?_
    rw [Bool.or_eq_true, not_or, Bool.not_eq_true] at inline
    refine .append (.lines .blank) (.flatMap fun field among => .getD fun slot declared => ?_)
    exact .lines (.slot inline.1 among declared)
  have unknown : MemberLine decl (decl.modifier ++ "var unknownFields = SwiftProtobuf.UnknownStorage()" ++ "\n") := by
    rw [String.append_assoc]
    exact .unknownFields
  have properties : Code.MadeOf (MemberLine decl) (decl.fields.flatMap fun field => field.interface.code) :=
    .flatMap fun field among => madeOf_interface (readable.fields field among) among
  exact ((((Code.MadeOf.line schemaName).append slots).append properties).append (.lines .blank)).append
    (.line unknown)

/-- **What is declared in front of the property that checks the required fields.** -/
theorem madeOf_beforeChecks (readable : decl.Readable) : decl.beforeChecks.MadeOf (MemberLine decl) := by
  have enums : Code.MadeOf (MemberLine decl) (decl.enums.flatMap fun nested => Code.blank ++ nested.code) :=
    .flatMap fun nested among => (Code.MadeOf.lines .blank).append
      (madeOf_enumeration (readable.enums nested among).1 (readable.enums nested among).2)
  have structs : (codes decl.structs).MadeOf (MemberLine decl) := by
    rw [codes_eq]
    exact .flatMap fun nested among => (Code.MadeOf.lines .blank).append
      (madeOf_struct (readable.structs nested among).1 (readable.structs nested among).2)
  have initializer : MemberLine decl (decl.modifier ++ "init() \x7b\x7d" ++ "\n") := by
    have starts : StartsWith 'i' 'n' ("init() \x7b\x7d" ++ "\n") := ⟨_, rfl⟩
    rw [String.append_assoc]
    exact .word readable.access starts (by decide)
  exact (((madeOf_membersCode readable).append enums).append structs).append
    ((Code.MadeOf.lines .blank).append (.line initializer))

/-- **What is declared behind the property that checks the required fields.** -/
theorem madeOf_afterChecks (readable : decl.Readable) : decl.afterChecks.MadeOf (MemberLine decl) := by
  have decoder : decl.decodeMessageCode.MadeOf (MemberLine decl) := by
    have starts : StartsWith 'm' 'u'
      "mutating func decodeMessage<D: SwiftProtobuf.Decoder>(decoder: inout D) throws \x7b" := ⟨_, rfl⟩
    refine .block decl.isBlock_decodeMessageCode ?_ .closing
    rw [String.append_assoc]
    exact .word readable.access (starts.append "\n") (by decide)
  have visitor : decl.traverseCode.MadeOf (MemberLine decl) := by
    have starts : StartsWith 'f' 'u' "func traverse<V: SwiftProtobuf.Visitor>(visitor: inout V) throws \x7b" := ⟨_, rfl⟩
    refine .block decl.isBlock_traverseCode ?_ .closing
    rw [String.append_assoc]
    exact .word readable.access (starts.append "\n") (by decide)
  have equality : decl.equalityCode.MadeOf (MemberLine decl) := by
    refine .block decl.isBlock_equalityCode ?_ .closing
    simp only [String.append_assoc]
    exact .word readable.access (StartsWith.append ⟨_, rfl⟩ _) (by decide)
  have storage (heap : decl.heap = true) : decl.storageClassCode.MadeOf (MemberLine decl) := by
    obtain ⟨storageClass, unique, isClass, isUnique, whole⟩ := decl.storageClassCode_eq
    have inClass : storageClass.MadeOf (MemberLine decl) := .block isClass (.noVariable rfl) .closing
    have inUnique : unique.MadeOf (MemberLine decl) := .block isUnique (.noVariable rfl) .closing
    rw [whole]
    exact (((inClass.append (.lines .blank)).append inUnique).append (.lines .blank)).append
      (.line (.reference heap))
  exact ((((((Code.MadeOf.lines .blank).append decoder).append (.lines .blank)).append visitor).append
    (.lines .blank)).append equality).append
      (.ite (fun heap => (Code.MadeOf.lines .blank).append (storage heap)) fun _ => .nil)

/-- The first line of the property that checks the required fields. -/
theorem read?_checksHead {modifier : String} (known : IsAccess modifier) :
    VariableHead.read? (modifier ++ "var isInitialized: Bool \x7b" ++ "\n") = some ⟨"isInitialized", false⟩ := by
  have head : modifier ++ "var isInitialized: Bool \x7b" ++ "\n"
      = propertyHead modifier "isInitialized" (.named "Bool") ++ " \x7b" ++ "\n" := by
    simp only [propertyHead, SwiftType.text, String.append_assoc]
    rfl
  rw [head]
  exact read?_propertyHead known (by decide) _

/-- **Each member of a struct declares what it can**, or is the head of the property that checks the required
fields. -/
theorem memberLine_of_mem (readable : decl.Readable) {line : String} (among : line ∈ decl.code.members) :
    MemberLine decl line ∨ VariableHead.read? line = some ⟨"isInitialized", false⟩ := by
  rw [members_eq, List.mem_append, List.mem_append] at among
  rcases among with (before | isCheck) | after
  · exact .inl ((madeOf_beforeChecks readable).outer line before)
  · have checks : decl.checksCode.MadeOf fun line =>
        MemberLine decl line ∨ VariableHead.read? line = some ⟨"isInitialized", false⟩ :=
      .ite (fun _ => (Code.MadeOf.lines (.inl .blank)).append
        (.block decl.isBlock_isInitializedCode (.inr (read?_checksHead readable.access)) (.inl .closing))) fun _ => .nil
    exact checks.outer line isCheck
  · exact .inl ((madeOf_afterChecks readable).outer line after)

end Lines

/-! ### Variables of fields -/

/-- **Whether a struct has the line of a variable** where the variables of its fields are: as a member, or in the class of
its object on the heap. -/
def declares (decl : StructDecl) (own : SlotDeclaration) : Bool :=
  decide ((if decl.heap then 2 else 1, own.line) ∈ Code.texts 0 decl.code)

section Declares

variable {decl : StructDecl} {field : FieldCode} {own : SlotDeclaration} {text : Nat × String}

/-- The texts of a struct have those of its members, one level further in. -/
theorem mem_texts_of_membersCode (among : text ∈ Code.texts 1 decl.membersCode) : text ∈ Code.texts 0 decl.code := by
  have inside := Code.mem_texts_append_left (Code.mem_texts_append_left (Code.mem_texts_append_left among
    (decl.enums.flatMap fun nested => Code.blank ++ nested.code)) (codes decl.structs)) decl.conformanceCode
  rw [code_eq]
  exact Code.mem_texts_append_right (.lines _) (Code.mem_texts_block inside _ _)

/-- They have those of the class of the object on the heap. -/
theorem mem_texts_of_storageClassCode (heap : decl.heap = true) (among : text ∈ Code.texts 1 decl.storageClassCode) :
    text ∈ Code.texts 0 decl.code := by
  have behind : text ∈ Code.texts 1 decl.afterChecks := by
    unfold afterChecks
    rw [if_pos heap]
    exact Code.mem_texts_append_right decl.balanced_methods (Code.mem_texts_append_right .blank among)
  have inside := Code.mem_texts_append_right (decl.balanced_beforeChecks.append decl.balanced_checksCode) behind
  rw [code_eq_around]
  exact Code.mem_texts_append_right (.lines _) (Code.mem_texts_block inside _ _)

/-- The line of a slot is among the slots of the struct. -/
theorem mem_texts_slotsCode (level : Nat) (isField : field ∈ decl.fields) (declared : field.storage? = some own) :
    (level, own.line) ∈ Code.texts level decl.slotsCode := by
  have isLine : (level, own.line) ∈ Code.texts level ((field.storage?.map SlotDeclaration.code).getD []) := by
    rw [declared]
    exact List.mem_singleton_self _
  exact Code.mem_texts_flatMap (fun _ _ => .getD fun _ => .line _) isField isLine

/-- **Every variable of a field is declared**, if the properties of a struct on the heap pass reads and writes on. -/
theorem declares_of_mem (isField : field ∈ decl.fields) (isOwn : own ∈ field.storedVariables)
    (passes : field.interface.stored?.isSome = true → decl.heap = false) : decl.declares own = true := by
  refine decide_eq_true ?_
  rcases List.mem_append.mp isOwn with isSlot | isProperty
  · have declared : field.storage? = some own := Option.mem_toList.mp isSlot
    cases heap : decl.heap with
    | true =>
      have inClass : (2, own.line) ∈ Code.texts 1 decl.storageClassCode := by
        unfold storageClassCode
        simp only [List.append_assoc]
        exact Code.mem_texts_append_left (Code.mem_texts_block
          (Code.mem_texts_append_left (mem_texts_slotsCode 2 isField declared) _) _ _) _
      exact mem_texts_of_storageClassCode heap inClass
    | false =>
      have some : ¬ (decl.heap || decl.fields.all (·.storage?.isNone)) = true := by
        rw [heap, Bool.false_or, List.all_eq_true]
        intro none
        have absent := none field isField
        rw [declared] at absent
        cases absent
      have inSlots : (1, own.line) ∈ Code.texts 1 decl.inlineSlotsCode := by
        unfold inlineSlotsCode
        rw [if_neg some]
        exact Code.mem_texts_append_right .blank (mem_texts_slotsCode 1 isField declared)
      refine mem_texts_of_membersCode ?_
      unfold membersCode
      simp only [List.append_assoc]
      exact Code.mem_texts_append_right (.line _) (Code.mem_texts_append_left inSlots _)
  · have stored : field.interface.stored? = some own := Option.mem_toList.mp isProperty
    have inline : decl.heap = false := passes (by rw [stored]; rfl)
    have inInterface : (1, own.line) ∈ Code.texts 1 field.interface.code := by
      unfold Interface.stored? at stored
      split at stored <;> cases stored
      next initial body =>
        have line : (1, SlotDeclaration.line ⟨_, _, _, initial⟩) ∈ Code.texts 1 (storedVariable field.interface.modifier
            field.interface.name field.interface.type initial) := List.mem_singleton_self _
        rw [Interface.code_of_stored body]
        exact Code.mem_texts_append_left (Code.mem_texts_append_right (Code.Balanced.blank.append (.lines _)) line) _
    have inProperties := Code.mem_texts_flatMap (fun code _ => Interface.balanced_code code.interface) isField inInterface
    rw [inline]
    refine mem_texts_of_membersCode ?_
    exact Code.mem_texts_append_left (Code.mem_texts_append_left
      (Code.mem_texts_append_right ((Code.Balanced.line _).append decl.balanced_inlineSlotsCode) inProperties) _) _

end Declares

end StructDecl

/-! ### Structs of messages -/

section Messages

variable {unit : CompilationUnit} {file : FileNode} {node : MessageNode} {plans : List FieldPlan} {plan : FieldPlan}

/-- The names of a planned field are fresh. -/
theorem exists_freshNames_of_kept {position : Nat} {field : Schema.Field} {names : FieldNames}
    (among : Member.kept position field names ∈ members node) : ∃ used, names = freshNames used field := by
  have isNamed : (field, names) ∈ namesFrom [] 0 node.fields := List.mem_filterMap.mpr ⟨_, among, rfl⟩
  obtain ⟨used, _, fresh⟩ := exists_seen_of_mem_namesFrom isNamed
  exact ⟨used, fresh⟩

/-- **The code of a planned field is readable.** -/
theorem FieldCode.readable_of_planned (planned : (fieldPlans unit file node).result = .ok plans)
    (among : plan ∈ plans) : plan.code.Readable := by
  obtain ⟨position, field, names, isMember, made⟩ := exists_member_of_mem_fieldPlans planned among
  obtain ⟨used, rfl⟩ := exists_freshNames_of_kept isMember
  have decisions := FieldPlan.planned_of_make made
  have access : IsAccess plan.access.modifier := plan.access.isAccess_modifier
  constructor
  case comments =>
    show IsCommentText plan.comments
    rw [decisions.comments_eq]
    exact file.isCommentText_commentText _
  case access => exact access
  case name =>
    show ':' ∉ plan.names.property.toList ∧ ' ' ∉ plan.names.property.toList
    rw [decisions.names_eq]
    exact ⟨not_mem_property_freshNames used field (by decide) (by decide),
      not_mem_property_freshNames used field (by decide) (by decide)⟩
  case other =>
    show plan.names.property ∉ messageMembers
    rw [decisions.names_eq, freshNames_eq]
    exact FieldNames.property_ofBase_not_mem_messageMembers (freshBase_not_mem_messageMembers used field)
  case members =>
    intro members emitted
    have shape : plan.presence? = some members := emitted
    unfold FieldPlan.presence? at shape
    split at shape
    · cases shape
      refine ⟨access, ?_⟩
      rw [decisions.names_eq, freshNames_eq]
      exact congrArg List.head? String.toList_append
    · cases shape
  case slot =>
    intro slot declared
    have named : plan.names.slot.toList.head? = some '_' := by
      rw [decisions.names_eq, freshNames_eq]
      exact congrArg List.head? String.toList_append
    have shape : plan.storage? = some slot := declared
    unfold FieldPlan.storage? at shape
    split at shape
    · cases shape
      exact ⟨.inl rfl, named⟩
    · split at shape
      · cases shape
        have isAccess : "fileprivate " ∈ accessModifiers := by decide
        exact ⟨.inr isAccess, named⟩
      · cases shape

namespace StructDecl

/-- The structs inside a struct have comments in front of them, and a modifier or none. -/
theorem readable_of_ofNodes {nodes : List MessageNode} {decls : List StructDecl}
    (made : (ofNodes unit file nodes).result = .ok decls) :
    ∀ nested ∈ decls, IsCommentText nested.comments ∧ IsAccess nested.modifier := by
  induction nodes generalizing decls with
  | nil =>
    cases made
    exact fun nested among => absurd among List.not_mem_nil
  | cons node rest inRest =>
    by_cases entry : node.isMapEntry = true
    · rw [ofNodes_cons_of_entry entry] at made
      exact inRest made
    · obtain ⟨decl, others, declMade, othersMade, rfl⟩ := (ofNodes_cons_eq_ok entry).mp made
      obtain ⟨plans, structs, -, -, rfl⟩ := ofNode_eq_ok.mp declMade
      exact List.forall_mem_cons.mpr
        ⟨⟨file.isCommentText_commentText _, unit.options.access.isAccess_typeModifier⟩, inRest othersMade⟩

theorem readable_of_enums {nested : EnumDecl} {nodes : List EnumNode}
    (among : nested ∈ nodes.map (EnumDecl.ofNode unit.options.access file)) :
    IsCommentText nested.comments ∧ IsAccess nested.modifier := by
  obtain ⟨inner, _, rfl⟩ := List.mem_map.mp among
  exact ⟨file.isCommentText_commentText _, unit.options.access.isAccess_typeModifier⟩

/-- **The struct of a message is readable.** -/
theorem readable_of_ofNode {decl : StructDecl} (made : (ofNode unit file node).result = .ok decl) : decl.Readable := by
  obtain ⟨plans, structs, planned, structsMade, rfl⟩ := ofNode_eq_ok.mp made
  refine ⟨unit.options.access.isAccess_typeModifier, fun field among => ?_, fun nested among => readable_of_enums among,
    readable_of_ofNodes structsMade⟩
  obtain ⟨plan, isPlan, rfl⟩ := List.mem_map.mp among
  exact FieldCode.readable_of_planned planned isPlan

end StructDecl

end Messages

end ProtoSwift
