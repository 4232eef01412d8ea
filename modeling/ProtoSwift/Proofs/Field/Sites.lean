/-
**The parts of a field's code agree.**

A field is declared, read, written, compared and checked by eight parts of the generated code. Each part
finds its own way to the field: a slot on the heap, a slot behind the property, or the property. One part
that goes another way than the others gives code that loses the field or misreads it.

* `OneSlot` — all statements about a field go through one expression, and the comparison sets it against the
  same expression for the other message;
* `DeclaredOnce` — the variable behind the expression is declared by the slot or by the property, never by
  both;
* `CodecPair` — the runtime methods that may read and write the same field;
* `FieldPlan.parts_agree` — every field for which there is a plan has all three properties.
-/

import ProtoSwift.Proofs.Field.Declarations
import ProtoSwift.Proofs.Field.Planning
import Mathlib.Tactic.SplitIfs

namespace ProtoSwift

open Swift

/-! ### One variable, one codec -/

/-- The condition under which a slot is written, and the expression for what is written: the slot, or the
variable that the condition binds to it. -/
inductive GuardedSlot (slot : String) : String → String → Prop
  | bound : GuardedSlot slot ("let v = " ++ slot) "v"
  | notEmpty : GuardedSlot slot ("!" ++ slot ++ ".isEmpty") slot
  | differs (value : String) : GuardedSlot slot (slot ++ " != " ++ value) slot

/-- The word of the runtime's method names for the kind of a field. -/
def Schema.Kind.codecWord : Schema.Kind → String
  | .group => "Group"
  | .message => "Message"
  | .enumeration => "Enum"
  | .scalar type => type.codecName

/-- **The methods that read and write the same field**, with the argument that both get for its type. Only
the map methods get one; the others tell the type by their names. -/
inductive CodecPair (field : ResolvedField) : String → String → String → Prop
  | map (isMap : field.isMap = true) :
    CodecPair field "decodeMapField" "visitMapField" ("fieldType: " ++ field.codecType.text ++ ".self, ")
  | singular (noMap : field.isMap = false) (single : field.isRepeated = false) :
    CodecPair field ("decodeSingular" ++ field.schema.kind.codecWord ++ "Field")
      ("visitSingular" ++ field.schema.kind.codecWord ++ "Field") ""
  | repeated (noMap : field.isMap = false) (many : field.isRepeated = true) :
    CodecPair field ("decodeRepeated" ++ field.schema.kind.codecWord ++ "Field")
      ("visitRepeated" ++ field.schema.kind.codecWord ++ "Field") ""
  | packed (noMap : field.isMap = false) (many : field.isRepeated = true) :
    CodecPair field ("decodeRepeated" ++ field.schema.kind.codecWord ++ "Field")
      ("visitPacked" ++ field.schema.kind.codecWord ++ "Field") ""

/-- **One slot.** Reading and writing a field carry its number, use methods that belong together and go to
the same slot. So do the comparison and the checks, as far as there are any. -/
structure OneSlot (code : FieldCode) (field : ResolvedField) (slot other : String) : Prop where
  transfer : ∃ reader writer argument condition value,
    CodecPair field reader writer argument ∧ GuardedSlot slot condition value
      ∧ code.decode.code
        = Code.line ("case " ++ numberText field.number ++ ": try decoder." ++ reader ++ "(" ++ argument
          ++ "value: &" ++ slot ++ ")")
      ∧ code.visit.code
        = Code.block ("if " ++ condition ++ " \x7b")
          (Code.line ("try visitor." ++ writer ++ "(" ++ argument ++ "value: " ++ value
            ++ ", fieldNumber: " ++ numberText field.number ++ ")"))
          "\x7d"
  comparison : code.comparison.code
    = Code.line ("if " ++ slot ++ " != " ++ other ++ " \x7breturn false\x7d")
  required : ∀ check ∈ code.required?,
    check.code = Code.line ("if " ++ slot ++ " == nil \x7breturn false\x7d")
  initialized : ∀ check ∈ code.initialized?,
    check.code
        = Code.line ("if !SwiftProtobuf.Internal.areAllInitialized(" ++ slot ++ ") \x7breturn false\x7d")
      ∨ check.code = Code.line ("if let v = " ++ slot ++ ", !v.isInitialized \x7breturn false\x7d")

/-- **One declaration.** A variable is declared behind the property or as the property, and nothing else that is
declared for the field is stored. What is kept on the heap is always behind the property. -/
inductive DeclaredOnce (code : FieldCode) (heap : Bool) (name : String) (type : SwiftType)
    (initial : Value) : Prop
  | behindProperty (modifier comments head read write : String) (members : Code)
    (declared : code.storage?.map SlotDeclaration.code = some (storedVariable modifier name type initial))
    (interface : code.interface.code
      = Code.blank ++ Code.lines comments ++ (computedProperty head read write ++ members))
    (storesNothing : (computedProperty head read write ++ members).StoresNothing)
  | asProperty (modifier comments : String) (members : Code) (inline : heap = false)
    (undeclared : code.storage? = none)
    (interface : code.interface.code
      = Code.blank ++ Code.lines comments ++ (storedVariable modifier name type initial ++ members))
    (storesNothing : members.StoresNothing)

/-- The expression in front of the name of a variable of the other message. -/
def otherOwnerOf (heap : Bool) : String :=
  if heap then "other_storage." else "other."

/-! ### How each part finds the slot -/

section Slots

variable {unit : CompilationUnit} {era : Era} {names : FieldNames} {comments : String} {heap : Bool}
  {schema : Schema.Field} {plan : FieldPlan}

namespace FieldPlan

/-- The name of the variable that holds the field. -/
def variableName (plan : FieldPlan) : String :=
  if plan.heap || plan.field.tracksPresence then plan.names.slot else plan.names.property

theorem slot_own_text (plan : FieldPlan) :
    (plan.slot .own).text = ownerOf plan.heap ++ plan.variableName := by
  unfold slot variableName ownerOf
  cases plan.heap <;> cases plan.field.tracksPresence <;> rfl

theorem slot_other_text (plan : FieldPlan) :
    (plan.slot .other).text = otherOwnerOf plan.heap ++ plan.variableName := by
  unfold slot variableName otherOwnerOf
  cases plan.heap <;> cases plan.field.tracksPresence <;> rfl

theorem guardedSlot (plan : FieldPlan) :
    GuardedSlot (plan.slot .own).text plan.visitGuard.condition plan.visitGuard.argument := by
  unfold visitGuard
  split_ifs
  · exact .notEmpty
  · exact .bound
  · exact .notEmpty
  · exact .differs _

/-- The runtime's word for the type of a field is the word for its kind. -/
theorem Planned.codecName_eq (planned : Planned unit era names comments heap schema plan) :
    plan.codecName = plan.field.schema.kind.codecWord := by
  have resolves := planned.resolved.type_resolves
  rw [← planned.resolved.schema_eq] at resolves
  unfold codecName ResolvedField.isGroup ResolvedField.isMessage ResolvedField.isEnum
  generalize plan.field.type = type at resolves
  cases resolves with
  | scalar kind | enumeration kind | group kind | message kind =>
    simp [kind, Schema.Kind.codecWord, FieldType.runtimeName]
  | map found =>
    have kind := (SymbolTable.entryOf?_eq_some.mp found).1
    simp [kind, Schema.Kind.codecWord]

/-- **Reading and writing use methods that belong together**: what is packed is repeated. -/
theorem Planned.codecPair (planned : Planned unit era names comments heap schema plan) :
    CodecPair plan.field (plan.decode.codec.method "decode") (plan.visit.codec.method "visit")
        plan.decode.codec.typeArgument
      ∧ plan.visit.codec.typeArgument = plan.decode.codec.typeArgument := by
  unfold decode visit
  rw [planned.codecName_eq]
  by_cases isMap : plan.field.isMap = true
  · simp only [isMap, if_true]
    exact ⟨.map isMap, trivial⟩
  · have noMap : plan.field.isMap = false := by simpa using isMap
    simp only [noMap, Bool.false_eq_true, if_false]
    refine ⟨?_, rfl⟩
    by_cases isPacked : plan.field.isPacked = true
    · have many : plan.field.isRepeated = true := by
        simp only [ResolvedField.isPacked, ResolvedField.mayBePacked, Bool.and_eq_true] at isPacked
        exact isPacked.1.1.1.1
      simp only [isPacked, many, if_true]
      exact .packed noMap many
    · by_cases many : plan.field.isRepeated = true
      · simp only [isPacked, many, if_true, if_false, Bool.false_eq_true]
        exact .repeated noMap many
      · have single : plan.field.isRepeated = false := by simpa using many
        simp only [isPacked, single, if_false, Bool.false_eq_true]
        exact .singular noMap single

end FieldPlan

namespace FieldPlan

/-- The members for the presence of a field store nothing. -/
theorem storesNothing_membersCode (plan : FieldPlan) : plan.interface.membersCode.StoresNothing := by
  refine Interface.storesNothing_membersCode fun members emitted => ?_
  simp only [interface, presence?] at emitted
  by_cases tracked : plan.field.tracksPresence = true
  · rw [if_pos tracked] at emitted
    cases emitted
    exact plan.access.isAccess_modifier
  · rw [if_neg tracked] at emitted
    cases emitted

/-- **The variable of a field is declared once**: an inline property without presence is the variable. -/
theorem declaredOnce (plan : FieldPlan) :
    DeclaredOnce plan.code plan.heap plan.variableName plan.field.slotType plan.initialValue := by
  have others := plan.storesNothing_membersCode
  by_cases heap : plan.heap = true
  · have body : plan.interface.body = plan.heapBody := by simp [interface, heap]
    have interface := Interface.code_of_computed body
    rw [List.append_assoc] at interface
    refine .behindProperty "" _ _ _ _ _ ?_ interface (storesNothing_computedProperty_append others _ _ _)
    simp [code, storage?, variableName, heap, SlotDeclaration.code_eq]
  · by_cases presence : plan.field.tracksPresence = true
    · have body : plan.interface.body = plan.inlineBody := by simp [interface, heap]
      rw [inlineBody, if_pos presence] at body
      have interface := Interface.code_of_computed body
      rw [List.append_assoc] at interface
      refine .behindProperty "fileprivate " _ _ _ _ _ ?_ interface (storesNothing_computedProperty_append others _ _ _)
      simp [code, storage?, variableName, heap, presence, SlotDeclaration.code_eq]
    · have body : plan.interface.body = .stored plan.initialValue := by
        simp [interface, inlineBody, heap, presence]
      have interface := Interface.code_of_stored body
      rw [List.append_assoc] at interface
      refine .asProperty plan.access.modifier plan.comments plan.interface.membersCode (by simpa using heap) ?_ ?_ others
      · simp [code, storage?, heap, presence]
      · simpa [code, FieldPlan.interface, variableName, heap, presence] using interface

/-- **The slot of a field is one variable**: whatever the field is, its parts go to the same slot with the
same codec, and the slot is declared once, with the type and the initial value of the field. On the heap the
copy of the shared object copies that slot. -/
theorem parts_agree (made : make unit era names comments heap schema = .ok plan) :
    ∃ field initial name,
      ResolvedField.resolve unit.symbols era schema = .ok field
        ∧ field.initialValue unit.symbols = .ok initial
        ∧ OneSlot plan.code field (ownerOf heap ++ name) (otherOwnerOf heap ++ name)
        ∧ DeclaredOnce plan.code heap name field.slotType initial
        ∧ (heap = true → plan.code.clone.code = Code.line (name ++ " = source." ++ name)) := by
  have planned := planned_of_make made
  obtain rfl := planned.heap_eq
  refine ⟨plan.field, plan.initialValue, plan.variableName, planned.resolve_eq, planned.initialValue,
    ?_, plan.declaredOnce, ?_⟩
  · rw [← slot_own_text, ← slot_other_text]
    obtain ⟨pair, sameArgument⟩ := planned.codecPair
    refine ⟨⟨_, _, _, _, _, pair, plan.guardedSlot, rfl, ?_⟩, rfl, ?_, ?_⟩
    · rw [← sameArgument]
      rfl
    · intro check emitted
      simp only [code, required?] at emitted
      split_ifs at emitted
      · cases emitted
        rfl
      · cases emitted
    · intro check emitted
      simp only [code, initialized?] at emitted
      split_ifs at emitted
      · cases emitted
        unfold ValueCheck.code
        split_ifs
        · exact .inl rfl
        · exact .inr rfl
      · cases emitted
  · intro heap
    have source : " = " ++ ("source." ++ plan.names.slot) = " = source." ++ plan.names.slot := by
      rw [← String.append_assoc]
      rfl
    simp [code, clone, SlotCopy.code, Slot.text, variableName, heap, String.append_assoc, source]

/-- The map of a ledger on the heap has one slot. -/
theorem parts_agree_accounts :
    ∃ plan, make ledgerUnit .proto2 (.ofField "accounts") "" true accountsSchema = .ok plan
      ∧ ∃ field initial name,
        ResolvedField.resolve ledgerUnit.symbols .proto2 accountsSchema = .ok field
          ∧ field.initialValue ledgerUnit.symbols = .ok initial
          ∧ OneSlot plan.code field ("_storage." ++ name) ("other_storage." ++ name)
          ∧ DeclaredOnce plan.code true name field.slotType initial
          ∧ plan.code.clone.code = Code.line (name ++ " = source." ++ name) := by
  have made := accountsSchema_make .proto2 (.ofField "accounts") "" true
  obtain ⟨field, initial, name, resolved, starts, slot, declared, copied⟩ := parts_agree made
  exact ⟨_, made, field, initial, name, resolved, starts, slot, declared, copied rfl⟩

end FieldPlan

end Slots

end ProtoSwift
