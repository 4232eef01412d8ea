/-
**What is declared for a field, as it is written.**

The users of a message reach a field through a property, and through two members more if presence is tracked. These are
the texts of the declarations, and how the parts of a field come to them.

* `variableLine`, `getterLine`, `queryLine`, `resetLine` — the lines that matter;
* `storedVariable`, `computedProperty`, `presenceMembers` — the declarations;
* `storesNothing_presenceMembers` — the members for presence store nothing;
* `Interface.code_of_stored`, `Interface.code_of_computed` — what the users of a message reach a field through.
-/

import ProtoSwift.Field.Code
import ProtoSwift.Proofs.Decl.MemberLines
import Mathlib

namespace ProtoSwift

open Swift

/-! ### Declarations for a field -/

/-- The line that declares a stored variable. -/
def variableLine (modifier name : String) (type : SwiftType) (initial : Value) : String :=
  modifier ++ "var " ++ name ++ ": " ++ type.text ++ " = " ++ initial.text ++ "\n"

/-- The declaration of a stored variable. -/
def storedVariable (modifier name : String) (type : SwiftType) (initial : Value) : Code :=
  Code.lines (variableLine modifier name type initial)

/-- The line that declares a slot. -/
def SlotDeclaration.line (slot : SlotDeclaration) : String :=
  variableLine slot.modifier slot.name slot.type slot.initial

theorem SlotDeclaration.code_eq (slot : SlotDeclaration) :
    slot.code = storedVariable slot.modifier slot.name slot.type slot.initial :=
  rfl

/-- What stands in front of the value or the code of a property. -/
def propertyHead (modifier name : String) (type : SwiftType) : String :=
  modifier ++ "var " ++ name ++ ": " ++ type.text

/-- The line that gives what a property reads. -/
def getterLine (expression : String) : String :=
  "get \x7breturn " ++ expression ++ "\x7d\n"

/-- The code of a property that stores nothing itself. -/
def computedProperty (head read write : String) : Code :=
  Code.block (head ++ " \x7b") (Code.lines (getterLine read) ++ Code.line ("set \x7b" ++ write ++ " = newValue\x7d"))
    "\x7d"

/-- The line that asks whether a variable has a value. -/
def queryLine (modifier query read : String) : String :=
  modifier ++ "var " ++ query ++ ": Bool \x7breturn " ++ read ++ " != nil\x7d\n"

/-- The line that takes the value of a variable away. -/
def resetLine (modifier reset write : String) : String :=
  modifier ++ "mutating func " ++ reset ++ "() \x7b" ++ write ++ " = nil\x7d\n"

/-- The members that ask for the presence of a field and take it away, under their comments. -/
def presenceMembers (modifier property query reset read write : String) : Code :=
  Code.line ("/// Returns true if \x60" ++ property ++ "\x60 has been explicitly set.")
    ++ Code.lines (queryLine modifier query read)
    ++ Code.line ("/// Clears the value of \x60" ++ property
      ++ "\x60. Subsequent reads from it will return its default value.")
    ++ Code.lines (resetLine modifier reset write)

/-- A property whose code is behind its head declares a variable that is not stored. -/
theorem read?_propertyHead {modifier name : String} (known : IsAccess modifier)
    (whole : ':' ∉ name.toList ∧ ' ' ∉ name.toList) (type : SwiftType) :
    VariableHead.read? (propertyHead modifier name type ++ " \x7b" ++ "\n") = some ⟨name, false⟩ := by
  have line : propertyHead modifier name type ++ " \x7b" ++ "\n"
      = modifier ++ ("var " ++ (name ++ (": " ++ (type.text ++ " \x7b\n")))) := by
    simp only [propertyHead, String.append_assoc]
    rfl
  have braces : endsInBrace (propertyHead modifier name type ++ " \x7b" ++ "\n") = true := by
    have last : propertyHead modifier name type ++ " \x7b" ++ "\n" = propertyHead modifier name type ++ " " ++ "\x7b\n" := by
      simp only [String.append_assoc]
      rfl
    rw [last]
    exact endsInBrace_open _
  rw [line, VariableHead.read?_var known, ← line, braces, VariableHead.nameOf_append whole]
  rfl

/-- The name on the line of a stored variable is what is behind `var`. -/
theorem read?_variableLine {modifier : String} (known : IsAccess modifier) (name : String) (type : SwiftType)
    (initial : Value) : VariableHead.read? (variableLine modifier name type initial)
      = some ⟨VariableHead.nameOf (name ++ (": " ++ (type.text ++ " = " ++ initial.text ++ "\n"))).toList,
        !endsInBrace (variableLine modifier name type initial)⟩ := by
  have line : variableLine modifier name type initial
      = modifier ++ ("var " ++ (name ++ (": " ++ (type.text ++ " = " ++ initial.text ++ "\n")))) := by
    simp only [variableLine, String.append_assoc]
  rw [line, VariableHead.read?_var known]

/-- The line that asks for presence declares a variable that is not stored. -/
theorem read?_queryLine {modifier : String} (known : IsAccess modifier) (query read : String) :
    VariableHead.read? (queryLine modifier query read)
      = some ⟨VariableHead.nameOf (query ++ (": Bool \x7breturn " ++ read ++ " != nil\x7d\n")).toList, false⟩ := by
  have line : queryLine modifier query read
      = modifier ++ ("var " ++ (query ++ (": Bool \x7breturn " ++ read ++ " != nil\x7d\n"))) := by
    simp only [queryLine, String.append_assoc]
  have braces : endsInBrace (queryLine modifier query read) = true := by
    have last : queryLine modifier query read
        = modifier ++ "var " ++ query ++ ": Bool \x7breturn " ++ read ++ " != nil" ++ "\x7d\n" := by
      simp only [queryLine, String.append_assoc]
      rfl
    rw [last]
    exact endsInBrace_closed _
  rw [line, VariableHead.read?_var known, ← line, braces]
  rfl

/-- The line that takes a value away declares no variable. -/
theorem read?_resetLine {modifier : String} (known : IsAccess modifier) (reset write : String) :
    VariableHead.read? (resetLine modifier reset write) = none := by
  have starts : StartsWith 'm' 'u' "mutating func " := ⟨_, rfl⟩
  have line : resetLine modifier reset write
      = modifier ++ ("mutating func " ++ (reset ++ "() \x7b" ++ write ++ " = nil\x7d\n")) := by
    simp only [resetLine, String.append_assoc]
  rw [line]
  exact VariableHead.read?_eq_none known (starts.append _) (by decide)

/-- The members for presence are a query, and what declares no variable. -/
theorem read?_of_mem_presenceMembers {modifier : String} (known : IsAccess modifier)
    {property query reset read write text : String}
    (among : text ∈ (presenceMembers modifier property query reset read write).outer) :
    text = queryLine modifier query read ∨ VariableHead.read? text = none := by
  have outer : (presenceMembers modifier property query reset read write).outer
      = ["/// Returns true if \x60" ++ property ++ "\x60 has been explicitly set." ++ "\n",
        queryLine modifier query read,
        "/// Clears the value of \x60" ++ property
          ++ "\x60. Subsequent reads from it will return its default value." ++ "\n",
        resetLine modifier reset write] := rfl
  rw [outer] at among
  simp only [List.mem_cons, List.not_mem_nil, or_false] at among
  rcases among with rfl | rfl | rfl | rfl
  · have starts : StartsWith '/' '/' "/// Returns true if \x60" := ⟨_, rfl⟩
    exact .inr (VariableHead.read?_eq_none_of_starts (((starts.append _).append _).append _) (by decide))
  · exact .inl rfl
  · have starts : StartsWith '/' '/' "/// Clears the value of \x60" := ⟨_, rfl⟩
    exact .inr (VariableHead.read?_eq_none_of_starts (((starts.append _).append _).append _) (by decide))
  · exact .inr (read?_resetLine known reset write)

/-- **The members that ask for presence store nothing.** -/
theorem storesNothing_presenceMembers {modifier : String} (known : IsAccess modifier)
    (property query reset read write : String) :
    (presenceMembers modifier property query reset read write).StoresNothing := by
  intro text among head declared
  rcases read?_of_mem_presenceMembers known among with rfl | none
  · rw [read?_queryLine known] at declared
    cases declared
    rfl
  · rw [none] at declared
    cases declared

theorem balanced_accessors (read write : String) :
    Code.Balanced (Code.lines (getterLine read) ++ Code.line ("set \x7b" ++ write ++ " = newValue\x7d")) :=
  (Code.Balanced.lines _).append (.line _)

/-- A property that is computed stores nothing, nor does what is behind it. -/
theorem storesNothing_computedProperty_append {members : Code} (others : members.StoresNothing)
    (head read write : String) : (computedProperty head read write ++ members).StoresNothing := by
  intro text among declared found
  unfold computedProperty at among
  rw [Code.outer_append ((balanced_accessors read write).block _ _), Code.outer_block (balanced_accessors read write)]
    at among
  rcases List.mem_append.mp among with own | other
  · refine VariableHead.stored_of_endsInBrace found ?_
    rcases List.mem_cons.mp own with rfl | last
    · have line : head ++ " \x7b" ++ "\n" = head ++ " " ++ "\x7b\n" := by
        simp only [String.append_assoc]
        rfl
      rw [line]
      exact endsInBrace_open _
    · obtain rfl := List.mem_singleton.mp last
      rfl
  · exact others text other declared found

/-- What a property falls back on while its slot is empty, as it stands behind the slot. -/
def fallbackText (fallback? : Option Value) : String :=
  (fallback?.map fun value => " ?? " ++ value.text).getD ""

/-! ### Interfaces -/

theorem PresenceMembers.code_eq (members : PresenceMembers) : members.code = presenceMembers members.modifier
    members.property members.query members.reset members.read.text members.write.text := by
  simp only [code, presenceMembers, queryLine, resetLine, Code.line, Code.lines, String.append_assoc]
  rfl

namespace Interface

variable {interface : Interface}

/-- The members behind the property of an interface. -/
def membersCode (interface : Interface) : Code :=
  (interface.presence?.map fun members => presenceMembers members.modifier members.property members.query
    members.reset members.read.text members.write.text).getD []

theorem storesNothing_membersCode
    (known : ∀ members, interface.presence? = some members → IsAccess members.modifier) :
    interface.membersCode.StoresNothing := by
  unfold membersCode
  cases emitted : interface.presence? with
  | none => exact fun text among => absurd among List.not_mem_nil
  | some members => exact storesNothing_presenceMembers (known members emitted) _ _ _ _ _

/-- An interface has the empty line, the comments, the property and the members behind it. -/
theorem code_eq (interface : Interface) : interface.code
    = Code.blank ++ Code.lines interface.comments ++ interface.propertyCode ++ interface.membersCode := by
  unfold code membersCode
  cases interface.presence? with
  | none => rfl
  | some members => rw [Option.map_some, Option.map_some, members.code_eq]

/-- **An interface with a stored property.** -/
theorem code_of_stored {initial : Value} (body : interface.body = .stored initial) :
    interface.code = Code.blank ++ Code.lines interface.comments
      ++ storedVariable interface.modifier interface.name interface.type initial ++ interface.membersCode := by
  rw [code_eq, propertyCode, body]
  rfl

/-- **An interface whose property passes reads and writes on.** -/
theorem code_of_computed {read write : Slot} {fallback? : Option Value}
    (body : interface.body = .computed read fallback? write) :
    interface.code = Code.blank ++ Code.lines interface.comments
      ++ computedProperty (propertyHead interface.modifier interface.name interface.type)
        (read.text ++ fallbackText fallback?) write.text
      ++ interface.membersCode := by
  rw [code_eq, propertyCode, body]
  cases fallback? <;>
    simp [computedProperty, propertyHead, getterLine, fallbackText, Code.line, Code.lines, String.append_assoc]

end Interface

/-! ### Fields -/

/-- The expression in front of the name of a variable of the message itself. -/
def ownerOf (heap : Bool) : String :=
  if heap then "_storage." else "self."

/-- The expression in front of the name of a slot that a property reads. -/
def getterOwner (heap : Bool) : String :=
  if heap then "_storage." else ""

/-- The expression in front of the name of a slot that a property writes. -/
def setterOwner (heap : Bool) : String :=
  if heap then "_uniqueStorage()." else ""

/-- The expression in front of the name of a slot that is emptied. -/
def resetOwner (heap : Bool) : String :=
  if heap then "_uniqueStorage()." else "self."

namespace FieldPlan

variable {plan : FieldPlan}

/-- What the property of a field with presence falls back on. -/
def fallback? (plan : FieldPlan) : Option Value :=
  if plan.heap then plan.heapFallback? else some plan.unsetValue

/-- **A field with presence** has a property that passes reads and writes on, and the members for its presence. -/
theorem interface_of_tracked (tracked : plan.field.tracksPresence = true) :
    plan.code.interface.code = Code.blank ++ Code.lines plan.comments
      ++ (computedProperty (propertyHead plan.access.modifier plan.names.property plan.field.propertyType)
          (getterOwner plan.heap ++ plan.names.slot ++ fallbackText plan.fallback?)
          (setterOwner plan.heap ++ plan.names.slot)
        ++ presenceMembers plan.access.modifier plan.names.property plan.names.query plan.names.reset
          (ownerOf plan.heap ++ plan.names.slot) (resetOwner plan.heap ++ plan.names.slot)) := by
  have members : plan.interface.membersCode
      = presenceMembers plan.access.modifier plan.names.property plan.names.query plan.names.reset
        (ownerOf plan.heap ++ plan.names.slot) (resetOwner plan.heap ++ plan.names.slot) := by
    unfold Interface.membersCode ownerOf resetOwner
    cases heap : plan.heap <;> simp [interface, presence?, tracked, heap, Slot.text]
  have body : plan.interface.body = .computed ⟨getterOwner plan.heap, plan.names.slot⟩ plan.fallback?
      ⟨setterOwner plan.heap, plan.names.slot⟩ := by
    unfold getterOwner setterOwner fallback?
    cases heap : plan.heap <;> simp [interface, heapBody, inlineBody, tracked, heap]
  have type : plan.interface.type = plan.field.propertyType := by simp [interface, tracked]
  show plan.interface.code = _
  rw [Interface.code_of_computed body, members, type, List.append_assoc]
  rfl

/-- **A field without presence** has a property only. On the heap it passes reads and writes on, and otherwise it is
stored. -/
theorem interface_of_untracked (untracked : plan.field.tracksPresence = false) :
    plan.code.interface.code = Code.blank ++ Code.lines plan.comments
      ++ if plan.heap then
          computedProperty (propertyHead plan.access.modifier plan.names.property plan.field.propertyType)
            (getterOwner plan.heap ++ plan.names.slot ++ fallbackText plan.heapFallback?)
            (setterOwner plan.heap ++ plan.names.slot)
        else storedVariable plan.access.modifier plan.names.property plan.field.propertyType plan.initialValue := by
  have members : plan.interface.membersCode = [] := by
    simp [Interface.membersCode, interface, presence?, untracked]
  have slotType : plan.field.slotType = plan.field.propertyType := by simp [ResolvedField.slotType, untracked]
  have type : plan.interface.type = plan.field.propertyType := by simp [interface, slotType]
  show plan.interface.code = _
  by_cases heap : plan.heap = true
  · have body : plan.interface.body = .computed ⟨getterOwner plan.heap, plan.names.slot⟩ plan.heapFallback?
        ⟨setterOwner plan.heap, plan.names.slot⟩ := by
      simp [interface, heapBody, heap, getterOwner, setterOwner]
    rw [Interface.code_of_computed body, members, type, if_pos heap, List.append_nil]
    rfl
  · have body : plan.interface.body = .stored plan.initialValue := by
      simp [interface, inlineBody, heap, untracked]
    rw [Interface.code_of_stored body, members, type, if_neg heap, List.append_nil]
    rfl

end FieldPlan

end ProtoSwift
