/-
**Whether a field is set is represented one way.**

Six parts of a field's code depend on whether presence is tracked: the type of the slot, its initial value,
the members that ask for presence and take it away, the fallback of the property, and the guard of the
writer. Each part decides for itself, and the two ways to store a message decide differently. What they decide is read
from the code that they write.

* `Schema.Field.Emittable` — what the front end of the compiler promises of a field;
* `UnwrapsWithFallback`, `BindsSlot`, `GuardFails` — what the code of a property and of a writer says;
* `PresenceAgrees` — all parts decide alike;
* `FieldPlan.presence_agrees` — they do for every emittable field, on the heap and inline.
-/

import ProtoSwift.Proofs.Field.Sites
import Mathlib.Data.List.TFAE
import Mathlib.Tactic.ByContra
import Mathlib.Tactic.SplitIfs

namespace ProtoSwift

open Swift

/-! ### What the front end promises -/

/-- **What the front end of the compiler promises of a field.** -/
structure Schema.Field.Emittable (table : SymbolTable) (era : Era) (schema : Schema.Field) : Prop where
  map_repeated : ∀ entry, table.entryOf? schema = some entry → schema.label = .repeated
  no_default : era = .proto3 → schema.default? = none
  not_required : era = .proto3 → schema.label ≠ .required
  has_value : ∀ node, schema.kind = .enumeration → table.enum? schema.typeName = some node →
    node.schema.values ≠ []

/-! ### What is read and written -/

/-- Whether the value of an expression has no elements. -/
def Swift.Value.isEmpty : Value → Bool
  | .emptyArray | .emptyDictionary | .emptyString | .emptyData => true
  | .string text => text = ""
  | .data bytes => bytes.isEmpty
  | _ => false

/-- Whether the value of an expression equals itself, which only a number that is none does not. -/
def Swift.Value.equalsItself : Value → Bool
  | .notANumber _ => false
  | _ => true

/-- **A condition on a slot does not hold** while the slot has the value of an expression. -/
inductive GuardFails (slot : String) : Value → String → Prop
  | notEmpty {held : Value} (empty : held.isEmpty = true) : GuardFails slot held ("!" ++ slot ++ ".isEmpty")
  | isSet : GuardFails slot .nilValue ("let v = " ++ slot)
  | differs {held : Value} (same : held.equalsItself = true) :
    GuardFails slot held (slot ++ " != " ++ held.text)

/-- **The property reads a slot or a fallback**, in the code of an interface. -/
def UnwrapsWithFallback (code : Code) (read : String) : Prop :=
  ∃ comments head value write members, code = Code.blank ++ Code.lines comments
    ++ (computedProperty head (read ++ " ?? " ++ value) write ++ members)

/-- **The writer binds the value of a slot** if there is one, and skips the field otherwise. -/
def BindsSlot (code : Code) : Prop :=
  ∃ slot body, code = Code.block ("if let v = " ++ slot ++ " \x7b") body "\x7d"

/-- The name of the variable that holds a field. -/
def heldIn (names : FieldNames) (heap tracked : Bool) : String :=
  if heap || tracked then names.slot else names.property

/-- **All parts decide alike** whether presence is tracked. -/
structure PresenceAgrees (code : FieldCode) (field : ResolvedField) (initial unset : Value) (names : FieldNames)
    (comments modifier : String) (heap : Bool) : Prop where
  stored : DeclaredOnce code heap (heldIn names heap field.tracksPresence) field.slotType initial
  same : List.TFAE [
    field.tracksPresence = true,
    field.slotType.text = field.elementType.text ++ "?",
    initial.text = "nil",
    presenceMembers modifier names.property names.query names.reset (ownerOf heap ++ names.slot)
      (resetOwner heap ++ names.slot) <:+ code.interface.code,
    UnwrapsWithFallback code.interface.code (getterOwner heap ++ names.slot),
    BindsSlot code.visit.code]
  /-- The fallback is the same on the heap and inline. -/
  tracked : field.tracksPresence = true → code.interface.code = Code.blank ++ Code.lines comments
    ++ (computedProperty (propertyHead modifier names.property field.propertyType)
        (getterOwner heap ++ names.slot ++ " ?? " ++ unset.text) (setterOwner heap ++ names.slot)
      ++ presenceMembers modifier names.property names.query names.reset (ownerOf heap ++ names.slot)
        (resetOwner heap ++ names.slot))
  required : (code.required?.map RequiredCheck.code).getD [] ≠ [] → field.tracksPresence = true
  untracked : field.tracksPresence = false → field.slotType = field.propertyType ∧ initial = unset
    ∧ code.interface.code = Code.blank ++ Code.lines comments
      ++ if heap then
          computedProperty (propertyHead modifier names.property field.propertyType)
            (getterOwner heap ++ names.slot) (setterOwner heap ++ names.slot)
        else storedVariable modifier names.property field.propertyType initial
  /-- An untouched message does not write the field. -/
  untouched : ∃ condition body, code.visit.code = Code.block ("if " ++ condition ++ " \x7b") body "\x7d"
    ∧ GuardFails (ownerOf heap ++ heldIn names heap field.tracksPresence) initial condition

/-! ### Fields that do not track presence -/

namespace ResolvedField

variable {table : SymbolTable} {era : Era} {schema : Schema.Field} {field : ResolvedField}
  {declared? : Option Value}

/-- A field without presence is repeated, or a scalar or an enumeration of the third era. -/
theorem cases_of_untracked (untracked : field.tracksPresence = false) :
    field.isRepeated = true
      ∨ field.isRepeated = false ∧ field.era = .proto3 ∧ field.isMessageOrGroup = false := by
  by_cases many : field.isRepeated = true
  · exact .inl many
  · have single : field.isRepeated = false := by simpa using many
    unfold tracksPresence at untracked
    simp only [single, Bool.not_false, Bool.true_and, Bool.or_eq_false_iff,
      decide_eq_false_iff_not, Decidable.not_not, ne_eq] at untracked
    exact .inr ⟨single, untracked.1.1, untracked.1.2⟩

theorem Resolved.noMap_of_single (resolved : Resolved table era schema field)
    (emittable : schema.Emittable table era) (single : field.isRepeated = false) :
    field.isMap = false := by
  by_contra isMap
  have repeated := resolved.repeated_of_isMap emittable.map_repeated (by simpa using isMap)
  rw [single] at repeated
  cases repeated

/-- A field of the third era has no declared default. -/
theorem Resolved.noDefault (resolved : Resolved table era schema field)
    (emittable : schema.Emittable table era) (third : field.era = .proto3)
    (declared : field.declaredDefault table = .ok declared?) : declared? = none := by
  obtain ⟨rfl, rfl, _⟩ := resolved
  unfold declaredDefault at declared
  rw [emittable.no_default third] at declared
  cases declared
  rfl

/-- The default of a scalar or of an enumeration with a value is written. -/
theorem typeDefault_text_ne_nil {type : FieldType} (resolves : FieldType.Resolves table schema type)
    (emittable : schema.Emittable table era) (noMessage : schema.refersToMessage = false) :
    (typeDefault type).text ≠ "nil" := by
  cases resolves with
  | @scalar _ type =>
    cases type <;> decide
  | @enumeration _ node kind declared =>
    have hasValue := emittable.has_value node kind declared
    obtain ⟨value, rest, values⟩ := List.exists_cons_of_ne_nil hasValue
    have starts : typeDefault (.enumeration node) = .enumCase (node.caseNameOf value) := by
      simp [typeDefault, EnumNode.firstCase?, EnumNode.caseNames, values]
    rw [starts]
    intro same
    have first := congrArg (fun text : String => text.toList.head?) same
    simp [Value.text] at first
  | group kind | message kind => simp [Schema.Field.refersToMessage, kind] at noMessage
  | map found =>
    have kind := (SymbolTable.entryOf?_eq_some.mp found).1
    simp [Schema.Field.refersToMessage, kind] at noMessage

/-- The default of a string or of bytes is empty. -/
theorem typeDefault_isEmpty {type : FieldType} (resolves : FieldType.Resolves table schema type)
    (text : schema.kind = .scalar .string ∨ schema.kind = .scalar .bytes) :
    (typeDefault type).isEmpty = true := by
  cases resolves with
  | scalar kind =>
    rw [kind] at text
    rcases text with string | bytes
    · cases string
      rfl
    · cases bytes
      rfl
  | enumeration kind | group kind | message kind => simp [kind] at text
  | map found => simp [(SymbolTable.entryOf?_eq_some.mp found).1] at text

theorem typeDefault_equalsItself (type : FieldType) : (typeDefault type).equalsItself = true := by
  unfold typeDefault
  split <;> try rfl
  split <;> rfl

end ResolvedField

/-! ### What each part decides -/

namespace FieldPlan

variable {unit : CompilationUnit} {era : Era} {names : FieldNames} {comments : String} {heap : Bool}
  {schema : Schema.Field} {plan : FieldPlan}

/-- **The initial value without presence** is an empty collection or the default of the type. -/
theorem Planned.initialValue_of_untracked
    (planned : Planned unit era names comments heap schema plan)
    (emittable : schema.Emittable unit.symbols era) (untracked : plan.field.tracksPresence = false) :
    plan.initialValue = plan.unsetValue
      ∧ (plan.field.isRepeated = true
          ∧ (plan.initialValue = .emptyArray ∨ plan.initialValue = .emptyDictionary)
        ∨ plan.field.isRepeated = false ∧ plan.field.isMessageOrGroup = false
          ∧ plan.declaredDefault? = none
          ∧ plan.initialValue = ResolvedField.typeDefault plan.field.type) := by
  have same : plan.initialValue = plan.unsetValue := by
    rw [planned.initialValue_eq, planned.unsetValue_eq, ResolvedField.initialOf]
    simp [untracked]
  refine ⟨same, ?_⟩
  rw [same, planned.unsetValue_eq, ResolvedField.unsetOf]
  rcases ResolvedField.cases_of_untracked untracked with many | ⟨single, third, noMessage⟩
  · refine .inl ⟨many, ?_⟩
    simp only [many, if_true]
    split_ifs
    · exact .inr rfl
    · exact .inl rfl
  · have noMap := planned.resolved.noMap_of_single emittable single
    have noDefault := planned.resolved.noDefault emittable third planned.declaredDefault_eq
    refine .inr ⟨single, noMessage, noDefault, ?_⟩
    simp [noMap, single, noDefault]

theorem Planned.initialValue_of_tracked
    (planned : Planned unit era names comments heap schema plan)
    (emittable : schema.Emittable unit.symbols era) (tracked : plan.field.tracksPresence = true) :
    plan.initialValue = .nilValue := by
  have single := ResolvedField.single_of_tracked tracked
  have noMap := planned.resolved.noMap_of_single emittable single
  rw [planned.initialValue_eq, ResolvedField.initialOf]
  simp [tracked, noMap]

/-- The type of the slot is optional exactly with presence. -/
theorem slotType_text_iff (field : ResolvedField) :
    field.slotType.text = field.elementType.text ++ "?" ↔ field.tracksPresence = true := by
  unfold ResolvedField.slotType
  cases tracked : field.tracksPresence with
  | true =>
    simp only [ResolvedField.single_of_tracked tracked, Bool.not_true, Bool.or_false,
      Bool.false_eq_true, if_false, iff_true]
    rfl
  | false =>
    simp only [Bool.not_false, Bool.or_true, if_true, Bool.false_eq_true, iff_false]
    -- An array type is one character longer than the optional type, and the element type one shorter.
    intro optional
    have lengths := congrArg String.length optional
    unfold ResolvedField.propertyType at lengths
    split_ifs at lengths
    · simp only [SwiftType.text, String.length_append] at lengths
      have bracket : "[".length = 1 ∧ "]".length = 1 ∧ "?".length = 1 := by decide
      omega
    · have mark : "?".length = 1 := by decide
      rw [String.length_append] at lengths
      omega

theorem Planned.initialValue_text_iff
    (planned : Planned unit era names comments heap schema plan)
    (emittable : schema.Emittable unit.symbols era) :
    plan.initialValue.text = "nil" ↔ plan.field.tracksPresence = true := by
  cases tracked : plan.field.tracksPresence with
  | true =>
    rw [planned.initialValue_of_tracked emittable tracked]
    exact ⟨fun _ => rfl, fun _ => rfl⟩
  | false =>
    refine ⟨fun same => ?_, fun absurd => by cases absurd⟩
    obtain ⟨_, ⟨_, array | dictionary⟩ | ⟨_, noMessage, _, starts⟩⟩ :=
      planned.initialValue_of_untracked emittable tracked
    · rw [array] at same
      exact absurd same (by decide)
    · rw [dictionary] at same
      exact absurd same (by decide)
    · rw [starts] at same
      rw [ResolvedField.isMessageOrGroup, planned.resolved.schema_eq] at noMessage
      exact absurd same
        (ResolvedField.typeDefault_text_ne_nil planned.resolved.type_resolves emittable noMessage)

/-- **The fallback is the default of the property**, whichever branch it is taken from. -/
theorem Planned.fallback?_of_tracked
    (planned : Planned unit era names comments heap schema plan)
    (emittable : schema.Emittable unit.symbols era) (tracked : plan.field.tracksPresence = true) :
    plan.fallback? = some plan.unsetValue := by
  have single := ResolvedField.single_of_tracked tracked
  have noMap := planned.resolved.noMap_of_single emittable single
  unfold fallback?
  by_cases heap : plan.heap = true
  · simp only [heap, if_true, heapFallback?, single, noMap, Bool.or_self, Bool.false_eq_true, if_false, tracked]
    split_ifs
    · rfl
    · cases declared : plan.declaredDefault? with
      | none => rfl
      | some explicit =>
        rw [planned.unsetValue_eq, ResolvedField.unsetOf, declared]
        simp [single, noMap]
  · rw [if_neg heap]

theorem Planned.heapFallback?_of_untracked
    (planned : Planned unit era names comments heap schema plan)
    (emittable : schema.Emittable unit.symbols era) (untracked : plan.field.tracksPresence = false) :
    plan.heapFallback? = none := by
  unfold heapFallback?
  obtain ⟨_, ⟨many, _⟩ | ⟨single, noMessage, noDefault, _⟩⟩ :=
    planned.initialValue_of_untracked emittable untracked
  · simp [many]
  · have noMap := planned.resolved.noMap_of_single emittable single
    simp [single, noMap, noMessage, noDefault, untracked]

/-- **What is declared for a field with presence**, on the heap and inline. -/
theorem Planned.interface_of_tracked
    (planned : Planned unit era names comments heap schema plan)
    (emittable : schema.Emittable unit.symbols era) (tracked : plan.field.tracksPresence = true) :
    plan.code.interface.code = Code.blank ++ Code.lines comments
      ++ (computedProperty (propertyHead unit.options.access.modifier names.property plan.field.propertyType)
          (getterOwner heap ++ names.slot ++ " ?? " ++ plan.unsetValue.text) (setterOwner heap ++ names.slot)
        ++ presenceMembers unit.options.access.modifier names.property names.query names.reset
          (ownerOf heap ++ names.slot) (resetOwner heap ++ names.slot)) := by
  have written := FieldPlan.interface_of_tracked tracked
  rw [planned.fallback?_of_tracked emittable tracked, planned.comments_eq, planned.names_eq, planned.access_eq,
    planned.heap_eq] at written
  have behind : getterOwner heap ++ names.slot ++ " ?? " ++ plan.unsetValue.text
      = getterOwner heap ++ names.slot ++ (" ?? " ++ plan.unsetValue.text) := String.append_assoc
  rw [written, behind]
  rfl

/-- **What is declared for a field without presence**, on the heap and inline. -/
theorem Planned.interface_of_untracked
    (planned : Planned unit era names comments heap schema plan)
    (emittable : schema.Emittable unit.symbols era) (untracked : plan.field.tracksPresence = false) :
    plan.code.interface.code = Code.blank ++ Code.lines comments
      ++ if heap then
          computedProperty (propertyHead unit.options.access.modifier names.property plan.field.propertyType)
            (getterOwner heap ++ names.slot) (setterOwner heap ++ names.slot)
        else storedVariable unit.options.access.modifier names.property plan.field.propertyType plan.initialValue := by
  have written := FieldPlan.interface_of_untracked untracked
  rw [planned.heapFallback?_of_untracked emittable untracked, planned.comments_eq, planned.names_eq,
    planned.access_eq, planned.heap_eq] at written
  rw [written]
  simp only [fallbackText, Option.map_none, Option.getD_none, String.append_empty]

/-- **The members for presence are there exactly with presence.** Without it the code ends in a single line, or in a
block. -/
theorem Planned.presenceMembers_suffix_iff
    (planned : Planned unit era names comments heap schema plan)
    (emittable : schema.Emittable unit.symbols era) :
    presenceMembers unit.options.access.modifier names.property names.query names.reset (ownerOf heap ++ names.slot)
      (resetOwner heap ++ names.slot) <:+ plan.code.interface.code ↔ plan.field.tracksPresence = true := by
  cases tracked : plan.field.tracksPresence with
  | true =>
    refine iff_of_true ?_ rfl
    rw [planned.interface_of_tracked emittable tracked, ← List.append_assoc]
    exact List.suffix_append _ _
  | false =>
    refine iff_of_false ?_ Bool.false_ne_true
    rw [planned.interface_of_untracked emittable tracked]
    rintro ⟨front, same⟩
    have second := congrArg (fun steps : Code => steps.dropLast.getLast?) same
    cases heap with
    | true => simp [presenceMembers, computedProperty, Code.block, Code.line, Code.lines, Code.indented] at second
    | false =>
      have lengths := congrArg List.length same
      simp [presenceMembers, storedVariable, Code.blank, Code.line, Code.lines] at lengths

/-- **The property falls back exactly with presence.** -/
theorem Planned.unwrapsWithFallback_iff
    (planned : Planned unit era names comments heap schema plan)
    (emittable : schema.Emittable unit.symbols era) :
    UnwrapsWithFallback plan.code.interface.code (getterOwner heap ++ names.slot)
      ↔ plan.field.tracksPresence = true := by
  cases tracked : plan.field.tracksPresence with
  | true => exact iff_of_true ⟨_, _, _, _, _, planned.interface_of_tracked emittable tracked⟩ rfl
  | false =>
    refine iff_of_false ?_ Bool.false_ne_true
    rw [planned.interface_of_untracked emittable tracked]
    rintro ⟨_, _, value, _, _, same⟩
    cases heap with
    | true =>
      -- the lines behind the first one of the property would be the same
      simp only [computedProperty, Code.block, Code.line, Code.lines, Code.indented, Code.blank, if_true,
        List.cons_append, List.nil_append, List.cons.injEq, Step.print.injEq] at same
      obtain ⟨-, -, -, -, getter, -⟩ := same
      have lengths := congrArg String.length getter
      have marks : " ?? ".length = 4 := by decide
      simp only [getterLine, String.length_append, marks] at lengths
      omega
    | false =>
      have lengths := congrArg List.length same
      simp [computedProperty, storedVariable, Code.block, Code.blank, Code.line, Code.lines, Code.indented] at lengths

/-- A writer binds the slot if its condition does. -/
theorem bindsSlot_iff_condition (plan : FieldPlan) :
    BindsSlot plan.code.visit.code ↔ ∃ slot, plan.visitGuard.condition = "let v = " ++ slot := by
  have opening : ∀ slot, "if let v = " ++ slot ++ " \x7b" = "if " ++ ("let v = " ++ slot) ++ " \x7b" := by
    intro slot
    simp only [← String.append_assoc]
    rfl
  show (∃ slot body, Code.block ("if " ++ plan.visitGuard.condition ++ " \x7b") _ "\x7d"
    = Code.block ("if let v = " ++ slot ++ " \x7b") body "\x7d") ↔ _
  constructor
  · rintro ⟨slot, body, same⟩
    rw [opening] at same
    have first := congrArg List.head? same
    simp only [Code.block, Code.line, List.cons_append, List.nil_append, List.head?_cons, Option.some.injEq,
      Step.print.injEq, String.append_left_inj, String.append_right_inj] at first
    exact ⟨slot, first⟩
  · rintro ⟨slot, same⟩
    exact ⟨slot, _, by rw [opening, same]⟩

/-- A condition that starts with another character binds nothing. -/
theorem not_exists_let {condition : String} {first : Char} (starts : condition.toList.head? = some first)
    (other : first ≠ 'l') : ¬ ∃ slot, condition = "let v = " ++ slot := by
  rintro ⟨slot, rfl⟩
  rw [String.toList_append] at starts
  exact other (Option.some.inj starts).symm

theorem not_exists_let_notEmpty (slot : Slot) : ¬ ∃ bound, (VisitGuard.notEmpty slot).condition = "let v = " ++ bound := by
  refine @not_exists_let _ '!' ?_ (by decide)
  simp only [VisitGuard.condition, String.toList_append]
  rfl

theorem not_exists_let_differs (plan : FieldPlan) (value : Value) :
    ¬ ∃ bound, (VisitGuard.differs (plan.slot .own) value).condition = "let v = " ++ bound := by
  obtain ⟨first, starts, other⟩ : ∃ first, (ownerOf plan.heap).toList.head? = some first ∧ first ≠ 'l' := by
    cases plan.heap
    · exact ⟨'s', rfl, by decide⟩
    · exact ⟨'_', rfl, by decide⟩
  refine not_exists_let ?_ other
  simp only [VisitGuard.condition, slot_own_text, String.toList_append, List.append_assoc, List.head?_append,
    starts, Option.some_or]

/-- **The writer binds the slot exactly with presence.** -/
theorem bindsSlot_iff (plan : FieldPlan) : BindsSlot plan.code.visit.code ↔ plan.field.tracksPresence = true := by
  rw [bindsSlot_iff_condition]
  unfold visitGuard
  cases tracked : plan.field.tracksPresence with
  | true =>
    refine iff_of_true ⟨(plan.slot .own).text, ?_⟩ rfl
    simp [ResolvedField.single_of_tracked tracked, VisitGuard.condition]
  | false =>
    refine iff_of_false ?_ Bool.false_ne_true
    rcases ResolvedField.cases_of_untracked tracked with many | ⟨single, _, noMessage⟩
    · rw [if_pos many]
      exact not_exists_let_notEmpty _
    · simp only [single, noMessage, Bool.or_self, Bool.false_eq_true, if_false]
      split_ifs
      · exact not_exists_let_notEmpty _
      · exact not_exists_let_differs plan _

/-- **The initial value is not written.** -/
theorem Planned.guardFails_initialValue
    (planned : Planned unit era names comments heap schema plan)
    (emittable : schema.Emittable unit.symbols era) :
    GuardFails (plan.slot .own).text plan.initialValue plan.visitGuard.condition := by
  unfold visitGuard
  cases tracked : plan.field.tracksPresence with
  | true =>
    rw [planned.initialValue_of_tracked emittable tracked]
    simp only [ResolvedField.single_of_tracked tracked, Bool.or_true, Bool.false_eq_true, if_false, if_true]
    exact .isSet
  | false =>
    obtain ⟨same, ⟨many, array | dictionary⟩ | ⟨single, noMessage, _, starts⟩⟩ :=
      planned.initialValue_of_untracked emittable tracked
    · rw [array, if_pos many]
      exact .notEmpty rfl
    · rw [dictionary, if_pos many]
      exact .notEmpty rfl
    · simp only [single, noMessage, Bool.or_self, Bool.false_eq_true, if_false]
      split_ifs with text
      · refine .notEmpty ?_
        rw [starts]
        rw [ResolvedField.isString, ResolvedField.isBytes, planned.resolved.schema_eq] at text
        refine ResolvedField.typeDefault_isEmpty planned.resolved.type_resolves ?_
        simpa using text
      · rw [← same]
        refine .differs ?_
        rw [starts]
        exact ResolvedField.typeDefault_equalsItself _

/-- Only a field of the second era is required, and it tracks presence. -/
theorem Planned.tracked_of_required
    (planned : Planned unit era names comments heap schema plan)
    (emittable : schema.Emittable unit.symbols era)
    (required : (plan.code.required?.map RequiredCheck.code).getD [] ≠ []) : plan.field.tracksPresence = true := by
  have isRequired : plan.field.isRequired = true := by
    by_cases isRequired : plan.field.isRequired = true
    · exact isRequired
    · simp [code, required?, isRequired] at required
  obtain ⟨schemaEq, eraEq, _⟩ := planned.resolved
  simp only [ResolvedField.isRequired, decide_eq_true_eq, schemaEq] at isRequired
  have second : era ≠ .proto3 := fun third => emittable.not_required third isRequired
  simp [ResolvedField.tracksPresence, ResolvedField.isRepeated, schemaEq, eraEq, isRequired, second]

/-- **Whether a field is set is represented one way**, on the heap and inline. Both ways to store the message
have a plan for the field, and the property falls back on the same value. -/
theorem presence_agrees (made : make unit era names comments heap schema = .ok plan)
    (emittable : schema.Emittable unit.symbols era) :
    ∃ field initial unset,
      ResolvedField.resolve unit.symbols era schema = .ok field
        ∧ field.initialValue unit.symbols = .ok initial
        ∧ field.unsetValue unit.symbols = .ok unset
        ∧ ∀ heap, ∃ plan, make unit era names comments heap schema = .ok plan
          ∧ PresenceAgrees plan.code field initial unset names comments unit.options.access.modifier heap := by
  have first := planned_of_make made
  refine ⟨plan.field, plan.initialValue, plan.unsetValue, first.resolve_eq, first.initialValue,
    first.unsetValue, fun stored => ?_⟩
  have twinMade : make unit era names comments stored schema
      = .ok (ofDecisions unit names comments stored plan.field plan.declaredDefault?) := by
    rw [make_eq, first.resolve_eq]
    show (plan.field.declaredDefault unit.symbols >>= _) = _
    rw [first.declaredDefault_eq]
    rfl
  refine ⟨_, twinMade, ?_⟩
  rw [first.initialValue_eq, first.unsetValue_eq]
  have planned := planned_of_make twinMade
  refine ⟨declaredOnce _, ?_, planned.interface_of_tracked emittable, planned.tracked_of_required emittable, ?_, ?_⟩
  · refine List.tfae_of_forall (plan.field.tracksPresence = true) _ ?_
    simp only [List.mem_cons, List.not_mem_nil, or_false, forall_eq_or_imp, forall_eq, iff_self, true_and]
    exact ⟨slotType_text_iff plan.field, planned.initialValue_text_iff emittable,
      planned.presenceMembers_suffix_iff emittable, planned.unwrapsWithFallback_iff emittable, bindsSlot_iff _⟩
  · intro untracked
    refine ⟨?_, (planned.initialValue_of_untracked emittable untracked).1,
      planned.interface_of_untracked emittable untracked⟩
    simp [ResolvedField.slotType, untracked]
  · have fails := planned.guardFails_initialValue emittable
    rw [slot_own_text] at fails
    exact ⟨_, _, rfl, fails⟩

/-- The balance of an account tracks presence, although it has to be set. -/
theorem presence_agrees_balance :
    ∃ plan, make ledgerUnit .proto2 (.ofField "balance") "" true balanceSchema = .ok plan
      ∧ balanceSchema.Emittable ledgerUnit.symbols .proto2
      ∧ ∃ field initial unset,
        ResolvedField.resolve ledgerUnit.symbols .proto2 balanceSchema = .ok field
          ∧ field.tracksPresence = true
          ∧ field.initialValue ledgerUnit.symbols = .ok initial
          ∧ field.unsetValue ledgerUnit.symbols = .ok unset
          ∧ ∀ heap, ∃ plan,
            make ledgerUnit .proto2 (.ofField "balance") "" heap balanceSchema = .ok plan
              ∧ PresenceAgrees plan.code field initial unset (.ofField "balance") "" "" heap := by
  have made := balanceSchema_make .proto2 (.ofField "balance") "" true
  have emittable : balanceSchema.Emittable ledgerUnit.symbols .proto2 := by
    refine ⟨fun entry found => ?_, fun third => absurd third (by decide),
      fun third => absurd third (by decide), fun node enumeration => ?_⟩
    · have kind := (SymbolTable.entryOf?_eq_some.mp found).1
      exact absurd kind (by decide)
    · exact absurd enumeration (by decide)
  obtain ⟨field, initial, unset, resolved, starts, reads, agrees⟩ := presence_agrees made emittable
  have tracked : field.tracksPresence = true := by
    rw [(planned_of_make made).resolve_eq] at resolved
    cases resolved
    decide
  exact ⟨_, made, emittable, field, initial, unset, resolved, tracked, starts, reads, agrees⟩

end FieldPlan

end ProtoSwift
