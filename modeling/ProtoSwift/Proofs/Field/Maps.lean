/-
**What a map field becomes, label by label.**

Whether a field is a map is decided by its type, and whether presence is tracked by its label. The front end of the
compiler declares every map with the label `repeated`, and then the parts of its code agree that it is a collection.
With any other label they do not: the property is a dictionary and starts empty, but the slot behind it is optional,
there are members that ask for presence, and the writer looks for a value and not for elements.

* `FieldCode.KeepsCollection`, `FieldCode.KeepsOptional` — the two forms that the code of a map can have, as texts;
* `FieldPlan.keepsCollection`, `FieldPlan.keepsOptional` — which of them it has follows from whether it is repeated;
* `FieldPlan.collection_iff_repeated` — every map field has a plan, and it keeps a collection only if it is repeated;
* `FieldPlan.optional_map` — a map that the generator takes, and does not keep as a collection.
-/

import ProtoSwift.Proofs.Field.Presence

namespace ProtoSwift

open Swift

/-! ### Two forms -/

/-- The Swift type of a map. -/
def FieldType.dictionary (key value : FieldType) : SwiftType :=
  .dictionary key.elementType value.elementType

/-- **The code of a collection.** The dictionary starts empty, the property is the dictionary or passes reads and writes
on to it, nothing else is declared, and the dictionary is written unless it is empty. -/
structure FieldCode.KeepsCollection (code : FieldCode) (names : FieldNames) (comments modifier : String) (heap : Bool)
    (key value : FieldType) : Prop where
  stored : DeclaredOnce code heap (heldIn names heap false) (FieldType.dictionary key value) .emptyDictionary
  declared : code.interface.code = Code.blank ++ Code.lines comments
    ++ if heap then
        computedProperty (propertyHead modifier names.property (FieldType.dictionary key value))
          (getterOwner heap ++ names.slot) (setterOwner heap ++ names.slot)
      else storedVariable modifier names.property (FieldType.dictionary key value) .emptyDictionary
  guarded : ∃ body, code.visit.code
    = Code.block ("if !" ++ (ownerOf heap ++ heldIn names heap false) ++ ".isEmpty \x7b") body "\x7d"

/-- **The code of a dictionary that may be missing.** There are members that ask for it and take it away, and it is
written if there is one. On the heap the property has nothing to fall back on. -/
structure FieldCode.KeepsOptional (code : FieldCode) (names : FieldNames) (comments modifier : String) (heap : Bool)
    (key value : FieldType) : Prop where
  stored : DeclaredOnce code heap (heldIn names heap true) (.optional (FieldType.dictionary key value)) .emptyDictionary
  declared : code.interface.code = Code.blank ++ Code.lines comments
    ++ (computedProperty (propertyHead modifier names.property (FieldType.dictionary key value))
        (getterOwner heap ++ names.slot ++ if heap then "" else " ?? [:]") (setterOwner heap ++ names.slot)
      ++ presenceMembers modifier names.property names.query names.reset (ownerOf heap ++ names.slot)
        (resetOwner heap ++ names.slot))
  guarded : ∃ body, code.visit.code
    = Code.block ("if let v = " ++ (ownerOf heap ++ heldIn names heap true) ++ " \x7b") body "\x7d"

/-- No code has both forms. -/
theorem FieldCode.KeepsOptional.not_keepsCollection {code : FieldCode} {names : FieldNames} {comments modifier : String}
    {heap : Bool} {key value : FieldType} (optional : code.KeepsOptional names comments modifier heap key value) :
    ¬ code.KeepsCollection names comments modifier heap key value := by
  intro collection
  obtain ⟨body, binds⟩ := optional.guarded
  obtain ⟨other, tests⟩ := collection.guarded
  rw [tests] at binds
  have first := congrArg (fun steps : Code => steps.head?) binds
  simp only [Code.block, Code.line, List.cons_append, List.nil_append, List.head?_cons, Option.some.injEq,
    Step.print.injEq] at first
  have letters := congrArg (fun text : String => text.toList[3]?) first
  simp [String.toList_append] at letters

/-! ### Decisions about a map -/

namespace ResolvedField

variable {field : ResolvedField} {entry : MessageNode} {key value : FieldType}

/-- A default declared for a message is never refused. -/
theorem declaredDefault_of_message (table : SymbolTable) (field : ResolvedField)
    (kind : field.schema.kind = .message) : ∃ declared?, field.declaredDefault table = .ok declared? := by
  unfold declaredDefault
  simp only [kind]
  split <;> exact ⟨_, rfl⟩

theorem propertyType_of_map (typed : field.type = .map entry key value) :
    field.propertyType = FieldType.dictionary key value := by
  simp [propertyType, isMap, elementType, FieldType.elementType, FieldType.dictionary, typed]

theorem slotType_of_map (typed : field.type = .map entry key value) :
    field.slotType = if field.tracksPresence then .optional (FieldType.dictionary key value)
      else FieldType.dictionary key value := by
  unfold slotType
  rw [propertyType_of_map typed]
  cases tracked : field.tracksPresence with
  | false => simp
  | true => simp [single_of_tracked tracked, elementType, FieldType.elementType, FieldType.dictionary, typed]

end ResolvedField

/-! ### The code of a map -/

namespace FieldPlan

variable {unit : CompilationUnit} {era : Era} {names : FieldNames} {comments : String} {heap : Bool}
  {schema : Schema.Field} {plan : FieldPlan} {type key value : FieldType} {entry : MessageNode}

/-- A map starts with an empty dictionary, whatever the schema declares. -/
theorem Planned.initialValue_of_map (planned : Planned unit era names comments heap schema plan)
    (isMap : plan.field.isMap = true) : plan.initialValue = .emptyDictionary := by
  simp [planned.initialValue_eq, ResolvedField.initialOf, ResolvedField.unsetOf, isMap]

/-- **A repeated map is kept as a collection.** -/
theorem Planned.keepsCollection (planned : Planned unit era names comments heap schema plan)
    (typed : plan.field.type = .map entry key value) (many : plan.field.isRepeated = true) :
    plan.code.KeepsCollection names comments unit.options.access.modifier heap key value := by
  have isMap : plan.field.isMap = true := by simp [ResolvedField.isMap, typed]
  have untracked : plan.field.tracksPresence = false := by simp [ResolvedField.tracksPresence, many]
  have slotType := ResolvedField.slotType_of_map typed
  rw [untracked, if_neg Bool.false_ne_true] at slotType
  have held : plan.variableName = heldIn names heap false := by
    rw [variableName, heldIn, untracked, planned.names_eq, planned.heap_eq]
  refine { stored := ?_, declared := ?_, guarded := ?_ }
  · have stored := declaredOnce plan
    rwa [slotType, planned.initialValue_of_map isMap, held, planned.heap_eq] at stored
  · have noFallback : plan.heapFallback? = none := by simp [heapFallback?, isMap]
    have declared := FieldPlan.interface_of_untracked untracked
    rw [noFallback, planned.comments_eq, planned.names_eq, planned.access_eq, planned.heap_eq,
      planned.initialValue_of_map isMap, ResolvedField.propertyType_of_map typed] at declared
    simpa only [fallbackText, Option.map_none, Option.getD_none, String.append_empty] using declared
  · have guard : plan.visitGuard.condition = "!" ++ (ownerOf heap ++ heldIn names heap false) ++ ".isEmpty" := by
      rw [visitGuard, if_pos many, VisitGuard.condition, slot_own_text, held, planned.heap_eq]
    have opening : ∀ slot : String, "if " ++ ("!" ++ slot ++ ".isEmpty") ++ " \x7b" = "if !" ++ slot ++ ".isEmpty \x7b" := by
      intro slot
      apply String.toList_inj.mp
      simp [String.toList_append]
    refine ⟨_, congrArg (Code.block · _ _) (?_ : "if " ++ plan.visitGuard.condition ++ " \x7b" = _)⟩
    rw [guard, opening]

/-- **A map that tracks presence is kept as a dictionary that may be missing.** -/
theorem Planned.keepsOptional (planned : Planned unit era names comments heap schema plan)
    (typed : plan.field.type = .map entry key value) (tracked : plan.field.tracksPresence = true) :
    plan.code.KeepsOptional names comments unit.options.access.modifier heap key value := by
  have isMap : plan.field.isMap = true := by simp [ResolvedField.isMap, typed]
  have slotType := ResolvedField.slotType_of_map typed
  rw [tracked, if_pos rfl] at slotType
  have unset : plan.unsetValue = .emptyDictionary := by
    simp [planned.unsetValue_eq, ResolvedField.unsetOf, isMap]
  have held : plan.variableName = heldIn names heap true := by
    rw [variableName, heldIn, tracked, planned.names_eq, planned.heap_eq]
  refine { stored := ?_, declared := ?_, guarded := ?_ }
  · have stored := declaredOnce plan
    rwa [slotType, planned.initialValue_of_map isMap, held, planned.heap_eq] at stored
  · have fallback : fallbackText plan.fallback? = if heap then "" else " ?? [:]" := by
      rw [fallback?, ← planned.heap_eq, unset]
      cases plan.heap
      · rfl
      · simp [heapFallback?, isMap, fallbackText]
    have declared := FieldPlan.interface_of_tracked tracked
    rwa [fallback, planned.comments_eq, planned.names_eq, planned.access_eq, planned.heap_eq,
      ResolvedField.propertyType_of_map typed] at declared
  · have guard : plan.visitGuard.condition = "let v = " ++ (ownerOf heap ++ heldIn names heap true) := by
      rw [← held, ← planned.heap_eq, ← slot_own_text]
      simp [visitGuard, VisitGuard.condition, ResolvedField.single_of_tracked tracked, tracked]
    refine ⟨_, congrArg (Code.block · _ _) (?_ : "if " ++ plan.visitGuard.condition ++ " \x7b" = _)⟩
    rw [guard, ← String.append_assoc]
    rfl

/-- A field of a map type has a plan, whatever else it declares. -/
theorem make_of_map (found : unit.symbols.entryOf? schema = some entry)
    (resolved : FieldType.resolve unit.symbols schema = .ok type) (era : Era) (names : FieldNames)
    (comments : String) (heap : Bool) :
    ∃ plan, make unit era names comments heap schema = .ok plan ∧ plan.field = ⟨schema, era, type⟩ := by
  have kind := (SymbolTable.entryOf?_eq_some.mp found).1
  obtain ⟨declared?, declared⟩ := ResolvedField.declaredDefault_of_message unit.symbols ⟨schema, era, type⟩ kind
  refine ⟨ofDecisions unit names comments heap ⟨schema, era, type⟩ declared?, ?_, rfl⟩
  rw [make_eq, ResolvedField.resolve, resolved]
  show (ResolvedField.declaredDefault unit.symbols ⟨schema, era, type⟩ >>= _) = _
  rw [declared]
  rfl

/-- **A map is kept as a collection only if it is repeated.** Whatever its label, it has a plan, and its key and value
have the types of the first two fields of its entry. With any other label the dictionary may be missing. -/
theorem collection_iff_repeated (found : unit.symbols.entryOf? schema = some entry)
    (resolved : FieldType.resolve unit.symbols schema = .ok type) :
    ∃ keyField valueField key value,
      entry.schema.field? 1 = some keyField ∧ FieldType.Resolves unit.symbols keyField key
        ∧ entry.schema.field? 2 = some valueField ∧ FieldType.Resolves unit.symbols valueField value
        ∧ type = .map entry key value
        ∧ ∀ era names comments heap, ∃ plan, make unit era names comments heap schema = .ok plan
          ∧ (plan.code.KeepsCollection names comments unit.options.access.modifier heap key value
            ↔ schema.label = .repeated)
          ∧ (plan.code.KeepsOptional names comments unit.options.access.modifier heap key value
            ↔ schema.label ≠ .repeated) := by
  obtain ⟨kind, declared, isEntry⟩ := SymbolTable.entryOf?_eq_some.mp found
  cases FieldType.resolves_of_resolve resolved with
  | scalar other | enumeration other | group other =>
    rw [kind] at other
    cases other
  | message _ again plain =>
    rw [declared] at again
    cases again
    rw [isEntry] at plain
    cases plain
  | @map _ keyField valueField _ key value again keyIs valueIs keyResolves valueResolves =>
    rw [found] at again
    cases again
    refine ⟨keyField, valueField, key, value, keyIs, keyResolves, valueIs, valueResolves, rfl, ?_⟩
    intro era names comments heap
    obtain ⟨plan, made, field⟩ := make_of_map found resolved era names comments heap
    have planned := planned_of_make made
    have typed : plan.field.type = .map entry key value := by rw [field]
    have message : plan.field.isMessageOrGroup = true := by
      simp [ResolvedField.isMessageOrGroup, Schema.Field.refersToMessage, field, kind]
    have label : plan.field.isRepeated = true ↔ schema.label = .repeated := by
      simp [ResolvedField.isRepeated, field]
    refine ⟨plan, made, ?_⟩
    by_cases many : schema.label = .repeated
    · have collection := planned.keepsCollection typed (label.mpr many)
      exact ⟨iff_of_true collection many,
        iff_of_false (fun optional => optional.not_keepsCollection collection) (not_not.mpr many)⟩
    · have single : plan.field.isRepeated = false := by simpa using mt label.mp many
      have optional := planned.keepsOptional typed (ResolvedField.tracked_of_message single message)
      exact ⟨iff_of_false optional.not_keepsCollection many, iff_of_true optional many⟩

/-- The accounts of a ledger are kept as a collection. -/
theorem collection_iff_repeated_accounts :
    ledgerUnit.symbols.entryOf? accountsSchema = some accountsEntryNode
      ∧ FieldType.resolve ledgerUnit.symbols accountsSchema
        = .ok (.map accountsEntryNode (.scalar .string) (.message accountNode))
      ∧ accountsSchema.label = .repeated
      ∧ ∀ era names comments heap, ∃ plan,
        make ledgerUnit era names comments heap accountsSchema = .ok plan
          ∧ plan.code.KeepsCollection names comments "" heap (.scalar .string) (.message accountNode) := by
  have found : ledgerUnit.symbols.entryOf? accountsSchema = some accountsEntryNode := rfl
  have resolved := (FieldType.resolve_eq_ok_iff ledgerUnit_entriesEnd).mpr accountsSchema_resolves
  obtain ⟨_, _, key, value, _, _, _, _, same, plans⟩ := collection_iff_repeated found resolved
  cases same
  refine ⟨found, resolved, rfl, fun era names comments heap => ?_⟩
  obtain ⟨plan, made, collection, _⟩ := plans era names comments heap
  exact ⟨plan, made, collection.mpr rfl⟩

/-- The accounts of a ledger with the label `optional`. -/
def optionalAccountsSchema : Schema.Field :=
  { accountsSchema with label? := some 1 }

/-- **Not every map is kept as a collection.** The accounts with that label refer to a map entry, the generator takes
them, and the dictionary is stored in an optional slot, with members that ask for it. -/
theorem optional_map :
    ledgerUnit.symbols.entryOf? optionalAccountsSchema = some accountsEntryNode
      ∧ ∃ plan, make ledgerUnit .proto2 (.ofField "accounts") "" false optionalAccountsSchema = .ok plan
        ∧ plan.code.KeepsOptional (.ofField "accounts") "" "" false (.scalar .string) (.message accountNode)
        ∧ ¬ plan.code.KeepsCollection (.ofField "accounts") "" "" false (.scalar .string) (.message accountNode) := by
  have found : ledgerUnit.symbols.entryOf? optionalAccountsSchema = some accountsEntryNode := rfl
  have declared : ledgerUnit.symbols.message? ".bank.Account" = some accountNode := rfl
  have resolves : FieldType.Resolves ledgerUnit.symbols optionalAccountsSchema
      (.map accountsEntryNode (.scalar .string) (.message accountNode)) :=
    .map found rfl rfl (.scalar rfl) (.message rfl declared rfl)
  have resolved := (FieldType.resolve_eq_ok_iff ledgerUnit_entriesEnd).mpr resolves
  obtain ⟨plan, made, field⟩ := make_of_map found resolved .proto2 (.ofField "accounts") "" false
  have typed : plan.field.type = .map accountsEntryNode (.scalar .string) (.message accountNode) := by rw [field]
  have tracked : plan.field.tracksPresence = true := by
    rw [field]
    rfl
  have optional := (planned_of_make made).keepsOptional typed tracked
  exact ⟨found, plan, made, optional, optional.not_keepsCollection⟩

end FieldPlan

end ProtoSwift
