/-
**The generated checks find every required field that is not set.**

A message that leads to no required field has no check at all, and a field whose values lead to none is not
descended into. What is left out this way could never fail: the messages below are free of required fields,
however deep they are. What the checks say is read from the lines of the generated property.

* `Fits`, `FitsSlot` — the values that a type and a field can have;
* `isInitialized?` — the answer that the generated properties give for a value, when their lines are run;
* `AllSet` — every required field is set, at every level of a value;
* `SymbolTable.Sensible` — what the front end of the compiler promises;
* `isInitialized_iff_allSet` — the answer is that of `AllSet`, for every value.
-/

import ProtoSwift.Proofs.Field.Planning
import ProtoSwift.Proofs.Field.Sites
import ProtoSwift.Proofs.Requirement.CheckStatements
import ProtoSwift.Proofs.Requirement.Closure
import Mathlib

namespace ProtoSwift

open Swift

/-! ### Values of types -/

/-- **Fields that share a variable agree** on its type and on what it holds. Fields with variables of their own have
nothing to agree on. -/
def AgreeOnVariables (plans : List FieldPlan) (fields : List Content) : Prop :=
  ∀ first ∈ plans.zip fields, ∀ second ∈ plans.zip fields, first.1.variableName = second.1.variableName →
    first.1.field.slotType = second.1.field.slotType ∧ first.2 = second.2

/-- Fields whose variables are apart agree. -/
theorem agreeOnVariables_of_nodup {plans : List FieldPlan} {fields : List Content}
    (apart : (plans.map FieldPlan.variableName).Nodup) : AgreeOnVariables plans fields := by
  intro first isFirst second isSecond shared
  obtain ⟨i, isAt⟩ := List.mem_iff_getElem?.mp isFirst
  obtain ⟨j, isNext⟩ := List.mem_iff_getElem?.mp isSecond
  obtain ⟨firstPlan, firstContent⟩ := List.getElem?_zip_eq_some.mp isAt
  obtain ⟨secondPlan, secondContent⟩ := List.getElem?_zip_eq_some.mp isNext
  have firstName : (plans.map FieldPlan.variableName)[i]? = some first.1.variableName := by
    rw [List.getElem?_map, firstPlan, Option.map_some]
  have secondName : (plans.map FieldPlan.variableName)[j]? = some first.1.variableName := by
    rw [List.getElem?_map, secondPlan, Option.map_some, shared]
  have inside : i < (plans.map FieldPlan.variableName).length := (List.getElem?_eq_some_iff.mp firstName).1
  obtain rfl := (List.getElem?_inj inside apart).mp (firstName.trans secondName.symm)
  rw [firstPlan] at secondPlan
  rw [firstContent] at secondContent
  exact ⟨by rw [Option.some.inj secondPlan], Option.some.inj secondContent⟩

mutual

/-- **The values of a type**: one of them, or many. A message has a plan for every field. -/
inductive Fits (unit : CompilationUnit) : Bool → FieldType → Content → Prop
  | scalar (type : Schema.Scalar) : Fits unit false (.scalar type) .plain
  | enumeration (node : EnumNode) : Fits unit false (.enumeration node) .plain
  | message {type : FieldType} {file : FileNode} {node : MessageNode} {plans : List FieldPlan}
    {fields : List Content} (named : type = .message node ∨ type = .group node)
    (supplied : file ∈ unit.symbols.files) (declared : node ∈ file.allMessages)
    (planned : (fieldPlans unit file node).result = .ok plans) (complete : plans.length = fields.length)
    (agree : AgreeOnVariables plans fields)
    (fits : ∀ pair ∈ plans.zip fields, FitsSlot unit pair.1 pair.2) :
    Fits unit false type (.message file node fields)
  | map {entry : MessageNode} {keyType valueType : FieldType} {elements : List Content}
    (fits : ∀ element ∈ elements, Fits unit false valueType element) :
    Fits unit false (.map entry keyType valueType) (.many elements)
  | many {type : FieldType} {elements : List Content}
    (fits : ∀ element ∈ elements, Fits unit false type element) : Fits unit true type (.many elements)

/-- What a field can hold. Any field that is not repeated can be unset. -/
inductive FitsSlot (unit : CompilationUnit) : FieldPlan → Content → Prop
  | unset {plan : FieldPlan} (single : plan.field.isRepeated = false) : FitsSlot unit plan .unset
  | set {plan : FieldPlan} {content : Content}
    (fits : Fits unit (plan.field.isRepeated && !plan.field.isMap) plan.field.type content) :
    FitsSlot unit plan content

end

/-! ### Answers of the generated code -/

namespace StructDecl

/-- The struct of a message for the plans of its fields, without the structs of the messages inside it. -/
def ofPlans (unit : CompilationUnit) (file : FileNode) (node : MessageNode) (plans : List FieldPlan) : StructDecl :=
  { comments := file.commentText node.path
    modifier := unit.options.access.typeModifier
    name := Swift.nameInParent node.swiftName
    swiftName := node.swiftName
    schemaName := .of file.package node.fullName
    heap := node.schema.keepsFieldsOnHeap
    checksRequired := unit.leadsToRequired node
    fields := plans.map FieldPlan.code
    enums := node.enums.map (EnumDecl.ofNode unit.options.access file)
    structs := [] }

/-- The variables of fields that the lines of a struct declare, as members or in the class of its object on the heap,
with what they hold and the answers for it. -/
def heldVariables (decl : StructDecl) (contents : List (Content × Option Bool)) : List HeldVariable :=
  (decl.fields.zip contents).flatMap fun field => (field.1.storedVariables.filter decl.declares).map fun own =>
    ⟨ownerOf decl.heap ++ own.name, own.type.isOptional, field.2.1, field.2.2⟩

end StructDecl

/-- The answer for many values: nothing is wrong with any of them. -/
def allAnswer? : List (Option Bool) → Option Bool
  | [] => some true
  | answer? :: rest => answer?.bind fun first => (allAnswer? rest).map (first && ·)

mutual

/-- **The answer that the generated properties give for a value.** It is that of the lines of the property in the code of
the struct of a message. A message without the property has nothing wrong with it. -/
def isInitialized? (unit : CompilationUnit) : Content → Option Bool
  | .unset | .plain => some true
  | .message file node fields =>
    match (fieldPlans unit file node).result with
    | .ok plans =>
      match (StructDecl.ofPlans unit file node plans).checksBody? with
      | some lines => answerOf? ((StructDecl.ofPlans unit file node plans).heldVariables (withAnswers unit fields)) lines
      | none => some true
    | .error _ => none
  | .many elements => allAnswer? ((withAnswers unit elements).map (·.2))

/-- Values with the answers for them. -/
def withAnswers (unit : CompilationUnit) : List Content → List (Content × Option Bool)
  | [] => []
  | content :: rest => (content, isInitialized? unit content) :: withAnswers unit rest

end

/-- **Every required field is set**, at every level of a value. -/
def AllSet (unit : CompilationUnit) (whole : Content) : Prop :=
  ∀ file node fields, Content.Inside (.message file node fields) whole →
    ∀ plans, (fieldPlans unit file node).result = .ok plans →
      ∀ pair ∈ plans.zip fields, pair.1.field.schema.label = .required → pair.2 ≠ .unset

/-- **What the front end promises of required fields and maps.** -/
structure SymbolTable.Sensible (table : SymbolTable) : Prop where
  required_second : ∀ file ∈ table.files, ∀ node ∈ file.allMessages, ∀ field ∈ node.fields,
    field.label = .required → file.era = .proto2
  map_repeated : ∀ file ∈ table.files, ∀ node ∈ file.allMessages, ∀ field ∈ node.fields,
    ∀ entry, table.entryOf? field = some entry → field.label = .repeated

/-! ### Required fields level by level -/

section Levels

variable {unit : CompilationUnit}

theorem allSet_unset : AllSet unit .unset := by
  intro file node fields inside
  cases inside

theorem allSet_plain : AllSet unit .plain := by
  intro file node fields inside
  cases inside

theorem allSet_many {elements : List Content} :
    AllSet unit (.many elements) ↔ ∀ element ∈ elements, AllSet unit element := by
  constructor
  · intro all element among file node fields inside
    exact all file node fields (.element among inside)
  · intro all file node fields inside
    cases inside with
    | element among inside => exact all _ among file node fields inside

theorem allSet_message {file : FileNode} {node : MessageNode} {fields : List Content}
    {plans : List FieldPlan} (planned : (fieldPlans unit file node).result = .ok plans) :
    AllSet unit (.message file node fields)
      ↔ (∀ pair ∈ plans.zip fields, pair.1.field.schema.label = .required → pair.2 ≠ .unset)
        ∧ ∀ part ∈ fields, AllSet unit part := by
  constructor
  · intro all
    refine ⟨all file node fields .here plans planned, ?_⟩
    intro part among file node fields inside
    exact all file node fields (.field among inside)
  · rintro ⟨here, below⟩ innerFile innerNode innerFields inside
    cases inside with
    | here =>
      intro innerPlans innerPlanned
      rw [planned] at innerPlanned
      cases innerPlanned
      exact here
    | field among inside => exact below _ among innerFile innerNode innerFields inside

theorem withAnswers_eq (contents : List Content) :
    withAnswers unit contents = contents.map fun content => (content, isInitialized? unit content) := by
  induction contents with
  | nil => rfl
  | cons content rest inRest => rw [withAnswers, inRest, List.map_cons]

/-- The answer for many values is made of those for each of them. -/
theorem isInitialized?_many (elements : List Content) :
    isInitialized? unit (.many elements) = allAnswer? (elements.map (isInitialized? unit)) := by
  show allAnswer? ((withAnswers unit elements).map (·.2)) = _
  rw [withAnswers_eq, List.map_map]
  rfl

/-- The answer for a message is that of the lines of its property, if it has one. -/
theorem isInitialized?_message {file : FileNode} {node : MessageNode} {plans : List FieldPlan} {fields : List Content}
    (planned : (fieldPlans unit file node).result = .ok plans) : isInitialized? unit (.message file node fields)
      = match (StructDecl.ofPlans unit file node plans).checksBody? with
        | some lines => answerOf? ((StructDecl.ofPlans unit file node plans).heldVariables (withAnswers unit fields)) lines
        | none => some true := by
  show (match (fieldPlans unit file node).result with | .ok plans => _ | .error _ => _) = _
  rw [planned]

/-- There is an answer for many values if there is one for each of them. -/
theorem exists_allAnswer? {elements : List Content} {right : Content → Prop}
    (each : ∀ element ∈ elements, ∃ answer, isInitialized? unit element = some answer ∧ (answer = true ↔ right element)) :
    ∃ answer, isInitialized? unit (.many elements) = some answer
      ∧ (answer = true ↔ ∀ element ∈ elements, right element) := by
  rw [isInitialized?_many]
  induction elements with
  | nil => exact ⟨true, rfl, iff_of_true rfl fun _ among => absurd among List.not_mem_nil⟩
  | cons element rest inRest =>
    rw [List.forall_mem_cons] at each
    obtain ⟨first, firstGiven, firstRight⟩ := each.1
    obtain ⟨others, othersGiven, othersRight⟩ := inRest each.2
    refine ⟨first && others, ?_, ?_⟩
    · rw [List.map_cons, allAnswer?, firstGiven, Option.bind_some, othersGiven, Option.map_some]
    · rw [Bool.and_eq_true, firstRight, othersRight, List.forall_mem_cons]

end Levels

/-! ### What is left out -/

section Pruning

variable {unit : CompilationUnit} {file : FileNode} {node : MessageNode} {plans : List FieldPlan}
  {plan : FieldPlan} {content : Content}

theorem initialized?_eq_none_iff : plan.code.initialized? = none ↔ plan.checksValues = false := by
  show plan.initialized? = none ↔ _
  unfold FieldPlan.initialized?
  cases plan.checksValues <;> simp

/-- A check of values goes by the label of the field. -/
theorem initialized?_eq_some_iff {check : ValueCheck} : plan.code.initialized? = some check
    ↔ plan.checksValues = true ∧ check = ⟨plan.slot .own, plan.field.isRepeated⟩ := by
  show plan.initialized? = some check ↔ _
  unfold FieldPlan.initialized?
  cases plan.checksValues <;> simp [eq_comm]

/-- A field whose values are not checked has a type that is free of required fields. -/
theorem free_of_mem_fieldPlans (planned : (fieldPlans unit file node).result = .ok plans)
    (among : plan ∈ plans) (unchecked : plan.code.initialized? = none) : unit.Free plan.field.type := by
  obtain ⟨field, _, _, names, comments, decided⟩ := planned_of_mem_fieldPlans planned among
  have checks := initialized?_eq_none_iff.mp unchecked
  rw [decided.checksValues_eq] at checks
  exact CompilationUnit.free_of_unchecked decided.resolved.type_resolves checks

/-- **No field of a message that leads to no required field has a check.** -/
theorem unchecked_of_mem_fieldPlans (free : unit.leadsToRequired node = false)
    (planned : (fieldPlans unit file node).result = .ok plans) (among : plan ∈ plans) :
    plan.code.required? = none ∧ plan.code.initialized? = none := by
  obtain ⟨field, fieldAmong, _, names, comments, decided⟩ := planned_of_mem_fieldPlans planned among
  obtain ⟨schemaEq, _, resolves⟩ := decided.resolved
  obtain ⟨optional, unchecked⟩ := CompilationUnit.unchecked_of_field free fieldAmong
  constructor
  · show plan.required? = none
    simp [FieldPlan.required?, ResolvedField.isRequired, schemaEq, optional]
  · rw [initialized?_eq_none_iff, decided.checksValues_eq]
    exact unchecked plan.field.type resolves

theorem exists_plan_of_mem {fields : List Content} {part : Content}
    (complete : plans.length = fields.length) (among : part ∈ fields) :
    ∃ plan, (plan, part) ∈ plans.zip fields := by
  rw [← List.map_snd_zip (Nat.le_of_eq complete.symm)] at among
  obtain ⟨⟨plan, _⟩, paired, rfl⟩ := List.mem_map.mp among
  exact ⟨plan, paired⟩

/-- **A value of a type that is free of required fields has none unset.** -/
theorem allSet_of_free (content : Content) : ∀ {many : Bool} {type : FieldType},
    unit.Free type → Fits unit many type content → AllSet unit content := by
  induction content using Content.inductionOnParts with
  | unset => exact fun _ _ => allSet_unset
  | plain => exact fun _ _ => allSet_plain
  | message file node fields inside =>
    intro many type free fits
    cases fits with
    | message named _ _ planned complete _ fits =>
      have leads : unit.leadsToRequired node = false := by
        rcases named with rfl | rfl
        · exact free
        · exact free
      refine (allSet_message planned).mpr ⟨fun pair among required => ?_, fun part among => ?_⟩
      · have unchecked := (unchecked_of_mem_fieldPlans leads planned (List.of_mem_zip among).1).1
        have emitted : pair.1.code.required?.isSome = true := by
          show pair.1.required?.isSome = true
          simp [FieldPlan.required?, ResolvedField.isRequired, required]
        rw [unchecked] at emitted
        cases emitted
      · obtain ⟨plan, paired⟩ := exists_plan_of_mem complete among
        have unchecked := (unchecked_of_mem_fieldPlans leads planned (List.of_mem_zip paired).1).2
        have freePart := free_of_mem_fieldPlans planned (List.of_mem_zip paired).1 unchecked
        cases fits _ paired with
        | unset => exact allSet_unset
        | set fitsPart => exact inside part among freePart fitsPart
  | many elements inside =>
    intro many type free fits
    refine allSet_many.mpr fun element among => ?_
    cases fits with
    | @map entry keyType valueType _ fits =>
      have freeValue : unit.Free valueType := free
      exact inside element among freeValue (fits element among)
    | many fits => exact inside element among free (fits element among)

/-- **What a field without a check of its values can hold has no required field unset.** -/
theorem allSet_of_unchecked (planned : (fieldPlans unit file node).result = .ok plans)
    (among : plan ∈ plans) (unchecked : plan.code.initialized? = none) (fits : FitsSlot unit plan content) :
    AllSet unit content := by
  cases fits with
  | unset => exact allSet_unset
  | set fits => exact allSet_of_free content (free_of_mem_fieldPlans planned among unchecked) fits

end Pruning

/-! ### The variables of a message -/

section Emission

variable {unit : CompilationUnit} {file : FileNode} {node : MessageNode} {plans : List FieldPlan}
  {plan : FieldPlan} {content : Content} {fields : List Content}

theorem StructDecl.readable_ofPlans (planned : (fieldPlans unit file node).result = .ok plans) :
    (StructDecl.ofPlans unit file node plans).Readable := by
  refine ⟨unit.options.access.isAccess_typeModifier, fun field among => ?_,
    fun nested among => StructDecl.readable_of_enums among, fun nested among => absurd among List.not_mem_nil⟩
  obtain ⟨plan, isPlan, rfl⟩ := List.mem_map.mp among
  exact FieldCode.readable_of_planned planned isPlan

theorem heap_of_mem_fieldPlans (planned : (fieldPlans unit file node).result = .ok plans) (among : plan ∈ plans) :
    plan.heap = node.schema.keepsFieldsOnHeap := by
  obtain ⟨_, _, _, _, _, decisions⟩ := planned_of_mem_fieldPlans planned among
  exact decisions.heap_eq

/-- What is known of the variable of a field. -/
def FieldPlan.held (unit : CompilationUnit) (plan : FieldPlan) (content : Content) : HeldVariable :=
  ⟨(plan.slot .own).text, plan.field.slotType.isOptional, content, isInitialized? unit content⟩

/-- **A struct with the planned fields declares their variables.** -/
theorem declares_of_fields {decl : StructDecl} (planned : (fieldPlans unit file node).result = .ok plans)
    (codes : decl.fields = plans.map FieldPlan.code) (heap : decl.heap = node.schema.keepsFieldsOnHeap) :
    ∀ field ∈ decl.fields, ∀ own ∈ field.storedVariables, decl.declares own = true := by
  intro field isField own isOwn
  refine StructDecl.declares_of_mem isField isOwn fun stored => ?_
  rw [codes] at isField
  obtain ⟨plan, isPlan, rfl⟩ := List.mem_map.mp isField
  obtain ⟨property, isProperty⟩ := Option.isSome_iff_exists.mp stored
  exact heap.trans ((heap_of_mem_fieldPlans planned isPlan).symm.trans (FieldPlan.inline_of_stored? isProperty))

/-- A struct that declares the variables of its fields has them all. -/
theorem StructDecl.heldVariables_eq {decl : StructDecl}
    (declared : ∀ field ∈ decl.fields, ∀ own ∈ field.storedVariables, decl.declares own = true)
    (contents : List (Content × Option Bool)) :
    decl.heldVariables contents = (decl.fields.zip contents).flatMap fun field => field.1.storedVariables.map fun own =>
      ⟨ownerOf decl.heap ++ own.name, own.type.isOptional, field.2.1, field.2.2⟩ := by
  refine List.flatMap_congr fun field among => ?_
  rw [List.filter_eq_self.mpr (declared field.1 (List.of_mem_zip among).1)]

/-- **The variables of a message** are those of its fields. -/
theorem heldVariables_ofPlans (planned : (fieldPlans unit file node).result = .ok plans) (fields : List Content) :
    (StructDecl.ofPlans unit file node plans).heldVariables (withAnswers unit fields)
      = (plans.zip fields).map fun pair => pair.1.held unit pair.2 := by
  have codes : (StructDecl.ofPlans unit file node plans).fields = plans.map FieldPlan.code := rfl
  rw [StructDecl.heldVariables_eq (declares_of_fields planned rfl rfl), codes, withAnswers_eq, List.zip_map,
    List.flatMap_map, List.map_eq_flatMap]
  refine List.flatMap_congr fun pair among => ?_
  obtain ⟨modifier, only⟩ := pair.1.storedVariables_eq
  have heap : pair.1.heap = (StructDecl.ofPlans unit file node plans).heap :=
    heap_of_mem_fieldPlans planned (List.of_mem_zip among).1
  simp only [Prod.map, only, List.map_cons, List.map_nil, FieldPlan.held, FieldPlan.slot_own_text, heap]

/-- **The variable of a field is found by its expression**, also if fields share it. -/
theorem find?_heldVariables (planned : (fieldPlans unit file node).result = .ok plans)
    (agree : AgreeOnVariables plans fields) (among : (plan, content) ∈ plans.zip fields) :
    ((StructDecl.ofPlans unit file node plans).heldVariables (withAnswers unit fields)).find?
      (·.expression = (plan.slot .own).text) = some (plan.held unit content) := by
  have own : plan.held unit content ∈ (plans.zip fields).map fun pair => pair.1.held unit pair.2 :=
    List.mem_map.mpr ⟨_, among, rfl⟩
  rw [heldVariables_ofPlans planned]
  cases found : ((plans.zip fields).map fun pair => pair.1.held unit pair.2).find?
      (·.expression = (plan.slot .own).text) with
  | none => exact absurd (decide_eq_true rfl) (List.find?_eq_none.mp found _ own)
  | some other =>
    obtain ⟨pair, isPair, rfl⟩ := List.mem_map.mp (List.mem_of_find?_eq_some found)
    have named := List.find?_some found
    have same : (pair.1.slot .own).text = (plan.slot .own).text := of_decide_eq_true named
    have heap : pair.1.heap = plan.heap := (heap_of_mem_fieldPlans planned (List.of_mem_zip isPair).1).trans
      (heap_of_mem_fieldPlans planned (List.of_mem_zip among).1).symm
    have shared : pair.1.variableName = plan.variableName := by
      rwa [FieldPlan.slot_own_text, FieldPlan.slot_own_text, heap, String.append_right_inj] at same
    obtain ⟨type, holds⟩ := agree pair isPair _ among shared
    unfold FieldPlan.held
    rw [same, type, holds]

/-! ### What the lines of the checks do -/

/-- The variable of a field that tracks presence can be `nil`. -/
theorem isOptional_of_tracked (tracked : plan.field.tracksPresence = true) : plan.field.slotType.isOptional = true := by
  have type : plan.field.slotType = .optional plan.field.elementType := by
    simp [ResolvedField.slotType, ResolvedField.single_of_tracked tracked, tracked]
  rw [type]
  rfl

theorem startsPlainly_slot (plan : FieldPlan) : StartsPlainly (plan.slot .own).text := by
  rw [FieldPlan.slot_own_text]
  exact startsPlainly_ownerOf _ _

/-- A required field is of the second era, so its variable can be `nil`. -/
theorem tracked_of_required (sensible : unit.symbols.Sensible) (supplied : file ∈ unit.symbols.files)
    (declared : node ∈ file.allMessages) (planned : (fieldPlans unit file node).result = .ok plans)
    (among : plan ∈ plans) (required : plan.field.schema.label = .required) : plan.field.tracksPresence = true := by
  obtain ⟨field, fieldAmong, _, names, comments, decided⟩ := planned_of_mem_fieldPlans planned among
  obtain ⟨schemaEq, eraEq, _⟩ := decided.resolved
  have second : plan.field.era = .proto2 := by
    rw [eraEq]
    exact sensible.required_second file supplied node declared field fieldAmong (schemaEq ▸ required)
  simp [ResolvedField.tracksPresence, ResolvedField.isRepeated, required, second]

/-- Behind a field whose values are checked there is a message, so a single one can be `nil`. -/
theorem tracked_of_checked (planned : (fieldPlans unit file node).result = .ok plans)
    (among : plan ∈ plans) (checked : plan.checksValues = true) (single : plan.field.isRepeated = false) :
    plan.field.tracksPresence = true := by
  obtain ⟨field, _, _, names, comments, decided⟩ := planned_of_mem_fieldPlans planned among
  obtain ⟨schemaEq, _, resolves⟩ := decided.resolved
  rw [decided.checksValues_eq] at checked
  obtain ⟨target, behind, _⟩ := (Option.any_eq_true _ _).mp checked
  obtain ⟨refers, _⟩ := resolves.declared_of_message? behind
  rw [← schemaEq] at refers
  exact ResolvedField.tracked_of_message single refers

theorem required?_eq_some_iff {check : RequiredCheck} : plan.code.required? = some check
    ↔ plan.field.schema.label = .required ∧ check = ⟨plan.slot .own⟩ := by
  show plan.required? = some check ↔ _
  unfold FieldPlan.required? ResolvedField.isRequired
  by_cases required : plan.field.schema.label = .required <;> simp [required, eq_comm]

/-- **The check that a field is set finds it unset.** -/
theorem stepOn?_required {state : List HeldVariable} (tracked : plan.field.tracksPresence = true)
    (found : state.find? (·.expression = (plan.slot .own).text) = some (plan.held unit content)) :
    stepOn? state (RequiredCheck.line ⟨plan.slot .own⟩) = some (if content.isUnset then some false else none) := by
  have optional : (plan.held unit content).optional = true := isOptional_of_tracked tracked
  unfold stepOn?
  rw [CheckStatement.read?_required ⟨plan.slot .own⟩ (startsPlainly_slot plan), Option.bind_some]
  simp only [CheckStatement.step?]
  rw [found, Option.map_some, optional, Bool.true_and]
  rfl

/-- **The check of the message in a field** says what the message says of itself. -/
theorem stepOn?_message {state : List HeldVariable} (tracked : plan.field.tracksPresence = true)
    {inner : FileNode} {target : MessageNode} {parts : List Content} {answer : Bool}
    (found : state.find? (·.expression = (plan.slot .own).text) = some (plan.held unit (.message inner target parts)))
    (given : isInitialized? unit (.message inner target parts) = some answer) :
    stepOn? state (ValueCheck.line ⟨plan.slot .own, false⟩) = some (if answer then none else some false) := by
  have optional : (plan.held unit (.message inner target parts)).optional = true := isOptional_of_tracked tracked
  have own : (plan.held unit (.message inner target parts)).answer? = some answer := given
  have holds : (plan.held unit (.message inner target parts)).content = .message inner target parts := rfl
  unfold stepOn?
  rw [CheckStatement.read?_values, if_neg Bool.false_ne_true, Option.bind_some]
  simp only [CheckStatement.step?]
  rw [found, Option.bind_some]
  simp only [optional, holds, own]
  rfl

theorem stepOn?_unset {state : List HeldVariable} (tracked : plan.field.tracksPresence = true)
    (found : state.find? (·.expression = (plan.slot .own).text) = some (plan.held unit .unset)) :
    stepOn? state (ValueCheck.line ⟨plan.slot .own, false⟩) = some none := by
  have optional : (plan.held unit .unset).optional = true := isOptional_of_tracked tracked
  have holds : (plan.held unit .unset).content = .unset := rfl
  unfold stepOn?
  rw [CheckStatement.read?_values, if_neg Bool.false_ne_true, Option.bind_some]
  simp only [CheckStatement.step?]
  rw [found, Option.bind_some]
  simp only [optional, holds]

/-- **The check of the messages in a field** says what they say of themselves. -/
theorem stepOn?_many {state : List HeldVariable} {elements : List Content} {answer : Bool}
    (found : state.find? (·.expression = (plan.slot .own).text) = some (plan.held unit (.many elements)))
    (given : isInitialized? unit (.many elements) = some answer) :
    stepOn? state (ValueCheck.line ⟨plan.slot .own, true⟩) = some (if answer then none else some false) := by
  have own : (plan.held unit (.many elements)).answer? = some answer := given
  have holds : (plan.held unit (.many elements)).content = .many elements := rfl
  unfold stepOn?
  rw [CheckStatement.read?_values, if_pos rfl, Option.bind_some]
  simp only [CheckStatement.step?]
  rw [found, Option.bind_some]
  simp only [holds, own]
  rfl

/-- A field whose values are checked holds a message if it is not repeated, and many values if it is. -/
theorem shape_of_fits (sensible : unit.symbols.Sensible) (supplied : file ∈ unit.symbols.files)
    (declared : node ∈ file.allMessages) (planned : (fieldPlans unit file node).result = .ok plans)
    (among : plan ∈ plans) (checked : plan.checksValues = true)
    (fits : Fits unit (plan.field.isRepeated && !plan.field.isMap) plan.field.type content) :
    plan.field.isRepeated = false ∧ (∃ inner target parts, content = .message inner target parts)
      ∨ plan.field.isRepeated = true ∧ ∃ elements, content = .many elements := by
  obtain ⟨field, fieldAmong, _, names, comments, decided⟩ := planned_of_mem_fieldPlans planned among
  have mapRepeated := decided.resolved.repeated_of_isMap
    (sensible.map_repeated file supplied node declared field fieldAmong)
  rw [decided.checksValues_eq] at checked
  generalize counted : (plan.field.isRepeated && !plan.field.isMap) = several at fits
  generalize typed : plan.field.type = type at fits
  cases fits with
  | scalar | enumeration =>
    rw [typed] at checked
    cases checked
  | message named =>
    have noMap : plan.field.isMap = false := by
      unfold ResolvedField.isMap
      rcases named with same | same <;> rw [typed, same]
    have single : plan.field.isRepeated = false := by simpa [noMap] using counted
    exact .inl ⟨single, _, _, _, rfl⟩
  | map =>
    have isMap : plan.field.isMap = true := by
      unfold ResolvedField.isMap
      rw [typed]
    exact .inr ⟨mapRepeated isMap, _, rfl⟩
  | many =>
    simp only [Bool.and_eq_true] at counted
    exact .inr ⟨counted.1, _, rfl⟩

/-- A line that says one thing or the other can be run. -/
theorem tests_of_step {state : List HeldVariable} {line : String} {answer : Bool}
    (step : stepOn? state line = some (if answer then none else some false)) :
    Tests state line ∧ (stepOn? state line = some none ↔ answer = true) := by
  cases answer with
  | false => exact ⟨.inr step, by rw [step]; simp⟩
  | true => exact ⟨.inl step, by rw [step]; simp⟩

/-- **The check of the values of a field** can be run, and says whether everything in them is set. -/
theorem tests_values (sensible : unit.symbols.Sensible) (supplied : file ∈ unit.symbols.files)
    (declared : node ∈ file.allMessages) (planned : (fieldPlans unit file node).result = .ok plans)
    (among : plan ∈ plans) (fits : FitsSlot unit plan content) {state : List HeldVariable}
    (found : state.find? (·.expression = (plan.slot .own).text) = some (plan.held unit content))
    (inside : Fits unit (plan.field.isRepeated && !plan.field.isMap) plan.field.type content →
      ∃ answer, isInitialized? unit content = some answer ∧ (answer = true ↔ AllSet unit content))
    {check : ValueCheck} (emitted : plan.code.initialized? = some check) :
    Tests state check.line ∧ (stepOn? state check.line = some none ↔ AllSet unit content) := by
  obtain ⟨checked, rfl⟩ := initialized?_eq_some_iff.mp emitted
  cases fits with
  | unset single =>
    have step := stepOn?_unset (tracked_of_checked planned among checked single) found
    rw [single]
    exact ⟨.inl step, iff_of_true step allSet_unset⟩
  | set fits =>
    obtain ⟨answer, given, right⟩ := inside fits
    rw [← right]
    rcases shape_of_fits sensible supplied declared planned among checked fits with
      ⟨single, inner, target, parts, rfl⟩ | ⟨several, elements, rfl⟩
    · rw [single]
      exact tests_of_step (stepOn?_message (tracked_of_checked planned among checked single) found given)
    · rw [several]
      exact tests_of_step (stepOn?_many found given)

/-- **The check that a field is set** can be run, and says whether it is. -/
theorem tests_required (sensible : unit.symbols.Sensible) (supplied : file ∈ unit.symbols.files)
    (declared : node ∈ file.allMessages) (planned : (fieldPlans unit file node).result = .ok plans)
    (among : plan ∈ plans) {state : List HeldVariable}
    (found : state.find? (·.expression = (plan.slot .own).text) = some (plan.held unit content))
    {check : RequiredCheck} (emitted : plan.code.required? = some check) :
    Tests state check.line ∧ (stepOn? state check.line = some none ↔ content ≠ .unset) := by
  obtain ⟨required, rfl⟩ := required?_eq_some_iff.mp emitted
  have step := stepOn?_required (tracked_of_required sensible supplied declared planned among required) found
  cases content with
  | unset => exact ⟨.inr step, by rw [step]; simp [Content.isUnset]⟩
  | plain | message | many => exact ⟨.inl step, iff_of_true step (by simp)⟩

/-- The lines of the checks are those of the planned fields. -/
theorem mem_checkLines {line : String} : line ∈ (StructDecl.ofPlans unit file node plans).checkLines
    ↔ ∃ plan ∈ plans, (∃ check, plan.code.required? = some check ∧ check.line = line)
      ∨ ∃ check, plan.code.initialized? = some check ∧ check.line = line := by
  have codes : (StructDecl.ofPlans unit file node plans).fields = plans.map FieldPlan.code := rfl
  unfold StructDecl.checkLines
  rw [codes, List.flatMap_map, List.flatMap_map, List.mem_append, List.mem_flatMap, List.mem_flatMap, ← exists_or]
  simp only [Option.mem_toList, Option.map_eq_some_iff, ← and_or_left]

end Emission

/-! ### The checks are right -/

section Initialization

variable {unit : CompilationUnit} {file : FileNode} {node : MessageNode} {plans : List FieldPlan}

theorem exists_content_of_mem {plan : FieldPlan} {fields : List Content} (complete : plans.length = fields.length)
    (among : plan ∈ plans) : ∃ content, (plan, content) ∈ plans.zip fields := by
  rw [← List.map_fst_zip (Nat.le_of_eq complete)] at among
  obtain ⟨⟨_, content⟩, paired, rfl⟩ := List.mem_map.mp among
  exact ⟨content, paired⟩

/-- **The lines of the property say of a message what is true of it**, if its messages do. -/
theorem runLines?_message (sensible : unit.symbols.Sensible) {fields : List Content}
    (supplied : file ∈ unit.symbols.files) (declared : node ∈ file.allMessages)
    (planned : (fieldPlans unit file node).result = .ok plans) (complete : plans.length = fields.length)
    (agree : AgreeOnVariables plans fields) (fits : ∀ pair ∈ plans.zip fields, FitsSlot unit pair.1 pair.2)
    (inside : ∀ part ∈ fields, ∀ {many : Bool} {type : FieldType}, Fits unit many type part →
      ∃ answer, isInitialized? unit part = some answer ∧ (answer = true ↔ AllSet unit part)) :
    ∃ answer, runLines? ((StructDecl.ofPlans unit file node plans).heldVariables (withAnswers unit fields))
        ((StructDecl.ofPlans unit file node plans).checkLines ++ ["return true\n"]) = some answer
      ∧ (answer = true ↔ AllSet unit (.message file node fields)) := by
  let state := (StructDecl.ofPlans unit file node plans).heldVariables (withAnswers unit fields)
  have required : ∀ pair ∈ plans.zip fields, ∀ check, pair.1.code.required? = some check →
      Tests state check.line ∧ (stepOn? state check.line = some none ↔ pair.2 ≠ .unset) :=
    fun pair among check emitted => tests_required sensible supplied declared planned (List.of_mem_zip among).1
      (find?_heldVariables planned agree among) emitted
  have values : ∀ pair ∈ plans.zip fields, ∀ check, pair.1.code.initialized? = some check →
      Tests state check.line ∧ (stepOn? state check.line = some none ↔ AllSet unit pair.2) :=
    fun pair among check emitted => tests_values sensible supplied declared planned (List.of_mem_zip among).1
      (fits pair among) (find?_heldVariables planned agree among)
      (fun fitsPart => inside pair.2 (List.of_mem_zip among).2 fitsPart) emitted
  have tests : ∀ line ∈ (StructDecl.ofPlans unit file node plans).checkLines, Tests state line := by
    intro line isLine
    obtain ⟨plan, among, isCheck⟩ := mem_checkLines.mp isLine
    obtain ⟨content, paired⟩ := exists_content_of_mem complete among
    rcases isCheck with ⟨check, emitted, rfl⟩ | ⟨check, emitted, rfl⟩
    · exact (required _ paired check emitted).1
    · exact (values _ paired check emitted).1
  obtain ⟨answer, given, right⟩ := runLines?_checks tests
  refine ⟨answer, given, right.trans ?_⟩
  rw [allSet_message planned]
  constructor
  · intro passes
    refine ⟨fun pair among isRequired => ?_, fun part among => ?_⟩
    · have emitted : pair.1.code.required? = some ⟨pair.1.slot .own⟩ := required?_eq_some_iff.mpr ⟨isRequired, rfl⟩
      exact (required pair among _ emitted).2.mp
        (passes _ (mem_checkLines.mpr ⟨pair.1, (List.of_mem_zip among).1, .inl ⟨_, emitted, rfl⟩⟩))
    · obtain ⟨plan, paired⟩ := exists_plan_of_mem complete among
      have isPlan := (List.of_mem_zip paired).1
      cases emitted : plan.code.initialized? with
      | none => exact allSet_of_unchecked planned isPlan emitted (fits _ paired)
      | some check =>
        exact (values _ paired check emitted).2.mp
          (passes _ (mem_checkLines.mpr ⟨plan, isPlan, .inr ⟨check, emitted, rfl⟩⟩))
  · rintro ⟨here, below⟩ line isLine
    obtain ⟨plan, among, isCheck⟩ := mem_checkLines.mp isLine
    obtain ⟨content, paired⟩ := exists_content_of_mem complete among
    rcases isCheck with ⟨check, emitted, rfl⟩ | ⟨check, emitted, rfl⟩
    · exact (required _ paired check emitted).2.mpr (here _ paired (required?_eq_some_iff.mp emitted).1)
    · exact (values _ paired check emitted).2.mpr (below _ (List.of_mem_zip paired).2)

/-- **The generated properties say of a value what is true of it**, by induction on its parts. -/
theorem exists_isInitialized? (sensible : unit.symbols.Sensible) (content : Content) :
    ∀ {many : Bool} {type : FieldType}, Fits unit many type content →
      ∃ answer, isInitialized? unit content = some answer ∧ (answer = true ↔ AllSet unit content) := by
  induction content using Content.inductionOnParts with
  | unset => exact fun _ => ⟨true, rfl, iff_of_true rfl allSet_unset⟩
  | plain => exact fun _ => ⟨true, rfl, iff_of_true rfl allSet_plain⟩
  | message file node fields inside =>
    intro many type whole
    cases whole with
    | @message _ _ _ plans _ named supplied declared planned complete agree fits =>
      have body := StructDecl.checksBody?_eq (StructDecl.readable_ofPlans planned)
      rw [isInitialized?_message planned]
      simp only [body]
      cases leads : (StructDecl.ofPlans unit file node plans).checksRequired with
      | false =>
        have free : unit.Free type := by
          rcases named with rfl | rfl
          · exact leads
          · exact leads
        exact ⟨true, rfl, iff_of_true rfl
          (allSet_of_free _ free (.message named supplied declared planned complete agree fits))⟩
      | true =>
        simp only [if_true, StructDecl.answerOf?_bodyLines]
        exact runLines?_message sensible supplied declared planned complete agree fits inside
  | many elements inside =>
    intro many type whole
    rw [allSet_many]
    refine exists_allAnswer? fun element among => ?_
    cases whole with
    | map fits => exact inside element among (fits element among)
    | many fits => exact inside element among (fits element among)

/-- The struct that is generated for a message has the property and the variables of its plans, whatever is inside it. -/
theorem checks_of_ofNode {decl : StructDecl} (made : (StructDecl.ofNode unit file node).result = .ok decl) :
    ∃ plans, (fieldPlans unit file node).result = .ok plans
      ∧ decl.fields = (StructDecl.ofPlans unit file node plans).fields
      ∧ decl.heap = (StructDecl.ofPlans unit file node plans).heap
      ∧ decl.checksBody? = (StructDecl.ofPlans unit file node plans).checksBody?
      ∧ decl.heldVariables = (StructDecl.ofPlans unit file node plans).heldVariables := by
  have readable := StructDecl.readable_of_ofNode made
  obtain ⟨plans, structs, planned, _, rfl⟩ := StructDecl.ofNode_eq_ok.mp made
  refine ⟨plans, planned, rfl, rfl, ?_, funext fun contents => ?_⟩
  · rw [StructDecl.checksBody?_eq readable, StructDecl.checksBody?_eq (StructDecl.readable_ofPlans planned)]
    rfl
  · rw [StructDecl.heldVariables_eq (declares_of_fields planned rfl rfl),
      StructDecl.heldVariables_eq (declares_of_fields planned rfl rfl)]
    rfl

theorem code_getD_eq_nil_iff {check? : Option ValueCheck} : (check?.map ValueCheck.code).getD [] = [] ↔ check? = none := by
  cases check? with
  | none => exact iff_of_true rfl rfl
  | some check =>
    refine iff_of_false (fun none => ?_) (Option.some_ne_none check)
    have written : check.code = [] := none
    unfold ValueCheck.code at written
    split at written <;> cases written

/-- **The generated checks say exactly of the values in which every required field is set that they are
initialized.** The property and the variables that it looks at are read in the code of the struct, and the property is
there if the message leads to a required field. Its lines give an answer for every value of the message, and the answer
is right. A message without the property has no check to leave out, and what a field without a check of its values can
hold has nothing to check. -/
theorem isInitialized_iff_allSet (sensible : unit.symbols.Sensible) (file : FileNode) (node : MessageNode) :
    (∀ decl, (StructDecl.ofNode unit file node).result = .ok decl → ∃ plans,
        (fieldPlans unit file node).result = .ok plans
          ∧ decl.fields = (StructDecl.ofPlans unit file node plans).fields
          ∧ decl.heap = (StructDecl.ofPlans unit file node plans).heap
          ∧ decl.checksBody? = (StructDecl.ofPlans unit file node plans).checksBody?
          ∧ decl.heldVariables = (StructDecl.ofPlans unit file node plans).heldVariables)
      ∧ (∀ plans, (fieldPlans unit file node).result = .ok plans →
        ((StructDecl.ofPlans unit file node plans).checksBody? = none ↔ unit.leadsToRequired node = false))
      ∧ (∀ value, Fits unit false (.message node) value →
        ∃ answer, isInitialized? unit value = some answer ∧ (answer = true ↔ AllSet unit value))
      ∧ ∀ plans, (fieldPlans unit file node).result = .ok plans → ∀ plan ∈ plans,
        (unit.leadsToRequired node = false → (plan.code.required?.map RequiredCheck.code).getD [] = []
          ∧ (plan.code.initialized?.map ValueCheck.code).getD [] = [])
        ∧ ((plan.code.initialized?.map ValueCheck.code).getD [] = [] →
          ∀ content, FitsSlot unit plan content → AllSet unit content) := by
  refine ⟨fun decl made => checks_of_ofNode made, fun plans planned => ?_,
    fun value fits => exists_isInitialized? sensible value fits, fun plans planned plan among => ⟨?_, ?_⟩⟩
  · have checks : (StructDecl.ofPlans unit file node plans).checksRequired = unit.leadsToRequired node := rfl
    rw [StructDecl.checksBody?_eq (StructDecl.readable_ofPlans planned), checks]
    cases unit.leadsToRequired node <;> simp
  · intro free
    obtain ⟨noRequired, noValues⟩ := unchecked_of_mem_fieldPlans free planned among
    rw [noRequired, noValues]
    exact ⟨rfl, rfl⟩
  · intro unchecked content fits
    exact allSet_of_unchecked planned among (code_getD_eq_nil_iff.mp unchecked) fits

end Initialization

/-! ### A ledger with an account -/

def ledgerFileNode : FileNode :=
  FileNode.declare .proto2 ledgerFile

/-- The plan for the map of a ledger. -/
def accountsPlan : FieldPlan :=
  .ofDecisions ledgerUnit (.ofField "accounts") "" false
    ⟨accountsSchema, .proto2, .map accountsEntryNode (.scalar .string) (.message accountNode)⟩ none

/-- The plan for the balance of an account. -/
def balancePlan : FieldPlan :=
  .ofDecisions ledgerUnit (.ofField "balance") "" false ⟨balanceSchema, .proto2, .scalar .int64⟩ none

theorem allMessages_ledgerFileNode :
    ledgerFileNode.allMessages = [ledgerNode, accountsEntryNode, accountNode] :=
  rfl

theorem fieldPlans_ledgerNode :
    (fieldPlans ledgerUnit ledgerFileNode ledgerNode).result = .ok [accountsPlan] :=
  fieldPlans_of_kept rfl (accountsSchema_make .proto2 (.ofField "accounts") "" false)

theorem fieldPlans_accountNode :
    (fieldPlans ledgerUnit ledgerFileNode accountNode).result = .ok [balancePlan] :=
  fieldPlans_of_kept rfl (balanceSchema_make .proto2 (.ofField "balance") "" false)

theorem ledgerUnit_sensible : ledgerUnit.symbols.Sensible := by
  have repeated : (ledgerUnit.symbols.messages.all fun node => node.fields.all fun field =>
      (ledgerUnit.symbols.entryOf? field).isNone || field.label = .repeated) = true := by
    decide
  refine ⟨fun file supplied _ _ _ _ _ => ?_, fun file supplied node declared field among entry found => ?_⟩
  · obtain rfl := List.mem_singleton.mp supplied
    rfl
  · have registered : node ∈ ledgerUnit.symbols.messages :=
      List.mem_flatMap.mpr ⟨file, supplied, declared⟩
    have checked := List.all_eq_true.mp (List.all_eq_true.mp repeated node registered) field among
    simpa [found] using checked

/-- A ledger with one account. -/
def ledgerWith (balance : Content) : Content :=
  .message ledgerFileNode ledgerNode [.many [.message ledgerFileNode accountNode [balance]]]

theorem fits_ledgerWith {balance : Content} (fits : FitsSlot ledgerUnit balancePlan balance) :
    Fits ledgerUnit false (.message ledgerNode) (ledgerWith balance) := by
  have supplied : ledgerFileNode ∈ ledgerUnit.symbols.files := List.mem_singleton.mpr rfl
  have account : Fits ledgerUnit false (.message accountNode)
      (.message ledgerFileNode accountNode [balance]) := by
    have declared : accountNode ∈ ledgerFileNode.allMessages := by simp [allMessages_ledgerFileNode]
    refine .message (.inl rfl) supplied declared fieldPlans_accountNode rfl
      (agreeOnVariables_of_nodup (List.nodup_singleton _)) fun pair among => ?_
    obtain rfl := List.mem_singleton.mp among
    exact fits
  have declared : ledgerNode ∈ ledgerFileNode.allMessages := by simp [allMessages_ledgerFileNode]
  refine .message (.inl rfl) supplied declared fieldPlans_ledgerNode rfl
    (agreeOnVariables_of_nodup (List.nodup_singleton _)) fun pair among => ?_
  obtain rfl := List.mem_singleton.mp among
  refine .set (.map fun element member => ?_)
  obtain rfl := List.mem_singleton.mp member
  exact account

/-- The checks find the unset balance of an account in a ledger, and find nothing once it is set. -/
theorem isInitialized_iff_allSet_ledger : ledgerUnit.symbols.Sensible
    ∧ Fits ledgerUnit false (.message ledgerNode) (ledgerWith .unset)
    ∧ Fits ledgerUnit false (.message ledgerNode) (ledgerWith .plain)
    ∧ isInitialized? ledgerUnit (ledgerWith .unset) = some false
    ∧ isInitialized? ledgerUnit (ledgerWith .plain) = some true := by
  have checks := (isInitialized_iff_allSet ledgerUnit_sensible ledgerFileNode ledgerNode).2.2.1
  have unsetFits := fits_ledgerWith (.unset rfl)
  have setFits := fits_ledgerWith (.set (.scalar .int64))
  refine ⟨ledgerUnit_sensible, unsetFits, setFits, ?_, ?_⟩
  · obtain ⟨answer, given, right⟩ := checks _ unsetFits
    have inside : Content.Inside (.message ledgerFileNode accountNode [.unset]) (ledgerWith .unset) :=
      .field List.mem_cons_self (.element List.mem_cons_self .here)
    cases answer with
    | false => exact given
    | true =>
      have all := right.mp rfl
      exact absurd rfl (all _ _ _ inside _ fieldPlans_accountNode (balancePlan, .unset) List.mem_cons_self rfl)
  · obtain ⟨answer, given, right⟩ := checks _ setFits
    have all : AllSet ledgerUnit (ledgerWith .plain) := by
      refine (allSet_message fieldPlans_ledgerNode).mpr ⟨?_, ?_⟩
      · intro pair among
        obtain rfl := List.mem_singleton.mp among
        exact fun _ same => by cases same
      · intro part among
        obtain rfl := List.mem_singleton.mp among
        refine allSet_many.mpr fun element member => ?_
        obtain rfl := List.mem_singleton.mp member
        refine (allSet_message fieldPlans_accountNode).mpr ⟨?_, ?_⟩
        · intro pair among
          obtain rfl := List.mem_singleton.mp among
          exact fun _ same => by cases same
        · intro part among
          obtain rfl := List.mem_singleton.mp among
          exact allSet_plain
    rw [given, right.mpr all]

end ProtoSwift
