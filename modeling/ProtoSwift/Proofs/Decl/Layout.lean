/-
**Every kept field once in every section.**

The fields of a message that are no members of a oneof are kept. The struct of the message has the code of each of
them, in the order of the declaration, and no other. The sections of the struct write it part by part, so no
part of a field can be missing in one of them, or be there twice. The decoder and the visitor meet the fields in
the order of their numbers, and each of the fields that are not kept is warned about.

* `map_schema_of_fieldPlans` — a message has one plan for each kept field, in the order of the declaration;
* `warnings_fieldPlans`, `StructDecl.warnings_ofNode` — the fields that are not kept are warned about;
* `NumberOrder` — plans in the order of the numbers of their fields;
* `FieldPlan.Written` — what the sections write of a field;
* `StructDecl.layout_ofNode` — what the struct of a message consists of.
-/

import ProtoSwift.Proofs.Decl.Members
import ProtoSwift.Proofs.Decl.Sections
import ProtoSwift.Proofs.Field.Sites
import ProtoSwift.Proofs.Request.WellFormed
import Mathlib

namespace ProtoSwift

variable {unit : CompilationUnit} {file : FileNode} {node : MessageNode} {plans : List FieldPlan}

/-! ### One plan for each kept field -/

/-- The fields of a message that have no code: the members of a oneof. -/
def Schema.Message.skippedFields (message : Schema.Message) : List Schema.Field :=
  message.fields.filter (·.isOneofMember)

/-- The warnings about the fields of a message that have no code. -/
def MessageNode.skipWarnings (node : MessageNode) : List Warning :=
  node.schema.skippedFields.map fun field => .skippedOneofMember node.fullName field.name

theorem Member.warnings_kept (unit : CompilationUnit) (file : FileNode) (node : MessageNode) (position : Nat)
    (field : Schema.Field) (names : Swift.FieldNames) :
    (plan unit file node (.kept position field names)).warnings = [] := by
  show (Run.ofExcept _ >>= fun plan => pure (some plan)).warnings = []
  cases FieldPlan.make unit file.era names (file.commentText (node.path.field position))
    node.schema.keepsFieldsOnHeap field <;> rfl

/-- The members of a message warn about the fields that are not kept. -/
theorem flatMap_warnings_membersFrom (used : List String) (start : Nat) (fields : List Schema.Field) :
    (membersFrom used start fields).flatMap (fun member => (member.plan unit file node).warnings)
      = (fields.filter (·.isOneofMember)).map fun field => .skippedOneofMember node.fullName field.name := by
  induction fields generalizing used start with
  | nil => rfl
  | cons field rest inRest =>
    unfold membersFrom
    by_cases member : field.isOneofMember = true
    · rw [if_pos member, List.filter_cons_of_pos member, List.flatMap_cons, List.map_cons, inRest]
      rfl
    · rw [if_neg member, List.filter_cons_of_neg member, List.flatMap_cons, Member.warnings_kept, inRest]
      rfl

theorem schema_of_make {era : Era} {names : Swift.FieldNames} {comments : String} {heap : Bool}
    {field : Schema.Field} {plan : FieldPlan}
    (made : FieldPlan.make unit era names comments heap field = .ok plan) : plan.field.schema = field :=
  (FieldPlan.planned_of_make made).resolved.schema_eq

/-- The plans of the members of a message are those of the fields that are kept. -/
theorem map_schema_of_membersFrom {used : List String} {start : Nat} {fields : List Schema.Field}
    {planned : List (Option FieldPlan)}
    (done : ((membersFrom used start fields).mapM (Member.plan unit file node)).result = .ok planned) :
    (planned.filterMap id).map (·.field.schema) = fields.filter (!·.isOneofMember) := by
  induction fields generalizing used start planned with
  | nil =>
    cases done
    rfl
  | cons field rest inRest =>
    unfold membersFrom at done
    by_cases member : field.isOneofMember = true
    · rw [if_pos member] at done
      obtain ⟨first, others, firstDone, othersDone, rfl⟩ := Run.result_mapM_cons_eq_ok.mp done
      cases firstDone
      rw [List.filter_cons_of_neg (by simp [member])]
      have below := inRest othersDone
      exact below
    · rw [if_neg member] at done
      obtain ⟨first, others, firstDone, othersDone, rfl⟩ := Run.result_mapM_cons_eq_ok.mp done
      rw [Member.result_plan_kept] at firstDone
      obtain ⟨plan, planMade, rfl⟩ := map_eq_ok.mp firstDone
      rw [List.filter_cons_of_pos (by simp [member]), ← inRest othersDone, ← schema_of_make planMade]
      rfl

/-- **A message has one plan for each kept field**, in the order of the declaration. -/
theorem map_schema_of_fieldPlans (planned : (fieldPlans unit file node).result = .ok plans) :
    plans.map (·.field.schema) = node.schema.keptFields := by
  obtain ⟨all, done, rfl⟩ := fieldPlans_eq_ok.mp planned
  exact map_schema_of_membersFrom done

/-- **Each field that is not kept is warned about once**, in the order of the declaration. -/
theorem warnings_fieldPlans (planned : (fieldPlans unit file node).result = .ok plans) :
    (fieldPlans unit file node).warnings = node.skipWarnings := by
  obtain ⟨all, done, _⟩ := fieldPlans_eq_ok.mp planned
  unfold fieldPlans
  rw [Run.warnings_bind_of_ok _ _ all done, Run.warnings_mapM_of_ok done]
  show _ ++ [] = _
  rw [List.append_nil]
  exact flatMap_warnings_membersFrom [] 0 node.fields

/-! ### Warnings of a message with all that is inside it -/

mutual

/-- A message and the messages inside it that have code, each before those inside it. -/
def MessageNode.generated : MessageNode → List MessageNode
  | node@⟨_, _, _, _, messages, _⟩ => node :: generatedOf messages

/-- The messages of a list that have code, and those inside them. -/
def MessageNode.generatedOf : List MessageNode → List MessageNode
  | [] => []
  | node :: rest => if node.isMapEntry then generatedOf rest else generated node ++ generatedOf rest

end

namespace StructDecl

mutual

/-- **The fields that are not kept are warned about** once for every time that their message is generated. -/
theorem warnings_ofNode : (node : MessageNode) → ∀ decl, (ofNode unit file node).result = .ok decl →
    (ofNode unit file node).warnings = node.generated.flatMap MessageNode.skipWarnings
  | ⟨_, _, _, _, messages, _⟩, decl, made => by
    unfold ofNode at made ⊢
    rw [Run.result_bind] at made
    obtain ⟨plans, planned, made⟩ := bind_eq_ok.mp made
    rw [Run.result_bind] at made
    obtain ⟨structs, structsMade, _⟩ := bind_eq_ok.mp made
    rw [Run.warnings_bind_of_ok _ _ plans planned, Run.warnings_bind_of_ok _ _ structs structsMade,
      warnings_fieldPlans planned, warnings_ofNodes messages structs structsMade, MessageNode.generated,
      List.flatMap_cons]
    exact congrArg (_ ++ ·) (List.append_nil _)

theorem warnings_ofNodes : (nodes : List MessageNode) → ∀ decls, (ofNodes unit file nodes).result = .ok decls →
    (ofNodes unit file nodes).warnings = (MessageNode.generatedOf nodes).flatMap MessageNode.skipWarnings
  | [], _, _ => rfl
  | node :: rest, decls, made => by
    unfold ofNodes at made ⊢
    rw [MessageNode.generatedOf]
    by_cases entry : node.isMapEntry = true
    · simp only [if_pos entry] at made ⊢
      exact warnings_ofNodes rest decls made
    · simp only [if_neg entry] at made ⊢
      rw [Run.result_bind] at made
      obtain ⟨decl, declMade, made⟩ := bind_eq_ok.mp made
      rw [Run.result_bind] at made
      obtain ⟨others, othersMade, _⟩ := bind_eq_ok.mp made
      rw [Run.warnings_bind_of_ok _ _ decl declMade, Run.warnings_bind_of_ok _ _ others othersMade,
        warnings_ofNode node decl declMade, warnings_ofNodes rest others othersMade, List.flatMap_append]
      exact congrArg (_ ++ ·) (List.append_nil _)

end

end StructDecl

/-! ### The order of the numbers -/

/-- **Plans in the order of the numbers of their fields.** Fields of one number stay in the order in which they
are. If there are no such fields, no two cases of the decoder have the same label. -/
structure NumberOrder (plans byNumber : List FieldPlan) : Prop where
  perm : byNumber.Perm plans
  ascending : byNumber.Pairwise fun first second =>
    first.field.schema.number.toInt ≤ second.field.schema.number.toInt
  stable : ∀ first second, [first, second].Sublist plans →
    first.field.schema.number.toInt ≤ second.field.schema.number.toInt → [first, second].Sublist byNumber
  distinct : (plans.map (·.field.schema.number)).Nodup →
    byNumber.Pairwise (fun first second =>
        first.field.schema.number.toInt < second.field.schema.number.toInt)
      ∧ (byNumber.map fun plan => numberText plan.code.decode.number).Nodup

theorem numberText_injective : Function.Injective numberText := by
  intro first second same
  exact Int32.toInt_inj.mp (Int.repr_injective same)

/-- Plans in the order of the numbers in their code. -/
def byNumber (plans : List FieldPlan) : List FieldPlan :=
  plans.mergeSort fun first second => first.number.toInt ≤ second.number.toInt

theorem inNumberOrder_map_code (plans : List FieldPlan) :
    inNumberOrder (plans.map FieldPlan.code) = (byNumber plans).map FieldPlan.code := by
  unfold inNumberOrder byNumber
  refine (List.map_mergeSort (f := FieldPlan.code) fun first _ second _ => ?_).symm
  rfl

theorem numberOrder_byNumber (plans : List FieldPlan) : NumberOrder plans (byNumber plans) := by
  have transitive : ∀ first second third : FieldPlan,
      decide (first.number.toInt ≤ second.number.toInt) = true →
      decide (second.number.toInt ≤ third.number.toInt) = true →
      decide (first.number.toInt ≤ third.number.toInt) = true := by
    intro first second third before after
    rw [decide_eq_true_eq] at before after ⊢
    exact Int.le_trans before after
  have total : ∀ first second : FieldPlan, (decide (first.number.toInt ≤ second.number.toInt)
      || decide (second.number.toInt ≤ first.number.toInt)) = true := by
    intro first second
    rw [Bool.or_eq_true, decide_eq_true_eq, decide_eq_true_eq]
    exact Int.le_total _ _
  have perm : (byNumber plans).Perm plans := List.mergeSort_perm plans _
  have ascending : (byNumber plans).Pairwise fun first second =>
      first.field.schema.number.toInt ≤ second.field.schema.number.toInt := by
    refine (List.pairwise_mergeSort transitive total plans).imp fun {first second} ordered => ?_
    exact of_decide_eq_true ordered
  refine ⟨perm, ascending, fun first second among ordered => ?_, fun different => ?_⟩
  · exact List.pair_sublist_mergeSort transitive total (decide_eq_true ordered) among
  · have stillDifferent : ((byNumber plans).map (·.field.schema.number)).Nodup :=
      (perm.map _).nodup_iff.mpr different
    constructor
    · refine (ascending.and (List.pairwise_map.mp stillDifferent)).imp fun {first second} both => ?_
      have unequal : first.field.schema.number.toInt ≠ second.field.schema.number.toInt :=
        fun same => both.2 (Int32.toInt_inj.mp same)
      omega
    · have texts := stillDifferent.map numberText_injective
      rw [List.map_map] at texts
      exact texts

/-! ### What is written of a field -/

/-- **What the sections write of a field.** There is a property under its comments. Its variable is compared with
that of the other message, and is read by a case of the decoder and written by a statement of the visitor,
which both have the number of the field. On the heap the variable is declared, and copied from the source. -/
structure FieldPlan.Written (plan : FieldPlan) (heap : Bool) : Prop where
  accessor : ∃ rest members, plan.code.interface.code = Code.blank ++ Code.lines plan.comments
    ++ (Code.line (plan.access.modifier ++ "var " ++ plan.names.property ++ ": " ++ rest) ++ members)
  comparison : plan.code.comparison.code
    = Code.line ("if " ++ (ownerOf heap ++ plan.variableName) ++ " != "
      ++ (otherOwnerOf heap ++ plan.variableName) ++ " \x7breturn false\x7d")
  decode : ∃ method argument, plan.code.decode.code
    = Code.line ("case " ++ numberText plan.field.schema.number ++ ": try decoder." ++ method ++ "(" ++ argument
      ++ "value: &" ++ (ownerOf heap ++ plan.variableName) ++ ")")
  visit : ∃ condition method argument value,
    GuardedSlot (ownerOf heap ++ plan.variableName) condition value
      ∧ plan.code.visit.code = Code.block ("if " ++ condition ++ " \x7b")
        (Code.line ("try visitor." ++ method ++ "(" ++ argument ++ "value: " ++ value ++ ", fieldNumber: "
          ++ numberText plan.field.schema.number ++ ")"))
        "\x7d"
  storage : heap = true → ∃ type initial,
    plan.code.storage?.map SlotDeclaration.code = some (storedVariable "" plan.variableName type initial)
  clone : heap = true →
    plan.code.clone.code = Code.line (plan.variableName ++ " = " ++ ("source." ++ plan.variableName))

/-- The code of an interface starts with the comments, and goes on with the property. -/
theorem Interface.exists_code (interface : Interface) :
    ∃ rest members, interface.code = Code.blank ++ Code.lines interface.comments
      ++ (Code.line (interface.modifier ++ "var " ++ interface.name ++ ": " ++ rest) ++ members) := by
  unfold code propertyCode
  cases interface.body with
  | stored initial =>
    simp only [List.append_assoc, String.append_assoc]
    exact ⟨_, _, rfl⟩
  | computed read fallback? write =>
    simp only [Code.block, List.append_assoc, String.append_assoc]
    exact ⟨_, _, rfl⟩

/-- **Every plan has something to write in every section** that is about the fields of its message. -/
theorem FieldPlan.written (plan : FieldPlan) : plan.Written plan.heap := by
  constructor
  case accessor => exact plan.interface.exists_code
  case comparison =>
    rw [← slot_own_text, ← slot_other_text]
    rfl
  case decode =>
    rw [← slot_own_text]
    exact ⟨_, _, rfl⟩
  case visit =>
    rw [← slot_own_text]
    exact ⟨_, _, _, _, plan.guardedSlot, rfl⟩
  case storage =>
    intro heap
    refine ⟨plan.field.slotType, plan.initialValue, ?_⟩
    simp [code, storage?, variableName, heap, SlotDeclaration.code_eq]
  case clone =>
    intro heap
    simp [code, clone, SlotCopy.code, Slot.text, variableName, heap]

/-! ### Structs -/

/-- A plan for a field of a message, made with some names and comments. -/
def FieldPlan.IsMadeFor (unit : CompilationUnit) (file : FileNode) (node : MessageNode) (plan : FieldPlan) : Prop :=
  ∃ names comments,
    make unit file.era names comments node.schema.keepsFieldsOnHeap plan.field.schema = .ok plan

namespace StructDecl

theorem of_ofNode {decl : StructDecl} (made : (ofNode unit file node).result = .ok decl) :
    ∃ plans, (fieldPlans unit file node).result = .ok plans ∧ decl.fields = plans.map FieldPlan.code
      ∧ decl.heap = node.schema.keepsFieldsOnHeap := by
  obtain ⟨plans, structs, planned, _, rfl⟩ := ofNode_eq_ok.mp made
  exact ⟨plans, planned, rfl, rfl⟩

/-- **What the struct of a message consists of.** There is a plan for each field that is kept, in the order of the
declaration, and for no other field. The struct has the code of these plans, and its sections write a part of
it for each of them, nothing else in the struct depends on them. The decoder and the visitor go through them in
the order of the numbers. The other fields are warned about. -/
theorem layout_ofNode {decl : StructDecl} (made : (ofNode unit file node).result = .ok decl) :
    ∃ plans byNumber : List FieldPlan,
      plans.map (·.field.schema) = node.schema.keptFields
        ∧ (∀ plan ∈ plans, plan.IsMadeFor unit file node ∧ plan.Written decl.heap)
        ∧ decl.fields = plans.map FieldPlan.code
        ∧ LaysOut (fun fields => (decl.withFields fields).code) decl.sections
        ∧ NumberOrder plans byNumber ∧ inNumberOrder decl.fields = byNumber.map FieldPlan.code
        ∧ decl.heap = node.schema.keepsFieldsOnHeap
        ∧ (ofNode unit file node).warnings = node.generated.flatMap MessageNode.skipWarnings := by
  obtain ⟨plans, planned, fields, heap⟩ := of_ofNode made
  have madeFor : ∀ plan ∈ plans, plan.IsMadeFor unit file node ∧ plan.Written decl.heap := by
    intro plan among
    obtain ⟨field, _, _, names, comments, planMade⟩ := exists_of_mem_fieldPlans planned among
    have onHeap : plan.heap = decl.heap := (FieldPlan.planned_of_make planMade).heap_eq.trans heap.symm
    refine ⟨⟨names, comments, ?_⟩, onHeap ▸ plan.written⟩
    rw [schema_of_make planMade]
    exact planMade
  refine ⟨plans, byNumber plans, map_schema_of_fieldPlans planned, madeFor, fields, decl.laysOut_code,
    numberOrder_byNumber plans, ?_, heap, warnings_ofNode node decl made⟩
  rw [fields, inNumberOrder_map_code]

end StructDecl

/-! ### A transfer -/

/-- A message has plans if each of the fields that are kept can have one. -/
theorem exists_fieldPlans
    (each : ∀ field ∈ node.schema.keptFields, ∀ names comments, ∃ plan,
      FieldPlan.make unit file.era names comments node.schema.keepsFieldsOnHeap field = .ok plan) :
    ∃ plans, (fieldPlans unit file node).result = .ok plans := by
  have planned : ∀ member ∈ members node, ∃ plan?, (member.plan unit file node).result = .ok plan? := by
    intro member among
    cases member with
    | skipped field => exact ⟨none, rfl⟩
    | kept position field names =>
      obtain ⟨declared, kept⟩ := kept_of_mem_membersFrom among
      obtain ⟨plan, made⟩ := each field (List.mem_filter.mpr ⟨declared, by simp [kept]⟩) names
        (file.commentText (node.path.field position))
      refine ⟨some plan, ?_⟩
      rw [Member.result_plan_kept, made]
      rfl
  obtain ⟨all, done⟩ := Run.exists_result_mapM planned
  exact ⟨all.filterMap id, fieldPlans_eq_ok.mpr ⟨all, done, rfl⟩⟩

/-- The account that a transfer goes to. -/
def targetSchema : Schema.Field :=
  { name? := some "target", number? := some 3, label? := some 1, type? := some 11
    typeName? := some ".bank.Account" }

/-- A note on a transfer, which is one of several kinds of notes. -/
def noteSchema : Schema.Field :=
  { name? := some "note", number? := some 2, label? := some 1, type? := some 9, oneofIndex? := some 0 }

/-- A transfer has a target and a note, and leaves a balance. -/
def transferNode : MessageNode :=
  MessageNode.declare (.ofPackage "bank") (.file (Swift.typePrefix "bank" none)) [4, 2]
    { name? := some "Transfer", fields := [targetSchema, noteSchema, balanceSchema] }

theorem targetSchema_make (era : Era) (names : Swift.FieldNames) (comments : String) (heap : Bool) :
    FieldPlan.make ledgerUnit era names comments heap targetSchema
      = .ok (FieldPlan.ofDecisions ledgerUnit names comments heap
        ⟨targetSchema, era, .message accountNode⟩ none) := by
  have declared : ledgerUnit.symbols.message? ".bank.Account" = some accountNode := rfl
  have resolves : FieldType.Resolves ledgerUnit.symbols targetSchema (.message accountNode) :=
    .message rfl declared rfl
  have resolved := (FieldType.resolve_eq_ok_iff ledgerUnit_entriesEnd).mpr resolves
  rw [FieldPlan.make_eq, ResolvedField.resolve, resolved]
  rfl

theorem exists_ofNode_transferNode (file : FileNode) :
    ∃ decl, (StructDecl.ofNode ledgerUnit file transferNode).result = .ok decl := by
  have planned : ∃ plans, (fieldPlans ledgerUnit file transferNode).result = .ok plans := by
    refine exists_fieldPlans fun field kept names comments => ?_
    have among : field ∈ [targetSchema, balanceSchema] := kept
    rcases List.mem_cons.mp among with rfl | among
    · exact ⟨_, targetSchema_make _ _ _ _⟩
    · obtain rfl := List.mem_singleton.mp among
      exact ⟨_, balanceSchema_make _ _ _ _⟩
  obtain ⟨plans, planned⟩ := planned
  unfold transferNode MessageNode.declare at planned ⊢
  unfold StructDecl.ofNode
  rw [Run.result_bind, planned]
  exact ⟨_, rfl⟩

/-- A transfer has its target and its balance on the heap, and the note is left out with a warning. -/
theorem StructDecl.layout_ofNode_transfer :
    ∃ (decl : StructDecl) (plans : List FieldPlan),
      (ofNode ledgerUnit (.declare .proto2 ledgerFile) transferNode).result = .ok decl
      ∧ plans.map (·.field.schema) = [targetSchema, balanceSchema]
      ∧ decl.fields = plans.map FieldPlan.code ∧ decl.heap = true
      ∧ (ofNode ledgerUnit (.declare .proto2 ledgerFile) transferNode).warnings
        = [.skippedOneofMember transferNode.fullName "note"] := by
  obtain ⟨decl, made⟩ := exists_ofNode_transferNode (.declare .proto2 ledgerFile)
  obtain ⟨plans, _, kept, _, fields, _, _, _, heap, warned⟩ := layout_ofNode made
  exact ⟨decl, plans, made, kept, fields, heap, warned⟩

end ProtoSwift
