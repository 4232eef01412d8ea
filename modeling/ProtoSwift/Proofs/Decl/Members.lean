/-
**The plans of a message are the plans of its kept fields.**

* `kept_of_mem_membersFrom` — a kept member is a field of the message, and no member of a oneof;
* `Member.result_plan_kept`, `fieldPlans_eq_ok` — a message has the plans of its kept members;
* `exists_of_mem_fieldPlans`, `planned_of_mem_fieldPlans` — every plan of a message is the plan of such a
  field;
* `fieldPlans_of_kept` — a message with a single field that is kept has its plan;
* `StructDecl.ofNode_eq_ok`, `StructDecl.ofNodes_cons_eq_ok`, `SourceFile.ofNode_eq_ok` — what a struct and a file are
  made of.
-/

import ProtoSwift.Decl.SourceFile
import ProtoSwift.Proofs.Field.Planning

namespace ProtoSwift

variable {unit : CompilationUnit} {file : FileNode} {node : MessageNode} {plans : List FieldPlan}
  {plan : FieldPlan}

theorem kept_of_mem_membersFrom {used : List String} {start position : Nat} {fields : List Schema.Field}
    {field : Schema.Field} {names : Swift.FieldNames}
    (among : .kept position field names ∈ membersFrom used start fields) :
    field ∈ fields ∧ field.isOneofMember = false := by
  induction fields generalizing used start with
  | nil => exact absurd among List.not_mem_nil
  | cons first rest inRest =>
    unfold membersFrom at among
    by_cases member : first.isOneofMember = true
    · rw [if_pos member] at among
      rcases List.mem_cons.mp among with same | among
      · cases same
      · obtain ⟨fieldAmong, kept⟩ := inRest among
        exact ⟨List.mem_cons_of_mem _ fieldAmong, kept⟩
    · rw [if_neg member] at among
      rcases List.mem_cons.mp among with same | among
      · cases same
        exact ⟨List.mem_cons_self, by simpa using member⟩
      · obtain ⟨fieldAmong, kept⟩ := inRest among
        exact ⟨List.mem_cons_of_mem _ fieldAmong, kept⟩

/-- A member that is kept has the plan of its field. -/
theorem Member.result_plan_kept (unit : CompilationUnit) (file : FileNode) (node : MessageNode) (position : Nat)
    (field : Schema.Field) (names : Swift.FieldNames) :
    (Member.plan unit file node (.kept position field names)).result
      = (FieldPlan.make unit file.era names (file.commentText (node.path.field position))
        node.schema.keepsFieldsOnHeap field).map some := by
  show (Run.ofExcept _ >>= fun plan => pure (some plan)).result = _
  cases FieldPlan.make unit file.era names (file.commentText (node.path.field position))
    node.schema.keepsFieldsOnHeap field <;> rfl

/-- The plans of a message are those of its members that have one. -/
theorem fieldPlans_eq_ok : (fieldPlans unit file node).result = .ok plans
    ↔ ∃ all, ((members node).mapM (Member.plan unit file node)).result = .ok all ∧ all.filterMap id = plans := by
  unfold fieldPlans
  rw [Run.result_bind]
  constructor
  · intro planned
    obtain ⟨all, allPlanned, made⟩ := bind_eq_ok.mp planned
    cases made
    exact ⟨all, allPlanned, rfl⟩
  · rintro ⟨all, allPlanned, rfl⟩
    exact bind_eq_ok.mpr ⟨all, allPlanned, rfl⟩

/-- **Every plan of a message is the plan of one of its members** that are kept, under the comments on it. -/
theorem exists_member_of_mem_fieldPlans (planned : (fieldPlans unit file node).result = .ok plans)
    (among : plan ∈ plans) : ∃ position field names, Member.kept position field names ∈ members node
      ∧ FieldPlan.make unit file.era names (file.commentText (node.path.field position))
        node.schema.keepsFieldsOnHeap field = .ok plan := by
  obtain ⟨all, allPlanned, rfl⟩ := fieldPlans_eq_ok.mp planned
  obtain ⟨kept?, keptAmong, isSome⟩ := List.mem_filterMap.mp among
  obtain rfl : kept? = some plan := isSome
  obtain ⟨member, memberAmong, memberPlanned⟩ := Run.exists_of_mem_mapM allPlanned keptAmong
  cases member with
  | skipped field => cases memberPlanned
  | kept position field names =>
    rw [Member.result_plan_kept] at memberPlanned
    obtain ⟨other, otherMade, same⟩ := map_eq_ok.mp memberPlanned
    cases same
    exact ⟨position, field, names, memberAmong, otherMade⟩

/-- Every plan of a message is the plan of one of its fields that is no member of a oneof. -/
theorem exists_of_mem_fieldPlans (planned : (fieldPlans unit file node).result = .ok plans)
    (among : plan ∈ plans) : ∃ field ∈ node.fields, field.isOneofMember = false
      ∧ ∃ names comments,
        FieldPlan.make unit file.era names comments node.schema.keepsFieldsOnHeap field = .ok plan := by
  obtain ⟨position, field, names, isMember, made⟩ := exists_member_of_mem_fieldPlans planned among
  obtain ⟨fieldAmong, kept⟩ := kept_of_mem_membersFrom isMember
  exact ⟨field, fieldAmong, kept, names, _, made⟩

/-- The same with the decisions in the plan. -/
theorem planned_of_mem_fieldPlans (planned : (fieldPlans unit file node).result = .ok plans)
    (among : plan ∈ plans) : ∃ field ∈ node.fields, field.isOneofMember = false
      ∧ ∃ names comments,
        FieldPlan.Planned unit file.era names comments node.schema.keepsFieldsOnHeap field plan := by
  obtain ⟨field, fieldAmong, kept, names, comments, made⟩ := exists_of_mem_fieldPlans planned among
  exact ⟨field, fieldAmong, kept, names, comments, FieldPlan.planned_of_make made⟩

/-- A message with a single member that is kept has a single plan. -/
theorem fieldPlans_of_kept {position : Nat} {field : Schema.Field} {names : Swift.FieldNames}
    (only : members node = [.kept position field names])
    (made : FieldPlan.make unit file.era names (file.commentText (node.path.field position))
      node.schema.keepsFieldsOnHeap field = .ok plan) :
    (fieldPlans unit file node).result = .ok [plan] := by
  refine fieldPlans_eq_ok.mpr ⟨[some plan], ?_, rfl⟩
  rw [only]
  refine Run.result_mapM_cons_eq_ok.mpr ⟨some plan, [], ?_, rfl, rfl⟩
  rw [Member.result_plan_kept, made]
  rfl

/-! ### Structs and files -/

namespace StructDecl

/-- **What the struct of a message is made of**: the plans of its fields, and the structs of the messages inside it. -/
theorem ofNode_eq_ok {decl : StructDecl} : (ofNode unit file node).result = .ok decl ↔ ∃ plans structs,
    (fieldPlans unit file node).result = .ok plans ∧ (ofNodes unit file node.messages).result = .ok structs
      ∧ decl = {
        comments := file.commentText node.path
        modifier := unit.options.access.typeModifier
        name := Swift.nameInParent node.swiftName
        swiftName := node.swiftName
        schemaName := .of file.package node.fullName
        heap := node.schema.keepsFieldsOnHeap
        checksRequired := unit.leadsToRequired node
        fields := plans.map FieldPlan.code
        enums := node.enums.map (EnumDecl.ofNode unit.options.access file)
        structs } := by
  cases node
  simp only [ofNode, Run.result_bind_eq_ok]
  constructor
  · rintro ⟨plans, planned, structs, structsMade, made⟩
    cases made
    exact ⟨plans, structs, planned, structsMade, rfl⟩
  · rintro ⟨plans, structs, planned, structsMade, rfl⟩
    exact ⟨plans, planned, structs, structsMade, rfl⟩

theorem ofNodes_cons_of_entry {rest : List MessageNode} (entry : node.isMapEntry = true) :
    ofNodes unit file (node :: rest) = ofNodes unit file rest := by
  rw [ofNodes, if_pos entry]

/-- A message inside a message has a struct if it is no map entry, and then come those of the others. -/
theorem ofNodes_cons_eq_ok {rest : List MessageNode} {decls : List StructDecl} (other : ¬ node.isMapEntry = true) :
    (ofNodes unit file (node :: rest)).result = .ok decls ↔ ∃ decl others,
      (ofNode unit file node).result = .ok decl ∧ (ofNodes unit file rest).result = .ok others
        ∧ decls = decl :: others := by
  simp only [ofNodes, if_neg other, Run.result_bind_eq_ok]
  constructor
  · rintro ⟨decl, declMade, others, othersMade, made⟩
    cases made
    exact ⟨decl, others, declMade, othersMade, rfl⟩
  · rintro ⟨decl, others, declMade, othersMade, rfl⟩
    exact ⟨decl, declMade, others, othersMade, rfl⟩

end StructDecl

/-- **What the code of a file is made of**: the structs of its messages. -/
theorem SourceFile.ofNode_eq_ok {source : SourceFile} : (ofNode unit file).result = .ok source ↔ ∃ structs,
    (file.messages.mapM (StructDecl.ofNode unit file)).result = .ok structs
      ∧ source = {
        source := file.name
        package := file.package
        structs
        enums := file.enums.map (EnumDecl.ofNode unit.options.access file) } := by
  simp only [ofNode, Run.result_bind_eq_ok]
  refine exists_congr fun structs => and_congr_right fun _ => ?_
  constructor
  · intro made
    cases made
    rfl
  · rintro rfl
    rfl

end ProtoSwift
