/-
**Comments are on the declarations they were written on.**

The code of a file has fewer declarations than its schema, and some of them are in another order: members of oneofs,
entries of maps and repeated numbers are left out, and enumerations come before the messages beside them. Comments
are looked up by positions of the schema all the same. So each declaration has the comments of the element that it
was made from directly in front of its first line, and of no other.

* `Schema.File.headed` — the first line of a declaration under the comments on an element;
* `Schema.Enumeration.placedCases`, `Schema.Message.placedFields`, `Schema.Message.placedMessages` — what has a
  declaration, with its position in the schema;
* `EnumDecl.Documents`, `FieldCode.Documents`, `StructDecl.Documents`, `SourceFile.Documents` — code with the
  comments in their places;
* `forall₂_isMadeAt`, `StructDecl.forall₂_of_ofNodes` — what is left out does not move the positions of the rest;
* `SourceFile.documents_ofNode` — the code of a file has them there;
* `CompilationUnit.documents_of_generateFile` — so has the file that is generated.
-/

import ProtoSwift.Proofs.Decl.EnumNumbers
import ProtoSwift.Proofs.Request.Independence
import ProtoSwift.Proofs.Request.TypePaths
import ProtoSwift.Proofs.Symbol.Elements
import Mathlib

namespace ProtoSwift

open Schema Schema.Request Swift

/-! ### Declarations under comments -/

namespace Schema

/-- The first line of a declaration with the comments on an element directly before it. -/
def File.headed (file : File) (element : Element) (line : String) : Code :=
  Code.lines (file.commentOn element) ++ Code.line line

/-- Whether no value before a position has the number of the one that is there. -/
def isFirstOfNumber (values : List EnumValue) (value : EnumValue × Nat) : Bool :=
  (values.take value.2).all fun earlier => earlier.number ≠ value.1.number

/-- The values that become cases, with their positions. -/
def Enumeration.placedCases (enumeration : Enumeration) : List (EnumValue × Nat) :=
  enumeration.values.zipIdx.filter (isFirstOfNumber enumeration.values)

/-- The fields that are kept, with their positions. -/
def Message.placedFields (message : Message) : List (Field × Nat) :=
  message.fields.zipIdx.filter (!·.1.isOneofMember)

/-- The messages inside a message that become structs, with their positions. -/
def Message.placedMessages (message : Message) : List (Message × Nat) :=
  message.messages.zipIdx.filter (!·.1.isMapEntry)

end Schema

/-- **The declaration of an enumeration has the comments in their places**: its own in front of it, and those on
the values in front of their cases. -/
structure EnumDecl.Documents (decl : EnumDecl) (file : Schema.File) (types : TypeScope) (scope : List Nat)
    (position : Nat) (enumeration : Enumeration) : Prop where
  name : decl.name = nameInParent (types.typeName enumeration.name "Enum")
  code : ∃ rest, decl.code = file.headed (.enumeration scope position)
      (decl.modifier ++ "enum " ++ decl.name ++ ": SwiftProtobuf.Enum \x7b")
    ++ Code.indented (Code.line (decl.modifier ++ "typealias RawValue = Int")
      ++ enumeration.placedCases.flatMap (fun value =>
        file.headed (.enumValue scope position value.2)
          ("case " ++ caseName enumeration.name value.1.name ++ " // = " ++ numberText value.1.number))
      ++ (if decl.openEnded then Code.line "case UNRECOGNIZED(Int)" else [])
      ++ rest)
    ++ Code.line "\x7d"

/-- **The property of a field has the comments on the field directly before it.** -/
structure FieldCode.Documents (code : FieldCode) (file : Schema.File) (trail : List Nat) (field : Field)
    (position : Nat) : Prop where
  number : code.number = field.number
  name : ∃ used, code.interface.name = (freshNames used field).property
  property : ∃ type members, code.interface.code = Code.blank
    ++ file.headed (.field trail position)
      (code.interface.modifier ++ "var " ++ code.interface.name ++ ": " ++ type)
    ++ members

/-- **The struct of a message has the comments in their places**: its own in front of it, those on the fields in
front of their properties, and likewise for the enumerations and messages inside it. -/
inductive StructDecl.Documents (file : Schema.File) :
    StructDecl → TypeScope → List Nat → Message → Prop
  | intro {decl : StructDecl} {types : TypeScope} {trail : List Nat} {message : Message}
    (name : decl.name = nameInParent (types.typeName message.name "Message"))
    (code : decl.code = file.headed (.message trail) (decl.modifier ++ "struct " ++ decl.name
        ++ ": SwiftProtobuf.Message, SwiftProtobuf._MessageImplementationBase \x7b")
      ++ Code.indented (Code.line (decl.modifier ++ "static let protoMessageName: String = " ++ decl.schemaName.text)
        ++ decl.inlineSlotsCode
        ++ decl.fields.flatMap (fun field => field.interface.code)
        ++ (Code.blank ++ Code.line (decl.modifier ++ "var unknownFields = SwiftProtobuf.UnknownStorage()"))
        ++ decl.enums.flatMap (fun nested => Code.blank ++ nested.code)
        ++ decl.structs.flatMap (fun nested => Code.blank ++ nested.code)
        ++ decl.conformanceCode)
      ++ Code.line "\x7d")
    (fields : List.Forall₂ (fun field code => code.Documents file trail field.1 field.2)
      message.placedFields decl.fields)
    (enums : List.Forall₂ (fun enumeration nested =>
        nested.Documents file (.message (types.typeName message.name "Message")) trail enumeration.2 enumeration.1)
      message.enumerations.zipIdx decl.enums)
    (count : message.placedMessages.length = decl.structs.length)
    (structs : ∀ (index : Nat) (inner : Message × Nat) (nested : StructDecl),
      message.placedMessages[index]? = some inner → decl.structs[index]? = some nested →
      Documents file nested (.message (types.typeName message.name "Message")) (trail ++ [inner.2]) inner.1) :
    Documents file decl types trail message

/-- **The code of a file has the comments in their places**: it is made of the structs and the enumerations, each behind
an empty line, and of the head of the file. -/
structure SourceFile.Documents (source : SourceFile) (file : Schema.File) : Prop where
  code : source.code = headCode source.source ++ packageCode source.package
    ++ source.structs.flatMap (fun decl => Code.blank ++ decl.code)
    ++ source.enums.flatMap (fun decl => Code.blank ++ decl.code)
  structs : List.Forall₂ (fun message decl =>
      decl.Documents file (.file (typePrefix file.package file.typePrefix?)) [message.2] message.1)
    file.messages.zipIdx source.structs
  enums : List.Forall₂ (fun enumeration decl =>
      decl.Documents file (.file (typePrefix file.package file.typePrefix?)) [] enumeration.2 enumeration.1)
    file.enumerations.zipIdx source.enums

/-- What is left of a list has the positions of the list. -/
theorem declared_of_mem_filter_zipIdx {α : Type} {elements : List α} {kept : α × Nat → Bool} :
    ∀ placed ∈ elements.zipIdx.filter kept, elements[placed.2]? = some placed.1 :=
  fun _ among => List.mem_zipIdx_iff_getElem?.mp (List.mem_filter.mp among).1

/-! ### Enumerations -/

namespace EnumDecl

variable {file : FileNode} {node : EnumNode} {comments : Path → String}

/-- **The values that become cases are those that are the first with their number**, if the cases before have the
numbers of the values before. The induction is on the values that are left. -/
theorem cases_divide {seen rest : List EnumValue} {before : List EnumCase}
    (known : ∀ number, before.find? (·.number = number) = none ↔ ∀ value ∈ seen, value.number ≠ number) :
    (divide node comments before seen.length rest).1
      = before ++ ((rest.zipIdx seen.length).filter (isFirstOfNumber (seen ++ rest))).map fun value =>
        node.caseOf comments value.2 value.1 := by
  induction rest generalizing seen before with
  | nil => exact (List.append_nil _).symm
  | cons value rest inRest =>
    have whole : seen ++ value :: rest = (seen ++ [value]) ++ rest := by
      rw [List.append_assoc, List.singleton_append]
    have first : isFirstOfNumber (seen ++ value :: rest) (value, seen.length) = true
        ↔ before.find? (·.number = value.number) = none := by
      unfold isFirstOfNumber
      rw [known, List.take_left, List.all_eq_true]
      simp only [decide_eq_true_eq]
    rw [List.zipIdx_cons]
    cases found : before.find? (·.number = value.number) with
    | none =>
      have known' : ∀ number, (before ++ [node.caseOf comments seen.length value]).find? (·.number = number) = none
          ↔ ∀ other ∈ seen ++ [value], other.number ≠ number := by
        intro number
        rw [List.find?_append, Option.or_eq_none_iff, known, List.forall_mem_append]
        simp [EnumNode.caseOf]
      have below := inRest known'
      rw [List.length_append, List.length_singleton] at below
      rw [divide_cons_of_new rest found, below, List.filter_cons_of_pos (first.mpr found), List.map_cons,
        List.append_assoc, List.singleton_append, whole]
    | some case =>
      have known' : ∀ number, before.find? (·.number = number) = none
          ↔ ∀ other ∈ seen ++ [value], other.number ≠ number := by
        intro number
        rw [known, List.forall_mem_append, List.forall_mem_singleton]
        refine (and_iff_left_of_imp fun none same => ?_).symm
        rw [← known, ← same, found] at none
        cases none
      have below := inRest known'
      rw [List.length_append, List.length_singleton] at below
      have later : ¬ isFirstOfNumber (seen ++ value :: rest) (value, seen.length) = true := by
        rw [first, found]
        exact Option.some_ne_none case
      rw [divide_cons_of_known rest found, List.filter_cons_of_neg later, below, whole]

/-- The cases of a declaration are those of the values that are the first with their number. -/
theorem cases_ofNode (access : AccessLevel) (file : FileNode) (node : EnumNode) :
    (ofNode access file node).cases = node.schema.placedCases.map fun value =>
      node.caseOf file.commentText value.2 value.1 := by
  have none : ∀ number : Int32, ([] : List EnumCase).find? (·.number = number) = none
      ↔ ∀ value ∈ ([] : List EnumValue), value.number ≠ number := by simp
  exact cases_divide none

/-- The comments of a declaration are directly before its first line, and its cases start behind the second. -/
theorem exists_code (decl : EnumDecl) : ∃ rest, decl.code = Code.lines decl.comments
    ++ Code.line (decl.modifier ++ "enum " ++ decl.name ++ ": SwiftProtobuf.Enum \x7b")
    ++ Code.indented (Code.line (decl.modifier ++ "typealias RawValue = Int") ++ decl.casesCode ++ rest)
    ++ Code.line "\x7d" := by
  unfold EnumDecl.code Code.block
  simp only [List.append_assoc]
  exact ⟨_, rfl⟩

/-- The cases of an enumeration have the comments on their values directly before them. -/
theorem casesCode_ofNode {scopeName : FullName} {types : TypeScope} {path : Path} {enumeration : Enumeration}
    {scope : List Nat} {position : Nat} (access : AccessLevel)
    (placed : file.schema.HasEnumeration path scope position enumeration) :
    (ofNode access file (EnumNode.declare scopeName types path enumeration)).casesCode
      = enumeration.placedCases.flatMap (fun value => file.schema.headed (.enumValue scope position value.2)
          ("case " ++ caseName enumeration.name value.1.name ++ " // = " ++ numberText value.1.number))
        ++ if (ofNode access file (EnumNode.declare scopeName types path enumeration)).openEnded then
            Code.line "case UNRECOGNIZED(Int)"
          else [] := by
  unfold casesCode
  rw [cases_ofNode, List.flatMap_map]
  refine congrArg (· ++ _) (List.flatMap_congr fun value among => ?_)
  have declared := declared_of_mem_filter_zipIdx value among
  have own : file.commentText (path.enumValue value.2) = file.schema.commentOn (.enumValue scope position value.2) :=
    FileNode.commentText_eq_commentOn (placed.reach?_enumValue declared)
  simp only [EnumNode.caseOf, EnumNode.declare, EnumNode.caseNameOf, own, File.headed]

/-- **The declaration of an enumeration has the comments in their places.** -/
theorem documents_ofNode {scopeName : FullName} {types : TypeScope} {path : Path} {enumeration : Enumeration}
    {scope : List Nat} {position : Nat} (access : AccessLevel)
    (placed : file.schema.HasEnumeration path scope position enumeration) :
    (ofNode access file (EnumNode.declare scopeName types path enumeration)).Documents file.schema types scope
      position enumeration := by
  constructor
  case name => rfl
  case code =>
    have own : (ofNode access file (EnumNode.declare scopeName types path enumeration)).comments
        = file.schema.commentOn (.enumeration scope position) :=
      FileNode.commentText_eq_commentOn placed.reach?
    obtain ⟨rest, whole⟩ := exists_code (ofNode access file (EnumNode.declare scopeName types path enumeration))
    refine ⟨rest, ?_⟩
    rw [whole, own, File.headed, casesCode_ofNode access placed]
    simp only [List.append_assoc]

end EnumDecl

/-! ### Fields -/

variable {unit : CompilationUnit} {file : FileNode}

/-- The code of a plan has the comments that the plan was made with. -/
theorem FieldCode.documents_of_make {schema : Schema.File} {trail : List Nat} {field : Field} {position : Nat}
    {used : List String} {era : Era} {heap : Bool} {plan : FieldPlan}
    (made : FieldPlan.make unit era (freshNames used field) (schema.commentOn (.field trail position)) heap field
      = .ok plan) :
    plan.code.Documents schema trail field position := by
  have planned := FieldPlan.planned_of_make made
  constructor
  case number =>
    show plan.field.schema.number = field.number
    rw [planned.resolved.schema_eq]
  case name =>
    refine ⟨used, ?_⟩
    show plan.names.property = _
    rw [planned.names_eq]
  case property =>
    obtain ⟨type, members, whole⟩ := plan.code.interface.exists_code
    have own : plan.code.interface.comments = schema.commentOn (.field trail position) := planned.comments_eq
    refine ⟨type, members, ?_⟩
    rw [whole, own, File.headed]
    simp only [List.append_assoc]

/-- A field has a plan that is made with the comments of its position. -/
def FieldPlan.IsMadeAt (unit : CompilationUnit) (file : FileNode) (node : MessageNode) (field : Field × Nat)
    (plan : FieldPlan) : Prop :=
  ∃ used, make unit file.era (freshNames used field.1) (file.commentText (node.path.field field.2))
    node.schema.keepsFieldsOnHeap field.1 = .ok plan

theorem forall₂_isMadeAt_of_membersFrom {node : MessageNode} {used : List String} {start : Nat} {fields : List Field}
    {planned : List (Option FieldPlan)}
    (done : ((membersFrom used start fields).mapM (Member.plan unit file node)).result = .ok planned) :
    List.Forall₂ (FieldPlan.IsMadeAt unit file node) ((fields.zipIdx start).filter (!·.1.isOneofMember))
      (planned.filterMap id) := by
  induction fields generalizing used start planned with
  | nil =>
    cases done
    exact .nil
  | cons field rest inRest =>
    rw [List.zipIdx_cons]
    unfold membersFrom at done
    by_cases member : field.isOneofMember = true
    · rw [if_pos member] at done
      obtain ⟨first, others, firstDone, othersDone, rfl⟩ := Run.result_mapM_cons_eq_ok.mp done
      cases firstDone
      rw [List.filter_cons_of_neg (by simp [member])]
      have below := inRest othersDone
      exact below
    · rw [if_neg member] at done
      obtain ⟨first, others, firstDone, othersDone, rfl⟩ := Run.result_mapM_cons_eq_ok.mp done
      rw [Member.result_plan_kept] at firstDone
      obtain ⟨plan, planMade, rfl⟩ := map_eq_ok.mp firstDone
      rw [List.filter_cons_of_pos (by simp [member])]
      exact .cons ⟨used, planMade⟩ (inRest othersDone)

/-- **Each kept field has a plan that is made for its position**, though the positions go on at the others. -/
theorem forall₂_isMadeAt {node : MessageNode} {plans : List FieldPlan}
    (planned : (fieldPlans unit file node).result = .ok plans) :
    List.Forall₂ (FieldPlan.IsMadeAt unit file node) node.schema.placedFields plans := by
  obtain ⟨all, done, rfl⟩ := fieldPlans_eq_ok.mp planned
  exact forall₂_isMadeAt_of_membersFrom done

/-! ### Structs -/

namespace StructDecl

/-- The structs inside a struct are made one by one, though the positions go on at the messages that get none. -/
theorem forall₂_of_ofNodes {scope : FullName} {parent : String} {path : Path} {start : Nat}
    {messages : List Message} {decls : List StructDecl}
    (made : (ofNodes unit file (MessageNode.declareNested scope parent path start messages)).result = .ok decls) :
    List.Forall₂ (fun inner nested =>
        (ofNode unit file (MessageNode.declare scope (.message parent) (path.nestedMessage inner.2) inner.1)).result
          = .ok nested)
      ((messages.zipIdx start).filter (!·.1.isMapEntry)) decls := by
  induction messages generalizing start decls with
  | nil =>
    cases made
    exact .nil
  | cons message rest inRest =>
    have isEntry : (MessageNode.declare scope (.message parent) (path.nestedMessage start) message).isMapEntry
        = message.isMapEntry := by
      unfold MessageNode.isMapEntry
      rw [MessageNode.schema_declare]
    rw [MessageNode.declareNested] at made
    rw [List.zipIdx_cons]
    by_cases entry : message.isMapEntry = true
    · rw [ofNodes_cons_of_entry (isEntry.trans entry)] at made
      rw [List.filter_cons_of_neg (by simp [entry])]
      exact inRest made
    · obtain ⟨decl, others, declMade, othersMade, rfl⟩ := (ofNodes_cons_eq_ok (isEntry ▸ entry)).mp made
      rw [List.filter_cons_of_pos (by simp [entry])]
      exact .cons declMade (inRest othersMade)

/-- The struct of a message has the comments at the path of the message, and the code of its plans. -/
theorem exists_of_ofNode {node : MessageNode} {decl : StructDecl}
    (made : (ofNode unit file node).result = .ok decl) :
    decl.comments = file.commentText node.path
      ∧ ∃ plans, (fieldPlans unit file node).result = .ok plans ∧ decl.fields = plans.map FieldPlan.code := by
  obtain ⟨plans, structs, planned, _, rfl⟩ := ofNode_eq_ok.mp made
  exact ⟨rfl, plans, planned, rfl⟩

/-- **The struct of a message has the comments in their places.** The induction is on the messages inside, and
keeps that the path of each of them leads to it. -/
theorem documents_ofNode (message : Message) : ∀ (scope : FullName) (types : TypeScope) (path : Path)
    (trail : List Nat) (decl : StructDecl), file.schema.HasMessage path trail message →
      (ofNode unit file (MessageNode.declare scope types path message)).result = .ok decl →
        decl.Documents file.schema types trail message := by
  induction message using Message.inductionOnNested with
  | step message below =>
    intro scope types path trail decl placed made
    obtain ⟨structsMade, enums, -, name, -⟩ := parts_of_ofNode made
    obtain ⟨comments, plans, planned, fields⟩ := exists_of_ofNode made
    have swiftName : (MessageNode.declare scope types path message).swiftName
        = types.typeName message.name "Message" := by
      cases message
      rfl
    have nested : (MessageNode.declare scope types path message).messages
        = MessageNode.declareNested (MessageNode.declare scope types path message).fullName
          (types.typeName message.name "Message") path 0 message.messages := by
      cases message
      rfl
    rw [MessageNode.path_declare] at comments
    rw [nested] at structsMade
    have inside : List.Forall₂ (fun inner nested =>
          nested.Documents file.schema (.message (types.typeName message.name "Message")) (trail ++ [inner.2]) inner.1)
        message.placedMessages decl.structs := by
      refine ((List.forall₂_and_left _ _).mpr ⟨declared_of_mem_filter_zipIdx, forall₂_of_ofNodes structsMade⟩).imp ?_
      intro inner nested found
      exact below inner.1 (List.mem_of_getElem? found.1) _ _ _ _ _ (placed.nestedMessage found.1) found.2
    constructor
    case name => rw [name, swiftName]
    case code =>
      rw [code_eq, comments, FileNode.commentText_eq_commentOn placed.reach?, File.headed, Code.block, codes_eq]
      simp only [membersCode, opening, List.append_assoc]
    case fields =>
      have each := forall₂_isMadeAt planned
      rw [MessageNode.schema_declare] at each
      rw [fields, List.forall₂_map_right_iff]
      refine ((List.forall₂_and_left _ _).mpr ⟨declared_of_mem_filter_zipIdx, each⟩).imp ?_
      rintro field plan ⟨declared, used, planMade⟩
      rw [MessageNode.path_declare, FileNode.commentText_eq_commentOn (placed.reach?_field declared)] at planMade
      exact FieldCode.documents_of_make planMade
    case enums =>
      rw [enums, MessageNode.enums_declare, List.mapIdx_eq_zipIdx_map, List.map_map, List.forall₂_map_right_iff,
        List.forall₂_same]
      intro enumeration among
      rw [swiftName]
      exact EnumDecl.documents_ofNode _ (placed.nestedEnumeration (List.mem_zipIdx_iff_getElem?.mp among))
    case count => exact inside.length_eq
    case structs =>
      intro index inner nested isInner isNested
      exact List.forall₂_zip inside (List.mem_of_getElem? (List.getElem?_zip_eq_some.mpr ⟨isInner, isNested⟩))

end StructDecl

/-! ### Files -/

namespace SourceFile

/-- **The code of a file has the comments in their places.** -/
theorem documents_ofNode {era : Era} {file : Schema.File} {source : SourceFile}
    (made : (ofNode unit (FileNode.declare era file)).result = .ok source) : source.Documents file := by
  obtain ⟨structs, structsMade, rfl⟩ := ofNode_eq_ok.mp made
  constructor
  case code =>
    unfold SourceFile.code
    rw [StructDecl.codes_eq]
  case structs =>
    have declared : ∀ message ∈ file.messages.zipIdx, file.messages[message.2]? = some message.1 :=
      fun _ => List.mem_zipIdx_iff_getElem?.mp
    have each := Run.result_mapM_eq_ok_iff_forall₂.mp structsMade
    rw [FileNode.declare, List.mapIdx_eq_zipIdx_map, List.forall₂_map_left_iff] at each
    refine ((List.forall₂_and_left _ _).mpr ⟨declared, each⟩).imp fun message decl found => ?_
    exact StructDecl.documents_ofNode message.1 _ _ _ _ _ (File.hasMessage_message found.1) found.2
  case enums =>
    show List.Forall₂ _ _ (((file.enumerations.mapIdx _)).map _)
    rw [List.mapIdx_eq_zipIdx_map, List.map_map, List.forall₂_map_right_iff, List.forall₂_same]
    intro enumeration among
    exact EnumDecl.documents_ofNode _
      (File.hasEnumeration_enumeration (List.mem_zipIdx_iff_getElem?.mp among))

end SourceFile

namespace CompilationUnit

variable {request : Request} {name : String} {output : OutputFile}

/-- **Comments are on the declarations they were written on.** What is generated for a name is printed from code in
which every struct, property, enumeration and case of the file with that name has the comments of the first location
whose path leads to its element directly before it, and nothing if no location does. -/
theorem documents_of_generateFile (made : (ofRequest request).result = .ok unit)
    (generated : (unit.generateFile name).result = .ok output) {file : Schema.File}
    (found : request.file? name = some file) :
    ∃ source, (SourceFile.ofNode unit (FileNode.declare (eraOf file) file)).result = .ok source
      ∧ output.content = Printer.render source.code ∧ source.Documents file := by
  obtain ⟨first, source, firstFound, sourceMade, content⟩ := exists_source_of_generateFile made generated
  obtain rfl := Option.some.inj (found.symm.trans firstFound)
  exact ⟨source, sourceMade, content, SourceFile.documents_ofNode sourceMade⟩

/-- A file with comments on what is behind a member of a oneof, the entry of a map and a repeated number. Two of its
locations have the same path, and two lead to nothing. -/
def diaryFile : Schema.File :=
  { name? := some "diary.proto", package? := some "diary", era? := some "proto3"
    messages := [{
      name? := some "Day"
      fields := [{ name? := some "mood", number? := some 1, type? := some 9, oneofIndex? := some 0 },
        { name? := some "text", number? := some 2, type? := some 9 }]
      messages := [{ name? := some "TagsEntry", options? := some { entryOfMap? := some true } },
        { name? := some "Page" }]
      enumerations := [{
        name? := some "Sky"
        values := [{ name? := some "CLEAR", number? := some 0 }, { name? := some "BLUE", number? := some 0 },
          { name? := some "GRAY", number? := some 1 }] }] }]
    sourceInfo? := some { locations := [
      { path := [], leading? := some " The diary.\n" },
      { path := [4, 0, 2], leading? := some " Fields.\n" },
      { path := [4, 0, 4, 0, 2, 2], leading? := some " Clouds.\n" },
      { path := [4, 0, 2, 1], leading? := some " What happened.\n" },
      { path := [4, 0, 2, 1], leading? := some " And more.\n" },
      { path := [4, 0, 3, 1], leading? := some " One sheet.\n" }] } }

/-- A request for the file of the diary. -/
def diaryRequest : Request :=
  { filesToGenerate := ["diary.proto"], files := [diaryFile] }

/-- The comments of the diary are where they belong, on a field, a message and a case behind what is left out. -/
theorem documents_of_generateFile_diary : ∃ unit output, (ofRequest diaryRequest).result = .ok unit
    ∧ (unit.generateFile "diary.proto").result = .ok output
    ∧ diaryRequest.file? "diary.proto" = some diaryFile
    ∧ ∃ source : SourceFile, output.content = Printer.render source.code ∧ source.Documents diaryFile
      ∧ [.message [0], .field [0] 1, .message [0, 1], .enumValue [0] 0 2].map diaryFile.commentOn
        = ["", "/// What happened.\n", "/// One sheet.\n", "/// Clouds.\n"] := by
  have succeeds : (generate diaryRequest).result.toOption.isSome = true := by decide +kernel
  obtain ⟨outputs, allGenerated⟩ : ∃ outputs, (generate diaryRequest).result = .ok outputs := by
    cases outcome : (generate diaryRequest).result with
    | ok outputs => exact ⟨outputs, rfl⟩
    | error cause =>
      rw [outcome] at succeeds
      cases succeeds
  obtain ⟨unit, made, output, _, generated⟩ := exists_generateFile_of_generate allGenerated List.mem_cons_self
  have found : diaryRequest.file? "diary.proto" = some diaryFile := rfl
  obtain ⟨source, _, content, documents⟩ := documents_of_generateFile made generated found
  exact ⟨unit, output, made, generated, found, source, content, documents, by decide +kernel⟩

end CompilationUnit

end ProtoSwift
