/-
**A symbol table that can stand in for another one.**

Everything that is generated depends on a table through its look-ups alone, and through the analysis of
required fields. A second table serves in place of the first one if it gives the same answers. There are two
degrees: it may be that only the answers count that the first table can give, or that a look-up that fails
has to fail in the second table, too.

* `SymbolTable.Serves` — the second table answers as the first one does;
* `CompilationUnit.Serves` — the same of two compilation units, which have all else in common;
* `FieldType.matches_resolve`, `FieldPlan.matches_make` — fields get the same types and plans;
* `CompilationUnit.matches_generateFiles` — the same files are generated.
-/

import ProtoSwift.Generate
import ProtoSwift.Proofs.Field.Planning
import ProtoSwift.Proofs.Requirement.Chain

namespace ProtoSwift

open Swift

variable {failures : Prop} {table second : SymbolTable}

/-! ### Look-ups -/

/-- **The second table answers as the first one does.** What a message of the first table refers to is the
same in both, or nothing in both, since the analysis of required fields follows such references without
asking whether they can be resolved. -/
structure SymbolTable.Serves (failures : Prop) (table second : SymbolTable) : Prop where
  file : ∀ name file, table.file? name = some file → second.file? name = some file
  message : ∀ path node, table.message? path = some node → second.message? path = some node
  enum : ∀ path node, table.enum? path = some node → second.enum? path = some node
  case : ∀ path value name,
    table.resolveCase path value = .ok name → second.resolveCase path value = .ok name
  references : ∀ node ∈ table.messages, ∀ path ∈ node.references,
    second.message? path = table.message? path
  failure : failures → second.file? = table.file? ∧ second.message? = table.message?
    ∧ second.enum? = table.enum? ∧ second.resolveCase = table.resolveCase

namespace SymbolTable.Serves

theorem matches_resolveMessage (serves : table.Serves failures second) (path : String) :
    Matches failures (table.resolveMessage path) (second.resolveMessage path) := by
  constructor
  · intro node resolved
    exact resolveMessage_eq_ok.mpr (serves.message path node (resolveMessage_eq_ok.mp resolved))
  · intro counted
    unfold SymbolTable.resolveMessage
    rw [(serves.failure counted).2.1]

theorem matches_resolveEnum (serves : table.Serves failures second) (path : String) :
    Matches failures (table.resolveEnum path) (second.resolveEnum path) := by
  constructor
  · intro node resolved
    exact resolveEnum_eq_ok.mpr (serves.enum path node (resolveEnum_eq_ok.mp resolved))
  · intro counted
    unfold SymbolTable.resolveEnum
    rw [(serves.failure counted).2.2.1]

theorem matches_resolveCase (serves : table.Serves failures second) (path value : String) :
    Matches failures (table.resolveCase path value) (second.resolveCase path value) := by
  constructor
  · exact serves.case path value
  · intro counted
    rw [(serves.failure counted).2.2.2]

end SymbolTable.Serves

/-! ### Types and defaults -/

namespace FieldType

/-- The type of a field whose reference means a message. -/
theorem resolveInside_of_declared {opened : List FullName} {field : Schema.Field} {node : MessageNode}
    (kind : field.kind = .message) (declared : table.message? field.typeName = some node) :
    resolveInside table opened field =
      if !node.isMapEntry then .ok (.message node)
      else if opened.contains node.fullName = false then
        match node.schema.field? 1, node.schema.field? 2 with
        | some key, some value => do
          let key ← resolveInside table (node.fullName :: opened) key
          let value ← resolveInside table (node.fullName :: opened) value
          return .map node key value
        | _, _ => .error (.malformedMapEntry node.fullName.text)
      else .error (.malformedMapEntry node.fullName.text) := by
  rw [resolveInside.eq_def]
  simp only [kind]
  split
  · simp_all
  · rename_i found same
    rw [declared] at same
    cases same
    split
    · rfl
    · split
      · split <;> simp_all
      · simp_all

theorem matches_resolveInside (serves : table.Serves failures second) (opened : List FullName)
    (field : Schema.Field) :
    Matches failures (resolveInside table opened field) (resolveInside second opened field) := by
  fun_induction resolveInside table opened field with
  | case1 opened field scalar kind =>
    rw [resolveInside.eq_def second]
    simp only [kind]
    exact .refl _
  | case2 opened field kind =>
    rw [resolveInside.eq_def second]
    simp only [kind]
    exact (serves.matches_resolveEnum field.typeName).map _
  | case3 opened field kind =>
    rw [resolveInside.eq_def second]
    simp only [kind]
    exact (serves.matches_resolveMessage field.typeName).map _
  | case4 opened field kind undeclared =>
    refine ⟨fun type resolved => (by cases resolved), fun counted => ?_⟩
    have alsoUndeclared : second.message? field.typeName = none := by
      rw [(serves.failure counted).2.1, undeclared]
    rw [resolveInside.eq_def second]
    simp only [kind]
    split <;> simp_all
  | case5 opened field kind node declared plain =>
    rw [resolveInside_of_declared kind (serves.message _ _ declared), if_pos plain]
    exact .refl _
  | case6 opened field kind node declared isEntry fresh key value valueField keyField keyInside valueInside =>
    rw [resolveInside_of_declared kind (serves.message _ _ declared), if_neg isEntry, if_pos fresh, keyField,
      valueField]
    exact keyInside.bind fun _ _ => valueInside.bind fun _ _ => .refl _
  | case7 opened field kind node declared isEntry fresh incomplete =>
    rw [resolveInside_of_declared kind (serves.message _ _ declared), if_neg isEntry, if_pos fresh]
    split
    · rename_i key value keyField valueField
      exact (incomplete key value keyField valueField).elim
    · exact .refl _
  | case8 opened field kind node declared isEntry again =>
    rw [resolveInside_of_declared kind (serves.message _ _ declared), if_neg isEntry, if_neg again]
    exact .refl _

/-- **A field gets the same type.** -/
theorem matches_resolve (serves : table.Serves failures second) (field : Schema.Field) :
    Matches failures (resolve table field) (resolve second field) :=
  matches_resolveInside serves [] field

end FieldType

namespace ResolvedField

theorem matches_resolve (serves : table.Serves failures second) (era : Era) (schema : Schema.Field) :
    Matches failures (resolve table era schema) (resolve second era schema) :=
  (FieldType.matches_resolve serves schema).bind fun _ _ => .refl _

/-- **A field gets the same declared default.** Only the default of an enumeration is looked up. -/
theorem matches_declaredDefault (serves : table.Serves failures second) (field : ResolvedField) :
    Matches failures (field.declaredDefault table) (field.declaredDefault second) := by
  unfold declaredDefault
  split
  · exact .refl _
  · rename_i text declared
    split
    case h_5 => exact (serves.matches_resolveCase field.schema.typeName text).map _
    all_goals exact .refl _

end ResolvedField

/-! ### Compilation units -/

/-- **The second unit differs from the first one in its symbol table at most**, and that serves in place of
the first one. -/
structure CompilationUnit.Serves (failures : Prop) (unit other : CompilationUnit) : Prop where
  symbols : unit.symbols.Serves failures other.symbols
  options_eq : other.options = unit.options
  requested_eq : other.requested = unit.requested

variable {unit other : CompilationUnit} {file : FileNode}

/-- The messages of the first table lead to required fields in both or in neither. -/
theorem CompilationUnit.Serves.leadsToRequired_eq (serves : unit.Serves failures other) {node : MessageNode}
    (registered : node ∈ unit.symbols.messages) :
    other.leadsToRequired node = unit.leadsToRequired node := by
  unfold CompilationUnit.leadsToRequired
  rw [unit.requiring_eq, other.requiring_eq]
  exact SymbolTable.leadsToRequired_eq serves.symbols.references registered

/-- **A field gets the same plan.** The message behind its type is one of the first table. -/
theorem FieldPlan.matches_make (serves : unit.Serves failures other) (era : Era) (names : FieldNames)
    (comments : String) (heap : Bool) (schema : Schema.Field) :
    Matches failures (make unit era names comments heap schema)
      (make other era names comments heap schema) := by
  rw [make_eq, make_eq]
  refine (ResolvedField.matches_resolve serves.symbols era schema).bind fun field resolved => ?_
  refine (ResolvedField.matches_declaredDefault serves.symbols field).bind fun declared? _ => ?_
  have sameChecks : field.type.message?.any other.leadsToRequired
      = field.type.message?.any unit.leadsToRequired := by
    cases behind : field.type.message? with
    | none => rfl
    | some node =>
      have resolves := (ResolvedField.resolved_of_resolve resolved).type_resolves
      have declared := (resolves.declared_of_message? behind).2
      exact serves.leadsToRequired_eq (SymbolTable.mem_of_message? declared)
  have samePlan : ofDecisions other names comments heap field declared?
      = ofDecisions unit names comments heap field declared? := by
    unfold ofDecisions
    rw [sameChecks, serves.options_eq]
  rw [samePlan]
  exact .refl _

theorem Member.matches_plan (serves : unit.Serves failures other) (file : FileNode) (node : MessageNode)
    (member : Member) :
    Matches failures (member.plan unit file node).result (member.plan other file node).result := by
  cases member with
  | skipped field => exact .refl _
  | kept position field names =>
    exact Run.matches_bind_pure (FieldPlan.matches_make serves _ _ _ _ _)

theorem matches_fieldPlans (serves : unit.Serves failures other) (file : FileNode) (node : MessageNode) :
    Matches failures (fieldPlans unit file node).result (fieldPlans other file node).result := by
  unfold fieldPlans
  exact Run.matches_bind_pure (Run.matches_mapM fun member _ => Member.matches_plan serves file node member)

/-! ### Declarations -/

namespace StructDecl

mutual

/-- **A message of the first table gets the same declaration.** -/
theorem matches_ofNode (serves : unit.Serves failures other) (file : FileNode) :
    (node : MessageNode) → (∀ inner ∈ node.allMessages, inner ∈ unit.symbols.messages) →
    Matches failures (ofNode unit file node).result (ofNode other file node).result
  | node@⟨_, _, _, _, messages, enums⟩, registered => by
    unfold MessageNode.allMessages at registered
    have sameLeads := serves.leadsToRequired_eq (registered _ List.mem_cons_self)
    unfold ofNode
    refine Run.matches_bind (matches_fieldPlans serves file _) fun plans _ => ?_
    rw [sameLeads, serves.options_eq]
    refine Run.matches_bind_pure (matches_ofNodes serves file messages fun inner among => ?_)
    exact registered inner (List.mem_cons_of_mem _ among)

theorem matches_ofNodes (serves : unit.Serves failures other) (file : FileNode) :
    (nodes : List MessageNode) →
    (∀ inner ∈ MessageNode.allMessagesOf nodes, inner ∈ unit.symbols.messages) →
    Matches failures (ofNodes unit file nodes).result (ofNodes other file nodes).result
  | [], _ => by
    unfold ofNodes
    exact .refl _
  | node :: rest, registered => by
    unfold MessageNode.allMessagesOf at registered
    have inRest := matches_ofNodes serves file rest fun inner among =>
      registered inner (List.mem_append_right _ among)
    unfold ofNodes
    split
    · exact inRest
    · refine Run.matches_bind (matches_ofNode serves file node fun inner among => ?_) fun decl _ => ?_
      · exact registered inner (List.mem_append_left _ among)
      · exact Run.matches_bind_pure inRest

end

end StructDecl

/-- What is inside a message of a list is inside one of the messages of the list. -/
theorem MessageNode.mem_allMessagesOf {inner node : MessageNode} {nodes : List MessageNode}
    (among : node ∈ nodes) (inside : inner ∈ node.allMessages) : inner ∈ allMessagesOf nodes := by
  induction nodes with
  | nil => exact absurd among List.not_mem_nil
  | cons first rest inRest =>
    unfold allMessagesOf
    rcases List.mem_cons.mp among with rfl | among
    · exact List.mem_append_left _ inside
    · exact List.mem_append_right _ (inRest among)

theorem SourceFile.matches_ofNode (serves : unit.Serves failures other)
    (supplied : file ∈ unit.symbols.files) :
    Matches failures (ofNode unit file).result (ofNode other file).result := by
  unfold ofNode
  rw [serves.options_eq]
  refine Run.matches_bind_pure (Run.matches_mapM fun node among => ?_)
  refine StructDecl.matches_ofNode serves file node fun inner inside => ?_
  exact List.mem_flatMap.mpr ⟨file, supplied, MessageNode.mem_allMessagesOf among inside⟩

namespace CompilationUnit

theorem matches_generateFile (serves : unit.Serves failures other) (name : String) :
    Matches failures (unit.generateFile name).result (other.generateFile name).result := by
  unfold generateFile
  cases found : unit.symbols.file? name with
  | none =>
    refine ⟨fun output done => (by cases done), fun counted => ?_⟩
    rw [(serves.symbols.failure counted).1, found]
  | some file =>
    rw [serves.symbols.file name file found, serves.options_eq]
    exact Run.matches_bind_pure (SourceFile.matches_ofNode serves (List.mem_of_find?_eq_some found))

/-- **The same files are generated.** -/
theorem matches_generateFiles (serves : unit.Serves failures other) :
    Matches failures unit.generateFiles.result other.generateFiles.result := by
  unfold generateFiles
  rw [serves.requested_eq]
  exact Run.matches_mapM fun name _ => matches_generateFile serves name

end CompilationUnit

end ProtoSwift
