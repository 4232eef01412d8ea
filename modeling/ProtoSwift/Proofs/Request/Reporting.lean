/-
**A run reports what is wrong with a request first.**

Every step of a run is paired with its checks: reading the parameter, adding the files, and making plans for
the fields of the requested files. All that is left of the messages are the lists of their fields, so the
checks of nested messages follow each other as the messages do.

* `FieldPlan.reports_make` — the two checks of a field;
* `StructDecl.reports_ofNode`, `StructDecl.reports_ofNodes` — the checks of a message and those inside it;
* `CompilationUnit.reports_ofRequest` — the checks before any file is generated;
* `generate_outcome` — a run succeeds for the well-formed requests, and reports the first violation of the
  others.
-/

import ProtoSwift.Generate
import ProtoSwift.Proofs.Field.Planning
import ProtoSwift.Proofs.Request.WellFormed

namespace ProtoSwift

open Schema Schema.Request

variable {request : Request} {unit : CompilationUnit}

/-! ### Fields -/

theorem FieldType.reports_resolve (ends : request.table.EntriesEnd) (schema : Field) :
    Reports request.Violates (resolve request.table schema) [.reference schema] := by
  refine Reports.singleton fun cause => ?_
  rw [resolve_eq_error_iff ends]
  constructor
  · exact .reference
  · rintro ⟨fault⟩
    assumption

namespace ResolvedField

theorem reports_resolve (ends : request.table.EntriesEnd) (era : Era) (schema : Field) :
    Reports request.Violates (resolve request.table era schema) [.reference schema] :=
  (FieldType.reports_resolve ends schema).bind_pure

/-- A default is missing exactly if there is a fault in it. -/
theorem declaredDefault_eq_error_iff {table : SymbolTable} {field : ResolvedField} {cause : Error} :
    field.declaredDefault table = .error cause ↔ field.schema.DefaultFault table cause := by
  constructor
  · intro failed
    unfold declaredDefault at failed
    split at failed
    · cases failed
    · rename_i text declared
      split at failed
      · cases failed
      · cases failed
      · cases failed
      · rename_i kind
        split at failed
        · cases failed
        · rename_i some
          split at failed
          · cases failed
          · rename_i fault undecodable
            cases failed
            exact .bytes kind declared some undecodable
      · rename_i kind
        have unresolved : table.resolveCase field.schema.typeName text = .error cause := by
          cases resolved : table.resolveCase field.schema.typeName text with
          | ok name =>
            rw [resolved] at failed
            cases failed
          | error other =>
            rw [resolved] at failed
            cases failed
            rfl
        obtain ⟨rfl, unknown⟩ := SymbolTable.resolveCase_eq_error_iff.mp unresolved
        exact .enumeration kind declared unknown
      · cases failed
      · cases failed
      · cases failed
  · intro fault
    unfold declaredDefault
    cases fault with
    | bytes kind declared some undecodable =>
      simp only [declared, kind, some, if_false, undecodable]
      rfl
    | enumeration kind declared unknown =>
      have unresolved := SymbolTable.resolveCase_eq_error_iff.mpr ⟨rfl, unknown⟩
      simp only [declared, kind, unresolved]
      rfl

theorem reports_declaredDefault (field : ResolvedField) :
    Reports request.Violates (field.declaredDefault request.table) [.default field.schema] := by
  refine Reports.singleton fun cause => ?_
  rw [declaredDefault_eq_error_iff]
  constructor
  · exact .default
  · rintro ⟨fault⟩
    assumption

end ResolvedField

/-- **The two checks of a field.** -/
theorem FieldPlan.reports_make (ends : request.table.EntriesEnd) (symbols : unit.symbols = request.table)
    (era : Era) (names : Swift.FieldNames) (comments : String) (heap : Bool) (schema : Field) :
    Reports request.Violates (make unit era names comments heap schema)
      [.reference schema, .default schema] := by
  rw [make_eq, symbols]
  refine (ResolvedField.reports_resolve ends era schema).bind fun field resolved => ?_
  obtain ⟨rfl, _, _⟩ := ResolvedField.resolved_of_resolve resolved
  exact field.reports_declaredDefault.bind_pure

/-! ### Messages -/

theorem Member.reports_skipped (file : FileNode) (node : MessageNode) (field : Field) :
    Reports request.Violates (plan unit file node (.skipped field)).result [] :=
  reports_ok none

theorem Member.reports_kept (ends : request.table.EntriesEnd) (symbols : unit.symbols = request.table)
    (file : FileNode) (node : MessageNode) (position : Nat) (field : Field) (names : Swift.FieldNames) :
    Reports request.Violates (plan unit file node (.kept position field names)).result
      [.reference field, .default field] := by
  have made := FieldPlan.reports_make ends symbols file.era names
    (file.commentText (node.path.field position)) node.schema.keepsFieldsOnHeap field
  show Reports request.Violates (Run.ofExcept _ >>= fun plan => pure (some plan)).result _
  exact Run.reports_bind_pure made

/-- What is checked about the members of a message. -/
theorem reports_membersFrom (ends : request.table.EntriesEnd) (symbols : unit.symbols = request.table)
    (file : FileNode) (node : MessageNode) (fields : List Field) (used : List String) (position : Nat) :
    Reports request.Violates ((membersFrom used position fields).mapM (Member.plan unit file node)).result
      ((fields.filter (!·.isOneofMember)).flatMap fun field => [.reference field, .default field]) := by
  induction fields generalizing used position with
  | nil => exact reports_ok []
  | cons field rest inRest =>
    unfold membersFrom
    by_cases member : field.isOneofMember = true
    · simp only [member, if_true, List.mapM_cons, Bool.not_true, Bool.false_eq_true, not_false_eq_true,
        List.filter_cons_of_neg]
      exact Run.reports_bind (Member.reports_skipped file node field)
        fun _ _ => Run.reports_bind_pure (inRest used (position + 1))
    · simp only [member, Bool.false_eq_true, if_false, List.mapM_cons, Bool.not_false,
        List.filter_cons_of_pos, List.flatMap_cons]
      exact Run.reports_bind (Member.reports_kept ends symbols file node position field _)
        fun _ _ => Run.reports_bind_pure (inRest _ _)

theorem reports_fieldPlans (ends : request.table.EntriesEnd) (symbols : unit.symbols = request.table)
    (file : FileNode) (node : MessageNode) :
    Reports request.Violates (fieldPlans unit file node).result (messageChecks node.schema) :=
  Run.reports_bind_pure (reports_membersFrom ends symbols file node node.fields [] 0)

namespace StructDecl

/-- The node of a message stands for an entry of a map if the message does. -/
theorem isMapEntry_declare (scope : FullName) (types : Swift.TypeScope) (path : Path) (message : Message) :
    (MessageNode.declare scope types path message).isMapEntry = message.isMapEntry := by
  cases message
  unfold MessageNode.declare
  rfl

mutual

/-- **The checks of a message**, and then those of the messages inside it. -/
theorem reports_ofNode (ends : request.table.EntriesEnd) (symbols : unit.symbols = request.table)
    (file : FileNode) (scope : FullName) (types : Swift.TypeScope) (path : Path) :
    (message : Message) → Reports request.Violates
      (ofNode unit file (MessageNode.declare scope types path message)).result
      (message.generated.flatMap messageChecks)
  | ⟨_, _, messages, _, _⟩ => by
    unfold MessageNode.declare ofNode Message.generated
    rw [List.flatMap_cons]
    refine Run.reports_bind (reports_fieldPlans ends symbols file _) fun plans _ => ?_
    exact Run.reports_bind_pure (reports_ofNodes ends symbols file _ _ path 0 messages)

theorem reports_ofNodes (ends : request.table.EntriesEnd) (symbols : unit.symbols = request.table)
    (file : FileNode) (scope : FullName) (parent : String) (path : Path) (position : Nat) :
    (messages : List Message) → Reports request.Violates
      (ofNodes unit file (MessageNode.declareNested scope parent path position messages)).result
      ((Message.generatedOf messages).flatMap messageChecks)
  | [] => by
    unfold MessageNode.declareNested ofNodes Message.generatedOf
    exact reports_ok []
  | message :: rest => by
    unfold MessageNode.declareNested ofNodes Message.generatedOf
    rw [isMapEntry_declare]
    split
    · exact reports_ofNodes ends symbols file scope parent path (position + 1) rest
    · rw [List.flatMap_append]
      refine Run.reports_bind (reports_ofNode ends symbols file scope _ _ message) fun decl _ => ?_
      exact Run.reports_bind_pure
        (reports_ofNodes ends symbols file scope parent path (position + 1) rest)

end

end StructDecl

/-! ### Files -/

theorem SourceFile.reports_ofNode (ends : request.table.EntriesEnd)
    (symbols : unit.symbols = request.table) (file : File) :
    Reports request.Violates (ofNode unit (FileNode.declare (eraOf file) file)).result
      (file.generated.flatMap messageChecks) := by
  unfold ofNode File.generated
  rw [List.flatMap_assoc]
  refine Run.reports_bind_pure (Run.reports_mapM_mapIdx (fun position message => ?_) file.messages)
  exact StructDecl.reports_ofNode ends symbols _ _ _ _ message

/-- The files of a request are found by the names in the request. -/
theorem file?_table (request : Request) (name : String) : request.table.file? name
    = (request.file? name).map fun file => FileNode.declare (eraOf file) file := by
  unfold SymbolTable.file? Request.table Request.file?
  rw [List.find?_map]
  rfl

namespace CompilationUnit

/-- **The checks of a requested file**: it has to be there, and its messages have to pass theirs. -/
theorem reports_generateFile (ends : request.table.EntriesEnd) (symbols : unit.symbols = request.table)
    (name : String) :
    Reports request.Violates (unit.generateFile name).result (request.fileChecks name) := by
  unfold generateFile fileChecks
  rw [symbols, file?_table]
  cases found : request.file? name with
  | none =>
    refine Reports.singleton fun cause => ?_
    constructor
    · intro failed
      cases failed
      refine .supply fun file supplied named => ?_
      exact absurd named (by simpa using List.find?_eq_none.mp found file supplied)
    · rintro ⟨missing⟩
      rfl
  | some file =>
    refine Reports.cons_of_kept ?_ fun cause violated => ?_
    · exact Run.reports_bind_pure (SourceFile.reports_ofNode ends symbols file)
    · cases violated with
      | supply missing =>
        refine missing file (List.mem_of_find?_eq_some found) ?_
        simpa using List.find?_some found

theorem reports_generateFiles (ends : request.table.EntriesEnd) (symbols : unit.symbols = request.table)
    (requested : unit.requested = request.filesToGenerate) :
    Reports request.Violates unit.generateFiles.result
      (request.filesToGenerate.flatMap request.fileChecks) := by
  unfold generateFiles
  rw [requested]
  exact Run.reports_mapM (fun name => reports_generateFile ends symbols name) request.filesToGenerate

end CompilationUnit

/-! ### The declared types -/

theorem Era.ofDeclared_eq_error_iff {file : File} {cause : Error} :
    ofDeclared file.era? = .error cause ↔ request.Violates (.era file) cause := by
  constructor
  · intro failed
    unfold ofDeclared at failed
    split at failed
    · cases failed
    · cases failed
    · cases failed
    · cases failed
    · rename_i text notEmpty notSecond notThird declared
      cases failed
      exact .era declared ⟨notEmpty, notSecond, notThird⟩
  · intro violated
    cases violated with
    | era declared unknown =>
      unfold ofDeclared
      rw [declared]
      split <;> simp_all

namespace SymbolTable

variable {table last : SymbolTable}

/-- A file is added with its era, and nothing else can keep it out. -/
theorem result_add (table : SymbolTable) (file : File) : (table.add file).result = (do
    let era ← Era.ofDeclared file.era?
    return { files := table.files ++ [FileNode.declare era file] }) := by
  unfold add
  cases Era.ofDeclared file.era? <;> rfl

theorem reports_add (table : SymbolTable) (file : File) :
    Reports request.Violates (table.add file).result [.era file] := by
  rw [result_add]
  exact (Reports.singleton fun _ => Era.ofDeclared_eq_error_iff).bind_pure

theorem files_of_add {file : File} (added : (table.add file).result = .ok last) :
    last.files = table.files ++ [FileNode.declare (eraOf file) file] := by
  rw [result_add] at added
  obtain ⟨era, declared, made⟩ := bind_eq_ok.mp added
  cases made
  simp [eraOf, declared, Except.toOption]

/-- **The checks of files that are added in a row.** -/
theorem reports_foldlM_add (table : SymbolTable) (files : List File) :
    Reports request.Violates (files.foldlM add table).result (files.map .era) := by
  induction files generalizing table with
  | nil => exact reports_ok table
  | cons file rest inRest =>
    rw [List.foldlM_cons, List.map_cons]
    exact Run.reports_bind (reports_add table file) fun next _ => inRest next

theorem files_of_foldlM_add {files : List File} (added : (files.foldlM add table).result = .ok last) :
    last.files = table.files ++ files.map fun file => FileNode.declare (eraOf file) file := by
  induction files generalizing table with
  | nil =>
    cases added
    simp
  | cons file rest inRest =>
    rw [List.foldlM_cons, Run.result_bind] at added
    obtain ⟨next, addedFirst, addedRest⟩ := bind_eq_ok.mp added
    rw [inRest addedRest, files_of_add addedFirst]
    simp

theorem reports_ofFiles (request : Request) :
    Reports request.Violates (ofFiles request.files).result (request.files.map .era) :=
  reports_foldlM_add {} request.files

/-- The table of the files of a request, if there is one. -/
theorem eq_table_of_ofFiles (made : (ofFiles request.files).result = .ok table) :
    table = request.table := by
  have files := files_of_foldlM_add made
  cases table
  simpa [Request.table] using files

end SymbolTable

/-! ### Whole runs -/

namespace CompilationUnit

/-- The steps before any file is generated. -/
theorem result_ofRequest (request : Request) : (ofRequest request).result = (do
    let options ← Options.parse request.parameter
    let symbols ← (SymbolTable.ofFiles request.files).result
    return { options, symbols, requested := request.filesToGenerate }) := by
  unfold ofRequest
  simp only [Run.result_bind]
  rfl

/-- **The checks before any file is generated.** -/
theorem reports_ofRequest (request : Request) : Reports request.Violates (ofRequest request).result
    (.parameter :: request.files.map .era) := by
  rw [result_ofRequest]
  have parameter : Reports request.Violates (Options.parse request.parameter) [.parameter] := by
    refine Reports.singleton fun cause => ⟨.parameter, ?_⟩
    rintro ⟨unread⟩
    assumption
  exact parameter.bind fun options _ => (SymbolTable.reports_ofFiles request).bind_pure

theorem of_ofRequest (made : (ofRequest request).result = .ok unit) :
    unit.symbols = request.table ∧ unit.requested = request.filesToGenerate := by
  rw [result_ofRequest] at made
  obtain ⟨options, _, made⟩ := bind_eq_ok.mp made
  obtain ⟨symbols, tableMade, made⟩ := bind_eq_ok.mp made
  cases made
  exact ⟨SymbolTable.eq_table_of_ofFiles tableMade, rfl⟩

end CompilationUnit

theorem reports_generate (ends : request.table.EntriesEnd) :
    Reports request.Violates (generate request).result request.checks := by
  unfold generate checks
  refine Run.reports_bind (CompilationUnit.reports_ofRequest request) fun unit made => ?_
  obtain ⟨symbols, requested⟩ := CompilationUnit.of_ofRequest made
  exact CompilationUnit.reports_generateFiles ends symbols requested

/-- **A run succeeds exactly for the well-formed requests**, and otherwise reports the first violation: that of
the parameter, then those of the eras of the files, and then file by file those of the requested names and of
the fields of their messages. -/
theorem generate_outcome (ends : request.table.EntriesEnd) :
    ((∃ outputs, (generate request).result = .ok outputs) ↔ request.WellFormed)
      ∧ ∀ cause, (generate request).result = .error cause
        ↔ FirstViolation request.Violates request.checks cause := by
  have reports := reports_generate ends
  exact ⟨reports.succeeds_iff.trans (wellFormed_iff ends).symm, reports⟩

/-- A request for the file of the ledger. -/
def ledgerRequest : Request :=
  { filesToGenerate := ["bank.proto"], files := [ledgerFile] }

theorem eq_of_keeps_ledgerRequest {field : Field} (kept : ledgerRequest.Keeps field) :
    field = accountsSchema ∨ field = balanceSchema := by
  obtain ⟨name, requested, file, found, message, generates, member, _⟩ := kept
  obtain rfl : name = "bank.proto" := List.mem_singleton.mp requested
  have first : ledgerRequest.file? "bank.proto" = some ledgerFile := rfl
  rw [first] at found
  cases found
  have among : message ∈ [ledgerSchema, accountSchema] := File.mem_generated_iff.mpr generates
  rcases List.mem_cons.mp among with rfl | among
  · exact .inl (List.mem_singleton.mp member)
  · obtain rfl := List.mem_singleton.mp among
    exact .inr (List.mem_singleton.mp member)

theorem ledgerRequest_entriesEnd : ledgerRequest.table.EntriesEnd :=
  SymbolTable.entriesEnd_of_flat (by decide)

/-- Nothing is wrong with the request. -/
theorem ledgerRequest_wellFormed : ledgerRequest.WellFormed := by
  refine ⟨⟨_, rfl⟩, fun file supplied => ?_, fun name requested => ?_, fun field kept => ?_,
    fun field kept => ⟨fun text bytes => ?_, fun text enumeration => ?_⟩⟩
  · obtain rfl := List.mem_singleton.mp supplied
    exact .inl rfl
  · obtain rfl := List.mem_singleton.mp requested
    exact ⟨ledgerFile, List.mem_singleton.mpr rfl, rfl⟩
  · rcases eq_of_keeps_ledgerRequest kept with rfl | rfl
    · exact ⟨_, accountsSchema_resolves⟩
    · exact ⟨_, .scalar rfl⟩
  · rcases eq_of_keeps_ledgerRequest kept with rfl | rfl <;> exact absurd bytes (by decide)
  · rcases eq_of_keeps_ledgerRequest kept with rfl | rfl <;> exact absurd enumeration (by decide)

/-- The file of the ledger is generated. -/
theorem generate_outcome_ledger : ledgerRequest.table.EntriesEnd ∧ ledgerRequest.WellFormed
    ∧ ∃ outputs, (generate ledgerRequest).result = .ok outputs :=
  ⟨ledgerRequest_entriesEnd, ledgerRequest_wellFormed,
    (generate_outcome ledgerRequest_entriesEnd).1.mpr ledgerRequest_wellFormed⟩

end ProtoSwift
