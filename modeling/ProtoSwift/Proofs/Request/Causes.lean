/-
**A run fails only with causes that are found in the request.**

Computations in a row fail with the causes of the first one or with those of the others. What is found about a field
is a fault of the schema, so the same holds of messages and of whole files. Only the step from bytes to a request
finds that the bytes are not a request.

* `FailsOnlyWith` — a computation ends in a value, or in one of some causes;
* `FailsOnlyWith.bind`, `Run.failsOnlyWith_bind`, `Run.failsOnlyWith_mapM` — computations in a row;
* `FieldPlan.failsOnlyWith_make`, `SourceFile.failsOnlyWith_ofNode` — fields and files fail with faults of the schema;
* `generate_failsOnlyWith` — whole runs fail with anything but bytes that are not a request.
-/

import ProtoSwift.Proofs.Request.Reporting

namespace ProtoSwift

variable {α β : Type} {allowed : Error → Prop}

/-! ### Computations in a row -/

/-- **A computation fails only with the allowed causes.** -/
def FailsOnlyWith (allowed : Error → Prop) (result : Except Error α) : Prop :=
  ∀ cause, result = .error cause → allowed cause

theorem failsOnlyWith_ok (value : α) : FailsOnlyWith allowed (.ok value) :=
  nofun

theorem failsOnlyWith_error {cause : Error} (fine : allowed cause) :
    FailsOnlyWith allowed (.error cause : Except Error α) := by
  intro other same
  cases same
  exact fine

namespace FailsOnlyWith

theorem mono {more : Error → Prop} {result : Except Error α} (fails : FailsOnlyWith allowed result)
    (wider : ∀ cause, allowed cause → more cause) : FailsOnlyWith more result :=
  fun cause failed => wider cause (fails cause failed)

theorem bind {first : Except Error α} {next : α → Except Error β} (fails : FailsOnlyWith allowed first)
    (failsNext : ∀ value, FailsOnlyWith allowed (next value)) : FailsOnlyWith allowed (first >>= next) := by
  cases first with
  | error cause => exact failsOnlyWith_error (fails cause rfl)
  | ok value => exact failsNext value

theorem map {result : Except Error α} (change : α → β) (fails : FailsOnlyWith allowed result) :
    FailsOnlyWith allowed (result.map change) := by
  cases result with
  | error cause => exact failsOnlyWith_error (fails cause rfl)
  | ok value => exact failsOnlyWith_ok (change value)

theorem mapM {step : α → Except Error β} (fails : ∀ element, FailsOnlyWith allowed (step element))
    (elements : List α) : FailsOnlyWith allowed (elements.mapM step) := by
  induction elements with
  | nil => exact failsOnlyWith_ok []
  | cons element rest inRest =>
    rw [List.mapM_cons]
    exact (fails element).bind fun _ => inRest.bind fun _ => failsOnlyWith_ok _

end FailsOnlyWith

namespace Run

theorem failsOnlyWith_bind {first : Run α} {next : α → Run β} (fails : FailsOnlyWith allowed first.result)
    (failsNext : ∀ value, FailsOnlyWith allowed (next value).result) :
    FailsOnlyWith allowed (first >>= next).result := by
  rw [result_bind]
  exact fails.bind failsNext

theorem failsOnlyWith_mapM {step : α → Run β} (fails : ∀ element, FailsOnlyWith allowed (step element).result)
    (elements : List α) : FailsOnlyWith allowed (elements.mapM step).result := by
  induction elements with
  | nil => exact failsOnlyWith_ok []
  | cons element rest inRest =>
    rw [List.mapM_cons]
    exact failsOnlyWith_bind (fails element) fun _ => failsOnlyWith_bind inRest fun _ => failsOnlyWith_ok _

theorem failsOnlyWith_foldlM {step : β → α → Run β}
    (fails : ∀ value element, FailsOnlyWith allowed (step value element).result) (value : β) (elements : List α) :
    FailsOnlyWith allowed (elements.foldlM step value).result := by
  induction elements generalizing value with
  | nil => exact failsOnlyWith_ok value
  | cons element rest inRest =>
    rw [List.foldlM_cons]
    exact failsOnlyWith_bind (fails value element) inRest

end Run

/-! ### Fields -/

/-- The schema is at fault. -/
def Error.InSchema (cause : Error) : Prop :=
  cause.isSchemaViolation = true

namespace SymbolTable

variable (table : SymbolTable) (path : String)

theorem failsOnlyWith_resolveMessage : FailsOnlyWith Error.InSchema (table.resolveMessage path) := by
  unfold resolveMessage
  split
  · exact failsOnlyWith_ok _
  · exact failsOnlyWith_error rfl

theorem failsOnlyWith_resolveEnum : FailsOnlyWith Error.InSchema (table.resolveEnum path) := by
  unfold resolveEnum
  split
  · exact failsOnlyWith_ok _
  · exact failsOnlyWith_error rfl

end SymbolTable

theorem FieldType.failsOnlyWith_resolveInside (table : SymbolTable) (opened : List FullName)
    (field : Schema.Field) : FailsOnlyWith Error.InSchema (resolveInside table opened field) := by
  fun_induction resolveInside table opened field with
  | case1 | case5 => exact failsOnlyWith_ok _
  | case2 opened field => exact (table.failsOnlyWith_resolveEnum field.typeName).map _
  | case3 opened field => exact (table.failsOnlyWith_resolveMessage field.typeName).map _
  | case6 opened field _ node _ _ _ key value _ _ inKey inValue =>
    exact inKey.bind fun _ => inValue.bind fun _ => failsOnlyWith_ok _
  | case4 | case7 | case8 => exact failsOnlyWith_error rfl

theorem ResolvedField.failsOnlyWith_declaredDefault (table : SymbolTable) (field : ResolvedField) :
    FailsOnlyWith Error.InSchema (field.declaredDefault table) := by
  intro cause failed
  cases declaredDefault_eq_error_iff.mp failed with
  | bytes => rfl
  | enumeration => rfl

variable (unit : CompilationUnit)

/-- **What keeps a field from having a plan is a fault of the schema.** -/
theorem FieldPlan.failsOnlyWith_make (era : Era) (names : Swift.FieldNames) (comments : String) (heap : Bool)
    (schema : Schema.Field) :
    FailsOnlyWith Error.InSchema (make unit era names comments heap schema) := by
  rw [make_eq]
  refine ((FieldType.failsOnlyWith_resolveInside _ _ _).bind fun _ => failsOnlyWith_ok _).bind fun field => ?_
  exact (field.failsOnlyWith_declaredDefault unit.symbols).bind fun _ => failsOnlyWith_ok _

/-! ### Messages and files -/

theorem Member.failsOnlyWith_plan (file : FileNode) (node : MessageNode) (member : Member) :
    FailsOnlyWith Error.InSchema (plan unit file node member).result := by
  cases member with
  | skipped field => exact failsOnlyWith_ok none
  | kept position field names =>
    show FailsOnlyWith _ (Run.ofExcept _ >>= fun plan => pure (some plan)).result
    exact Run.failsOnlyWith_bind (FieldPlan.failsOnlyWith_make unit _ _ _ _ _) fun _ => failsOnlyWith_ok _

theorem failsOnlyWith_fieldPlans (file : FileNode) (node : MessageNode) :
    FailsOnlyWith Error.InSchema (fieldPlans unit file node).result :=
  Run.failsOnlyWith_bind (Run.failsOnlyWith_mapM (Member.failsOnlyWith_plan unit file node) _)
    fun _ => failsOnlyWith_ok _

namespace StructDecl

mutual

theorem failsOnlyWith_ofNode (file : FileNode) :
    (node : MessageNode) → FailsOnlyWith Error.InSchema (ofNode unit file node).result
  | ⟨_, _, _, _, messages, _⟩ => by
    unfold ofNode
    refine Run.failsOnlyWith_bind (failsOnlyWith_fieldPlans unit file _) fun _ => ?_
    exact Run.failsOnlyWith_bind (failsOnlyWith_ofNodes file messages) fun _ => failsOnlyWith_ok _

theorem failsOnlyWith_ofNodes (file : FileNode) :
    (nodes : List MessageNode) → FailsOnlyWith Error.InSchema (ofNodes unit file nodes).result
  | [] => by
    unfold ofNodes
    exact failsOnlyWith_ok []
  | node :: rest => by
    unfold ofNodes
    split
    · exact failsOnlyWith_ofNodes file rest
    · refine Run.failsOnlyWith_bind (failsOnlyWith_ofNode file node) fun _ => ?_
      exact Run.failsOnlyWith_bind (failsOnlyWith_ofNodes file rest) fun _ => failsOnlyWith_ok _

end

end StructDecl

/-- **What keeps a file from being generated is a fault of the schema.** -/
theorem SourceFile.failsOnlyWith_ofNode (file : FileNode) :
    FailsOnlyWith Error.InSchema (ofNode unit file).result :=
  Run.failsOnlyWith_bind (Run.failsOnlyWith_mapM (StructDecl.failsOnlyWith_ofNode unit file) _)
    fun _ => failsOnlyWith_ok _

/-! ### Whole runs -/

/-- The cause is found in a request, and not in the bytes of one. -/
def Error.InRequest (cause : Error) : Prop :=
  ∀ fault, cause ≠ .undecodable fault

theorem Error.InSchema.inRequest {cause : Error} (inSchema : cause.InSchema) : cause.InRequest := by
  rintro fault rfl
  cases inSchema

theorem Setting.failsOnlyWith_parse (pair : List Char) : FailsOnlyWith Error.InRequest (parse pair) := by
  unfold parse
  split
  · exact failsOnlyWith_error nofun
  · unfold ofKeyValue
    dsimp only
    split
    · split
      · exact failsOnlyWith_ok _
      · exact failsOnlyWith_error nofun
    · split
      · split
        · exact failsOnlyWith_ok _
        · exact failsOnlyWith_error nofun
      · exact failsOnlyWith_error nofun

theorem Options.failsOnlyWith_parse (parameter : String) : FailsOnlyWith Error.InRequest (parse parameter) :=
  (FailsOnlyWith.mapM Setting.failsOnlyWith_parse _).bind fun _ => failsOnlyWith_ok _

theorem Era.failsOnlyWith_ofDeclared (declared? : Option String) :
    FailsOnlyWith Error.InSchema (ofDeclared declared?) := by
  unfold ofDeclared
  split
  · exact failsOnlyWith_ok _
  · exact failsOnlyWith_ok _
  · exact failsOnlyWith_ok _
  · exact failsOnlyWith_ok _
  · exact failsOnlyWith_error rfl

theorem SymbolTable.failsOnlyWith_add (table : SymbolTable) (file : Schema.File) :
    FailsOnlyWith Error.InSchema (table.add file).result := by
  rw [result_add]
  exact (Era.failsOnlyWith_ofDeclared file.era?).bind fun _ => failsOnlyWith_ok _

namespace CompilationUnit

theorem failsOnlyWith_ofRequest (request : Schema.Request) :
    FailsOnlyWith Error.InRequest (ofRequest request).result := by
  have files : FailsOnlyWith Error.InRequest (SymbolTable.ofFiles request.files).result :=
    (Run.failsOnlyWith_foldlM SymbolTable.failsOnlyWith_add _ _).mono fun _ => Error.InSchema.inRequest
  unfold ofRequest
  refine Run.failsOnlyWith_bind (failsOnlyWith_ok ()) fun _ => ?_
  refine Run.failsOnlyWith_bind (Options.failsOnlyWith_parse request.parameter) fun _ => ?_
  exact Run.failsOnlyWith_bind files fun _ => failsOnlyWith_ok _

theorem failsOnlyWith_generateFile (name : String) :
    FailsOnlyWith Error.InRequest (unit.generateFile name).result := by
  unfold generateFile
  split
  · exact failsOnlyWith_error nofun
  · rename_i file _
    have source : FailsOnlyWith Error.InRequest (SourceFile.ofNode unit file).result :=
      (SourceFile.failsOnlyWith_ofNode unit file).mono fun _ => Error.InSchema.inRequest
    exact Run.failsOnlyWith_bind source fun _ => failsOnlyWith_ok _

end CompilationUnit

/-- **A run fails only with causes that are found in the request.** -/
theorem generate_failsOnlyWith (request : Schema.Request) :
    FailsOnlyWith Error.InRequest (generate request).result :=
  Run.failsOnlyWith_bind (CompilationUnit.failsOnlyWith_ofRequest request)
    fun unit => Run.failsOnlyWith_mapM unit.failsOnlyWith_generateFile _

end ProtoSwift
