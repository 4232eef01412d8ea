/-
**What the order of the files decides.**

The files of a request are registered in the order in which they are supplied, and a name means its first
declaration. So files that are supplied later can only give a meaning to names that had none, and files that
declare different names can be supplied in any order.

* `result_generate` — all files of a request are registered before the first one is generated;
* `Schema.Request.ReferencesDeclared` — no message field of a request refers to a message outside it;
* `generate_append` — further files do not change what is generated for such a request;
* `generate_perm` — if no two files declare the same name, their order changes nothing.
-/

import ProtoSwift.Proofs.Symbol.Registration
import ProtoSwift.Proofs.Symbol.Service

namespace ProtoSwift

open Schema Schema.Request

variable {failures : Prop} {request other : Request} {table second : SymbolTable}

/-! ### Requests with known eras -/

/-- A request with a file of an unknown era does not get as far as to generate anything. -/
theorem isSupported_of_generate {outputs : List OutputFile}
    (generated : (generate request).result = .ok outputs) : ∀ file ∈ request.files, file.IsSupported := by
  intro file supplied
  unfold generate at generated
  rw [Run.result_bind] at generated
  obtain ⟨unit, made, _⟩ := bind_eq_ok.mp generated
  have passed := (CompilationUnit.reports_ofRequest request).succeeds_iff.mp ⟨unit, made⟩
  have checked := passed (.era file) (List.mem_cons_of_mem _ (List.mem_map.mpr ⟨file, supplied, rfl⟩))
  by_contra unknown
  unfold File.IsSupported at unknown
  simp only [not_or] at unknown
  obtain ⟨unset, rest⟩ := unknown
  obtain ⟨text, declared⟩ := Option.ne_none_iff_exists'.mp unset
  exact checked _ (.era declared (by simpa [declared] using rest))

/-- The compilation unit of a request with known eras. -/
def Schema.Request.unitWith (request : Request) (options : Options) : CompilationUnit :=
  { options, symbols := request.table, requested := request.filesToGenerate }

/-- **All files are registered before the first one is generated.** -/
theorem result_generate (supported : ∀ file ∈ request.files, file.IsSupported) :
    (generate request).result = (do
      let options ← Options.parse request.parameter
      (request.unitWith options).generateFiles.result) := by
  unfold generate
  rw [Run.result_bind, CompilationUnit.result_ofRequest, SymbolTable.result_ofFiles supported]
  cases Options.parse request.parameter <;> rfl

/-- Two requests that ask for the same files have the same outcome if the table of the second one serves in
place of that of the first one. -/
theorem matches_generate (request other : Request) (supported : ∀ file ∈ request.files, file.IsSupported)
    (otherSupported : ∀ file ∈ other.files, file.IsSupported)
    (sameParameter : other.parameter = request.parameter)
    (sameNames : other.filesToGenerate = request.filesToGenerate)
    (serves : request.table.Serves failures other.table) :
    Matches failures (generate request).result (generate other).result := by
  rw [result_generate supported, result_generate otherSupported, sameParameter]
  refine (Matches.refl _).bind fun options _ => ?_
  exact CompilationUnit.matches_generateFiles ⟨serves, rfl, sameNames⟩

/-! ### Further files -/

/-- **No reference leaves the request**: what a message or group field of it refers to is one of its messages.
It does not matter which one, or how often the name is declared. -/
def Schema.Request.ReferencesDeclared (request : Request) : Prop :=
  ∀ node ∈ request.table.messages, ∀ field ∈ node.fields, field.refersToMessage = true →
    ∃ target ∈ request.table.messages, target.fullName.text = field.typeName

theorem SymbolTable.exists_message?_of_mem {target : MessageNode} (registered : target ∈ table.messages) :
    ∃ node, table.message? target.fullName.text = some node := by
  rw [← Option.isSome_iff_exists]
  exact List.find?_isSome.mpr ⟨target, registered, by simp⟩

/-- Each message and group field of a request means a message. -/
theorem exists_message?_of_mem_references (declared : request.ReferencesDeclared) {node : MessageNode}
    (registered : node ∈ request.table.messages) {path : String} (referred : path ∈ node.references) :
    ∃ target, request.table.message? path = some target := by
  obtain ⟨field, among, rfl⟩ := List.mem_map.mp referred
  obtain ⟨fieldAmong, refers⟩ := List.mem_filter.mp among
  obtain ⟨target, targetRegistered, named⟩ := declared node registered field fieldAmong refers
  rw [← named]
  exact SymbolTable.exists_message?_of_mem targetRegistered

/-- **The first declaration wins**, so a table with further files answers as the table without them, as far as
that has an answer. -/
theorem SymbolTable.serves_append (table : SymbolTable) (further : List FileNode)
    (declared : ∀ node ∈ table.messages, ∀ path ∈ node.references,
      ∃ target, table.message? path = some target) :
    table.Serves False ⟨table.files ++ further⟩ := by
  have messages : ∀ path node, table.message? path = some node →
      message? ⟨table.files ++ further⟩ path = some node := by
    intro path node found
    show List.find? _ (List.flatMap _ (table.files ++ further)) = _
    rw [List.flatMap_append, List.find?_append]
    show (table.message? path).or _ = _
    rw [found, Option.some_or]
  refine ⟨fun name file found => ?_, messages, fun path node found => ?_, fun path value name found => ?_,
    fun node registered path referred => ?_, False.elim⟩
  · show List.find? _ (table.files ++ further) = _
    rw [List.find?_append]
    show (table.file? name).or _ = _
    rw [found, Option.some_or]
  · show List.find? _ (List.flatMap _ (table.files ++ further)) = _
    rw [List.flatMap_append, List.find?_append]
    show (table.enum? path).or _ = _
    rw [found, Option.some_or]
  · unfold resolveCase enumsNamed enums at found ⊢
    rw [List.flatMap_append, List.filter_append, List.findSome?_append]
    split at found
    · rename_i first firstFound
      rw [firstFound]
      exact found
    · cases found
  · obtain ⟨target, found⟩ := declared node registered path referred
    rw [found, messages path target found]

/-- **Further files do no harm.** They may be of any known era and declare any names, also those of files,
messages and enumerations that the request declares itself: what is generated stays the same. -/
theorem generate_append {outputs : List OutputFile} (generated : (generate request).result = .ok outputs)
    (declared : request.ReferencesDeclared) (further : List File)
    (supported : ∀ file ∈ further, file.IsSupported) :
    (generate { request with files := request.files ++ further }).result = .ok outputs := by
  have known := isSupported_of_generate generated
  have allKnown : ∀ file ∈ request.files ++ further, file.IsSupported := by
    intro file among
    rcases List.mem_append.mp among with early | late
    · exact known file early
    · exact supported file late
  have serves : request.table.Serves False (table { request with files := request.files ++ further }) := by
    unfold table
    rw [List.map_append]
    exact SymbolTable.serves_append request.table _ fun node registered path referred =>
      exists_message?_of_mem_references declared registered referred
  have same := matches_generate request { request with files := request.files ++ further } known allKnown rfl
    rfl serves
  exact same.value outputs generated

/-- A file that declares the names of the ledger's file once more, with other fields. -/
def rivalFile : File :=
  { name? := some "bank.proto", package? := some "bank", era? := some "proto3"
    messages := [{ name? := some "Account" }, { name? := some "Ledger", fields := [balanceSchema] }] }

theorem ledgerRequest_referencesDeclared : ledgerRequest.ReferencesDeclared := by
  unfold ReferencesDeclared
  decide

theorem exists_generate_ledgerRequest : ∃ outputs, (generate ledgerRequest).result = .ok outputs := by
  have passed := (wellFormed_iff ledgerRequest_entriesEnd).mp ledgerRequest_wellFormed
  exact (reports_generate ledgerRequest_entriesEnd).succeeds_iff.mpr passed

/-- The rival of the ledger's file does not change what is generated for the ledger. -/
theorem generate_append_rival : ledgerRequest.ReferencesDeclared ∧ rivalFile.IsSupported
    ∧ ∃ outputs, (generate ledgerRequest).result = .ok outputs
      ∧ (generate { ledgerRequest with files := [ledgerFile, rivalFile] }).result = .ok outputs := by
  have supported : rivalFile.IsSupported := .inr (.inr (.inr rfl))
  obtain ⟨outputs, generated⟩ := exists_generate_ledgerRequest
  refine ⟨ledgerRequest_referencesDeclared, supported, outputs, generated, ?_⟩
  refine generate_append generated ledgerRequest_referencesDeclared [rivalFile] fun file among => ?_
  obtain rfl := List.mem_singleton.mp among
  exact supported

/-! ### Files in another order -/

/-- Elements with different keys are found under a key in any order: there is one at most. -/
theorem filter_eq_of_perm {α β : Type} {key : α → β} {elements others : List α} {wanted : α → Bool}
    (perm : elements.Perm others) (unique : (elements.map key).Nodup)
    (sameKey : ∀ first second, wanted first = true → wanted second = true → key first = key second) :
    others.filter wanted = elements.filter wanted := by
  have filtered := perm.filter wanted
  have short : ∀ first second rest, elements.filter wanted ≠ first :: second :: rest := by
    intro first second rest parts
    have keys : ((elements.filter wanted).map key).Nodup := unique.sublist (List.filter_sublist.map key)
    have firstWanted := List.mem_filter.mp (parts ▸ List.mem_cons_self : first ∈ elements.filter wanted)
    have secondWanted := List.mem_filter.mp
      (parts ▸ List.mem_cons_of_mem _ List.mem_cons_self : second ∈ elements.filter wanted)
    have same := sameKey first second firstWanted.2 secondWanted.2
    rw [parts] at keys
    simp [same] at keys
  cases parts : elements.filter wanted with
  | nil =>
    rw [parts] at filtered
    exact filtered.nil_eq.symm
  | cons first rest =>
    cases rest with
    | nil =>
      rw [parts] at filtered
      exact List.perm_singleton.mp filtered.symm
    | cons second rest => exact absurd parts (short first second rest)

theorem find?_eq_of_perm {α β : Type} {key : α → β} {elements others : List α} {wanted : α → Bool}
    (perm : elements.Perm others) (unique : (elements.map key).Nodup)
    (sameKey : ∀ first second, wanted first = true → wanted second = true → key first = key second) :
    others.find? wanted = elements.find? wanted := by
  rw [← List.head?_filter, ← List.head?_filter, filter_eq_of_perm perm unique sameKey]

/-- **Tables with the same files answer alike if every name is declared once.** -/
theorem SymbolTable.serves_perm (perm : table.files.Perm second.files)
    (fileNames : (table.files.map FileNode.name).Nodup)
    (messageNames : (table.messages.map (·.fullName)).Nodup)
    (enumNames : (table.enums.map (·.fullName)).Nodup) : table.Serves failures second := by
  have files : second.file? = table.file? := by
    funext name
    refine find?_eq_of_perm perm fileNames fun first other firstNamed otherNamed => ?_
    rw [decide_eq_true_eq] at firstNamed otherNamed
    rw [firstNamed, otherNamed]
  have messages : second.message? = table.message? := by
    funext path
    refine find?_eq_of_perm (perm.flatMap_right _) messageNames fun first other firstNamed otherNamed => ?_
    rw [decide_eq_true_eq] at firstNamed otherNamed
    rw [← FullName.text_inj, firstNamed, otherNamed]
  have named : second.enumsNamed = table.enumsNamed := by
    funext path
    refine filter_eq_of_perm (perm.flatMap_right _) enumNames fun first other firstNamed otherNamed => ?_
    rw [decide_eq_true_eq] at firstNamed otherNamed
    rw [← FullName.text_inj, firstNamed, otherNamed]
  have enums : second.enum? = table.enum? := by
    funext path
    have heads := congrArg List.head? (congrFun named path)
    unfold enumsNamed at heads
    rwa [List.head?_filter, List.head?_filter] at heads
  have cases : second.resolveCase = table.resolveCase := by
    funext path value
    unfold resolveCase
    rw [named]
  refine ⟨fun name file found => ?_, fun path node found => ?_, fun path node found => ?_,
    fun path value name found => ?_, fun node registered path referred => ?_,
    fun _ => ⟨files, messages, enums, cases⟩⟩
  · rw [files, found]
  · rw [messages, found]
  · rw [enums, found]
  · rw [cases, found]
  · rw [messages]

/-- **The order of the files does not matter** if no two of them have the same name, and no two messages and no
two enumerations have the same full name: the same files are generated, or the same error is reported. This
holds whether or not a map entry is inside itself. -/
theorem generate_perm {files : List File} (perm : request.files.Perm files)
    (supported : ∀ file ∈ request.files, file.IsSupported)
    (fileNames : (request.files.map File.name).Nodup)
    (messageNames : (request.table.messages.map (·.fullName)).Nodup)
    (enumNames : (request.table.enums.map (·.fullName)).Nodup) :
    (generate { request with files }).result = (generate request).result := by
  have stillSupported : ∀ file ∈ files, file.IsSupported :=
    fun file among => supported file (perm.mem_iff.mpr among)
  have serves : request.table.Serves True (table { request with files }) := by
    refine SymbolTable.serves_perm (perm.map _) ?_ messageNames enumNames
    show ((request.files.map _).map _).Nodup
    rw [List.map_map]
    exact fileNames
  have same := matches_generate request { request with files } supported stillSupported rfl rfl serves
  exact same.failure trivial

/-- A report on a ledger, with a verdict. -/
def auditFile : File :=
  { name? := some "audit.proto", package? := some "audit", era? := some "proto3"
    messages := [
      { name? := some "Report"
        fields := [
          { name? := some "ledger", number? := some 1, label? := some 1, type? := some 11,
            typeName? := some ".bank.Ledger" }]
        enumerations := [
          { name? := some "Verdict", values := [{ name? := some "SOUND", number? := some 0 }] }] }] }

/-- A request for a file that refers to a later one. -/
def auditRequest : Request :=
  { filesToGenerate := ["audit.proto"], files := [auditFile, ledgerFile] }

/-- The file with the ledger may as well be supplied first. -/
theorem generate_perm_audit : (∀ file ∈ auditRequest.files, file.IsSupported)
    ∧ (auditRequest.files.map File.name).Nodup
    ∧ (auditRequest.table.messages.map (·.fullName)).Nodup
    ∧ (auditRequest.table.enums.map (·.fullName)).Nodup
    ∧ (generate { auditRequest with files := [ledgerFile, auditFile] }).result
      = (generate auditRequest).result := by
  have supported : ∀ file ∈ auditRequest.files, file.IsSupported := by
    intro file among
    rcases List.mem_cons.mp among with rfl | among
    · exact .inr (.inr (.inr rfl))
    · obtain rfl := List.mem_singleton.mp among
      exact .inl rfl
  have fileNames : (auditRequest.files.map File.name).Nodup := by decide
  have messageNames : (auditRequest.table.messages.map (·.fullName)).Nodup := by decide
  have enumNames : (auditRequest.table.enums.map (·.fullName)).Nodup := by decide
  exact ⟨supported, fileNames, messageNames, enumNames,
    generate_perm (.swap ledgerFile auditFile []) supported fileNames messageNames enumNames⟩

end ProtoSwift
