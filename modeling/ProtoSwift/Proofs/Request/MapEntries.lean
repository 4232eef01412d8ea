/-
**Map entries in generated files.**

The entries of a map are messages, but a map field is a dictionary, so no code needs a struct for them. A message
leaves out the map entries that it declares, with all that is in them. A file makes no such choice among the
messages that it declares itself. So a map entry has a struct exactly if its file declares it directly.

* `FileNode.LeavesOutNestedEntries` — code with structs for all messages but the map entries inside messages;
* `CompilationUnit.leaves_out_nested_entries` — the code that is generated for a file is such code;
* `CompilationUnit.declares_stray_entry` — a map entry outside of all messages has a struct.
-/

import ProtoSwift.Proofs.Request.TypePaths

namespace ProtoSwift

open Schema Schema.Request Swift

/-! ### The choice of messages -/

/-- **Code that leaves out the map entries inside messages**, and nothing else. -/
structure FileNode.LeavesOutNestedEntries (file : FileNode) (code : Code) : Prop where
  /-- The code declares the types that are shown one by one, and no others. -/
  declared : Code.declared [] code = file.shown.map (·.declaredIn [])
  /-- A map entry is not shown if it is inside a message, and nothing in it is. -/
  nested : ∀ place ∈ file.shown, ∀ entry ∈ place.messages.tail, entry.isMapEntry = false
  /-- Any other type is shown. -/
  others : ∀ place ∈ file.places, (∀ entry ∈ place.messages.tail, entry.isMapEntry = false) → place ∈ file.shown
  /-- There is a struct for a map entry that the file declares directly. -/
  direct : ∀ entry ∈ file.messages, entry.isMapEntry = true →
    ⟨[], .struct (nameInParent entry.swiftName)⟩ ∈ Code.declared [] code

namespace FileNode

variable {unit : CompilationUnit} {file : FileNode} {source : SourceFile}

/-- A message that a file declares directly is shown. -/
theorem mem_shown_of_mem_messages {node : MessageNode} (declared : node ∈ file.messages) :
    ⟨[], .message node⟩ ∈ file.shown := by
  have placed : ⟨[], .message node⟩ ∈ node.places := MessageNode.mem_places_iff.mpr (Or.inl rfl)
  refine mem_shown_iff.mpr ⟨mem_places_iff.mpr (Or.inl ⟨node, declared, placed⟩), ?_⟩
  exact fun _ among => absurd among List.not_mem_nil

/-- **The code of a file leaves out the map entries inside messages**, and nothing else. -/
theorem leavesOutNestedEntries_ofNode (made : (SourceFile.ofNode unit file).result = .ok source) :
    file.LeavesOutNestedEntries source.code := by
  have declared := SourceFile.declared_ofNode made
  refine ⟨declared, fun place shown => (mem_shown_iff.mp shown).2,
    fun place placed outside => mem_shown_iff.mpr ⟨placed, outside⟩, fun entry direct _ => ?_⟩
  rw [declared]
  exact List.mem_map.mpr ⟨_, mem_shown_of_mem_messages direct, rfl⟩

end FileNode

/-! ### Generated files -/

/-- A map entry that no message declares. -/
def strayEntrySchema : Schema.Message :=
  { name? := some "AccountsEntry"
    fields := [
      { name? := some "key", number? := some 1, label? := some 1, type? := some 9 },
      { name? := some "value", number? := some 2, label? := some 1, type? := some 5 }]
    options? := some { entryOfMap? := some true } }

def strayFile : Schema.File :=
  { name? := some "entry.proto", package? := some "bank", era? := some "proto2", messages := [strayEntrySchema] }

/-- A request for a file with a map entry outside of all messages. -/
def strayRequest : Request :=
  { filesToGenerate := ["entry.proto"], files := [strayFile] }

theorem mem_fields_of_keeps_strayRequest {field : Field} (kept : strayRequest.Keeps field) :
    field ∈ strayEntrySchema.fields := by
  obtain ⟨name, requested, file, found, message, generates, member, _⟩ := kept
  obtain rfl : name = "entry.proto" := List.mem_singleton.mp requested
  have first : strayRequest.file? "entry.proto" = some strayFile := rfl
  rw [first] at found
  cases found
  have among : message ∈ [strayEntrySchema] := File.mem_generated_iff.mpr generates
  obtain rfl := List.mem_singleton.mp among
  exact member

theorem strayRequest_entriesEnd : strayRequest.table.EntriesEnd :=
  SymbolTable.entriesEnd_of_flat (by decide)

theorem strayRequest_wellFormed : strayRequest.WellFormed := by
  have undeclared : ∀ field ∈ strayEntrySchema.fields, field.default? = none := by decide
  have scalar : ∀ field ∈ strayEntrySchema.fields,
      field.kind = .scalar .string ∨ field.kind = .scalar .int32 := by decide
  refine ⟨⟨_, rfl⟩, fun file supplied => ?_, fun name requested => ?_, fun field kept => ?_,
    fun field kept => ⟨fun text _ declared => ?_, fun text _ declared => ?_⟩⟩
  · obtain rfl := List.mem_singleton.mp supplied
    exact .inr (.inr (.inl rfl))
  · obtain rfl := List.mem_singleton.mp requested
    exact ⟨strayFile, List.mem_singleton.mpr rfl, rfl⟩
  · rcases scalar field (mem_fields_of_keeps_strayRequest kept) with kind | kind <;> exact ⟨_, .scalar kind⟩
  · rw [undeclared field (mem_fields_of_keeps_strayRequest kept)] at declared
    cases declared
  · rw [undeclared field (mem_fields_of_keeps_strayRequest kept)] at declared
    cases declared

namespace CompilationUnit

variable {request : Request} {unit : CompilationUnit} {name : String} {output : OutputFile}

/-- **A map entry has a struct exactly if its file declares it directly.** What is generated for a name declares
the types of the file with that name, but for the map entries inside messages and what is in these. -/
theorem leaves_out_nested_entries (made : (ofRequest request).result = .ok unit)
    (generated : (unit.generateFile name).result = .ok output) : ∃ file source,
      request.file? name = some file
        ∧ (SourceFile.ofNode unit (FileNode.declare (eraOf file) file)).result = .ok source
        ∧ output.content = Printer.render source.code
        ∧ (FileNode.declare (eraOf file) file).LeavesOutNestedEntries source.code := by
  obtain ⟨file, source, found, sourceMade, content⟩ := exists_source_of_generateFile made generated
  exact ⟨file, source, found, sourceMade, content, FileNode.leavesOutNestedEntries_ofNode sourceMade⟩

/-- The entries of the map from owners to accounts have no struct. -/
theorem leaves_out_nested_entries_ledger : ∃ unit output,
    (ofRequest ledgerRequest).result = .ok unit
      ∧ (unit.generateFile "bank.proto").result = .ok output
      ∧ accountsEntryNode.isMapEntry = true
      ∧ ∃ source : SourceFile, output.content = Printer.render source.code
        ∧ ⟨[some (.struct "Bank_Ledger")], .struct "AccountsEntry"⟩ ∉ Code.declared [] source.code := by
  obtain ⟨outputs, allGenerated⟩ := exists_generate_ledgerRequest
  obtain ⟨unit, made, output, _, generated⟩ := exists_generateFile_of_generate allGenerated List.mem_cons_self
  obtain ⟨file, source, found, _, content, leavesOut⟩ := leaves_out_nested_entries made generated
  have first : ledgerRequest.file? "bank.proto" = some ledgerFile := rfl
  obtain rfl := Option.some.inj (first.symm.trans found)
  refine ⟨unit, output, made, generated, by decide, source, content, ?_⟩
  rw [leavesOut.declared]
  decide +kernel

/-- **The stray map entry has a struct**, though it is marked as the entry of a map. -/
theorem declares_stray_entry : ∃ unit output file source,
    (ofRequest strayRequest).result = .ok unit
      ∧ (unit.generateFile "entry.proto").result = .ok output
      ∧ strayRequest.file? "entry.proto" = some file
      ∧ (SourceFile.ofNode unit (FileNode.declare (eraOf file) file)).result = .ok source
      ∧ output.content = Printer.render source.code
      ∧ (FileNode.declare (eraOf file) file).messages.map (·.isMapEntry) = [true]
      ∧ Code.declared [] source.code = [⟨[], .struct "Bank_AccountsEntry"⟩] := by
  obtain ⟨outputs, allGenerated⟩ := (generate_outcome strayRequest_entriesEnd).1.mpr strayRequest_wellFormed
  obtain ⟨unit, made, output, _, generated⟩ := exists_generateFile_of_generate allGenerated List.mem_cons_self
  obtain ⟨file, source, found, sourceMade, content⟩ := exists_source_of_generateFile made generated
  have first : strayRequest.file? "entry.proto" = some strayFile := rfl
  obtain rfl := Option.some.inj (first.symm.trans found)
  refine ⟨unit, output, strayFile, source, made, generated, found, sourceMade, content, by decide, ?_⟩
  rw [SourceFile.declared_ofNode sourceMade]
  decide +kernel

end CompilationUnit

end ProtoSwift
