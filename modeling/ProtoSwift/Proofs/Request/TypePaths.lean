/-
**Every type is declared once, at the path by which it is referred to.**

What a file declares follows from its code, and what fields refer to follows from their plans. Both use the
Swift names of the types, one part by part and the other as a whole. So the reader of a generated file finds
every type where the fields of all files expect it.

* `FieldPlan.Refers` — the names by which a field refers to its type, or to the parts of a map;
* `FieldPlan.refers_of_make` — a field refers to declared types by their Swift names;
* `FileNode.DeclaresInPlace` — code that declares the types of a file in their places;
* `CompilationUnit.declares_in_place` — the code that is generated for a file does so.
-/

import ProtoSwift.Proofs.Decl.TypeDeclarations
import ProtoSwift.Proofs.Request.FileOrder
import Mathlib

namespace ProtoSwift

open Schema Schema.Request Swift

/-! ### References to types -/

namespace FieldType

/-- The declared type that the values of a field have. A map has entries, whose parts have types. -/
def declaredType? : FieldType → Option TypeNode
  | message node | group node => some (.message node)
  | enumeration node => some (.enumeration node)
  | scalar _ | map .. => none

/-- A declared type is named by its Swift name, as a type and as a codec. -/
theorem text_of_declaredType? {type : FieldType} {node : TypeNode} (declared : type.declaredType? = some node) :
    type.elementType.text = node.swiftName ∧ type.codecType.text = node.swiftName := by
  cases type with
  | message _ | group _ | enumeration _ =>
    cases declared
    exact ⟨rfl, rfl⟩
  | scalar _ | map _ _ _ => cases declared

end FieldType

namespace FieldPlan

/-- **The names by which a field refers to a type**: as the type of one value, as that of the property and of the
slot, as a codec, and, if the type is a message and the field is not repeated, as what the property reads while
no value is set and the field declares no default. -/
structure NamesType (plan : FieldPlan) (type : TypeNode) : Prop where
  element : plan.field.elementType.text = type.swiftName
  property : plan.field.propertyType.text
    = if plan.field.isRepeated then "[" ++ type.swiftName ++ "]" else type.swiftName
  slot : plan.field.slotType.text
    = if plan.field.isRepeated then "[" ++ type.swiftName ++ "]"
      else if plan.field.tracksPresence then type.swiftName ++ "?" else type.swiftName
  codec : plan.field.codecType.text = type.swiftName
  unset : type.message?.isSome = true → plan.field.isRepeated = false →
    plan.unsetValue.text = (plan.declaredDefault?.map Value.text).getD (type.swiftName ++ "()")

/-- The names by which a map field refers to the types of its parts. -/
structure NamesParts (plan : FieldPlan) (key value : FieldType) : Prop where
  element : plan.field.elementType.text
    = "Dictionary<" ++ key.elementType.text ++ "," ++ value.elementType.text ++ ">"
  property : plan.field.propertyType.text
    = "Dictionary<" ++ key.elementType.text ++ "," ++ value.elementType.text ++ ">"
  codec : plan.field.codecType.text = "SwiftProtobuf." ++ value.mapKind.codecName ++ "<" ++ key.codecType.text
    ++ "," ++ value.codecType.text ++ ">"
  parts : ∀ part ∈ [key, value], ∀ type, part.declaredType? = some type →
    part.elementType.text = type.swiftName ∧ part.codecType.text = type.swiftName

variable {unit : CompilationUnit} {era : Era} {names : FieldNames} {comments : String} {heap : Bool}
  {schema : Field} {plan : FieldPlan}

/-- **A field refers to the type of its values by the Swift name of the type.** -/
theorem namesType_of_make (made : make unit era names comments heap schema = .ok plan) {type : TypeNode}
    (refers : plan.field.type.declaredType? = some type) : plan.NamesType type := by
  have planned := planned_of_make made
  have noMap : plan.field.isMap = false := by
    unfold ResolvedField.isMap
    cases typed : plan.field.type with
    | scalar _ | message _ | group _ | enumeration _ => rfl
    | map _ _ _ =>
      rw [typed] at refers
      cases refers
  obtain ⟨element, codec⟩ := FieldType.text_of_declaredType? refers
  have property : plan.field.propertyType.text
      = if plan.field.isRepeated then "[" ++ type.swiftName ++ "]" else type.swiftName := by
    unfold ResolvedField.propertyType
    rw [noMap, Bool.not_false, Bool.and_true]
    by_cases repeated : plan.field.isRepeated = true
    · rw [if_pos repeated, if_pos repeated, ← element]
      rfl
    · rw [if_neg repeated, if_neg repeated]
      exact element
  refine ⟨element, property, ?_, codec, fun isMessage single => ?_⟩
  · unfold ResolvedField.slotType
    by_cases repeated : plan.field.isRepeated = true
    · rw [if_pos (by rw [repeated, Bool.true_or]), property, if_pos repeated, if_pos repeated]
    · rw [if_neg repeated]
      by_cases tracked : plan.field.tracksPresence = true
      · rw [if_neg (by simp [repeated, tracked]), if_pos tracked, ← element]
        rfl
      · rw [if_pos (by simp [tracked]), property, if_neg repeated, if_neg tracked]
  · rw [planned.unsetValue_eq]
    unfold ResolvedField.unsetOf
    rw [noMap, if_neg Bool.false_ne_true, single, if_neg Bool.false_ne_true]
    cases plan.declaredDefault? with
    | some value => rfl
    | none =>
      cases typed : plan.field.type with
      | message _ | group _ =>
        rw [typed] at refers
        cases refers
        rfl
      | enumeration _ =>
        rw [typed] at refers
        cases refers
        cases isMessage
      | scalar _ | map _ _ _ =>
        rw [typed] at refers
        cases refers

/-- **A map field refers to the types of its keys and values by their Swift names.** -/
theorem namesParts_of_map {entry : MessageNode} {key value : FieldType}
    (isMap : plan.field.type = .map entry key value) : plan.NamesParts key value := by
  have element : plan.field.elementType.text
      = "Dictionary<" ++ key.elementType.text ++ "," ++ value.elementType.text ++ ">" := by
    unfold ResolvedField.elementType
    rw [isMap]
    rfl
  have noArray : plan.field.propertyType = plan.field.elementType := by
    unfold ResolvedField.propertyType ResolvedField.isMap
    rw [isMap, Bool.not_true, Bool.and_false]
    exact if_neg Bool.false_ne_true
  refine ⟨element, noArray ▸ element, ?_, fun part _ type declared => FieldType.text_of_declaredType? declared⟩
  unfold ResolvedField.codecType
  rw [isMap]
  rfl

/-- **The names by which a field of a type refers to declared types**: to its own, or to those of the parts of a
map. -/
structure Refers (plan : FieldPlan) (type : FieldType) : Prop where
  declared : ∀ node, type.declaredType? = some node → plan.NamesType node
  map : ∀ entry key value, type = .map entry key value → plan.NamesParts key value

/-- **Fields refer to declared types by their Swift names**, whatever the file that they are in. -/
theorem refers_of_make (made : make unit era names comments heap schema = .ok plan) {type : FieldType}
    (resolves : FieldType.Resolves unit.symbols schema type) : plan.Refers type := by
  have same : plan.field.type = type := by
    obtain ⟨schemaSame, _, resolved⟩ := (planned_of_make made).resolved
    exact resolved.unique resolves
  refine ⟨fun node declared => ?_, fun entry key value isMap => ?_⟩
  · exact namesType_of_make made (same ▸ declared)
  · exact namesParts_of_map (same.trans isMap)

end FieldPlan

/-! ### Types in the code of a file -/

/-- **Code that declares the types of a file in their places.** The types that are shown are all but the map
entries declared inside messages and what is in these. -/
structure FileNode.DeclaresInPlace (file : FileNode) (code : Code) : Prop where
  /-- Every type of the file has a place. -/
  placed : (file.places.map (·.type)).Perm file.types
  /-- No type has two. -/
  once : (file.places.map (·.type.path)).Nodup
  /-- The code declares the types that are shown one by one, and no others. -/
  declared : Code.declared [] code = file.shown.map (·.declaredIn [])
  /-- A type is declared outside of all blocks, or directly inside the type whose message declares it. -/
  parent : ∀ place ∈ file.shown, ((place.declaredIn []).around = [] ∧ place.type ∈ file.children)
    ∨ ∃ above ∈ file.shown, ∃ node, above.type = .message node ∧ place.type ∈ node.children
      ∧ (place.declaredIn []).around = (above.declaredIn []).around ++ [some (above.declaredIn []).head]
  /-- The path that leads to the declaration of a type is its Swift name. -/
  path : ∀ place ∈ file.shown, (place.declaredIn []).path = place.type.swiftName

namespace FileNode

/-- What is around a type that is shown is shown too. -/
theorem mem_shown_of_around {file : FileNode} {place : TypePlace} (shown : place ∈ file.shown)
    {outer : List MessageNode} {parent : MessageNode} (around : place.around = outer ++ [parent])
    (placed : ⟨outer, .message parent⟩ ∈ file.places) : ⟨outer, .message parent⟩ ∈ file.shown := by
  obtain ⟨_, outside⟩ := mem_shown_iff.mp shown
  have way : place.messages.tail = (outer ++ [parent]).tail ++ place.type.message?.toList := by
    unfold TypePlace.messages
    rw [around, List.tail_append_of_ne_nil (List.concat_ne_nil _ _)]
  refine mem_shown_iff.mpr ⟨placed, fun entry among => outside entry ?_⟩
  rw [way]
  exact List.mem_append_left _ among

variable {unit : CompilationUnit} {era : Era} {file : Schema.File} {source : SourceFile}

/-- **The code of a file declares the types of the file in their places**, if no message or enumeration has a dot
in its name, nor the prefix that the file may set. -/
theorem declaresInPlace_ofNode (made : (SourceFile.ofNode unit (declare era file)).result = .ok source)
    (plainPrefix : ∀ chosen, file.typePrefix? = some chosen → DotFree chosen)
    (plain : ∀ type ∈ (declare era file).types, DotFree type.name) :
    (declare era file).DeclaresInPlace source.code := by
  have paths : ((declare era file).types.map (·.path)).Nodup :=
    List.pairwise_map.mpr ((types_ordered era file).imp fun before => ne_of_lt before)
  refine ⟨perm_types _, ?_, SourceFile.declared_ofNode made, fun place shown => ?_, fun place shown => ?_⟩
  · have same := (perm_types (declare era file)).map TypeNode.path
    rw [List.map_map] at same
    exact same.nodup_iff.mpr paths
  · rcases parent_of_mem_places (mem_shown_iff.mp shown).1 with
      ⟨around, child⟩ | ⟨outer, parent, around, placed, child⟩
    · refine Or.inl ⟨?_, child⟩
      unfold TypePlace.declaredIn
      rw [around]
      rfl
    · refine Or.inr ⟨_, mem_shown_of_around shown around placed, parent, rfl, child, ?_⟩
      unfold TypePlace.declaredIn
      rw [around, List.map_append]
      rfl
  · rw [place.path_declaredIn]
    exact joined_names plainPrefix plain place (mem_shown_iff.mp shown).1

end FileNode

/-! ### Generated files -/

namespace CompilationUnit

variable {request : Request} {unit : CompilationUnit} {name : String} {output : OutputFile}

/-- A run that succeeds generates every requested file. -/
theorem exists_generateFile_of_generate {outputs : List OutputFile}
    (generated : (generate request).result = .ok outputs)
    {name : String} (requested : name ∈ request.filesToGenerate) : ∃ unit, (ofRequest request).result = .ok unit
      ∧ ∃ output ∈ outputs, (unit.generateFile name).result = .ok output := by
  unfold generate at generated
  rw [Run.result_bind] at generated
  obtain ⟨unit, made, generated⟩ := bind_eq_ok.mp generated
  refine ⟨unit, made, Run.exists_result_of_mem generated ?_⟩
  rwa [(of_ofRequest made).2]

/-- What is generated for a name is the code of the first file with that name. -/
theorem exists_source_of_generateFile (made : (ofRequest request).result = .ok unit)
    (generated : (unit.generateFile name).result = .ok output) : ∃ file source,
      request.file? name = some file
        ∧ (SourceFile.ofNode unit (FileNode.declare (eraOf file) file)).result = .ok source
        ∧ output.content = Printer.render source.code := by
  have found := file?_table request name
  rw [← (of_ofRequest made).1] at found
  unfold generateFile at generated
  rw [found] at generated
  cases first : request.file? name with
  | none =>
    rw [first] at generated
    cases generated
  | some file =>
    rw [first, Option.map_some] at generated
    dsimp only at generated
    rw [Run.result_bind] at generated
    obtain ⟨source, sourceMade, generated⟩ := bind_eq_ok.mp generated
    cases generated
    exact ⟨file, source, rfl, sourceMade, rfl⟩

/-- **Every type is declared once, at the path by which it is referred to.** What is generated for a name declares
the types of the file with that name in their places, and every field of the request that refers to one of them
does so by the path that leads to its declaration. -/
theorem declares_in_place (made : (ofRequest request).result = .ok unit)
    (generated : (unit.generateFile name).result = .ok output) {file : Schema.File}
    (found : request.file? name = some file)
    (plainPrefix : ∀ chosen, file.typePrefix? = some chosen → DotFree chosen)
    (plain : ∀ type ∈ (FileNode.declare (eraOf file) file).types, DotFree type.name) :
    ∃ source, (SourceFile.ofNode unit (FileNode.declare (eraOf file) file)).result = .ok source
      ∧ output.content = Printer.render source.code
      ∧ (FileNode.declare (eraOf file) file).DeclaresInPlace source.code
      ∧ ∀ era names comments heap schema plan type,
        FieldPlan.make unit era names comments heap schema = .ok plan →
        FieldType.Resolves unit.symbols schema type → plan.Refers type := by
  obtain ⟨first, source, firstFound, sourceMade, content⟩ := exists_source_of_generateFile made generated
  obtain rfl := Option.some.inj (found.symm.trans firstFound)
  refine ⟨source, sourceMade, content, FileNode.declaresInPlace_ofNode sourceMade plainPrefix plain, ?_⟩
  intro era names comments heap schema plan type planMade resolves
  exact FieldPlan.refers_of_make planMade resolves

/-- The file of the ledger, with the entries of its map left out. -/
theorem declares_in_place_ledger : ∃ unit output,
    (ofRequest ledgerRequest).result = .ok unit
      ∧ (unit.generateFile "bank.proto").result = .ok output
      ∧ ledgerRequest.file? "bank.proto" = some ledgerFile
      ∧ (∀ chosen, ledgerFile.typePrefix? = some chosen → DotFree chosen)
      ∧ (∀ type ∈ (FileNode.declare (eraOf ledgerFile) ledgerFile).types, DotFree type.name)
      ∧ ∃ source : SourceFile, output.content = Printer.render source.code
        ∧ Code.declared [] source.code = [⟨[], .struct "Bank_Ledger"⟩, ⟨[], .struct "Bank_Account"⟩] := by
  obtain ⟨outputs, allGenerated⟩ := exists_generate_ledgerRequest
  obtain ⟨unit, made, output, _, generated⟩ := exists_generateFile_of_generate allGenerated List.mem_cons_self
  have plainPrefix : ∀ chosen, ledgerFile.typePrefix? = some chosen → DotFree chosen := by
    intro chosen set
    cases set
  have plain : ∀ type ∈ (FileNode.declare (eraOf ledgerFile) ledgerFile).types, DotFree type.name := by
    decide
  have found : ledgerRequest.file? "bank.proto" = some ledgerFile := rfl
  obtain ⟨source, _, content, inPlace, _⟩ := declares_in_place made generated found plainPrefix plain
  refine ⟨unit, output, made, generated, found, plainPrefix, plain, source, content, ?_⟩
  rw [inPlace.declared]
  decide +kernel

end CompilationUnit

end ProtoSwift
