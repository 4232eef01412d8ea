/-
**A file declares its types where they are.**

The struct of a message has the enumerations and the messages inside the message in it, and the code of the
fields declares no types. So the code of a file declares the types of the file, each inside the structs of the
messages around it. Map entries that are declared inside a message are left out, with all that is in them.

* `Interface.declaresNone_code`, `EnumDecl.declares_code` — a field declares no types in its code, and an
  enumeration only itself;
* `StructDecl.declares_ofNode` — the struct of a message declares the types inside the message that are shown;
* `SourceFile.declared_ofNode` — the code of a file declares the types of the file that are shown, and nothing
  else.
-/

import ProtoSwift.Decl.SourceFile
import ProtoSwift.Proofs.Decl.Members
import ProtoSwift.Proofs.Decl.Openings
import ProtoSwift.Proofs.Symbol.Nesting
import Mathlib

namespace ProtoSwift

open Swift

/-! ### Code without types -/

variable {unit : CompilationUnit} {file : FileNode}

theorem declaresNone_map_getD {α : Type} {part? : Option α} {make : α → Code}
    (each : ∀ part, DeclaresNone (make part)) : DeclaresNone ((part?.map make).getD []) := by
  refine .getD fun code isCode => ?_
  obtain ⟨part, _, rfl⟩ := Option.map_eq_some_iff.mp isCode
  exact each part

/-- The members for a field declare no types. -/
theorem Interface.declaresNone_code {interface : Interface} (known : IsModifier interface.modifier) :
    DeclaresNone interface.code := by
  have property : DeclaresNone interface.propertyCode := by
    unfold propertyCode
    cases interface.body with
    | stored initial => exact .line _
    | computed read fallback? write =>
      have first : NamesNoType (interface.modifier ++ "var ") := .ofModifier known ⟨'v', rfl, by decide⟩
      exact ((DeclaresNone.line _).append (.line _)).block ((((first.append _).append _).append _).append _) _
  have presence : DeclaresNone ((interface.presence?.map PresenceMembers.code).getD []) :=
    declaresNone_map_getD fun _ => .straight rfl
  exact ((DeclaresNone.blank.append (.lines _)).append property).append presence

theorem VisitStatement.declaresNone_code (visit : VisitStatement) : DeclaresNone visit.code :=
  (DeclaresNone.line _).block (((NamesNoType.ofText ⟨'i', rfl, by decide⟩).append _).append _) _

theorem ValueCheck.declaresNone_code (check : ValueCheck) : DeclaresNone check.code :=
  .ite (fun _ => .line _) fun _ => .line _

namespace EnumDecl

variable {decl : EnumDecl}

/-- **An enumeration declares itself**, and no types inside it. -/
theorem declares_code {level : AccessLevel} (known : decl.modifier = level.typeModifier) :
    Declares decl.code fun around => [⟨around, .enumeration decl.name⟩] := by
  have modifier : IsModifier decl.modifier := known ▸ level.isModifier_typeModifier
  have caseLines : DeclaresNone decl.casesCode :=
    (DeclaresNone.flatMap fun case _ => (DeclaresNone.lines _).append (.line _)).append
      (.ite (fun _ => .line _) fun _ => .nil)
  have initial : DeclaresNone decl.initCode := by
    unfold initCode
    cases decl.initialCase? with
    | none => exact .nil
    | some value =>
      exact DeclaresNone.blank.append
        ((DeclaresNone.line _).block (.ofModifier modifier ⟨'i', rfl, by decide⟩) _)
  have ofNumber : DeclaresNone decl.ofNumberCode :=
    DeclaresNone.blank.append (((((DeclaresNone.line _).append (.flatMap fun case _ => .line _)).append
      (.line _)).append (.line _)).block (.ofModifier modifier ⟨'i', rfl, by decide⟩) _)
  have number : DeclaresNone decl.numberCode :=
    DeclaresNone.blank.append (((((DeclaresNone.line _).append (.flatMap fun case _ => .line _)).append
      (.ite (fun _ => .line _) fun _ => .nil)).append (.line _)).block
        (.ofModifier modifier ⟨'v', rfl, by decide⟩) _)
  have aliases : DeclaresNone decl.aliasesCode :=
    .ite (fun _ => .nil) fun _ => DeclaresNone.blank.append (.flatMap fun constant _ => .line _)
  have members := (((((DeclaresNone.line (decl.modifier ++ "typealias RawValue = Int")).append caseLines).append
    initial).append ofNumber).append number).append aliases
  have head : TypeHead.read? (decl.modifier ++ "enum " ++ decl.name ++ ": SwiftProtobuf.Enum \x7b" ++ "\n")
      = some (.enumeration decl.name) := by
    rw [known, ← TypeHead.read?_enumeration level decl.name]
    simp only [String.append_assoc]
    rfl
  have whole := Declares.append (DeclaresNone.lines decl.comments)
    (Declares.block members (decl.modifier ++ "enum " ++ decl.name ++ ": SwiftProtobuf.Enum \x7b") "\x7d")
  simp only [head] at whole
  exact whole

theorem declares_ofNode (access : AccessLevel) (file : FileNode) (node : EnumNode) :
    Declares (ofNode access file node).code
      fun around => [⟨around, .enumeration (nameInParent node.swiftName)⟩] := by
  have modifier : (ofNode access file node).modifier = access.typeModifier := rfl
  exact declares_code modifier

end EnumDecl

namespace StructDecl

variable {decl : StructDecl}

theorem declaresNone_slotsCode (decl : StructDecl) : DeclaresNone decl.slotsCode :=
  .flatMap fun _ _ => declaresNone_map_getD fun _ => .line _

/-- What a struct declares before its nested types is no type. -/
theorem declaresNone_membersCode (fields : ∀ field ∈ decl.fields, IsModifier field.interface.modifier) :
    DeclaresNone decl.membersCode := by
  have slots : DeclaresNone decl.inlineSlotsCode :=
    .ite (fun _ => .nil) fun _ => DeclaresNone.blank.append decl.declaresNone_slotsCode
  have members : DeclaresNone (decl.fields.flatMap fun field => field.interface.code) :=
    .flatMap fun field among => Interface.declaresNone_code (fields field among)
  exact ((((DeclaresNone.line _).append slots).append members).append .blank).append (.line _)

theorem declaresNone_withStorage {call : String} {body : Code} (other : StartsOther call)
    (inside : DeclaresNone body) : DeclaresNone (decl.withStorage call body) :=
  .ite (fun _ => inside.block (NamesNoType.append (.ofText other) _) _) fun _ => inside

theorem declaresNone_isInitializedCode (modifier : IsModifier decl.modifier) :
    DeclaresNone decl.isInitializedCode := by
  have required :
      DeclaresNone (decl.fields.flatMap fun field => (field.required?.map RequiredCheck.code).getD []) :=
    .flatMap fun _ _ => declaresNone_map_getD fun _ => .line _
  have values :
      DeclaresNone (decl.fields.flatMap fun field => (field.initialized?.map ValueCheck.code).getD []) :=
    .flatMap fun _ _ => declaresNone_map_getD ValueCheck.declaresNone_code
  refine DeclaresNone.block (declaresNone_withStorage ?_ ?_) (.ofModifier modifier ⟨'v', rfl, by decide⟩) _
  · exact ⟨'r', rfl, by decide⟩
  · exact (required.append values).append (.line _)

theorem declaresNone_decodeMessageCode (modifier : IsModifier decl.modifier) :
    DeclaresNone decl.decodeMessageCode := by
  have loop : DeclaresNone (Code.line "switch fieldNumber \x7b"
      ++ decl.fieldsByNumber.flatMap (fun field => field.decode.code)
      ++ Code.line "default: break" ++ Code.line "\x7d") :=
    .append (.append (.append (.line _) (.flatMap fun _ _ => .line _)) (.line _)) (.line _)
  refine DeclaresNone.block (.append ?_ (declaresNone_withStorage ?_ ?_))
    (.ofModifier modifier ⟨'m', rfl, by decide⟩) _
  · exact .ite (fun _ => .line _) fun _ => .nil
  · exact ⟨'t', rfl, by decide⟩
  · exact loop.block (.ofText ⟨'w', rfl, by decide⟩) _

theorem declaresNone_traverseCode (modifier : IsModifier decl.modifier) : DeclaresNone decl.traverseCode := by
  have visits : DeclaresNone (decl.fieldsByNumber.flatMap fun field => field.visit.code) :=
    .flatMap fun field _ => field.visit.declaresNone_code
  refine DeclaresNone.block (.append (declaresNone_withStorage ?_ visits) (.line _))
    (.ofModifier modifier ⟨'f', rfl, by decide⟩) _
  exact ⟨'t', rfl, by decide⟩

theorem declaresNone_comparisonsCode (decl : StructDecl) : DeclaresNone decl.comparisonsCode :=
  .flatMap fun _ _ => .line _

theorem declaresNone_storageComparisonCode (decl : StructDecl) : DeclaresNone decl.storageComparisonCode := by
  have names :
      NamesNoType "let storagesAreEqual: Bool = withExtendedLifetime((_storage, other._storage)) \x7b " :=
    .ofText ⟨'l', rfl, by decide⟩
  have inside : DeclaresNone (Code.line "let _storage = _args.0" ++ Code.line "let other_storage = _args.1"
      ++ decl.comparisonsCode ++ Code.line "return true") :=
    .append (.append (.append (.line _) (.line _)) decl.declaresNone_comparisonsCode) (.line _)
  exact .block (.append (inside.block (names.append _) _) (.line _)) (.ofText ⟨'i', rfl, by decide⟩) _

theorem declaresNone_equalityCode (modifier : IsModifier decl.modifier) : DeclaresNone decl.equalityCode := by
  have compared : DeclaresNone (if decl.heap then decl.storageComparisonCode else decl.comparisonsCode) :=
    .ite (fun _ => decl.declaresNone_storageComparisonCode) fun _ => decl.declaresNone_comparisonsCode
  have names : NamesNoType (decl.modifier ++ "func _protobuf_generated_isEqualTo(other: ") :=
    .ofModifier modifier ⟨'f', rfl, by decide⟩
  exact .block (.append (.append compared (.line _)) (.line _)) ((names.append _).append _) _

theorem declaresNone_storageClassCode (decl : StructDecl) : DeclaresNone decl.storageClassCode := by
  have clones : DeclaresNone (Code.block "init(copying source: _StorageClass) \x7b"
      (decl.fields.flatMap fun field => field.clone.code) "\x7d") :=
    .block (.flatMap fun _ _ => .line _) (.ofText ⟨'i', rfl, by decide⟩) _
  have copy : DeclaresNone (Code.block "if !isKnownUniquelyReferenced(&_storage) \x7b"
      (Code.line "_storage = _StorageClass(copying: _storage)") "\x7d") :=
    .block (.line _) (.ofText ⟨'i', rfl, by decide⟩) _
  refine .append (.append (.append (.append ?_ .blank) ?_) .blank) (.line _)
  · refine .block ?_ (.ofText ⟨'f', rfl, by decide⟩) _
    exact .append (.append (.append (.append decl.declaresNone_slotsCode .blank) (.line _)) .blank) clones
  · exact .block (.append copy (.line _)) (.ofText ⟨'f', rfl, by decide⟩) _

/-- What a struct declares after its nested types is no type. -/
theorem declaresNone_conformanceCode (modifier : IsModifier decl.modifier) :
    DeclaresNone decl.conformanceCode := by
  have required : DeclaresNone (if decl.checksRequired then Code.blank ++ decl.isInitializedCode else []) :=
    .ite (fun _ => DeclaresNone.blank.append (declaresNone_isInitializedCode modifier)) fun _ => .nil
  have storage : DeclaresNone (if decl.heap then Code.blank ++ decl.storageClassCode else []) :=
    .ite (fun _ => DeclaresNone.blank.append decl.declaresNone_storageClassCode) fun _ => .nil
  exact (((((((((DeclaresNone.blank.append (.line _)).append required).append .blank).append
    (declaresNone_decodeMessageCode modifier)).append .blank).append
      (declaresNone_traverseCode modifier)).append .blank).append
        (declaresNone_equalityCode modifier)).append storage)

end StructDecl

/-! ### Types in their places -/

/-- What the first line of the declaration of a type names. -/
def TypeNode.head : TypeNode → TypeHead
  | message node => .struct (nameInParent node.swiftName)
  | enumeration node => .enumeration (nameInParent node.swiftName)

/-- **The declaration of a type in its place**, inside some blocks: the structs of the messages around the type
are around it. -/
def TypePlace.declaredIn (around : List (Option TypeHead)) (place : TypePlace) : DeclaredType :=
  { around := around ++ place.around.map fun outer => some (.struct (nameInParent outer.swiftName))
    head := place.type.head }

/-- The path to the declaration of a type in its place is the path to the place. -/
theorem TypePlace.path_declaredIn (place : TypePlace) :
    (place.declaredIn []).path = ".".intercalate place.names := by
  have around : (place.declaredIn []).around.filterMap (·.map TypeHead.name)
      = place.around.map fun outer => nameInParent outer.swiftName := by
    unfold declaredIn
    rw [List.nil_append, List.filterMap_map, ← List.filterMap_eq_map]
    rfl
  have own : (place.declaredIn []).head.name = nameInParent place.type.swiftName := by
    obtain ⟨_, node | enumeration⟩ := place <;> rfl
  unfold DeclaredType.path names
  rw [around, own]

theorem TypePlace.declaredIn_inside (around : List (Option TypeHead)) (outer : MessageNode) (place : TypePlace) :
    (place.inside outer).declaredIn around
      = place.declaredIn (around ++ [some (TypeHead.struct (nameInParent outer.swiftName))]) := by
  unfold declaredIn inside
  simp only [List.map_cons, List.append_assoc, List.singleton_append]

theorem MessageNode.map_declaredIn_shown (around : List (Option TypeHead)) (node : MessageNode) :
    node.shown.map (·.declaredIn around) = ⟨around, .struct (nameInParent node.swiftName)⟩
      :: (node.enums.map (fun enumeration => TypePlace.mk [] (.enumeration enumeration))
        ++ shownOf node.messages).map
          (·.declaredIn (around ++ [some (TypeHead.struct (nameInParent node.swiftName))])) := by
  have own : (TypePlace.mk [] (.message node)).declaredIn around
      = ⟨around, .struct (nameInParent node.swiftName)⟩ := by
    unfold TypePlace.declaredIn
    rw [List.map_nil, List.append_nil]
    rfl
  rw [node.shown_eq, List.map_cons, own, List.map_map]
  refine congrArg (_ :: ·) (List.map_congr_left fun place _ => ?_)
  exact TypePlace.declaredIn_inside around node place

theorem declares_enums (access : AccessLevel) (file : FileNode) (enums : List EnumNode) :
    Declares ((enums.map (EnumDecl.ofNode access file)).flatMap fun decl => Code.blank ++ decl.code)
      fun around => (enums.map fun enumeration => TypePlace.mk [] (.enumeration enumeration)).map
        (·.declaredIn around) := by
  rw [List.flatMap_map]
  have each : ∀ enumeration ∈ enums, Declares (Code.blank ++ (EnumDecl.ofNode access file enumeration).code)
      fun around => [(TypePlace.mk [] (.enumeration enumeration)).declaredIn around] := by
    intro enumeration _
    have own := Declares.after .blank (EnumDecl.declares_ofNode access file enumeration)
    simp only [TypePlace.declaredIn, List.map_nil, List.append_nil]
    exact own
  have listed : (fun around => (enums.map fun enumeration => TypePlace.mk [] (.enumeration enumeration)).map
        fun place => place.declaredIn around)
      = fun around => enums.flatMap fun enumeration =>
        [(TypePlace.mk [] (.enumeration enumeration)).declaredIn around] := by
    funext around
    rw [List.map_map, List.map_eq_flatMap]
    rfl
  rw [listed]
  exact Declares.flatMap each

namespace StructDecl

theorem parts_of_ofNode {node : MessageNode} {decl : StructDecl}
    (made : (ofNode unit file node).result = .ok decl) :
    (ofNodes unit file node.messages).result = .ok decl.structs
      ∧ decl.enums = node.enums.map (EnumDecl.ofNode unit.options.access file)
      ∧ decl.modifier = unit.options.access.typeModifier ∧ decl.name = nameInParent node.swiftName
      ∧ ∀ field ∈ decl.fields, IsModifier field.interface.modifier := by
  obtain ⟨plans, structs, _, structsMade, rfl⟩ := ofNode_eq_ok.mp made
  refine ⟨structsMade, rfl, rfl, rfl, fun field among => ?_⟩
  obtain ⟨plan, _, rfl⟩ := List.mem_map.mp among
  exact plan.access.isModifier_modifier

/-- The struct of a message declares the message, and inside it what its members declare. -/
theorem declares_of_nested {node : MessageNode} {decl : StructDecl}
    (made : (ofNode unit file node).result = .ok decl)
    (nested : Declares (codes decl.structs) fun around =>
      (MessageNode.shownOf node.messages).map (·.declaredIn around)) :
    Declares decl.code fun around => node.shown.map (·.declaredIn around) := by
  obtain ⟨_, enums, modifier, name, fields⟩ := parts_of_ofNode made
  have known : IsModifier decl.modifier := modifier ▸ unit.options.access.isModifier_typeModifier
  have nestedEnums := declares_enums unit.options.access file node.enums
  rw [← enums] at nestedEnums
  have inside := Declares.before (.append (.after (declaresNone_membersCode fields) nestedEnums) nested)
    (declaresNone_conformanceCode known)
  have head : TypeHead.read? (decl.opening ++ "\n") = some (.struct (nameInParent node.swiftName)) := by
    unfold opening
    rw [modifier, name, ← TypeHead.read?_struct unit.options.access]
    simp only [String.append_assoc]
    rfl
  have whole := inside.block decl.opening "\x7d"
  simp only [head, ← List.map_append] at whole
  rw [code_eq]
  simp only [MessageNode.map_declaredIn_shown]
  exact Declares.after (.lines _) whole

mutual

/-- **The struct of a message declares the types inside the message**, except map entries and what is in them. -/
theorem declares_ofNode : (node : MessageNode) → ∀ decl, (ofNode unit file node).result = .ok decl →
    Declares decl.code fun around => node.shown.map (·.declaredIn around)
  | ⟨_, _, _, _, messages, _⟩, decl, made =>
    declares_of_nested made (declares_ofNodes messages decl.structs (parts_of_ofNode made).1)

theorem declares_ofNodes : (nodes : List MessageNode) → ∀ decls, (ofNodes unit file nodes).result = .ok decls →
    Declares (codes decls) fun around => (MessageNode.shownOf nodes).map (·.declaredIn around)
  | [], decls, made => by
    cases made
    exact Declares.nil
  | node :: rest, decls, made => by
    by_cases entry : node.isMapEntry = true
    · rw [ofNodes_cons_of_entry entry] at made
      rw [MessageNode.shownOf_cons_of_entry entry]
      exact declares_ofNodes rest decls made
    · obtain ⟨decl, others, declMade, othersMade, rfl⟩ := (ofNodes_cons_eq_ok entry).mp made
      rw [MessageNode.shownOf_cons_of_not_entry entry, codes]
      simp only [List.map_append]
      exact Declares.append (.after .blank (declares_ofNode node decl declMade))
        (declares_ofNodes rest others othersMade)

end

end StructDecl

namespace SourceFile

/-- The structs of the messages of a file declare the types inside them. -/
theorem declares_structs {nodes : List MessageNode} {decls : List StructDecl}
    (made : (nodes.mapM (StructDecl.ofNode unit file)).result = .ok decls) :
    Declares (StructDecl.codes decls) fun around =>
      (nodes.flatMap MessageNode.shown).map (·.declaredIn around) := by
  induction nodes generalizing decls with
  | nil =>
    cases made
    exact Declares.nil
  | cons node rest inRest =>
    obtain ⟨decl, others, declMade, othersMade, rfl⟩ := Run.result_mapM_cons_eq_ok.mp made
    rw [StructDecl.codes]
    simp only [List.flatMap_cons, List.map_append]
    exact Declares.append (.after .blank (StructDecl.declares_ofNode node decl declMade)) (inRest othersMade)

/-- **The code of a file declares the types of the file in their places**, and nothing else. -/
theorem declared_ofNode {source : SourceFile} (made : (ofNode unit file).result = .ok source) :
    Code.declared [] source.code = file.shown.map (·.declaredIn []) := by
  obtain ⟨structs, structsMade, rfl⟩ := ofNode_eq_ok.mp made
  have head : DeclaresNone (headCode file.name) := .straight rfl
  have package : DeclaresNone (packageCode file.package) :=
    .ite (fun _ => .nil) fun _ => .straight rfl
  have whole := Declares.append (.after (head.append package) (declares_structs structsMade))
    (declares_enums unit.options.access file file.enums)
  rw [file.shown_eq, List.map_append]
  exact whole.declared_eq []

end SourceFile

end ProtoSwift
