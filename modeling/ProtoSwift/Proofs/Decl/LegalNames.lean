/-
**In ASCII, generated declarations declare legal names only.**

A field gets its names when the names of the fields before it are known, with or without its number as a suffix. Both
are legal if the number is not negative: a minus sign is no part of an identifier. So all names of a struct are legal
whatever its fields meet. An enumeration declares names of cases only, and a name that is no keyword.

* `isLegal_freshNames` — the step: whatever names are used, a field gets legal ones;
* `MessageNode.isLegal_of_mem_keptNames` — the run: all fields of a message do;
* `MessageNode.isLegal_names_of_fieldPlans` — and their code has these names;
* `EnumDecl.isLegalName_of_mem_declaredNames` — all names that an enumeration declares are legal.
-/

import ProtoSwift.Proofs.Decl.EnumNames
import ProtoSwift.Proofs.Decl.MemberNames
import ProtoSwift.Proofs.Swift.LegalNames
import Mathlib

namespace ProtoSwift

open Swift Text

/-! ### Fields -/

theorem isDigit_of_mem_numberText {number : Int32} (natural : 0 ≤ number.toInt) :
    ∀ c ∈ (numberText number).toList, c.isDigit = true := by
  have spelt : numberText number = toString number.toInt.toNat := by
    unfold numberText
    rw [Int.toString_eq_repr, Int.repr_eq_if, if_pos natural, Nat.toString_eq_repr]
  rw [spelt]
  exact isDigit_of_mem_toString _

/-- **Whatever names are used, a field gets legal ones.** -/
theorem isLegal_freshNames (used : List String) {field : Schema.Field} (ascii : IsAscii field.name.toList)
    (natural : 0 ≤ field.number.toInt) : (freshNames used field).IsLegal := by
  rw [freshNames_eq]
  unfold freshBase
  split
  · exact FieldNames.isLegal_ofBase_suffixed (FieldNames.isIdentifier_baseName ascii)
      (isDigit_of_mem_numberText natural)
  · exact FieldNames.isLegal_ofField ascii

/-- A minus sign is no part of an identifier. -/
example : (freshNames ["unit"] { name? := some "unit", number? := some (-1) }).slot = "_unit_-1" := by
  decide +kernel

namespace MessageNode

variable {node : MessageNode}

/-- **All fields of a message get legal names.** -/
theorem isLegal_of_mem_keptNames
    (fields : ∀ field ∈ node.schema.keptFields, IsAscii field.name.toList ∧ 0 ≤ field.number.toInt) :
    ∀ named ∈ node.keptNames, named.2.IsLegal := by
  intro named among
  have kept : named.1 ∈ node.schema.keptFields := by
    have whole : node.keptNames.map (·.1) = node.schema.keptFields := map_fst_namesFrom [] 0 node.fields
    rw [← whole]
    exact List.mem_map_of_mem among
  obtain ⟨seen, _, fresh⟩ := exists_seen_of_mem_namesFrom among
  rw [fresh]
  exact isLegal_freshNames seen (fields _ kept).1 (fields _ kept).2

/-- **The code of a message has legal names only.** -/
theorem isLegal_names_of_fieldPlans {unit : CompilationUnit} {file : FileNode} {plans : List FieldPlan}
    (fields : ∀ field ∈ node.schema.keptFields, IsAscii field.name.toList ∧ 0 ≤ field.number.toInt)
    (planned : (fieldPlans unit file node).result = .ok plans) : ∀ plan ∈ plans, plan.names.IsLegal := by
  intro plan among
  apply isLegal_of_mem_keptNames fields (plan.field.schema, plan.names)
  rw [← node.map_names_of_fieldPlans planned]
  exact List.mem_map_of_mem among

end MessageNode

/-! ### Enumerations -/

/-- **All names that an enumeration declares are legal.** -/
theorem EnumDecl.isLegalName_of_mem_declaredNames {access : AccessLevel} {file : FileNode} {node : EnumNode}
    (ascii : ∀ value ∈ node.schema.values, IsAscii value.name.toList) :
    ∀ name ∈ (EnumDecl.ofNode access file node).declaredNames, IsLegalName name := by
  intro name among
  rw [(EnumDecl.perm_declaredNames access file node).mem_iff, List.mem_append] at among
  rcases among with other | ofValue
  · split at other
    · rw [List.mem_singleton.mp other]
      exact Or.inr ⟨.starts (by decide) (by decide), by decide⟩
    · cases other
  · obtain ⟨value, isValue, rfl⟩ := List.mem_map.mp ofValue
    exact isLegalName_caseName node.schema.name (ascii value isValue)

end ProtoSwift
