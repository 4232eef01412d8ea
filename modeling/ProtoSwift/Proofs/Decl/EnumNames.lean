/-
**The names that a generated enumeration declares.**

Every value gives its enumeration one name, as a case or as a constant, and the third era adds a case that no value
can be called like. Nothing keeps the names apart: a value that repeats the name of the enumeration meets one that
does not, as `ACCOUNT_STATE_ACTIVE` meets `ACTIVE` in `AccountState`. The names are pairwise distinct exactly if what
is left of the names of the values is so in camel case. In ASCII this can be told from the words in capitals.

* `EnumDecl.declaredNames` — the names;
* `EnumDecl.perm_declaredNames` — there is one for each value, and the case for other numbers;
* `EnumDecl.distinct_names_iff` — when the names are pairwise distinct;
* `EnumDecl.clash_account` — an enumeration that declares a name twice.
-/

import ProtoSwift.Proofs.Decl.EnumNumbers
import Mathlib

namespace ProtoSwift

open Swift Text

namespace EnumDecl

variable {node : EnumNode}

/-- **The names that a declaration declares**: those of its cases, with that for other numbers, and of its
constants. -/
def declaredNames (decl : EnumDecl) : List String :=
  decl.cases.map EnumCase.name ++ (if decl.openEnded then ["UNRECOGNIZED"] else [])
    ++ decl.aliases.map EnumAlias.name

/-- Dividing values keeps their names, behind those of the cases before them. -/
theorem perm_names_divide (comments : Path → String) (before : List EnumCase) (position : Nat)
    (values : List Schema.EnumValue) :
    ((divide node comments before position values).1.map EnumCase.name
        ++ (divide node comments before position values).2.map EnumAlias.name).Perm
      (before.map EnumCase.name ++ values.map node.caseNameOf) := by
  induction values generalizing before position with
  | nil => exact List.Perm.refl _
  | cons value rest inRest =>
    cases found : before.find? (·.number = value.number) with
    | none =>
      rw [divide_cons_of_new rest found]
      have perm := inRest (before ++ [node.caseOf comments position value]) (position + 1)
      have own : (node.caseOf comments position value).name = node.caseNameOf value := by
        simp only [EnumNode.caseOf]
      rwa [List.map_append, List.map_singleton, own, List.append_assoc, List.singleton_append] at perm
    | some first =>
      rw [divide_cons_of_known rest found]
      simp only [List.map_cons]
      -- the name of the constant is taken to the front on both sides
      have perm := (inRest before (position + 1)).cons (node.caseNameOf value)
      exact List.perm_middle.trans (perm.trans List.perm_middle.symm)

/-- **Every value gives one name.** The case for other numbers gives one more. -/
theorem perm_declaredNames (access : AccessLevel) (file : FileNode) (node : EnumNode) :
    (ofNode access file node).declaredNames.Perm
      ((if file.era = .proto3 then ["UNRECOGNIZED"] else []) ++ node.caseNames) := by
  have names : ((ofNode access file node).cases.map EnumCase.name
      ++ (ofNode access file node).aliases.map EnumAlias.name).Perm node.caseNames :=
    perm_names_divide file.commentText [] 0 node.schema.values
  unfold declaredNames
  rw [openEnded_ofNode, List.append_assoc]
  simp only [decide_eq_true_eq]
  exact (List.perm_append_comm_assoc _ _ _).trans (names.append_left _)

theorem unrecognized_not_mem_caseNames (node : EnumNode) : "UNRECOGNIZED" ∉ node.caseNames := by
  intro among
  obtain ⟨value, -, same⟩ := List.mem_map.mp among
  have named : IsCaseName "UNRECOGNIZED" := ⟨node.schema.name, value.name, same⟩
  exact named.ne_append (c := 'U') rfl _ rfl

/-- The names are pairwise distinct if those of the values are. -/
theorem nodup_declaredNames_iff (access : AccessLevel) (file : FileNode) (node : EnumNode) :
    (ofNode access file node).declaredNames.Nodup ↔ node.caseNames.Nodup := by
  rw [(perm_declaredNames access file node).nodup_iff]
  by_cases third : file.era = .proto3
  · rw [if_pos third, List.singleton_append, List.nodup_cons]
    exact ⟨And.right, fun distinct => ⟨unrecognized_not_mem_caseNames node, distinct⟩⟩
  · rw [if_neg third, List.nil_append]

/-- Whether results are pairwise distinct depends only on which of them are equal. -/
theorem nodup_map_congr {α β γ : Type} {elements : List α} {first : α → β} {second : α → γ}
    (same : ∀ a ∈ elements, ∀ b ∈ elements, first a = first b ↔ second a = second b) :
    (elements.map first).Nodup ↔ (elements.map second).Nodup := by
  unfold List.Nodup
  rw [List.pairwise_map, List.pairwise_map]
  apply List.Pairwise.iff_of_mem
  intro a b isFirst isSecond
  exact not_congr (same a isFirst b isSecond)

/-- **When a generated enumeration declares no name twice.** There is one name for each value, and the case for other
numbers. They are pairwise distinct exactly if what is left of the names of the values is so in camel case, which
is to say in ASCII: if the words of what is left are so in capitals, put together with an underscore between two
words unless the later one starts with a digit. -/
theorem distinct_names_iff (access : AccessLevel) (file : FileNode) (node : EnumNode) :
    (ofNode access file node).declaredNames.Perm
        ((if file.era = .proto3 then ["UNRECOGNIZED"] else []) ++ node.caseNames)
      ∧ ((ofNode access file node).declaredNames.Nodup
        ↔ (node.schema.values.map fun value => lowerCamel (remainingName node.schema.name value.name)).Nodup)
      ∧ ((∀ value ∈ node.schema.values, IsAscii value.name.toList) →
        ((ofNode access file node).declaredNames.Nodup
          ↔ (node.schema.values.map fun value => capitals (remainingName node.schema.name value.name)).Nodup)) := by
  refine ⟨perm_declaredNames access file node, ?_, ?_⟩
  · rw [nodup_declaredNames_iff]
    exact nodup_map_congr fun first _ second _ => caseName_eq_iff
  · intro ascii
    rw [nodup_declaredNames_iff]
    exact nodup_map_congr fun first isFirst second isSecond =>
      caseName_eq_iff_of_ascii (ascii first isFirst) (ascii second isSecond)

/-- A file with an enumeration one value of which repeats its name. -/
def accountFile : FileNode :=
  FileNode.declare .proto2
    { name? := "account.proto"
      enumerations :=
        [{ name? := "AccountState"
           values := [{ name? := "ACTIVE", number? := some 0 },
             { name? := "ACCOUNT_STATE_ACTIVE", number? := some 1 }] }] }

/-- **An enumeration whose values have two names declares one name twice.** -/
theorem clash_account : ∃ node ∈ accountFile.enums, (node.schema.values.map Schema.EnumValue.name).Nodup
    ∧ (ofNode .internalAccess accountFile node).declaredNames = ["active", "active"]
    ∧ ¬ (ofNode .internalAccess accountFile node).declaredNames.Nodup :=
  ⟨_, List.mem_cons_self, by decide +kernel, by decide +kernel, by decide +kernel⟩

end EnumDecl

end ProtoSwift
