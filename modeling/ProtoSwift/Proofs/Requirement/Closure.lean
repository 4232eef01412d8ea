/-
**The names of the messages that lead to a required field are closed.**

The analysis adds a message once a message that it refers to has been added. When it stops, a message that
leads to a required field in one step more has been added, too, so a message that does not lead to one
refers to no message that does.

* `firstDeclarations_of_message?` — the analysis knows every message that a reference can mean;
* `mem_requiring_of_leadsToRequired` — when it stops, nothing is left to add;
* `CompilationUnit.leadsToRequired_of_reference` — a reference leads wherever its message leads;
* `CompilationUnit.Free`, `CompilationUnit.free_of_unchecked` — a type among whose values no message leads to
  a required field; the message behind the type tells.
-/

import ProtoSwift.CompilationUnit
import ProtoSwift.Proofs.Field.Resolution

namespace ProtoSwift

/-! ### What a reference can mean -/

/-- The first message with a name is a first declaration: those before it have other names. -/
theorem firstDeclarations_of_find? {messages : List MessageNode} {path : String} {node : MessageNode}
    (found : messages.find? (·.fullName.text = path) = some node) : node ∈ firstDeclarations messages := by
  induction messages with
  | nil => cases found
  | cons first rest inRest =>
    unfold firstDeclarations
    by_cases here : first.fullName.text = path
    · rw [List.find?_cons_of_pos (by simpa using here)] at found
      cases found
      exact List.mem_cons_self
    · rw [List.find?_cons_of_neg (by simpa using here)] at found
      have named : node.fullName.text = path := by simpa using List.find?_some found
      refine List.mem_cons_of_mem _ (List.mem_filter.mpr ⟨inRest found, ?_⟩)
      simp only [ne_eq, decide_eq_true_eq]
      intro same
      rw [same] at named
      exact here named

theorem firstDeclarations_of_message? {table : SymbolTable} {path : String} {node : MessageNode}
    (declared : table.message? path = some node) : node ∈ firstDeclarations table.messages :=
  firstDeclarations_of_find? declared

/-! ### The end of the analysis -/

/-- The analysis only adds names. -/
theorem mem_closeRequiring {requiring : List String} {pending : List MessageNode} {name : String}
    (named : name ∈ requiring) : name ∈ closeRequiring requiring pending := by
  fun_induction closeRequiring requiring pending with
  | case1 requiring pending some inRest =>
    exact inRest (List.mem_append_left _ named)
  | case2 => exact named

/-- **When the analysis stops, nothing is left to add.** -/
theorem mem_closeRequiring_of_leadsToRequired {requiring : List String} {pending : List MessageNode}
    {node : MessageNode} (among : node ∈ pending)
    (leads : node.leadsToRequired (closeRequiring requiring pending) = true) :
    node.fullName.text ∈ closeRequiring requiring pending := by
  fun_induction closeRequiring requiring pending with
  | case1 requiring pending some inRest =>
    by_cases early : node.leadsToRequired requiring = true
    · refine mem_closeRequiring (List.mem_append_right _ ?_)
      exact List.mem_map.mpr ⟨node, List.mem_filter.mpr ⟨among, early⟩, rfl⟩
    · exact inRest (List.mem_filter.mpr ⟨among, by simpa using early⟩) leads
  | case2 requiring pending none =>
    have foundHere : node ∈ found requiring pending := List.mem_filter.mpr ⟨among, leads⟩
    exact absurd (List.ne_nil_of_mem foundHere) none

theorem mem_requiring_of_leadsToRequired {table : SymbolTable} {path : String} {node : MessageNode}
    (declared : table.message? path = some node)
    (leads : node.leadsToRequired table.requiring = true) : path ∈ table.requiring := by
  have named := mem_closeRequiring_of_leadsToRequired (firstDeclarations_of_message? declared) leads
  rwa [SymbolTable.text_of_message? declared] at named

namespace CompilationUnit

variable {unit : CompilationUnit} {node target : MessageNode} {field : Schema.Field} {type : FieldType}

theorem leadsToRequired_of_required (among : field ∈ node.fields) (required : field.label = .required) :
    unit.leadsToRequired node = true := by
  have declares : node.schema.declaresRequired = true :=
    List.any_eq_true.mpr ⟨field, among, by simpa using required⟩
  simp [leadsToRequired, MessageNode.leadsToRequired, declares]

/-- **A reference leads wherever its message leads.** -/
theorem leadsToRequired_of_reference (among : field ∈ node.fields) (refers : field.refersToMessage = true)
    (declared : unit.symbols.message? field.typeName = some target)
    (leads : unit.leadsToRequired target = true) : unit.leadsToRequired node = true := by
  unfold leadsToRequired at leads ⊢
  rw [unit.requiring_eq] at leads ⊢
  have named := mem_requiring_of_leadsToRequired declared leads
  have referred : field.typeName ∈ node.references :=
    List.mem_map.mpr ⟨field, List.mem_filter.mpr ⟨among, refers⟩, rfl⟩
  have some : node.references.any unit.symbols.requiring.contains = true :=
    List.any_eq_true.mpr ⟨field.typeName, referred, by simpa using named⟩
  simp [MessageNode.leadsToRequired, some]

/-! ### Types without required fields -/

/-- **A type is free of required fields**: no message among its values leads to one. -/
def Free (unit : CompilationUnit) : FieldType → Prop
  | .scalar _ | .enumeration _ => True
  | .message node | .group node => unit.leadsToRequired node = false
  | .map _ _ value => unit.Free value

/-- The fields of a message that leads to no required field are not required, and the messages behind their
types lead to none. -/
theorem unchecked_of_field (free : unit.leadsToRequired node = false) (among : field ∈ node.fields) :
    field.label ≠ .required ∧ ∀ type, FieldType.Resolves unit.symbols field type →
      type.message?.any unit.leadsToRequired = false := by
  constructor
  · intro required
    rw [leadsToRequired_of_required among required] at free
    cases free
  · intro type resolves
    cases behind : type.message? with
    | none => rfl
    | some target =>
      obtain ⟨refers, declared⟩ := resolves.declared_of_message? behind
      cases leads : unit.leadsToRequired target with
      | false => exact leads
      | true =>
        rw [leadsToRequired_of_reference among refers declared leads] at free
        cases free

/-- **A type is free of required fields if the message behind it leads to none.** Behind a map is its entry,
which refers to the messages among the values. -/
theorem free_of_unchecked (resolves : FieldType.Resolves unit.symbols field type)
    (unchecked : type.message?.any unit.leadsToRequired = false) : unit.Free type := by
  induction resolves with
  | scalar => trivial
  | enumeration => trivial
  | group => exact unchecked
  | message => exact unchecked
  | map found keyField valueField keyResolves valueResolves _ inValue =>
    have among := List.mem_of_find?_eq_some valueField
    exact inValue ((unchecked_of_field unchecked among).2 _ valueResolves)

end CompilationUnit

end ProtoSwift
