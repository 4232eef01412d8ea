/-
**A message leads to a required field along a chain of references.**

The analysis works on names: it collects those whose first declaration leads to a required field. The chain
works on declarations, and follows one reference after the other to a message that declares a required field.

* `SymbolTable.LeadsToRequired` — a chain from a message to a required field;
* `SymbolTable.declared_of_mem_requiring` — the analysis collects a name only if there is a chain from the
  message that the name means;
* `SymbolTable.leadsToRequired_iff` — the analysis finds a message exactly if there is a chain from it;
* `SymbolTable.leadsToRequired_eq` — two tables in which the references of all messages mean the same have the
  same chains.
-/

import ProtoSwift.Proofs.Requirement.Closure

namespace ProtoSwift

variable {table other : SymbolTable} {node : MessageNode}

/-! ### Chains -/

/-- **A chain of references to a required field.** It may be empty, and it may go through any message and
group fields. -/
inductive SymbolTable.LeadsToRequired (table : SymbolTable) : MessageNode → Prop
  | declares {node : MessageNode} (declares : node.schema.declaresRequired = true) : LeadsToRequired table node
  | refers {node target : MessageNode} {path : String} (referred : path ∈ node.references)
    (declared : table.message? path = some target) (leads : LeadsToRequired table target) :
    LeadsToRequired table node

/-- One step of the analysis sees a required field, or a name that has been collected. -/
theorem MessageNode.leadsToRequired_eq_true_iff {requiring : List String} :
    node.leadsToRequired requiring = true
      ↔ node.schema.declaresRequired = true ∨ ∃ path ∈ node.references, path ∈ requiring := by
  simp [MessageNode.leadsToRequired]

/-- The first declaration of a name is what the name means. -/
theorem find?_of_mem_firstDeclarations {messages : List MessageNode}
    (among : node ∈ firstDeclarations messages) :
    messages.find? (·.fullName.text = node.fullName.text) = some node := by
  induction messages with
  | nil => exact absurd among List.not_mem_nil
  | cons first rest inRest =>
    unfold firstDeclarations at among
    rcases List.mem_cons.mp among with rfl | among
    · exact List.find?_cons_of_pos (by simp)
    · obtain ⟨amongRest, different⟩ := List.mem_filter.mp among
      have otherName : first.fullName.text ≠ node.fullName.text := by
        intro same
        have equal := FullName.text_inj.mp same
        simp [equal] at different
      rw [List.find?_cons_of_neg (by simpa using otherName)]
      exact inRest amongRest

namespace SymbolTable

/-- **A collected name means a message from which there is a chain**, if that holds of the names collected
before. -/
theorem declared_of_mem_closeRequiring {requiring : List String} {pending : List MessageNode}
    (known : ∀ node ∈ pending, table.message? node.fullName.text = some node)
    (collected : ∀ path ∈ requiring, ∃ node, table.message? path = some node ∧ table.LeadsToRequired node)
    {path : String} (named : path ∈ closeRequiring requiring pending) :
    ∃ node, table.message? path = some node ∧ table.LeadsToRequired node := by
  fun_induction closeRequiring requiring pending with
  | case1 requiring pending some inRest =>
    refine inRest (fun node among => known node (List.mem_filter.mp among).1) ?_ named
    intro path among
    rcases List.mem_append.mp among with early | late
    · exact collected path early
    · obtain ⟨node, foundNode, rfl⟩ := List.mem_map.mp late
      obtain ⟨amongPending, leads⟩ := List.mem_filter.mp foundNode
      refine ⟨node, known node amongPending, ?_⟩
      rcases MessageNode.leadsToRequired_eq_true_iff.mp leads with declares | ⟨path, referred, among⟩
      · exact .declares declares
      · obtain ⟨target, declared, leads⟩ := collected path among
        exact .refers referred declared leads
  | case2 requiring pending none => exact collected path named

theorem declared_of_mem_requiring {path : String} (named : path ∈ table.requiring) :
    ∃ node, table.message? path = some node ∧ table.LeadsToRequired node := by
  refine declared_of_mem_closeRequiring (fun node among => ?_) (fun path among => ?_) named
  · exact find?_of_mem_firstDeclarations among
  · exact absurd among List.not_mem_nil

/-- **The analysis finds a message exactly if there is a chain from it** to a required field. -/
theorem leadsToRequired_iff :
    node.leadsToRequired table.requiring = true ↔ table.LeadsToRequired node := by
  constructor
  · intro leads
    rcases MessageNode.leadsToRequired_eq_true_iff.mp leads with declares | ⟨path, referred, named⟩
    · exact .declares declares
    · obtain ⟨target, declared, leads⟩ := declared_of_mem_requiring named
      exact .refers referred declared leads
  · intro chain
    induction chain with
    | declares declares => exact MessageNode.leadsToRequired_eq_true_iff.mpr (.inl declares)
    | refers referred declared _ targetLeads =>
      have named := mem_requiring_of_leadsToRequired declared targetLeads
      exact MessageNode.leadsToRequired_eq_true_iff.mpr (.inr ⟨_, referred, named⟩)

/-! ### Chains in two tables -/

/-- A chain leads from one message of a table to the next, so it is a chain wherever the references of these
messages mean the same. -/
theorem LeadsToRequired.transfer
    (same : ∀ node ∈ table.messages, ∀ path ∈ node.references, other.message? path = table.message? path)
    (among : node ∈ table.messages) (leads : table.LeadsToRequired node) : other.LeadsToRequired node := by
  induction leads with
  | declares declares => exact .declares declares
  | refers referred declared _ inTarget =>
    refine .refers referred ?_ (inTarget (mem_of_message? declared))
    rw [same _ among _ referred, declared]

/-- The same in the other direction: a chain from a message of the first table does not leave it. -/
theorem LeadsToRequired.transfer_back
    (same : ∀ node ∈ table.messages, ∀ path ∈ node.references, other.message? path = table.message? path)
    (among : node ∈ table.messages) (leads : other.LeadsToRequired node) : table.LeadsToRequired node := by
  induction leads with
  | declares declares => exact .declares declares
  | refers referred declared _ inTarget =>
    rw [same _ among _ referred] at declared
    exact .refers referred declared (inTarget (mem_of_message? declared))

/-- **Where the references of its messages mean the same, the analysis says the same of these messages.** -/
theorem leadsToRequired_eq
    (same : ∀ node ∈ table.messages, ∀ path ∈ node.references, other.message? path = table.message? path)
    (among : node ∈ table.messages) :
    node.leadsToRequired other.requiring = node.leadsToRequired table.requiring := by
  rw [Bool.eq_iff_iff, leadsToRequired_iff, leadsToRequired_iff]
  exact ⟨fun leads => leads.transfer_back same among, fun leads => leads.transfer same among⟩

end SymbolTable

end ProtoSwift
