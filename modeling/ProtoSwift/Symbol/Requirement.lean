/-
**Which messages lead to a required field.**

A message leads to a required field if it declares one, or if one of its message and group fields refers to
a message that does. References mean the first declaration of a name, and those that name nothing lead
nowhere.

* `SymbolTable.requiring` — the full names whose first declaration leads to a required field;
* `MessageNode.leadsToRequired` — the same question about one declaration.
-/

import ProtoSwift.Symbol.Table

namespace ProtoSwift

/-- The names that the message and group fields of a message refer to. -/
def MessageNode.references (node : MessageNode) : List String :=
  (node.fields.filter (·.refersToMessage)).map (·.typeName)

/-- Whether a message leads to a required field in at most one step more than the named ones. -/
def MessageNode.leadsToRequired (requiring : List String) (node : MessageNode) : Bool :=
  node.schema.declaresRequired || node.references.any requiring.contains

/-- The messages of a list that are the first with their full name. -/
def firstDeclarations : List MessageNode → List MessageNode
  | [] => []
  | node :: rest => node :: (firstDeclarations rest).filter (·.fullName ≠ node.fullName)

/-- The messages of a list that lead to a required field in at most one step more than the named ones. -/
def found (requiring : List String) (pending : List MessageNode) : List MessageNode :=
  pending.filter (·.leadsToRequired requiring)

/-- The messages of a list that do not. -/
def unfound (requiring : List String) (pending : List MessageNode) : List MessageNode :=
  pending.filter (!·.leadsToRequired requiring)

theorem length_unfound_lt (requiring : List String) (pending : List MessageNode)
    (some : found requiring pending ≠ []) :
    (unfound requiring pending).length < pending.length := by
  obtain ⟨node, member⟩ := List.exists_mem_of_ne_nil _ some
  obtain ⟨pendingNode, leads⟩ := List.mem_filter.mp member
  exact List.length_filter_lt_length_iff_exists.mpr ⟨node, pendingNode, by simp [leads]⟩

/-- Adds the messages that lead to a named one until no other message does. -/
def closeRequiring (requiring : List String) (pending : List MessageNode) : List String :=
  if _some : found requiring pending ≠ [] then
    closeRequiring (requiring ++ (found requiring pending).map (·.fullName.text))
      (unfound requiring pending)
  else requiring
termination_by pending.length
decreasing_by exact length_unfound_lt _ _ (by assumption)

/-- The full names whose first declaration leads to a required field. -/
def SymbolTable.requiring (table : SymbolTable) : List String :=
  closeRequiring [] (firstDeclarations table.messages)

end ProtoSwift
