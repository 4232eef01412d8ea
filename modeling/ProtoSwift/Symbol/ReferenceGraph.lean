/-
**The references between messages as a graph.**

Three numberings meet here. A message has its number in the listing. Its node is its position in the list of
the messages mentioned so far: a message is mentioned when it is added, or before, when one added earlier refers
to it. What is known about required fields is a list by message number.

* `ReferenceGraph.ofTable` — the graph of a table;
* `ReferenceGraph.search` — the search for a required field, from node to node;
* `ReferenceGraph.leadsToRequired?` — whether the message of a number leads to a required field. There is no
  answer if the search comes to a node without a message, or to a message about which nothing is known.
-/

import ProtoSwift.Symbol.Listing
import ProtoSwift.Symbol.Requirement

namespace ProtoSwift

/-- The references between messages, from node to node. -/
structure ReferenceGraph where
  /-- The numbers of the messages in the order in which they are first mentioned. -/
  mentioned : List Nat := []
  /-- The node that a reference comes from, and the one that it goes to. -/
  references : List (Nat × Nat) := []
  /-- Whether a message declares a required field, by number. -/
  required : List Bool := []

namespace ReferenceGraph

/-! ## Building the graph -/

/-- The graph with a message mentioned, and the node of the message. -/
def mention (graph : ReferenceGraph) (number : Nat) : ReferenceGraph × Nat :=
  match graph.mentioned.idxOf? number with
  | some node => (graph, node)
  | none => ({ graph with mentioned := graph.mentioned ++ [number] }, graph.mentioned.length)

/-- The graph with a reference from a node. A name that no message has leads nowhere. -/
def refer (table : SymbolTable) (source : Nat) (graph : ReferenceGraph) (path : String) : ReferenceGraph :=
  match Listing.message? table path with
  | none => graph
  | some target =>
    let (graph, node) := graph.mention target.index
    { graph with references := graph.references ++ [(source, node)] }

/-- The graph with one more message and its references. -/
def add (table : SymbolTable) (graph : ReferenceGraph) (entry : MessageEntry) : ReferenceGraph :=
  let (graph, node) := graph.mention entry.index
  entry.node.references.foldl (refer table node)
    { graph with required := graph.required ++ [entry.node.schema.declaresRequired] }

/-- The graph of all messages of a table, which are added by number. -/
def ofTable (table : SymbolTable) : ReferenceGraph :=
  (Listing.messages table).foldl (add table) {}

/-! ## Searching the graph -/

/-- The nodes that a node refers to, one for each of its references. -/
def targets (graph : ReferenceGraph) (node : Nat) : List Nat :=
  (graph.references.filter (·.1 = node)).map (·.2)

/-- Whether the message of a node declares a required field, if that is known. -/
def declaresRequired? (graph : ReferenceGraph) (node : Nat) : Option Bool :=
  graph.mentioned[node]?.bind (graph.required[·]?)

/-- The nodes that have not been visited. -/
def unvisited (graph : ReferenceGraph) (visited : List Nat) : List Nat :=
  (List.range graph.mentioned.length).filter (!visited.contains ·)

theorem length_unvisited_cons_lt {graph : ReferenceGraph} {visited : List Nat} {node : Nat}
    (fresh : ¬ visited.contains node) {required : Bool} (known : graph.declaresRequired? node = some required) :
    (graph.unvisited (node :: visited)).length < (graph.unvisited visited).length := by
  obtain ⟨number, mentioned, -⟩ := Option.bind_eq_some_iff.mp known
  obtain ⟨inside, -⟩ := List.getElem?_eq_some_iff.mp mentioned
  have left : node ∈ graph.unvisited visited :=
    List.mem_filter.mpr ⟨List.mem_range.mpr inside, by simpa using fresh⟩
  have fewer : graph.unvisited (node :: visited) = (graph.unvisited visited).filter (· ≠ node) := by
    unfold unvisited
    rw [List.filter_filter]
    exact List.filter_congr fun other _ => by simp
  rw [fewer]
  exact List.length_filter_lt_length_iff_exists.mpr ⟨node, left, by simp⟩

/-- Whether one of the pending nodes leads to a required field, given nodes that have been visited. The pending
nodes are visited in order, and the nodes that one refers to before those that were pending already. -/
def search (graph : ReferenceGraph) (visited : List Nat) : List Nat → Option Bool
  | [] => some false
  | node :: pending =>
    if _seen : visited.contains node then graph.search visited pending
    else
      match _known : graph.declaresRequired? node with
      | none => none
      | some true => some true
      | some false => graph.search (node :: visited) (graph.targets node ++ pending)
termination_by pending => ((graph.unvisited visited).length, pending.length)
decreasing_by
  · exact Prod.Lex.right _ (Nat.lt_succ_self _)
  · exact Prod.Lex.left _ _ (length_unvisited_cons_lt _seen _known)

/-- Whether the message of a number leads to a required field. A message that is not mentioned leads nowhere. -/
def leadsToRequired? (graph : ReferenceGraph) (number : Nat) : Option Bool :=
  match graph.mentioned.idxOf? number with
  | none => some false
  | some node => graph.search [] [node]

end ReferenceGraph

end ProtoSwift
