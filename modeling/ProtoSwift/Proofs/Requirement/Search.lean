/-
**A search of a graph of references misses nothing.**

The search goes from node to node. Whatever the graph looks like, a node that has been visited declares no required
field, and what it refers to has been visited or is still pending. So every path from a visited node to a required
field goes through a pending one, and when nothing is pending there is no such path.

* `ReferenceGraph.Leads` — a path from a node to a required field;
* `ReferenceGraph.Settled` — the invariant of the search, with `Settled.skip` and `Settled.visit` for its two steps;
* `ReferenceGraph.search_iff` — the search has an answer, and it is whether a pending node leads to a required field.
-/

import ProtoSwift.Symbol.ReferenceGraph
import Mathlib.Logic.Relation

namespace ProtoSwift

open Relation (ReflTransGen)

namespace ReferenceGraph

variable {graph : ReferenceGraph}

/-! ### Searching any graph -/

/-- A node refers to another one. -/
def Refers (graph : ReferenceGraph) (source target : Nat) : Prop :=
  (source, target) ∈ graph.references

/-- A path leads from a node to one whose message declares a required field. -/
def Leads (graph : ReferenceGraph) (node : Nat) : Prop :=
  ∃ last, ReflTransGen graph.Refers node last ∧ graph.declaresRequired? last = some true

/-- It is known of a node whether its message declares a required field. -/
def Known (graph : ReferenceGraph) (node : Nat) : Prop :=
  ∃ required, graph.declaresRequired? node = some required

theorem mem_targets_iff {source target : Nat} : target ∈ graph.targets source ↔ graph.Refers source target := by
  unfold targets Refers
  simp

theorem leads_of_declares {node : Nat} (declares : graph.declaresRequired? node = some true) : graph.Leads node :=
  ⟨node, .refl, declares⟩

theorem Leads.of_refers {node target : Nat} (leads : graph.Leads target) (refers : graph.Refers node target) :
    graph.Leads node := by
  obtain ⟨last, path, declares⟩ := leads
  exact ⟨last, .head refers path, declares⟩

/-- A node that declares no required field itself leads to one through what it refers to. -/
theorem Leads.exists_refers {node : Nat} (leads : graph.Leads node)
    (silent : graph.declaresRequired? node = some false) :
    ∃ target, graph.Refers node target ∧ graph.Leads target := by
  obtain ⟨last, path, declares⟩ := leads
  rcases path.cases_head with rfl | ⟨target, refers, rest⟩
  · rw [silent] at declares
    cases declares
  · exact ⟨target, refers, last, rest, declares⟩

/-- **The invariant of the search.** No visited node declares a required field, and what a visited node refers to
has been visited or is pending. -/
structure Settled (graph : ReferenceGraph) (visited pending : List Nat) : Prop where
  silent : ∀ node ∈ visited, graph.declaresRequired? node = some false
  followed : ∀ node ∈ visited, ∀ target, graph.Refers node target → target ∈ visited ∨ target ∈ pending

namespace Settled

variable {visited pending : List Nat} {node : Nat}

/-- Every path from a visited node to a required field goes through a pending node. -/
theorem exists_pending (settled : graph.Settled visited pending) (among : node ∈ visited)
    (leads : graph.Leads node) : ∃ next ∈ pending, graph.Leads next := by
  obtain ⟨last, path, declares⟩ := leads
  induction path using ReflTransGen.head_induction_on with
  | refl =>
    rw [settled.silent _ among] at declares
    cases declares
  | head refers path inPath =>
    rcases settled.followed _ among _ refers with seen | waiting
    · exact inPath seen
    · exact ⟨_, waiting, last, path, declares⟩

/-- A node that is met again is passed over. -/
theorem skip (settled : graph.Settled visited (node :: pending)) (seen : node ∈ visited) :
    graph.Settled visited pending := by
  refine ⟨settled.silent, fun source among target refers => ?_⟩
  rcases settled.followed source among target refers with early | waiting
  · exact .inl early
  · rcases List.mem_cons.mp waiting with rfl | waiting
    · exact .inl seen
    · exact .inr waiting

/-- A node without a required field is visited, and what it refers to becomes pending. -/
theorem visit (settled : graph.Settled visited (node :: pending))
    (silent : graph.declaresRequired? node = some false) :
    graph.Settled (node :: visited) (graph.targets node ++ pending) := by
  constructor
  · intro source among
    rcases List.mem_cons.mp among with rfl | among
    · exact silent
    · exact settled.silent source among
  · intro source among target refers
    rcases List.mem_cons.mp among with rfl | among
    · exact .inr (List.mem_append_left _ (mem_targets_iff.mpr refers))
    · rcases settled.followed source among target refers with early | waiting
      · exact .inl (.tail _ early)
      · rcases List.mem_cons.mp waiting with rfl | waiting
        · exact .inl List.mem_cons_self
        · exact .inr (List.mem_append_right _ waiting)

end Settled

/-- **The search has an answer, and finds what the pending nodes lead to.** -/
theorem search_iff (whole : ∀ source target, graph.Refers source target → graph.Known target)
    {visited pending : List Nat} (known : ∀ node ∈ pending, graph.Known node)
    (settled : graph.Settled visited pending) :
    ∃ answer, graph.search visited pending = some answer
      ∧ (answer = true ↔ ∃ node ∈ pending, graph.Leads node) := by
  fun_induction search graph visited pending with
  | case1 visited => exact ⟨false, rfl, by simp⟩
  | case2 visited node pending seen inRest =>
    have member : node ∈ visited := by simpa using seen
    obtain ⟨answer, found, iff⟩ := inRest (fun next among => known next (.tail _ among)) (settled.skip member)
    refine ⟨answer, found, iff.trans ⟨?_, ?_⟩⟩
    · rintro ⟨next, among, leads⟩
      exact ⟨next, .tail _ among, leads⟩
    · rintro ⟨next, among, leads⟩
      rcases List.mem_cons.mp among with rfl | among
      · exact (settled.skip member).exists_pending member leads
      · exact ⟨next, among, leads⟩
  | case3 visited node pending _ unknown =>
    obtain ⟨required, answered⟩ := known node List.mem_cons_self
    rw [unknown] at answered
    cases answered
  | case4 visited node pending _ declares =>
    exact ⟨true, rfl, fun _ => ⟨node, List.mem_cons_self, leads_of_declares declares⟩, fun _ => rfl⟩
  | case5 visited node pending _ silent inRest =>
    have stillKnown : ∀ next ∈ graph.targets node ++ pending, graph.Known next := by
      intro next among
      rcases List.mem_append.mp among with target | among
      · exact whole node next (mem_targets_iff.mp target)
      · exact known next (.tail _ among)
    obtain ⟨answer, found, iff⟩ := inRest stillKnown (settled.visit silent)
    refine ⟨answer, found, iff.trans ⟨?_, ?_⟩⟩
    · rintro ⟨next, among, leads⟩
      rcases List.mem_append.mp among with target | among
      · exact ⟨node, List.mem_cons_self, leads.of_refers (mem_targets_iff.mp target)⟩
      · exact ⟨next, .tail _ among, leads⟩
    · rintro ⟨next, among, leads⟩
      rcases List.mem_cons.mp among with rfl | among
      · obtain ⟨target, refers, leads⟩ := leads.exists_refers silent
        exact ⟨target, List.mem_append_left _ (mem_targets_iff.mpr refers), leads⟩
      · exact ⟨next, List.mem_append_right _ among, leads⟩

end ReferenceGraph

end ProtoSwift
