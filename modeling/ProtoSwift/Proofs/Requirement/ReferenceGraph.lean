/-
**A message leads to a required field along a chain of messages, and the search finds it.**

The nodes of the graph of a table are made when a message is mentioned, and required fields are known by message
number. The steps that build the graph keep these numberings in agreement: a message has one node, and the
references between nodes are the links between the messages that have been added.

* `Listing.RefersTo` — a message refers to another one;
* `ReferenceGraph.Holds`, `ReferenceGraph.Mirrors` — a graph with given links, and one of given messages;
* `ReferenceGraph.Mirrors.add`, `ReferenceGraph.mirrors_ofTable` — one more message, and all messages of a table;
* `ReferenceGraph.Mirrors.leads_iff` — paths in the graph are chains of messages;
* `ReferenceGraph.leadsToRequired?_ofTable` — the search has an answer for every message of a table. It is yes
  exactly if there is a chain of messages to a required field, and the analysis by names has the same answer.
-/

import ProtoSwift.Proofs.Requirement.Chain
import ProtoSwift.Proofs.Requirement.Search
import ProtoSwift.Proofs.Symbol.Listing
import Mathlib.Data.List.Chain

namespace ProtoSwift

open Relation (ReflTransGen)

/-! ### References between messages -/

namespace Listing

variable {table : SymbolTable} {entry other : MessageEntry}

/-- **A message refers to another one**: a field of it, with any label and in a oneof or not, has the name of the other
one as its message or group type, and the other one is the first with the name. -/
def RefersTo (table : SymbolTable) (entry other : MessageEntry) : Prop :=
  ∃ field ∈ entry.node.fields, (field.kind = .message ∨ field.kind = .group)
    ∧ message? table field.typeName = some other

/-- A message declares a field with the label `required`. -/
def DeclaresRequired (entry : MessageEntry) : Prop :=
  ∃ field ∈ entry.node.fields, field.label = .required

theorem declaresRequired_iff : entry.node.schema.declaresRequired = true ↔ DeclaresRequired entry := by
  unfold Schema.Message.declaresRequired DeclaresRequired
  simp [MessageNode.fields]

theorem refersTo_iff :
    RefersTo table entry other ↔ ∃ path ∈ entry.node.references, message? table path = some other := by
  unfold RefersTo MessageNode.references
  constructor
  · rintro ⟨field, among, kind, found⟩
    refine ⟨field.typeName, List.mem_map.mpr ⟨field, List.mem_filter.mpr ⟨among, ?_⟩, rfl⟩, found⟩
    simpa [Schema.Field.refersToMessage] using kind
  · rintro ⟨path, among, found⟩
    obtain ⟨field, filtered, rfl⟩ := List.mem_map.mp among
    obtain ⟨among, refers⟩ := List.mem_filter.mp filtered
    exact ⟨field, among, by simpa [Schema.Field.refersToMessage] using refers, found⟩

theorem mem_of_message? {path : String} (found : message? table path = some entry) : entry ∈ messages table :=
  List.mem_of_find?_eq_some found

theorem RefersTo.mem_messages (refersTo : RefersTo table entry other) : other ∈ messages table := by
  obtain ⟨_, _, _, found⟩ := refersTo
  exact mem_of_message? found

/-- The number of a message is its position. -/
theorem index_of_getElem? {position : Nat} (there : (messages table)[position]? = some entry) :
    entry.index = position := by
  obtain ⟨inside, -⟩ := List.getElem?_eq_some_iff.mp there
  have number := congrArg (·[position]?) (map_index_messages table)
  simp only [List.getElem?_map, there, Option.map_some, List.getElem?_range inside, Option.some.injEq] at number
  exact number

/-- A message stands at its number. -/
theorem getElem?_index (among : entry ∈ messages table) : (messages table)[entry.index]? = some entry := by
  obtain ⟨position, there⟩ := List.mem_iff_getElem?.mp among
  rw [index_of_getElem? there, there]

theorem index_lt (among : entry ∈ messages table) : entry.index < (messages table).length :=
  (List.getElem?_eq_some_iff.mp (getElem?_index among)).1

theorem eq_of_index_eq (among : entry ∈ messages table) (otherAmong : other ∈ messages table)
    (same : entry.index = other.index) : entry = other := by
  have found := getElem?_index among
  rw [same, getElem?_index otherAmong] at found
  exact (Option.some.inj found).symm

/-- The numbers of a message and of what it refers to, for each of its references. -/
def links (table : SymbolTable) (entry : MessageEntry) : List (Nat × Nat) :=
  entry.node.references.filterMap fun path =>
    (message? table path).map fun target => (entry.index, target.index)

theorem mem_links_iff {source target : Nat} : (source, target) ∈ links table entry
    ↔ entry.index = source ∧ ∃ other, RefersTo table entry other ∧ other.index = target := by
  unfold links
  simp only [List.mem_filterMap, Option.map_eq_some_iff, Prod.mk.injEq, refersTo_iff]
  constructor
  · rintro ⟨path, among, other, found, same, rfl⟩
    exact ⟨same, other, ⟨path, among, found⟩, rfl⟩
  · rintro ⟨same, other, ⟨path, among, found⟩, rfl⟩
    exact ⟨path, among, other, found, same, rfl⟩

end Listing

namespace ReferenceGraph

variable {table : SymbolTable} {graph : ReferenceGraph} {links : List (Nat × Nat)} {number : Nat}

/-! ### The numberings agree -/

/-- The references with the numbers of the messages in the place of their nodes. -/
def numbered (graph : ReferenceGraph) : List (Option Nat × Option Nat) :=
  graph.references.map fun reference => (graph.mentioned[reference.1]?, graph.mentioned[reference.2]?)

/-- **A graph has given links**: no message has two nodes, all nodes are those of messages, and the references are the
links. -/
structure Holds (table : SymbolTable) (links : List (Nat × Nat)) (graph : ReferenceGraph) : Prop where
  distinct : graph.mentioned.Nodup
  listed : ∀ number ∈ graph.mentioned, number < (Listing.messages table).length
  numbered : graph.numbered = links.map fun link => (some link.1, some link.2)

/-- What stands in a list still stands there when the list has grown. -/
theorem getElem?_of_grown {α : Type} {early late : List α} (grown : early <+: late) {position : Nat} {value : α}
    (found : early[position]? = some value) : late[position]? = some value := by
  obtain ⟨more, rfl⟩ := grown
  obtain ⟨inside, -⟩ := List.getElem?_eq_some_iff.mp found
  rw [List.getElem?_append_left inside, found]

theorem mentioned_prefix_mention (graph : ReferenceGraph) (number : Nat) :
    graph.mentioned <+: (graph.mention number).1.mentioned := by
  unfold mention
  split
  · exact List.prefix_refl _
  · exact List.prefix_append _ _

theorem references_mention (graph : ReferenceGraph) (number : Nat) :
    (graph.mention number).1.references = graph.references := by
  unfold mention
  split <;> rfl

theorem required_mention (graph : ReferenceGraph) (number : Nat) :
    (graph.mention number).1.required = graph.required := by
  unfold mention
  split <;> rfl

/-- A mentioned message is found at its node. -/
theorem getElem?_mention (graph : ReferenceGraph) (number : Nat) :
    (graph.mention number).1.mentioned[(graph.mention number).2]? = some number := by
  unfold mention
  split
  · next node found =>
    obtain ⟨inside, same, -⟩ := List.idxOf?_eq_some_iff.mp found
    rw [List.getElem?_eq_getElem inside, same]
  · simp

namespace Holds

/-- The nodes of references are those of messages. -/
theorem some_of_mem (holds : Holds table links graph) {reference : Nat × Nat}
    (among : reference ∈ graph.references) : ∃ link ∈ links, graph.mentioned[reference.1]? = some link.1
      ∧ graph.mentioned[reference.2]? = some link.2 := by
  have member : (graph.mentioned[reference.1]?, graph.mentioned[reference.2]?) ∈ graph.numbered :=
    List.mem_map_of_mem among
  rw [holds.numbered] at member
  obtain ⟨link, among, same⟩ := List.mem_map.mp member
  exact ⟨link, among, (congrArg Prod.fst same).symm, (congrArg Prod.snd same).symm⟩

/-- Mentioning a message changes no link. -/
theorem mention (holds : Holds table links graph) (listed : number < (Listing.messages table).length) :
    Holds table links (graph.mention number).1 := by
  have numbered : (graph.mention number).1.numbered = graph.numbered := by
    unfold ReferenceGraph.numbered
    rw [references_mention]
    refine List.map_congr_left fun reference among => ?_
    obtain ⟨link, -, source, target⟩ := holds.some_of_mem among
    rw [source, target, getElem?_of_grown (mentioned_prefix_mention graph number) source,
      getElem?_of_grown (mentioned_prefix_mention graph number) target]
  refine ⟨?_, ?_, numbered.trans holds.numbered⟩
  · unfold ReferenceGraph.mention
    split
    · exact holds.distinct
    · next missing =>
      have fresh : number ∉ graph.mentioned := List.idxOf?_eq_none_iff.mp missing
      exact List.nodup_append.mpr ⟨holds.distinct, List.nodup_singleton _, fun one among other here same =>
        fresh (List.mem_singleton.mp here ▸ same ▸ among)⟩
  · unfold ReferenceGraph.mention
    split
    · exact holds.listed
    · intro other among
      rcases List.mem_append.mp among with among | here
      · exact holds.listed other among
      · rwa [List.mem_singleton.mp here]

end Holds

/-! ### Building the graph -/

section Building

variable {source : Nat} {path : String} {paths : List String} {entry : MessageEntry}

theorem mentioned_prefix_refer (table : SymbolTable) (source : Nat) (graph : ReferenceGraph) (path : String) :
    graph.mentioned <+: (refer table source graph path).mentioned := by
  unfold refer
  split
  · exact List.prefix_refl _
  · exact mentioned_prefix_mention graph _

theorem required_refer (table : SymbolTable) (source : Nat) (graph : ReferenceGraph) (path : String) :
    (refer table source graph path).required = graph.required := by
  unfold refer
  split
  · rfl
  · exact required_mention graph _

theorem mentioned_prefix_foldl (table : SymbolTable) (source : Nat) (graph : ReferenceGraph) (paths : List String) :
    graph.mentioned <+: (paths.foldl (refer table source) graph).mentioned := by
  induction paths generalizing graph with
  | nil => exact List.prefix_refl _
  | cons path rest inRest => exact (mentioned_prefix_refer table source graph path).trans (inRest _)

theorem required_foldl (table : SymbolTable) (source : Nat) (graph : ReferenceGraph) (paths : List String) :
    (paths.foldl (refer table source) graph).required = graph.required := by
  induction paths generalizing graph with
  | nil => rfl
  | cons path rest inRest => exact (inRest _).trans (required_refer table source graph path)

/-- The messages of an added message's references are mentioned after the message itself. -/
theorem mentioned_prefix_add (table : SymbolTable) (graph : ReferenceGraph) (entry : MessageEntry) :
    (graph.mention entry.index).1.mentioned <+: (add table graph entry).mentioned :=
  mentioned_prefix_foldl table (graph.mention entry.index).2
    { (graph.mention entry.index).1 with
      required := (graph.mention entry.index).1.required ++ [entry.node.schema.declaresRequired] }
    entry.node.references

/-- A reference adds its link, if its name means a message. -/
theorem Holds.refer (holds : Holds table links graph) (node : graph.mentioned[source]? = some number) :
    Holds table (links ++ ((Listing.message? table path).map fun target => (number, target.index)).toList)
      (refer table source graph path) := by
  unfold ReferenceGraph.refer
  split
  · next missing =>
    rw [missing, Option.map_none, Option.toList_none, List.append_nil]
    exact holds
  · next target found =>
    have mentions := holds.mention (Listing.index_lt (Listing.mem_of_message? found))
    have still := getElem?_of_grown (mentioned_prefix_mention graph target.index) node
    refine ⟨mentions.distinct, mentions.listed, ?_⟩
    rw [found, Option.map_some, Option.toList_some, List.map_append, ← mentions.numbered]
    simp only [ReferenceGraph.numbered, List.map_append, List.map_cons, List.map_nil, still, getElem?_mention]

theorem Holds.foldl (holds : Holds table links graph) (node : graph.mentioned[source]? = some number) :
    Holds table (links ++ paths.filterMap fun path =>
        (Listing.message? table path).map fun target => (number, target.index))
      (paths.foldl (ReferenceGraph.refer table source) graph) := by
  induction paths generalizing graph links with
  | nil =>
    rw [List.filterMap_nil, List.append_nil]
    exact holds
  | cons path rest inRest =>
    have step := inRest (holds.refer node) (getElem?_of_grown (mentioned_prefix_refer table source graph path) node)
    rw [List.append_assoc] at step
    rw [List.filterMap_eq_flatMap_toList, List.flatMap_cons, ← List.filterMap_eq_flatMap_toList]
    exact step

/-- **The graph of given messages.** Each of them has a node, their links are the references, and it is known which of
them declare required fields. -/
structure Mirrors (table : SymbolTable) (messages : List MessageEntry) (graph : ReferenceGraph) : Prop where
  holds : Holds table (messages.flatMap (Listing.links table)) graph
  mentioned : ∀ entry ∈ messages, entry.index ∈ graph.mentioned
  required : graph.required = messages.map (·.node.schema.declaresRequired)

/-- **One more message**: the graph stays that of the messages added. -/
theorem Mirrors.add {messages : List MessageEntry} (mirrors : Mirrors table messages graph)
    (among : entry ∈ Listing.messages table) : Mirrors table (messages ++ [entry]) (add table graph entry) := by
  have holds := mirrors.holds.mention (Listing.index_lt among)
  have here := getElem?_mention graph entry.index
  have grown := mentioned_prefix_add table graph entry
  constructor
  case holds =>
    rw [List.flatMap_append, List.flatMap_singleton]
    exact Holds.foldl ⟨holds.distinct, holds.listed, holds.numbered⟩ here
  case mentioned =>
    intro other member
    rcases List.mem_append.mp member with early | last
    · exact grown.subset ((mentioned_prefix_mention graph _).subset (mirrors.mentioned other early))
    · rw [List.mem_singleton.mp last]
      exact grown.subset (List.mem_of_getElem? here)
  case required =>
    rw [List.map_append, ← mirrors.required, ← required_mention graph entry.index]
    exact required_foldl _ _ _ _

theorem Mirrors.foldl {messages more : List MessageEntry} (mirrors : Mirrors table messages graph)
    (among : ∀ entry ∈ more, entry ∈ Listing.messages table) :
    Mirrors table (messages ++ more) (more.foldl (ReferenceGraph.add table) graph) := by
  induction more generalizing graph messages with
  | nil =>
    rw [List.append_nil]
    exact mirrors
  | cons entry rest inRest =>
    have step := inRest (mirrors.add (among entry List.mem_cons_self)) fun next member => among next (.tail _ member)
    rw [List.append_assoc] at step
    exact step

/-- **The graph of a table is that of all its messages.** -/
theorem mirrors_ofTable (table : SymbolTable) : Mirrors table (Listing.messages table) (ofTable table) := by
  have empty : Mirrors table [] {} :=
    ⟨⟨List.nodup_nil, fun _ among => absurd among List.not_mem_nil, rfl⟩,
      fun _ among => absurd among List.not_mem_nil, rfl⟩
  exact empty.foldl fun _ among => among

end Building

/-! ### The graph and the messages -/

namespace Mirrors

variable {entry other : MessageEntry} {node target : Nat}

/-- What a node refers to is what its message refers to. -/
theorem exists_of_refers (mirrors : Mirrors table (Listing.messages table) graph)
    (among : entry ∈ Listing.messages table) (found : graph.mentioned[node]? = some entry.index)
    (refers : graph.Refers node target) :
    ∃ other, Listing.RefersTo table entry other ∧ graph.mentioned[target]? = some other.index := by
  obtain ⟨⟨source, goal⟩, linked, sourceNode, goalNode⟩ := mirrors.holds.some_of_mem refers
  obtain ⟨first, firstAmong, linked⟩ := List.mem_flatMap.mp linked
  obtain ⟨rfl, other, refersTo, rfl⟩ := Listing.mem_links_iff.mp linked
  rw [found, Option.some.injEq] at sourceNode
  rw [Listing.eq_of_index_eq among firstAmong sourceNode]
  exact ⟨other, refersTo, goalNode⟩

/-- What a message refers to its node refers to. A message has one node only, so it does not matter where the reference
comes from. -/
theorem exists_refers (mirrors : Mirrors table (Listing.messages table) graph)
    (among : entry ∈ Listing.messages table) (found : graph.mentioned[node]? = some entry.index)
    (refersTo : Listing.RefersTo table entry other) :
    ∃ target, graph.Refers node target ∧ graph.mentioned[target]? = some other.index := by
  have linked : (entry.index, other.index) ∈ (Listing.messages table).flatMap (Listing.links table) :=
    List.mem_flatMap.mpr ⟨entry, among, Listing.mem_links_iff.mpr ⟨rfl, other, refersTo, rfl⟩⟩
  have member : (some entry.index, some other.index) ∈ graph.numbered := by
    rw [mirrors.holds.numbered]
    exact List.mem_map_of_mem linked
  obtain ⟨⟨source, target⟩, referred, same⟩ := List.mem_map.mp member
  rw [Prod.mk.injEq] at same
  obtain ⟨sourceNode, targetNode⟩ := same
  obtain ⟨inside, -⟩ := List.getElem?_eq_some_iff.mp found
  have one : node = source := (List.getElem?_inj inside mirrors.holds.distinct).mp (found.trans sourceNode.symm)
  rw [one]
  exact ⟨target, referred, targetNode⟩

/-- It is known of every node of a message whether the message declares a required field. -/
theorem declaresRequired?_eq (mirrors : Mirrors table (Listing.messages table) graph)
    (among : entry ∈ Listing.messages table) (found : graph.mentioned[node]? = some entry.index) :
    graph.declaresRequired? node = some entry.node.schema.declaresRequired := by
  unfold declaresRequired?
  rw [found, Option.bind_some, mirrors.required, List.getElem?_map, Listing.getElem?_index among, Option.map_some]

theorem known_of_refers (mirrors : Mirrors table (Listing.messages table) graph) (refers : graph.Refers node target) :
    graph.Known target := by
  obtain ⟨⟨source, goal⟩, linked, -, goalNode⟩ := mirrors.holds.some_of_mem refers
  obtain ⟨first, -, linked⟩ := List.mem_flatMap.mp linked
  obtain ⟨-, other, refersTo, rfl⟩ := Listing.mem_links_iff.mp linked
  exact ⟨_, mirrors.declaresRequired?_eq refersTo.mem_messages goalNode⟩

/-- **Paths in the graph are chains of messages.** -/
theorem leads_iff (mirrors : Mirrors table (Listing.messages table) graph) (among : entry ∈ Listing.messages table)
    (found : graph.mentioned[node]? = some entry.index) : graph.Leads node
      ↔ ∃ last, ReflTransGen (Listing.RefersTo table) entry last ∧ Listing.DeclaresRequired last := by
  constructor
  · rintro ⟨last, path, declares⟩
    induction path using ReflTransGen.head_induction_on generalizing entry with
    | refl =>
      rw [mirrors.declaresRequired?_eq among found, Option.some.injEq] at declares
      exact ⟨entry, .refl, Listing.declaresRequired_iff.mp declares⟩
    | head refers _ inPath =>
      obtain ⟨other, refersTo, otherFound⟩ := mirrors.exists_of_refers among found refers
      obtain ⟨last, chain, declares⟩ := inPath refersTo.mem_messages otherFound
      exact ⟨last, .head refersTo chain, declares⟩
  · rintro ⟨last, chain, declares⟩
    induction chain using ReflTransGen.head_induction_on generalizing node with
    | refl =>
      refine leads_of_declares ?_
      rw [mirrors.declaresRequired?_eq among found, Listing.declaresRequired_iff.mpr declares]
    | head refersTo _ inChain =>
      obtain ⟨target, refers, targetFound⟩ := mirrors.exists_refers among found refersTo
      exact (inChain refersTo.mem_messages targetFound).of_refers refers

/-- **The search has an answer for every message**, and it is whether a chain leads to a required field. -/
theorem leadsToRequired?_iff (mirrors : Mirrors table (Listing.messages table) graph)
    (among : entry ∈ Listing.messages table) : ∃ answer, graph.leadsToRequired? entry.index = some answer
      ∧ (answer = true
        ↔ ∃ last, ReflTransGen (Listing.RefersTo table) entry last ∧ Listing.DeclaresRequired last) := by
  unfold leadsToRequired?
  split
  · next missing => exact absurd (mirrors.mentioned entry among) (List.idxOf?_eq_none_iff.mp missing)
  · next node found =>
    obtain ⟨inside, same, -⟩ := List.idxOf?_eq_some_iff.mp found
    have here : graph.mentioned[node]? = some entry.index := by rw [List.getElem?_eq_getElem inside, same]
    have known : ∀ other ∈ [node], graph.Known other := by
      intro other member
      rw [List.mem_singleton.mp member]
      exact ⟨_, mirrors.declaresRequired?_eq among here⟩
    have fresh : graph.Settled [] [node] :=
      ⟨fun _ among => absurd among List.not_mem_nil, fun _ among => absurd among List.not_mem_nil⟩
    obtain ⟨answer, found, iff⟩ := search_iff (fun _ _ => mirrors.known_of_refers) known fresh
    refine ⟨answer, found, iff.trans ?_⟩
    rw [← mirrors.leads_iff among here]
    exact ⟨fun ⟨_, member, leads⟩ => List.mem_singleton.mp member ▸ leads,
      fun leads => ⟨node, List.mem_singleton_self node, leads⟩⟩

end Mirrors

end ReferenceGraph

/-! ### The search and the analysis by names -/

/-- What can be reached step by step is at the end of a chain. -/
theorem exists_chain_iff {α : Type} {step : α → α → Prop} {good : α → Prop} {first : α} :
    (∃ last, ReflTransGen step first last ∧ good last)
      ↔ ∃ chain last, (first :: chain).IsChain step ∧ (first :: chain).getLast? = some last ∧ good last := by
  constructor
  · rintro ⟨last, path, holds⟩
    obtain ⟨chain, linked, ends⟩ := List.exists_isChain_cons_of_relationReflTransGen path
    refine ⟨chain, last, linked, ?_, holds⟩
    rw [List.getLast?_eq_some_getLast (List.cons_ne_nil _ _), ends]
  · rintro ⟨chain, last, linked, ends, holds⟩
    rw [List.getLast?_eq_some_getLast (List.cons_ne_nil _ _), Option.some.injEq] at ends
    exact ⟨last, List.relationReflTransGen_of_exists_isChain_cons chain linked ends, holds⟩

/-- A chain of references, message by message, is one of numbered messages. -/
theorem SymbolTable.leadsToRequired_iff_refersTo {table : SymbolTable} {entry : MessageEntry} :
    table.LeadsToRequired entry.node
      ↔ ∃ last, ReflTransGen (Listing.RefersTo table) entry last ∧ Listing.DeclaresRequired last := by
  constructor
  · intro leads
    generalize same : entry.node = node at leads
    induction leads generalizing entry with
    | declares declares =>
      rw [← same] at declares
      exact ⟨entry, .refl, Listing.declaresRequired_iff.mp declares⟩
    | refers referred declared _ inTarget =>
      rw [(Listing.findsFirst table).message_node, Option.map_eq_some_iff] at declared
      obtain ⟨other, found, rfl⟩ := declared
      obtain ⟨last, chain, declares⟩ := inTarget rfl
      exact ⟨last, .head (Listing.refersTo_iff.mpr ⟨_, same ▸ referred, found⟩) chain, declares⟩
  · rintro ⟨last, chain, declares⟩
    induction chain using ReflTransGen.head_induction_on with
    | refl => exact .declares (Listing.declaresRequired_iff.mpr declares)
    | head refersTo _ inChain =>
      obtain ⟨path, referred, found⟩ := Listing.refersTo_iff.mp refersTo
      refine .refers referred ?_ inChain
      rw [(Listing.findsFirst table).message_node, found, Option.map_some]

/-- **The search has an answer for every message of a table**, and the answer is yes exactly if there is a chain of
messages that begins with the given one, goes on to a message that the one before refers to, and ends in one that
declares a required field. The analysis by names has the same answer. -/
theorem ReferenceGraph.leadsToRequired?_ofTable (table : SymbolTable) {number : Nat}
    (listed : number < (Listing.messages table).length) : ∃ entry answer,
      (Listing.messages table)[number]? = some entry
        ∧ (ReferenceGraph.ofTable table).leadsToRequired? number = some answer
        ∧ (answer = true ↔ ∃ chain last, (entry :: chain).IsChain (Listing.RefersTo table)
          ∧ (entry :: chain).getLast? = some last ∧ ∃ field ∈ last.node.fields, field.label = .required)
        ∧ answer = entry.node.leadsToRequired table.requiring := by
  have there := List.getElem?_eq_getElem listed
  generalize (Listing.messages table)[number] = entry at there
  have among := List.mem_of_getElem? there
  obtain ⟨answer, found, iff⟩ := (mirrors_ofTable table).leadsToRequired?_iff among
  rw [Listing.index_of_getElem? there] at found
  refine ⟨entry, answer, there, found, iff.trans exists_chain_iff, ?_⟩
  rw [Bool.eq_iff_iff, iff, SymbolTable.leadsToRequired_iff, SymbolTable.leadsToRequired_iff_refersTo]

/-- A field that refers to a message. -/
def referringField (label : Int32) (name : String) : Schema.Field :=
  { label? := some label, type? := some 11, typeName? := some name }

/-- A branch refers to itself and to its accounts, an account to its branch, to a client that nothing declares, and in
a oneof to its holder, who is declared twice. -/
def branchFile : Schema.File :=
  { package? := some "bank"
    messages := [
      { name? := some "Branch"
        fields := [referringField 1 ".bank.Branch", referringField 3 ".bank.Account",
          referringField 3 ".bank.Account"] },
      { name? := some "Holder", fields := [{ label? := some 2, type? := some 3 }] },
      { name? := some "Account"
        fields := [referringField 1 ".bank.Branch", referringField 1 ".bank.Client",
          { referringField 1 ".bank.Holder" with oneofIndex? := some 0 }] },
      { name? := some "Holder" }] }

def branchTable : SymbolTable :=
  ⟨[FileNode.declare .proto2 branchFile]⟩

theorem ReferenceGraph.leadsToRequired?_branchTable : 0 < (Listing.messages branchTable).length
    ∧ ∃ entry, (Listing.messages branchTable)[0]? = some entry
      ∧ (ReferenceGraph.ofTable branchTable).leadsToRequired? 0 = some true
      ∧ (∃ chain last, (entry :: chain).IsChain (Listing.RefersTo branchTable)
        ∧ (entry :: chain).getLast? = some last ∧ ∃ field ∈ last.node.fields, field.label = .required)
      ∧ entry.node.leadsToRequired branchTable.requiring = true := by
  have listed : 0 < (Listing.messages branchTable).length := by decide
  obtain ⟨entry, answer, there, found, iff, same⟩ := ReferenceGraph.leadsToRequired?_ofTable branchTable listed
  have needed : (Listing.messages branchTable)[0]?.map (·.node.leadsToRequired branchTable.requiring) = some true := by
    decide +kernel
  rw [there, Option.map_some, ← same, Option.some.injEq] at needed
  subst needed
  exact ⟨listed, entry, there, found, iff.mp rfl, same.symm⟩

/-- An account is mentioned before the first holder, who is added before it. -/
example : (ReferenceGraph.ofTable branchTable).mentioned = [0, 2, 1, 3] := by
  decide

end ProtoSwift
