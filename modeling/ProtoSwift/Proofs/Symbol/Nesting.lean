/-
**The types of a file, inside each other.**

A type is declared directly in its file or directly inside a message, and that message is a type of the file too.
So every type has a place: the messages around it, the outermost first. The Swift name of a type spells its
place. If the names that it is made of have no dots, the parts between its dots are the names by which the types
around it and the type itself are declared.

* `TypePlace`, `FileNode.places` — the types of a file with the messages around them;
* `FileNode.parent_of_mem_places` — the innermost message around a type is the one that declares it;
* `FileNode.perm_types` — there is one place for every type;
* `TypePlace.inEntry`, `FileNode.shown` — the types in map entries that are declared inside a message, and the
  other types;
* `FileNode.joined_names` — the Swift name of a type is the path to its place.
-/

import ProtoSwift.Proofs.Symbol.Place
import ProtoSwift.Proofs.Text.WordCharacters
import Mathlib

namespace ProtoSwift

open Swift Text

/-! ### Places -/

/-- **A type with the messages that it is declared inside**, the outermost first. -/
structure TypePlace where
  around : List MessageNode
  type : TypeNode

namespace TypePlace

/-- The place seen from the message around all of it. -/
def inside (outer : MessageNode) (place : TypePlace) : TypePlace :=
  { place with around := outer :: place.around }

/-- The messages on the way to the type, and the type itself if it is a message. -/
def messages (place : TypePlace) : List MessageNode :=
  place.around ++ place.type.message?.toList

/-- **Whether the type is a map entry declared inside a message, or is inside one.** The first message on the way
is declared in the file itself. -/
def inEntry (place : TypePlace) : Bool :=
  place.messages.tail.any (·.isMapEntry)

end TypePlace

namespace TypeNode

/-- The name of a type as its file declares it. -/
def name : TypeNode → String
  | message node => node.schema.name
  | enumeration node => node.schema.name

/-- The name by which other code refers to a type. -/
def swiftName : TypeNode → String
  | message node => node.swiftName
  | enumeration node => node.swiftName

end TypeNode

/-- What holds of a message if it holds of the messages inside it holds of every message. -/
@[elab_as_elim]
theorem MessageNode.inductionOnNested {motive : MessageNode → Prop}
    (step : ∀ node : MessageNode, (∀ inner ∈ node.messages, motive inner) → motive node)
    (node : MessageNode) : motive node := by
  refine @MessageNode.rec motive (fun nodes => ∀ inner ∈ nodes, motive inner) ?_ ?_ ?_ node
  · exact fun schema fullName swiftName path messages enums inside => step _ inside
  · exact fun inner among => absurd among List.not_mem_nil
  · intro first rest here below inner among
    rcases List.mem_cons.mp among with rfl | among
    · exact here
    · exact below inner among

namespace MessageNode

/-- The types that a message declares directly. -/
def children (node : MessageNode) : List TypeNode :=
  node.messages.map .message ++ node.enums.map .enumeration

mutual

/-- The message and the types inside it, with the messages around them. -/
def places : MessageNode → List TypePlace
  | node@⟨_, _, _, _, messages, enums⟩ =>
    ⟨[], .message node⟩
      :: (enums.map (fun enumeration => TypePlace.mk [] (.enumeration enumeration))
        ++ placesOf messages).map (·.inside node)

/-- The messages of a list and the types inside them, with the messages around them. -/
def placesOf : List MessageNode → List TypePlace
  | [] => []
  | node :: rest => places node ++ placesOf rest

end

theorem placesOf_eq_flatMap (nodes : List MessageNode) : placesOf nodes = nodes.flatMap places := by
  induction nodes with
  | nil => rfl
  | cons node rest inRest => rw [placesOf, inRest, List.flatMap_cons]

theorem places_eq (node : MessageNode) : node.places = ⟨[], .message node⟩
    :: (node.enums.map (fun enumeration => TypePlace.mk [] (.enumeration enumeration))
      ++ node.messages.flatMap places).map (·.inside node) := by
  cases node
  rw [places, placesOf_eq_flatMap]

theorem mem_places_iff {node : MessageNode} {place : TypePlace} : place ∈ node.places
    ↔ place = ⟨[], .message node⟩
      ∨ (∃ enumeration ∈ node.enums, place = ⟨[node], .enumeration enumeration⟩)
      ∨ ∃ inner ∈ node.messages, ∃ below ∈ inner.places, place = below.inside node := by
  rw [places_eq, List.mem_cons, List.map_append, List.mem_append, List.map_map]
  refine or_congr Iff.rfl (or_congr ?_ ?_)
  · rw [List.mem_map]
    exact exists_congr fun enumeration => and_congr Iff.rfl eq_comm
  · rw [List.mem_map]
    constructor
    · rintro ⟨below, among, rfl⟩
      obtain ⟨inner, isInner, inside⟩ := List.mem_flatMap.mp among
      exact ⟨inner, isInner, below, inside, rfl⟩
    · rintro ⟨inner, isInner, below, inside, rfl⟩
      exact ⟨below, List.mem_flatMap.mpr ⟨inner, isInner, inside⟩, rfl⟩

/-- The way to a type inside a message starts with that message. -/
theorem head?_messages_of_mem_places {node : MessageNode} {place : TypePlace} (among : place ∈ node.places) :
    place.messages.head? = some node := by
  rcases mem_places_iff.mp among with rfl | ⟨_, _, rfl⟩ | ⟨_, _, _, _, rfl⟩ <;> rfl

/-- There is one place for every type inside a message. -/
theorem perm_types (node : MessageNode) : (node.places.map (·.type)).Perm node.types := by
  induction node using inductionOnNested with
  | step node below =>
    rw [places_eq, types_eq, List.map_cons, List.map_map, List.map_append, List.map_map]
    refine List.Perm.cons _ (List.perm_append_comm.trans (List.Perm.append ?_ (List.Perm.refl _)))
    show ((node.messages.flatMap places).map (·.type)).Perm _
    rw [List.map_flatMap]
    exact List.Perm.flatMap_left node.messages below

/-- The innermost message around a type inside a message declares the type, and has a place itself. -/
theorem parent_of_mem_places (node : MessageNode) : ∀ place ∈ node.places, place = ⟨[], .message node⟩
    ∨ ∃ outer parent, place.around = outer ++ [parent] ∧ ⟨outer, .message parent⟩ ∈ node.places
      ∧ place.type ∈ parent.children := by
  induction node using inductionOnNested with
  | step node below =>
    intro place among
    have here : ⟨[], .message node⟩ ∈ node.places := mem_places_iff.mpr (Or.inl rfl)
    rcases mem_places_iff.mp among with rfl | ⟨enumeration, isEnum, rfl⟩ | ⟨inner, isInner, further, inside, rfl⟩
    · exact Or.inl rfl
    · refine Or.inr ⟨[], node, rfl, here, ?_⟩
      exact List.mem_append_right _ (List.mem_map_of_mem isEnum)
    · rcases below inner isInner further inside with rfl | ⟨outer, parent, around, placed, child⟩
      · refine Or.inr ⟨[], node, rfl, here, ?_⟩
        exact List.mem_append_left _ (List.mem_map_of_mem isInner)
      · refine Or.inr ⟨node :: outer, parent, congrArg (node :: ·) around, ?_, child⟩
        exact mem_places_iff.mpr (Or.inr (Or.inr ⟨inner, isInner, _, placed, rfl⟩))

end MessageNode

namespace FileNode

/-- The types that a file declares directly. -/
def children (file : FileNode) : List TypeNode :=
  file.messages.map .message ++ file.enums.map .enumeration

/-- **The types of a file with the messages around them.** -/
def places (file : FileNode) : List TypePlace :=
  file.messages.flatMap MessageNode.places ++ file.enums.map fun enumeration => ⟨[], .enumeration enumeration⟩

theorem mem_places_iff {file : FileNode} {place : TypePlace} : place ∈ file.places
    ↔ (∃ node ∈ file.messages, place ∈ node.places)
      ∨ ∃ enumeration ∈ file.enums, place = ⟨[], .enumeration enumeration⟩ := by
  unfold places
  rw [List.mem_append, List.mem_flatMap, List.mem_map]
  exact or_congr Iff.rfl (exists_congr fun enumeration => and_congr Iff.rfl eq_comm)

/-- **There is one place for every type of a file.** -/
theorem perm_types (file : FileNode) : (file.places.map (·.type)).Perm file.types := by
  unfold places types
  rw [List.map_append, List.map_flatMap, List.map_map]
  exact List.Perm.append (List.Perm.flatMap_left _ fun node _ => node.perm_types) (List.Perm.refl _)

/-- **The innermost message around a type is the one that declares it**, and has a place itself. The types
without a message around them are those that the file declares directly. -/
theorem parent_of_mem_places {file : FileNode} {place : TypePlace} (among : place ∈ file.places) :
    (place.around = [] ∧ place.type ∈ file.children)
      ∨ ∃ outer parent, place.around = outer ++ [parent] ∧ ⟨outer, .message parent⟩ ∈ file.places
        ∧ place.type ∈ parent.children := by
  rcases mem_places_iff.mp among with ⟨node, declared, inside⟩ | ⟨enumeration, declared, rfl⟩
  · rcases node.parent_of_mem_places place inside with rfl | ⟨outer, parent, around, placed, child⟩
    · exact Or.inl ⟨rfl, List.mem_append_left _ (List.mem_map_of_mem declared)⟩
    · exact Or.inr ⟨outer, parent, around, mem_places_iff.mpr (Or.inl ⟨node, declared, placed⟩), child⟩
  · exact Or.inl ⟨rfl, List.mem_append_right _ (List.mem_map_of_mem declared)⟩

end FileNode

/-! ### Types outside of map entries -/

namespace MessageNode

/-- The types inside a message, except those in the map entries that the message declares. -/
def shown (node : MessageNode) : List TypePlace :=
  node.places.filter (!·.inEntry)

/-- The types inside messages that are inside a message, except map entries and what is in them. -/
def shownOf (nodes : List MessageNode) : List TypePlace :=
  (nodes.flatMap places).filter (!·.messages.any (·.isMapEntry))

theorem shown_eq (node : MessageNode) : node.shown = ⟨[], .message node⟩
    :: (node.enums.map (fun enumeration => TypePlace.mk [] (.enumeration enumeration))
      ++ shownOf node.messages).map (·.inside node) := by
  have enumsShown : (node.enums.map (fun enumeration => TypePlace.mk [] (.enumeration enumeration))).filter
      (!·.messages.any (·.isMapEntry))
      = node.enums.map fun enumeration => TypePlace.mk [] (.enumeration enumeration) := by
    refine List.filter_eq_self.mpr fun place among => ?_
    obtain ⟨enumeration, _, rfl⟩ := List.mem_map.mp among
    rfl
  unfold shown
  rw [places_eq, List.filter_cons_of_pos rfl, List.filter_map]
  show _ :: (List.filter (fun place : TypePlace => !place.messages.any (·.isMapEntry)) _).map _ = _
  rw [List.filter_append, enumsShown]
  rfl

/-- The way to a type inside a message starts with the message, so a map entry hides all of its types. -/
theorem filter_places_of_entry {node : MessageNode} (entry : node.isMapEntry = true) :
    node.places.filter (!·.messages.any (·.isMapEntry)) = [] := by
  refine List.filter_eq_nil_iff.mpr fun place among => ?_
  cases way : place.messages with
  | nil =>
    have first := head?_messages_of_mem_places among
    rw [way] at first
    cases first
  | cons head rest =>
    have first := head?_messages_of_mem_places among
    rw [way] at first
    cases first
    simp [entry]

/-- Any other message hides those only that are in map entries further inside. -/
theorem filter_places_of_not_entry {node : MessageNode} (other : ¬ node.isMapEntry = true) :
    node.places.filter (!·.messages.any (·.isMapEntry)) = node.shown := by
  refine List.filter_congr fun place among => ?_
  unfold TypePlace.inEntry
  cases way : place.messages with
  | nil => rfl
  | cons head rest =>
    have first := head?_messages_of_mem_places among
    rw [way] at first
    cases first
    simp [other]

theorem shownOf_cons_of_entry {node : MessageNode} {rest : List MessageNode} (entry : node.isMapEntry = true) :
    shownOf (node :: rest) = shownOf rest := by
  unfold shownOf
  rw [List.flatMap_cons, List.filter_append, filter_places_of_entry entry, List.nil_append]

theorem shownOf_cons_of_not_entry {node : MessageNode} {rest : List MessageNode}
    (other : ¬ node.isMapEntry = true) : shownOf (node :: rest) = node.shown ++ shownOf rest := by
  unfold shownOf
  rw [List.flatMap_cons, List.filter_append, filter_places_of_not_entry other]

end MessageNode

/-- **The types of a file that are no map entries declared inside a message, and not inside one.** -/
def FileNode.shown (file : FileNode) : List TypePlace :=
  file.places.filter (!·.inEntry)

theorem FileNode.mem_shown_iff {file : FileNode} {place : TypePlace} : place ∈ file.shown
    ↔ place ∈ file.places ∧ ∀ entry ∈ place.messages.tail, entry.isMapEntry = false := by
  unfold shown TypePlace.inEntry
  rw [List.mem_filter, Bool.not_eq_true', List.any_eq_false]
  simp only [Bool.not_eq_true]

theorem FileNode.shown_eq (file : FileNode) : file.shown = file.messages.flatMap MessageNode.shown
    ++ file.enums.map fun enumeration => TypePlace.mk [] (.enumeration enumeration) := by
  unfold shown places
  rw [List.filter_append, List.filter_flatMap]
  refine congrArg (_ ++ ·) (List.filter_eq_self.mpr fun place among => ?_)
  obtain ⟨enumeration, _, rfl⟩ := List.mem_map.mp among
  rfl

/-! ### Names without dots -/

/-- A name without dots. -/
def DotFree (name : String) : Prop :=
  '.' ∉ name.toList

instance (name : String) : Decidable (DotFree name) :=
  inferInstanceAs (Decidable (¬ _))

theorem DotFree.append {first second : String} (left : DotFree first) (right : DotFree second) :
    DotFree (first ++ second) := by
  unfold DotFree
  rw [String.toList_append, List.mem_append]
  rintro (inFirst | inSecond)
  · exact left inFirst
  · exact right inSecond

/-- A name without dots is declared as it is. -/
theorem nameInParent_of_dotFree {name : String} (plain : DotFree name) : nameInParent name = name := by
  unfold nameInParent
  rw [List.splitOn_eq_singleton plain]
  exact String.ofList_toList

/-- What is behind the last dot is the name in the parent. -/
theorem nameInParent_append {name : String} (parent : String) (plain : DotFree name) :
    nameInParent (parent ++ "." ++ name) = name := by
  have spelt : (parent ++ "." ++ name).toList = parent.toList ++ '.' :: name.toList := by
    rw [String.toList_append, String.toList_append, List.append_assoc]
    rfl
  unfold nameInParent
  rw [spelt, List.splitOn_append_cons_self, List.splitOn_eq_singleton plain,
    List.getLast?_append_of_ne_nil _ (List.cons_ne_nil _ _)]
  exact String.ofList_toList

theorem dotFree_avoidTakenName {name suffix : String} (plain : DotFree name) (plainSuffix : DotFree suffix) :
    DotFree (avoidTakenName name suffix) := by
  unfold avoidTakenName
  split
  · exact plain.append plainSuffix
  · exact plain

/-- **A prefix made from a package has no dots.** One that the file sets has none if it is set so. -/
theorem dotFree_typePrefix (package : String) {chosen? : Option String}
    (plain : ∀ chosen, chosen? = some chosen → DotFree chosen) : DotFree (typePrefix package chosen?) := by
  unfold typePrefix
  cases chosen? with
  | some chosen => exact plain chosen rfl
  | none =>
    simp only
    split
    · exact List.not_mem_nil
    · unfold DotFree
      rw [String.toList_ofList, List.mem_append]
      rintro (inParts | inEnd)
      · rcases mem_of_mem_intercalate inParts with between | ⟨part, isPart, inPart⟩
        · exact absurd between (by decide)
        · obtain ⟨component, _, rfl⟩ := List.mem_map.mp isPart
          have isWord : IsWordCharacter '.' := isWordCharacter_of_mem_upperCamel inPart
          exact absurd isWord (by decide)
      · exact absurd inEnd (by decide)

theorem TypeScope.dotFree_typeName_file {prefixName name suffix : String} (plainPrefix : DotFree prefixName)
    (plain : DotFree name) (plainSuffix : DotFree suffix) :
    DotFree ((TypeScope.file prefixName).typeName name suffix) := by
  show DotFree (if prefixName = "" then avoidTakenName name suffix else prefixName ++ name)
  split
  · exact dotFree_avoidTakenName plain plainSuffix
  · exact plainPrefix.append plain

/-! ### The path to a place -/

/-- The types inside a message are named after the message. -/
structure MessageNode.NestsNames (node : MessageNode) : Prop where
  messages : ∀ inner ∈ node.messages,
    inner.swiftName = node.swiftName ++ "." ++ avoidTakenName inner.schema.name "Message"
  enums : ∀ enumeration ∈ node.enums,
    enumeration.swiftName = node.swiftName ++ "." ++ avoidTakenName enumeration.schema.name "Enum"

namespace MessageNode

theorem swiftName_declare (scope : FullName) (types : TypeScope) (path : Path) (message : Schema.Message) :
    (declare scope types path message).swiftName = types.typeName message.name "Message" := by
  cases message
  rfl

theorem nestsNames_of_mem_types_declare (message : Schema.Message) :
    ∀ (scope : FullName) (types : TypeScope) (path : Path) (node : MessageNode),
      .message node ∈ (declare scope types path message).types → node.NestsNames := by
  induction message using Schema.Message.inductionOnNested with
  | step message below =>
    intro scope types path node among
    rcases mem_types_declare_iff.mp among with here | ⟨position, inner, found, inside⟩ | ⟨_, _, _, same⟩
    · cases here
      constructor
      · rw [messages_declare]
        intro inner isInner
        obtain ⟨position, schema, _, rfl⟩ := mem_mapIdx_iff.mp isInner
        rw [swiftName_declare, schema_declare]
        rfl
      · rw [enums_declare]
        intro enumeration isEnum
        obtain ⟨position, schema, _, rfl⟩ := mem_mapIdx_iff.mp isEnum
        rfl
    · exact below inner (List.mem_of_getElem? found) _ _ _ node inside
    · cases same

end MessageNode

/-- The names by which the types around a type and the type itself are declared, the outermost first. -/
def TypePlace.names (place : TypePlace) : List String :=
  place.around.map (fun outer => nameInParent outer.swiftName) ++ [nameInParent place.type.swiftName]

theorem intercalate_append_cons (separator first second : String) (rest : List String) :
    separator.intercalate ((first ++ separator ++ second) :: rest)
      = first ++ separator ++ separator.intercalate (second :: rest) := by
  cases rest with
  | nil => rw [String.intercalate_singleton, String.intercalate_singleton]
  | cons third others =>
    rw [String.intercalate_cons_cons, String.intercalate_cons_cons]
    simp only [String.append_assoc]

namespace MessageNode

theorem mem_types_of_mem_messages {node inner : MessageNode} {type : TypeNode} (isInner : inner ∈ node.messages)
    (inside : type ∈ inner.types) : type ∈ node.types := by
  rw [types_eq]
  exact List.mem_cons_of_mem _ (List.mem_append_left _ (List.mem_flatMap.mpr ⟨inner, isInner, inside⟩))

theorem mem_types_of_mem_enums {node : MessageNode} {enumeration : EnumNode}
    (isEnum : enumeration ∈ node.enums) : .enumeration enumeration ∈ node.types := by
  rw [types_eq]
  exact List.mem_cons_of_mem _ (List.mem_append_right _ (List.mem_map_of_mem isEnum))

theorem mem_types_self (node : MessageNode) : .message node ∈ node.types := by
  rw [types_eq]
  exact List.mem_cons_self

/-- The name of a type inside a message goes on from that of the message with the path to its place. -/
theorem joined_names (node : MessageNode) (nests : ∀ inner, .message inner ∈ node.types → inner.NestsNames)
    (plain : ∀ type ∈ node.types, DotFree type.name) : ∀ place ∈ node.places, ∃ below,
      place.names = nameInParent node.swiftName :: below
        ∧ ".".intercalate (node.swiftName :: below) = place.type.swiftName := by
  induction node using inductionOnNested with
  | step node deeper =>
    intro place among
    have named : node.NestsNames := nests node node.mem_types_self
    rcases mem_places_iff.mp among with rfl | ⟨enumeration, isEnum, rfl⟩ | ⟨inner, isInner, further, inside, rfl⟩
    · exact ⟨[], rfl, String.intercalate_singleton⟩
    · have plainName : DotFree (avoidTakenName enumeration.schema.name "Enum") :=
        dotFree_avoidTakenName (plain _ (mem_types_of_mem_enums isEnum)) (by decide)
      have own : nameInParent enumeration.swiftName = avoidTakenName enumeration.schema.name "Enum" := by
        rw [named.enums enumeration isEnum, nameInParent_append _ plainName]
      refine ⟨[nameInParent enumeration.swiftName], rfl, ?_⟩
      rw [String.intercalate_cons_cons, String.intercalate_singleton, own]
      exact (named.enums enumeration isEnum).symm
    · have plainName : DotFree (avoidTakenName inner.schema.name "Message") :=
        dotFree_avoidTakenName (plain _ (mem_types_of_mem_messages isInner inner.mem_types_self)) (by decide)
      have own : nameInParent inner.swiftName = avoidTakenName inner.schema.name "Message" := by
        rw [named.messages inner isInner, nameInParent_append _ plainName]
      obtain ⟨below, names, joined⟩ := deeper inner isInner
        (fun type isType => nests type (mem_types_of_mem_messages isInner isType))
        (fun type isType => plain type (mem_types_of_mem_messages isInner isType)) further inside
      -- the whole name of the inner message counts as one part further in, and as two from here
      refine ⟨nameInParent inner.swiftName :: below, congrArg (nameInParent node.swiftName :: ·) names, ?_⟩
      rw [String.intercalate_cons_cons, own, ← intercalate_append_cons, ← named.messages inner isInner]
      exact joined

end MessageNode

namespace FileNode

/-- **The Swift name of a type is the path to its place.** If no message or enumeration of a file has a dot in its
name, nor the prefix that the file may set, the names by which the types around a type and the type itself are
declared, joined by dots, are the name by which other code refers to it. -/
theorem joined_names {era : Era} {file : Schema.File}
    (plainPrefix : ∀ chosen, file.typePrefix? = some chosen → DotFree chosen)
    (plain : ∀ type ∈ (declare era file).types, DotFree type.name) :
    ∀ place ∈ (declare era file).places, ".".intercalate place.names = place.type.swiftName := by
  have prefixFree : DotFree (declare era file).typePrefix := dotFree_typePrefix file.package plainPrefix
  intro place among
  rcases mem_places_iff.mp among with ⟨node, declared, inside⟩ | ⟨enumeration, declared, rfl⟩
  · obtain ⟨position, message, _, rfl⟩ := mem_mapIdx_iff.mp declared
    have isType : ∀ type ∈ (MessageNode.declare (.ofPackage file.package) (.file (declare era file).typePrefix)
        (.message position) message).types, type ∈ (declare era file).types :=
      fun type inType => List.mem_append_left _ (List.mem_flatMap.mpr ⟨_, declared, inType⟩)
    obtain ⟨below, names, joined⟩ := MessageNode.joined_names _
      (fun inner => MessageNode.nestsNames_of_mem_types_declare message _ _ _ inner)
      (fun type inType => plain type (isType type inType)) place inside
    have plainName : DotFree (MessageNode.declare (.ofPackage file.package)
        (.file (declare era file).typePrefix) (.message position) message).swiftName := by
      have own := plain _ (isType _ (MessageNode.mem_types_self _))
      rw [MessageNode.swiftName_declare]
      refine TypeScope.dotFree_typeName_file prefixFree ?_ (by decide)
      rwa [TypeNode.name, MessageNode.schema_declare] at own
    rw [names, nameInParent_of_dotFree plainName]
    exact joined
  · obtain ⟨position, schema, _, rfl⟩ := mem_mapIdx_iff.mp declared
    have own : DotFree schema.name :=
      plain _ (List.mem_append_right _ (List.mem_map_of_mem declared))
    have plainName : DotFree ((TypeScope.file (declare era file).typePrefix).typeName schema.name "Enum") :=
      TypeScope.dotFree_typeName_file prefixFree own (by decide)
    show ".".intercalate [nameInParent _] = _
    rw [String.intercalate_singleton]
    exact nameInParent_of_dotFree plainName

end FileNode

end ProtoSwift
