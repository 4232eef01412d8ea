/-
**The places of the types of a file.**

A path leads from a file to one of its types: to a message or an enumeration of the file, and on to one inside
the message. The types of a file are registered in the order of their paths, where an outer message comes
before what is inside it.

* `Schema.File.typeAt?` — the declaration at the end of a path;
* `FileNode.types` — the types of a file in the order of registration;
* `FileNode.exists_mem_types_declare` — there is one for every path that leads to a declaration, and no other;
* `FileNode.types_ordered` — their paths increase;
* `MessageNode.ChildrenInPlace` — what is directly inside a message has the paths of its positions.
-/

import ProtoSwift.Symbol.Table
import Mathlib.Data.List.Basic

namespace ProtoSwift

/-! ### Walking a file -/

namespace Schema

/-- A message or an enumeration as its file declares it. -/
inductive Declaration
  | message (message : Message)
  | enumeration (enumeration : Enumeration)

/-- The element at a position, which may be any number. -/
def elementAt? {α : Type} (elements : List α) (position : Int) : Option α :=
  if 0 ≤ position then elements[position.toNat]? else none

@[simp] theorem elementAt?_natCast {α : Type} (elements : List α) (position : Nat) :
    elementAt? elements position = elements[position]? := by
  simp [elementAt?]

theorem elementAt?_eq_some_iff {α : Type} {elements : List α} {position : Int} {element : α} :
    elementAt? elements position = some element
      ↔ ∃ index : Nat, position = index ∧ elements[index]? = some element := by
  constructor
  · intro found
    unfold elementAt? at found
    split at found
    · rename_i positive
      exact ⟨position.toNat, (Int.toNat_of_nonneg positive).symm, found⟩
    · cases found
  · rintro ⟨index, rfl, found⟩
    rw [elementAt?_natCast, found]

/-- **The declaration at the end of a path inside a message**: field 3 of a message holds the messages inside
it, and field 4 the enumerations. -/
def Message.typeAt? (message : Message) : Path → Option Declaration
  | [] => some (.message message)
  | [_] => none
  | step :: position :: rest =>
    if step = 3 then (elementAt? message.messages position).bind fun inner => inner.typeAt? rest
    else if step = 4 ∧ rest = [] then (elementAt? message.enumerations position).map .enumeration
    else none

/-- **The declaration at the end of a path in a file**: field 4 of a file holds its messages, and field 5 its
enumerations. -/
def File.typeAt? (file : File) : Path → Option Declaration
  | step :: position :: rest =>
    if step = 4 then (elementAt? file.messages position).bind fun message => message.typeAt? rest
    else if step = 5 ∧ rest = [] then (elementAt? file.enumerations position).map .enumeration
    else none
  | _ => none

/-- What holds of a message if it holds of the messages inside it holds of every message. -/
@[elab_as_elim]
theorem Message.inductionOnNested {motive : Message → Prop}
    (step : ∀ message : Message, (∀ inner ∈ message.messages, motive inner) → motive message)
    (message : Message) : motive message := by
  refine @Message.rec motive (fun messages => ∀ inner ∈ messages, motive inner) ?_ ?_ ?_ message
  · exact fun name fields messages enumerations options inside => step _ inside
  · exact fun inner among => absurd among List.not_mem_nil
  · intro first rest here below inner among
    rcases List.mem_cons.mp among with rfl | among
    · exact here
    · exact below inner among

end Schema

open Schema

/-! ### Types in the order of registration -/

/-- A declared type. -/
inductive TypeNode
  | message (node : MessageNode)
  | enumeration (node : EnumNode)

namespace TypeNode

def path : TypeNode → Path
  | message node => node.path
  | enumeration node => node.path

def declaration : TypeNode → Declaration
  | message node => .message node.schema
  | enumeration node => .enumeration node.schema

def symbol : TypeNode → Symbol
  | message node => (.message, node.fullName)
  | enumeration node => (.enumeration, node.fullName)

def message? : TypeNode → Option MessageNode
  | message node => some node
  | enumeration _ => none

def enum? : TypeNode → Option EnumNode
  | message _ => none
  | enumeration node => some node

end TypeNode

namespace MessageNode

mutual

/-- The message and the types inside it: the messages, each with what is inside it, and then the
enumerations. -/
def types : MessageNode → List TypeNode
  | node@⟨_, _, _, _, messages, enums⟩ => .message node :: (typesOf messages ++ enums.map .enumeration)

/-- The messages of a list and the types inside them. -/
def typesOf : List MessageNode → List TypeNode
  | [] => []
  | node :: rest => types node ++ typesOf rest

end

theorem typesOf_eq_flatMap (nodes : List MessageNode) : typesOf nodes = nodes.flatMap types := by
  induction nodes with
  | nil => rfl
  | cons node rest inRest => rw [typesOf, inRest, List.flatMap_cons]

theorem types_eq (node : MessageNode) :
    node.types = .message node :: (node.messages.flatMap types ++ node.enums.map .enumeration) := by
  cases node
  rw [types, typesOf_eq_flatMap]

mutual

/-- The messages among the types are those that are registered. -/
theorem filterMap_message?_types :
    (node : MessageNode) → node.types.filterMap TypeNode.message? = node.allMessages
  | ⟨_, _, _, _, messages, enums⟩ => by
    have none : (enums.map TypeNode.enumeration).filterMap TypeNode.message? = [] := by
      rw [List.filterMap_map, List.filterMap_eq_nil_iff]
      exact fun _ _ => rfl
    rw [types, allMessages]
    show _ :: List.filterMap _ (_ ++ _) = _
    rw [List.filterMap_append, none, List.append_nil, filterMap_message?_typesOf messages]

theorem filterMap_message?_typesOf :
    (nodes : List MessageNode) → (typesOf nodes).filterMap TypeNode.message? = allMessagesOf nodes
  | [] => rfl
  | node :: rest => by
    rw [typesOf, allMessagesOf, List.filterMap_append, filterMap_message?_types node,
      filterMap_message?_typesOf rest]

end

mutual

/-- The enumerations among the types are those that are registered. -/
theorem filterMap_enum?_types :
    (node : MessageNode) → node.types.filterMap TypeNode.enum? = node.allEnums
  | ⟨_, _, _, _, messages, enums⟩ => by
    have all : (enums.map TypeNode.enumeration).filterMap TypeNode.enum? = enums := by
      rw [List.filterMap_map]
      exact List.filterMap_some
    rw [types, allEnums]
    show List.filterMap _ (_ ++ _) = _
    rw [List.filterMap_append, all, filterMap_enum?_typesOf messages]

theorem filterMap_enum?_typesOf :
    (nodes : List MessageNode) → (typesOf nodes).filterMap TypeNode.enum? = allEnumsOf nodes
  | [] => rfl
  | node :: rest => by
    rw [typesOf, allEnumsOf, List.filterMap_append, filterMap_enum?_types node,
      filterMap_enum?_typesOf rest]

end

mutual

theorem map_symbol_types : (node : MessageNode) → node.types.map TypeNode.symbol = node.symbols
  | ⟨_, _, _, _, messages, enums⟩ => by
    rw [types, symbols, List.map_cons, List.map_append, List.map_map, map_symbol_typesOf messages]
    rfl

theorem map_symbol_typesOf :
    (nodes : List MessageNode) → (typesOf nodes).map TypeNode.symbol = symbolsOf nodes
  | [] => rfl
  | node :: rest => by
    rw [typesOf, symbolsOf, List.map_append, map_symbol_types node, map_symbol_typesOf rest]

end

/-! ### Nodes of declarations -/

theorem declareNested_eq_mapIdx (scope : FullName) (parent : String) (path : Path) (start : Nat)
    (messages : List Message) : declareNested scope parent path start messages
      = messages.mapIdx fun position message =>
        declare scope (.message parent) (path.nestedMessage (start + position)) message := by
  induction messages generalizing start with
  | nil => rfl
  | cons message rest inRest =>
    rw [declareNested, List.mapIdx_cons, inRest]
    simp only [Nat.add_zero, Nat.add_assoc, Nat.add_comm 1]

variable (scope : FullName) (types : Swift.TypeScope) (path : Path) (message : Message)

theorem schema_declare : (declare scope types path message).schema = message := by
  cases message
  rfl

theorem path_declare : (declare scope types path message).path = path := by
  cases message
  rfl

/-- The messages inside a message are declared in its name. -/
theorem messages_declare : (declare scope types path message).messages
    = message.messages.mapIdx fun position inner =>
      declare (declare scope types path message).fullName
        (.message (declare scope types path message).swiftName) (path.nestedMessage position) inner := by
  cases message
  rw [declare, declareNested_eq_mapIdx]
  simp only [Nat.zero_add]

theorem enums_declare : (declare scope types path message).enums
    = message.enumerations.mapIdx fun position enumeration =>
      EnumNode.declare (declare scope types path message).fullName
        (.message (declare scope types path message).swiftName) (path.nestedEnumeration position)
        enumeration := by
  cases message
  rfl

end MessageNode

/-! ### Types inside a message -/

/-- A declaration inside a message is the message itself, or a declaration inside one of its messages, or one
of its enumerations. -/
theorem Schema.Message.typeAt?_eq_some_iff {message : Message} {path : Path} {declaration : Declaration} :
    message.typeAt? path = some declaration
      ↔ (path = [] ∧ declaration = .message message)
        ∨ (∃ (position : Nat) (inner : Message) (rest : Path), message.messages[position]? = some inner
          ∧ path = 3 :: (position : Int) :: rest ∧ inner.typeAt? rest = some declaration)
        ∨ ∃ (position : Nat) (enumeration : Enumeration), message.enumerations[position]? = some enumeration
          ∧ path = [4, (position : Int)] ∧ declaration = .enumeration enumeration := by
  constructor
  · intro found
    unfold Message.typeAt? at found
    split at found
    · cases found
      exact .inl ⟨rfl, rfl⟩
    · cases found
    · rename_i step position rest
      split at found
      · rename_i nested
        obtain ⟨inner, declared, reached⟩ := Option.bind_eq_some_iff.mp found
        obtain ⟨index, rfl, declared⟩ := elementAt?_eq_some_iff.mp declared
        exact .inr (.inl ⟨index, inner, rest, declared, by rw [nested], reached⟩)
      · split at found
        · rename_i nested
          obtain ⟨enumeration, declared, rfl⟩ := Option.map_eq_some_iff.mp found
          obtain ⟨index, rfl, declared⟩ := elementAt?_eq_some_iff.mp declared
          exact .inr (.inr ⟨index, enumeration, declared, by rw [nested.1, nested.2], rfl⟩)
        · cases found
  · rintro (⟨rfl, rfl⟩ | ⟨position, inner, rest, declared, rfl, found⟩ | ⟨position, enumeration, declared, rfl, rfl⟩)
    · rw [Message.typeAt?]
    · rw [Message.typeAt?, if_pos rfl, elementAt?_natCast, declared]
      exact found
    · rw [Message.typeAt?, if_neg (by decide), if_pos ⟨rfl, rfl⟩, elementAt?_natCast, declared]
      rfl

/-- The same for a file, which is not a declaration itself. -/
theorem Schema.File.typeAt?_eq_some_iff {file : File} {path : Path} {declaration : Declaration} :
    file.typeAt? path = some declaration
      ↔ (∃ (position : Nat) (message : Message) (rest : Path), file.messages[position]? = some message
          ∧ path = 4 :: (position : Int) :: rest ∧ message.typeAt? rest = some declaration)
        ∨ ∃ (position : Nat) (enumeration : Enumeration), file.enumerations[position]? = some enumeration
          ∧ path = [5, (position : Int)] ∧ declaration = .enumeration enumeration := by
  constructor
  · intro found
    unfold File.typeAt? at found
    split at found
    · rename_i step position rest
      split at found
      · rename_i nested
        obtain ⟨message, declared, reached⟩ := Option.bind_eq_some_iff.mp found
        obtain ⟨index, rfl, declared⟩ := elementAt?_eq_some_iff.mp declared
        exact .inl ⟨index, message, rest, declared, by rw [nested], reached⟩
      · split at found
        · rename_i nested
          obtain ⟨enumeration, declared, rfl⟩ := Option.map_eq_some_iff.mp found
          obtain ⟨index, rfl, declared⟩ := elementAt?_eq_some_iff.mp declared
          exact .inr ⟨index, enumeration, declared, by rw [nested.1, nested.2], rfl⟩
        · cases found
    · cases found
  · rintro (⟨position, message, rest, declared, rfl, found⟩ | ⟨position, enumeration, declared, rfl, rfl⟩)
    · rw [File.typeAt?, if_pos rfl, elementAt?_natCast, declared]
      exact found
    · rw [File.typeAt?, if_neg (by decide), if_pos ⟨rfl, rfl⟩, elementAt?_natCast, declared]
      rfl

theorem mem_mapIdx_iff {α β : Type} {make : Nat → α → β} {elements : List α} {made : β} :
    made ∈ elements.mapIdx make
      ↔ ∃ position element, elements[position]? = some element ∧ made = make position element := by
  rw [List.mem_mapIdx]
  constructor
  · rintro ⟨position, inside, rfl⟩
    exact ⟨position, elements[position], List.getElem?_eq_getElem inside, rfl⟩
  · rintro ⟨position, element, found, rfl⟩
    obtain ⟨inside, rfl⟩ := List.getElem?_eq_some_iff.mp found
    exact ⟨position, inside, rfl⟩

theorem pairwise_mapIdx {α β : Type} {make : Nat → α → β} {elements : List α} {related : β → β → Prop}
    (ordered : ∀ first second element other, first < second → elements[first]? = some element →
      elements[second]? = some other → related (make first element) (make second other)) :
    (elements.mapIdx make).Pairwise related := by
  rw [List.pairwise_iff_getElem]
  intro first second firstInside secondInside before
  rw [List.getElem_mapIdx, List.getElem_mapIdx]
  exact ordered first second _ _ before (List.getElem?_eq_getElem _) (List.getElem?_eq_getElem _)

namespace MessageNode

/-- A type inside one of several messages. -/
theorem mem_flatMap_types_iff {messages : List Message} {scope : FullName} {types : Swift.TypeScope}
    {pathAt : Nat → Path} {type : TypeNode} :
    type ∈ (messages.mapIdx fun position inner => declare scope types (pathAt position) inner).flatMap
        MessageNode.types
      ↔ ∃ position inner, messages[position]? = some inner
        ∧ type ∈ (declare scope types (pathAt position) inner).types := by
  rw [List.mem_flatMap]
  constructor
  · rintro ⟨node, declared, among⟩
    obtain ⟨position, inner, found, rfl⟩ := mem_mapIdx_iff.mp declared
    exact ⟨position, inner, found, among⟩
  · rintro ⟨position, inner, found, among⟩
    exact ⟨_, mem_mapIdx_iff.mpr ⟨position, inner, found, rfl⟩, among⟩

/-- One of several enumerations. -/
theorem mem_map_enumeration_iff {enumerations : List Enumeration} {scope : FullName} {types : Swift.TypeScope}
    {pathAt : Nat → Path} {type : TypeNode} :
    type ∈ (enumerations.mapIdx fun position enumeration =>
        EnumNode.declare scope types (pathAt position) enumeration).map TypeNode.enumeration
      ↔ ∃ position enumeration, enumerations[position]? = some enumeration
        ∧ type = .enumeration (EnumNode.declare scope types (pathAt position) enumeration) := by
  rw [List.mem_map]
  constructor
  · rintro ⟨node, declared, rfl⟩
    obtain ⟨position, enumeration, found, rfl⟩ := mem_mapIdx_iff.mp declared
    exact ⟨position, enumeration, found, rfl⟩
  · rintro ⟨position, enumeration, found, rfl⟩
    exact ⟨_, mem_mapIdx_iff.mpr ⟨position, enumeration, found, rfl⟩, rfl⟩

/-- A type of a declared message is the message itself, or inside one of its messages, or one of its
enumerations. -/
theorem mem_types_declare_iff {scope : FullName} {types : Swift.TypeScope} {path : Path} {message : Message}
    {type : TypeNode} :
    type ∈ (declare scope types path message).types
      ↔ type = .message (declare scope types path message)
        ∨ (∃ position inner, message.messages[position]? = some inner
          ∧ type ∈ (declare (declare scope types path message).fullName
            (.message (declare scope types path message).swiftName) (path.nestedMessage position) inner).types)
        ∨ ∃ position enumeration, message.enumerations[position]? = some enumeration
          ∧ type = .enumeration (EnumNode.declare (declare scope types path message).fullName
            (.message (declare scope types path message).swiftName) (path.nestedEnumeration position)
            enumeration) := by
  rw [types_eq, messages_declare, enums_declare, List.mem_cons, List.mem_append, mem_flatMap_types_iff,
    mem_map_enumeration_iff]

/-- **The types of a declared message** are those at the paths that lead from it to a declaration. -/
theorem exists_mem_types_declare (message : Message) :
    ∀ (scope : FullName) (types : Swift.TypeScope) (path place : Path) (declaration : Declaration),
      (∃ type ∈ (declare scope types path message).types, type.path = place ∧ type.declaration = declaration)
        ↔ ∃ rest, place = path ++ rest ∧ message.typeAt? rest = some declaration := by
  induction message using Message.inductionOnNested with
  | step message below =>
    intro scope types path place declaration
    have ownPath : (declare scope types path message).path = path ++ [] := by
      rw [path_declare, List.append_nil]
    have ownDeclaration : TypeNode.declaration (.message (declare scope types path message))
        = .message message :=
      congrArg _ (schema_declare scope types path message)
    constructor
    · rintro ⟨type, among, rfl, rfl⟩
      rcases mem_types_declare_iff.mp among with
        rfl | ⟨position, inner, found, inside⟩ | ⟨position, enumeration, found, rfl⟩
      · exact ⟨[], ownPath, Message.typeAt?_eq_some_iff.mpr (.inl ⟨rfl, ownDeclaration⟩)⟩
      · obtain ⟨rest, extended, reached⟩ := (below inner (List.mem_of_getElem? found) _ _ _ _ _).mp
          ⟨type, inside, rfl, rfl⟩
        refine ⟨3 :: (position : Int) :: rest, ?_, ?_⟩
        · rw [extended]
          exact List.append_assoc path [3, (position : Int)] rest
        · exact Message.typeAt?_eq_some_iff.mpr (.inr (.inl ⟨position, inner, rest, found, rfl, reached⟩))
      · exact ⟨[4, (position : Int)], rfl,
          Message.typeAt?_eq_some_iff.mpr (.inr (.inr ⟨position, enumeration, found, rfl, rfl⟩))⟩
    · rintro ⟨rest, rfl, reached⟩
      rcases Message.typeAt?_eq_some_iff.mp reached with
        ⟨rfl, rfl⟩ | ⟨position, inner, further, found, rfl, inside⟩ | ⟨position, enumeration, found, rfl, rfl⟩
      · exact ⟨_, mem_types_declare_iff.mpr (.inl rfl), ownPath, ownDeclaration⟩
      · obtain ⟨type, among, placed, declared⟩ := (below inner (List.mem_of_getElem? found) _ _ _ _ _).mpr
          ⟨further, rfl, inside⟩
        refine ⟨type, mem_types_declare_iff.mpr (.inr (.inl ⟨position, inner, found, among⟩)), ?_, declared⟩
        rw [placed]
        exact List.append_assoc path [3, (position : Int)] further
      · exact ⟨_, mem_types_declare_iff.mpr (.inr (.inr ⟨position, enumeration, found, rfl⟩)), rfl, rfl⟩

/-- The path of a type starts with that of the message it is inside of. -/
theorem exists_path_eq_of_mem_types {scope : FullName} {types : Swift.TypeScope} {path : Path}
    {message : Message} {type : TypeNode} (among : type ∈ (declare scope types path message).types) :
    ∃ rest, type.path = path ++ rest := by
  obtain ⟨rest, extended, _⟩ := (exists_mem_types_declare message scope types path _ _).mp
    ⟨type, among, rfl, rfl⟩
  exact ⟨rest, extended⟩

end MessageNode

namespace Path

/-- Paths that differ in a position are in the order of the positions, whatever follows. -/
theorem append_lt_append_of_lt (path : Path) (step : Int) {first second : Int} (before : first < second)
    (rest other : Path) : path ++ [step, first] ++ rest < path ++ [step, second] ++ other := by
  rw [List.append_assoc, List.append_assoc]
  refine List.append_left_lt ?_
  exact List.cons_lt_cons_iff.mpr (.inr ⟨rfl, List.cons_lt_cons_iff.mpr (.inl before)⟩)

/-- What is in a field of a smaller number comes first. -/
theorem append_lt_append_of_step (path : Path) {step later : Int} (before : step < later) (first second : Int)
    (rest other : Path) :
    path ++ [step, first] ++ rest < path ++ [later, second] ++ other := by
  rw [List.append_assoc, List.append_assoc]
  exact List.append_left_lt (List.cons_lt_cons_iff.mpr (.inl before))

/-- A path comes before those that go on from its end. -/
theorem lt_append (path : Path) (step : Int) (rest : Path) : path < path ++ step :: rest := by
  have shorter : path ++ [] < path ++ step :: rest := List.append_left_lt (List.nil_lt_cons step rest)
  rwa [List.append_nil] at shorter

end Path

/-- The path of a type comes before that of another one. -/
def TypeNode.Before (first second : TypeNode) : Prop :=
  first.path < second.path

namespace MessageNode

/-- The messages of a list are in order with all that is inside them, if each of them is. -/
theorem flatMap_types_ordered {messages : List Message} {scope : FullName} {types : Swift.TypeScope}
    (path : Path) {step : Int}
    (each : ∀ (position : Nat) (message : Message), messages[position]? = some message →
      (declare scope types (path ++ [step, (position : Int)]) message).types.Pairwise TypeNode.Before) :
    ((messages.mapIdx fun position message =>
      declare scope types (path ++ [step, (position : Int)]) message).flatMap MessageNode.types).Pairwise
        TypeNode.Before := by
  rw [List.pairwise_flatMap]
  constructor
  · intro node declared
    obtain ⟨position, message, found, rfl⟩ := mem_mapIdx_iff.mp declared
    exact each position message found
  · refine pairwise_mapIdx fun first second message other before found otherFound => ?_
    intro type among next nextAmong
    obtain ⟨rest, extended⟩ := exists_path_eq_of_mem_types among
    obtain ⟨otherRest, otherExtended⟩ := exists_path_eq_of_mem_types nextAmong
    show type.path < next.path
    rw [extended, otherExtended]
    exact Path.append_lt_append_of_lt path step (Int.ofNat_lt.mpr before) rest otherRest

theorem enumerations_ordered {enumerations : List Enumeration} {scope : FullName} {types : Swift.TypeScope}
    (path : Path) {step : Int} :
    ((enumerations.mapIdx fun position enumeration =>
      EnumNode.declare scope types (path ++ [step, (position : Int)]) enumeration).map
        TypeNode.enumeration).Pairwise TypeNode.Before := by
  rw [List.pairwise_map]
  refine pairwise_mapIdx fun first second enumeration other before _ _ => ?_
  have ordered := Path.append_lt_append_of_lt path step (Int.ofNat_lt.mpr before) [] []
  rw [List.append_nil, List.append_nil] at ordered
  exact ordered

/-- **The types of a declared message are in the order of their paths.** -/
theorem types_ordered_declare (message : Message) :
    ∀ (scope : FullName) (types : Swift.TypeScope) (path : Path),
      (declare scope types path message).types.Pairwise TypeNode.Before := by
  induction message using Message.inductionOnNested with
  | step message below =>
    intro scope types path
    rw [types_eq, messages_declare, enums_declare, List.pairwise_cons, List.pairwise_append]
    refine ⟨fun type among => ?_, ?_, enumerations_ordered path, fun type nested next own => ?_⟩
    · show (declare scope types path message).path < type.path
      rw [path_declare]
      rcases List.mem_append.mp among with nested | own
      · obtain ⟨position, inner, _, inside⟩ := mem_flatMap_types_iff.mp nested
        obtain ⟨rest, extended⟩ := exists_path_eq_of_mem_types inside
        rw [extended, Path.nestedMessage, List.append_assoc]
        exact Path.lt_append path _ _
      · obtain ⟨position, enumeration, _, rfl⟩ := mem_map_enumeration_iff.mp own
        exact Path.lt_append path _ _
    · exact flatMap_types_ordered path fun position inner found => below inner (List.mem_of_getElem? found) _ _ _
    · obtain ⟨position, inner, _, inside⟩ := mem_flatMap_types_iff.mp nested
      obtain ⟨rest, extended⟩ := exists_path_eq_of_mem_types inside
      obtain ⟨other, enumeration, _, rfl⟩ := mem_map_enumeration_iff.mp own
      show type.path < path ++ [4, (other : Int)]
      rw [extended, ← List.append_nil (path ++ [4, (other : Int)])]
      exact Path.append_lt_append_of_step path (by decide) _ _ rest []

end MessageNode

/-! ### Types of a file -/

namespace FileNode

/-- The types of a file in the order of registration: the messages, each with what is inside it, and then the
enumerations. -/
def types (file : FileNode) : List TypeNode :=
  file.messages.flatMap MessageNode.types ++ file.enums.map .enumeration

theorem filterMap_message?_types (file : FileNode) :
    file.types.filterMap TypeNode.message? = file.allMessages := by
  have none : (file.enums.map TypeNode.enumeration).filterMap TypeNode.message? = [] := by
    rw [List.filterMap_map, List.filterMap_eq_nil_iff]
    exact fun _ _ => rfl
  rw [types, List.filterMap_append, none, List.append_nil, ← MessageNode.typesOf_eq_flatMap]
  exact MessageNode.filterMap_message?_typesOf file.messages

theorem filterMap_enum?_types (file : FileNode) :
    file.types.filterMap TypeNode.enum? = file.allEnums := by
  have all : (file.enums.map TypeNode.enumeration).filterMap TypeNode.enum? = file.enums := by
    rw [List.filterMap_map]
    exact List.filterMap_some
  rw [types, List.filterMap_append, all, ← MessageNode.typesOf_eq_flatMap]
  exact congrArg (· ++ file.enums) (MessageNode.filterMap_enum?_typesOf file.messages)

theorem mem_allMessages_iff {file : FileNode} {node : MessageNode} :
    node ∈ file.allMessages ↔ .message node ∈ file.types := by
  rw [← filterMap_message?_types, List.mem_filterMap]
  constructor
  · rintro ⟨type, among, same⟩
    cases type with
    | message _ =>
      cases same
      exact among
    | enumeration _ => cases same
  · exact fun among => ⟨_, among, rfl⟩

theorem mem_allEnums_iff {file : FileNode} {node : EnumNode} :
    node ∈ file.allEnums ↔ .enumeration node ∈ file.types := by
  rw [← filterMap_enum?_types, List.mem_filterMap]
  constructor
  · rintro ⟨type, among, same⟩
    cases type with
    | message _ => cases same
    | enumeration _ =>
      cases same
      exact among
  · exact fun among => ⟨_, among, rfl⟩

theorem map_symbol_types (file : FileNode) : file.types.map TypeNode.symbol = file.symbols := by
  rw [types, List.map_append, List.map_map, ← MessageNode.typesOf_eq_flatMap,
    MessageNode.map_symbol_typesOf]
  rfl

/-- A type of a declared file is inside one of its messages, or one of its enumerations. -/
theorem mem_types_declare_iff {era : Era} {file : File} {type : TypeNode} :
    type ∈ (declare era file).types
      ↔ (∃ position message, file.messages[position]? = some message
          ∧ type ∈ (MessageNode.declare (.ofPackage file.package) (.file (declare era file).typePrefix)
            (.message position) message).types)
        ∨ ∃ position enumeration, file.enumerations[position]? = some enumeration
          ∧ type = .enumeration (EnumNode.declare (.ofPackage file.package)
            (.file (declare era file).typePrefix) (.enumeration position) enumeration) := by
  show type ∈ List.flatMap _ (List.mapIdx _ _) ++ List.map _ (List.mapIdx _ _) ↔ _
  rw [List.mem_append, MessageNode.mem_flatMap_types_iff, MessageNode.mem_map_enumeration_iff]
  rfl

/-- **The types of a declared file** are those at the paths that lead to a declaration. -/
theorem exists_mem_types_declare {era : Era} {file : File} {place : Path} {declaration : Declaration} :
    (∃ type ∈ (declare era file).types, type.path = place ∧ type.declaration = declaration)
      ↔ file.typeAt? place = some declaration := by
  rw [File.typeAt?_eq_some_iff]
  constructor
  · rintro ⟨type, among, rfl, rfl⟩
    rcases mem_types_declare_iff.mp among with
      ⟨position, message, found, inside⟩ | ⟨position, enumeration, found, rfl⟩
    · obtain ⟨rest, extended, reached⟩ := (MessageNode.exists_mem_types_declare message _ _ _ _ _).mp
        ⟨type, inside, rfl, rfl⟩
      exact .inl ⟨position, message, rest, found, extended, reached⟩
    · exact .inr ⟨position, enumeration, found, rfl, rfl⟩
  · rintro (⟨position, message, rest, found, rfl, reached⟩ | ⟨position, enumeration, found, rfl, rfl⟩)
    · obtain ⟨type, among, placed, declared⟩ :=
        (MessageNode.exists_mem_types_declare message _ _ (.message position) _ _).mpr ⟨rest, rfl, reached⟩
      exact ⟨type, mem_types_declare_iff.mpr (.inl ⟨position, message, found, among⟩), placed, declared⟩
    · exact ⟨_, mem_types_declare_iff.mpr (.inr ⟨position, enumeration, found, rfl⟩), rfl, rfl⟩

/-- **The types of a declared file are in the order of their paths.** -/
theorem types_ordered (era : Era) (file : File) : (declare era file).types.Pairwise TypeNode.Before := by
  refine List.pairwise_append.mpr ⟨?_, ?_, fun type nested next own => ?_⟩
  · exact MessageNode.flatMap_types_ordered [] fun position message _ =>
      MessageNode.types_ordered_declare message _ _ _
  · exact MessageNode.enumerations_ordered []
  · obtain ⟨position, message, _, inside⟩ := MessageNode.mem_flatMap_types_iff.mp nested
    obtain ⟨rest, extended⟩ := MessageNode.exists_path_eq_of_mem_types inside
    obtain ⟨other, enumeration, _, rfl⟩ := MessageNode.mem_map_enumeration_iff.mp own
    show type.path < [] ++ [5, (other : Int)] ++ []
    rw [extended]
    exact Path.append_lt_append_of_step [] (by decide) _ _ rest []

/-- The messages of a declared file are those at the paths that lead to a message. -/
theorem exists_mem_allMessages_declare {era : Era} {file : File} {place : Path} {message : Message} :
    (∃ node ∈ (declare era file).allMessages, node.path = place ∧ node.schema = message)
      ↔ file.typeAt? place = some (.message message) := by
  rw [← exists_mem_types_declare]
  constructor
  · rintro ⟨node, among, rfl, rfl⟩
    exact ⟨.message node, mem_allMessages_iff.mp among, rfl, rfl⟩
  · rintro ⟨type, among, rfl, same⟩
    cases type with
    | message node =>
      cases same
      exact ⟨node, mem_allMessages_iff.mpr among, rfl, rfl⟩
    | enumeration node => cases same

/-- The enumerations of a declared file are those at the paths that lead to an enumeration. -/
theorem exists_mem_allEnums_declare {era : Era} {file : File} {place : Path} {enumeration : Enumeration} :
    (∃ node ∈ (declare era file).allEnums, node.path = place ∧ node.schema = enumeration)
      ↔ file.typeAt? place = some (.enumeration enumeration) := by
  rw [← exists_mem_types_declare]
  constructor
  · rintro ⟨node, among, rfl, rfl⟩
    exact ⟨.enumeration node, mem_allEnums_iff.mp among, rfl, rfl⟩
  · rintro ⟨type, among, rfl, same⟩
    cases type with
    | message node => cases same
    | enumeration node =>
      cases same
      exact ⟨node, mem_allEnums_iff.mpr among, rfl, rfl⟩

/-- What is selected from the types of a file is in their order. -/
theorem filterMap_types_ordered {α : Type} {select : TypeNode → Option α} {path : α → Path}
    (samePath : ∀ type selected, select type = some selected → path selected = type.path) (era : Era)
    (file : File) :
    ((declare era file).types.filterMap select).Pairwise fun first second => path first < path second := by
  refine (types_ordered era file).filterMap select fun first second before selected here other there => ?_
  rw [samePath first selected here, samePath second other there]
  exact before

theorem allMessages_ordered (era : Era) (file : File) :
    (declare era file).allMessages.Pairwise fun first second => first.path < second.path := by
  rw [← filterMap_message?_types]
  refine filterMap_types_ordered (fun type selected same => ?_) era file
  cases type <;> cases same
  rfl

theorem allEnums_ordered (era : Era) (file : File) :
    (declare era file).allEnums.Pairwise fun first second => first.path < second.path := by
  rw [← filterMap_enum?_types]
  refine filterMap_types_ordered (fun type selected same => ?_) era file
  cases type <;> cases same
  rfl

end FileNode

/-! ### Paths of what is directly inside -/

/-- Made elements have the keys of their positions. -/
theorem map_key_mapIdx {α β γ : Type} {make : Nat → α → β} {key : β → γ} {keyAt : Nat → γ}
    (made : ∀ position element, key (make position element) = keyAt position) (elements : List α) :
    (elements.mapIdx make).map key = (List.range elements.length).map keyAt := by
  refine List.ext_getElem (by simp) fun position inside _ => ?_
  rw [List.getElem_map, List.getElem_mapIdx, List.getElem_map, List.getElem_range, made]

/-- What is directly inside a message has the paths of its positions there. -/
structure MessageNode.ChildrenInPlace (node : MessageNode) : Prop where
  messages : node.messages.map (·.path)
    = (List.range node.schema.messages.length).map node.path.nestedMessage
  enums : node.enums.map (·.path)
    = (List.range node.schema.enumerations.length).map node.path.nestedEnumeration

namespace MessageNode

theorem childrenInPlace_of_mem_types_declare (message : Message) :
    ∀ (scope : FullName) (types : Swift.TypeScope) (path : Path) (node : MessageNode),
      .message node ∈ (declare scope types path message).types → node.ChildrenInPlace := by
  induction message using Message.inductionOnNested with
  | step message below =>
    intro scope types path node among
    rcases mem_types_declare_iff.mp among with here | ⟨position, inner, found, inside⟩ | ⟨_, _, _, same⟩
    · cases here
      constructor
      · rw [messages_declare, schema_declare, path_declare]
        refine map_key_mapIdx (fun position inner => ?_) message.messages
        exact path_declare _ _ _ inner
      · rw [enums_declare, schema_declare, path_declare]
        refine map_key_mapIdx (fun position enumeration => ?_) message.enumerations
        rfl
    · exact below inner (List.mem_of_getElem? found) _ _ _ node inside
    · cases same

end MessageNode

namespace FileNode

theorem childrenInPlace_of_mem_declare {era : Era} {file : File} {node : MessageNode}
    (among : node ∈ (declare era file).allMessages) : node.ChildrenInPlace := by
  rcases mem_types_declare_iff.mp (mem_allMessages_iff.mp among) with ⟨_, message, _, inside⟩ | ⟨_, _, _, same⟩
  · exact MessageNode.childrenInPlace_of_mem_types_declare message _ _ _ node inside
  · cases same

theorem map_path_messages_declare (era : Era) (file : File) :
    (declare era file).messages.map (·.path) = (List.range file.messages.length).map Path.message := by
  refine map_key_mapIdx (fun position message => ?_) file.messages
  exact MessageNode.path_declare _ _ _ message

theorem map_path_enums_declare (era : Era) (file : File) :
    (declare era file).enums.map (·.path) = (List.range file.enumerations.length).map Path.enumeration := by
  refine map_key_mapIdx (fun position enumeration => ?_) file.enumerations
  rfl

end FileNode

end ProtoSwift
