/-
**When the types of a file have Swift names of their own.**

The Swift name of a type inside a message goes on from that of the message, so types of different scopes cannot meet
if the names that they are declared by have no dots. In one scope two types meet only through a suffix: a type whose
name is taken gets one, and nothing checks whether another type of the scope is called like that. So `String` meets
`StringMessage`. A prefix keeps the types that the file declares directly from this, as they get no suffix.

* `nameParts`, `TypeNode.extends_of_mem_inside` — the parts of a name, and what goes on from them;
* `Collides` — a scope in which a type with a suffix meets another one;
* `nodup_localNames_iff` — the names in a scope are pairwise distinct exactly if it has no such type;
* `MessageNode.nodup_swiftNames` — names stay distinct inside each other;
* `FileNode.distinct_swiftNames_iff` — when the names of a file are pairwise distinct;
* `FileNode.clash_string` — a file that gives two messages one name.
-/

import ProtoSwift.Proofs.Symbol.Nesting
import Mathlib

namespace ProtoSwift

open Swift Text

/-! ### Parts of names -/

/-- The parts of a name between its dots. -/
def nameParts (name : String) : List (List Char) :=
  name.toList.splitOn '.'

theorem nameParts_of_dotFree {name : String} (plain : DotFree name) : nameParts name = [name.toList] :=
  List.splitOn_eq_singleton plain

/-- A name behind a dot is one more part. -/
theorem nameParts_append {name : String} (parent : String) (plain : DotFree name) :
    nameParts (parent ++ "." ++ name) = nameParts parent ++ [name.toList] := by
  have spelt : (parent ++ "." ++ name).toList = parent.toList ++ '.' :: name.toList := by
    rw [String.toList_append, String.toList_append, List.append_assoc]
    rfl
  unfold nameParts
  rw [spelt, List.splitOn_append_cons_self, List.splitOn_eq_singleton plain]

/-- Parts that begin two ways with one part more than the same parts begin with the same part. -/
theorem eq_of_prefix_concat {α : Type} {base parts : List α} {first second : α}
    (left : base ++ [first] <+: parts) (right : base ++ [second] <+: parts) : first = second := by
  have same : base ++ [first] = base ++ [second] :=
    (List.prefix_of_prefix_length_le left right (by simp)).eq_of_length (by simp)
  exact (List.cons.inj (List.append_cancel_left same)).1

/-! ### Types inside a type -/

namespace TypeNode

/-- A type and the types inside it. -/
def inside : TypeNode → List TypeNode
  | message node => node.types
  | enumeration node => [.enumeration node]

/-- What is put behind a name that is taken. -/
def suffix : TypeNode → String
  | message _ => "Message"
  | enumeration _ => "Enum"

/-- The name by which a type is declared inside a message. -/
def localName (type : TypeNode) : String :=
  avoidTakenName type.name type.suffix

theorem mem_inside_self (type : TypeNode) : type ∈ type.inside := by
  cases type with
  | message node => exact node.mem_types_self
  | enumeration node => exact List.mem_singleton_self _

theorem dotFree_suffix (type : TypeNode) : DotFree type.suffix := by
  cases type with
  | message _ => exact (by decide : DotFree "Message")
  | enumeration _ => exact (by decide : DotFree "Enum")

theorem dotFree_localName {type : TypeNode} (plain : DotFree type.name) : DotFree type.localName :=
  dotFree_avoidTakenName plain type.dotFree_suffix

end TypeNode

/-- Messages and enumerations with the types inside them. -/
theorem flatMap_inside (messages : List MessageNode) (enums : List EnumNode) :
    (messages.map TypeNode.message ++ enums.map TypeNode.enumeration).flatMap TypeNode.inside
      = messages.flatMap MessageNode.types ++ enums.map TypeNode.enumeration := by
  rw [List.flatMap_append, List.flatMap_map, List.flatMap_map, List.map_eq_flatMap]
  rfl

/-- What is declared directly is a message or an enumeration. -/
theorem mem_children_cases {messages : List MessageNode} {enums : List EnumNode} {child : TypeNode}
    (isChild : child ∈ messages.map TypeNode.message ++ enums.map TypeNode.enumeration) :
    (∃ inner ∈ messages, child = .message inner) ∨ ∃ enumeration ∈ enums, child = .enumeration enumeration := by
  rcases List.mem_append.mp isChild with isMessage | isEnum
  · obtain ⟨inner, among, same⟩ := List.mem_map.mp isMessage
    exact Or.inl ⟨inner, among, same.symm⟩
  · obtain ⟨enumeration, among, same⟩ := List.mem_map.mp isEnum
    exact Or.inr ⟨enumeration, among, same.symm⟩

namespace MessageNode

theorem types_eq_children (node : MessageNode) :
    node.types = .message node :: node.children.flatMap TypeNode.inside := by
  rw [types_eq, children, flatMap_inside]

/-- A type that a message declares is named after the message. -/
theorem NestsNames.of_mem_children {node : MessageNode} (nests : node.NestsNames) {child : TypeNode}
    (isChild : child ∈ node.children) : child.swiftName = node.swiftName ++ "." ++ child.localName := by
  rcases mem_children_cases isChild with ⟨inner, isInner, rfl⟩ | ⟨enumeration, isEnum, rfl⟩
  · exact nests.messages inner isInner
  · exact nests.enums enumeration isEnum

end MessageNode

theorem FileNode.types_eq_children (file : FileNode) : file.types = file.children.flatMap TypeNode.inside := by
  rw [types, children, flatMap_inside]

/-! ### Names in one scope -/

/-- Whether a name is a keyword or that of a type in use. -/
def IsTaken (name : String) : Prop :=
  name ∈ takenTypeNames ∨ name ∈ keywords

instance (name : String) : Decidable (IsTaken name) :=
  inferInstanceAs (Decidable (_ ∨ _))

/-- **Whether a type whose name is taken gets the name of another type of the scope.** -/
def Collides (types : List TypeNode) : Prop :=
  ∃ renamed ∈ types, IsTaken renamed.name ∧ ∃ other ∈ types, other.name = renamed.name ++ renamed.suffix

instance (types : List TypeNode) : Decidable (Collides types) :=
  inferInstanceAs (Decidable (∃ _ ∈ types, _))

theorem isTaken_iff {name : String} :
    (takenTypeNames.contains name || keywords.contains name) = true ↔ IsTaken name := by
  rw [Bool.or_eq_true, List.contains_iff_mem, List.contains_iff_mem]
  rfl

theorem avoidTakenName_of_taken {name : String} (taken : IsTaken name) (suffix : String) :
    avoidTakenName name suffix = name ++ suffix :=
  if_pos (isTaken_iff.mpr taken)

theorem avoidTakenName_of_not_taken {name : String} (free : ¬ IsTaken name) (suffix : String) :
    avoidTakenName name suffix = name :=
  if_neg (mt isTaken_iff.mp free)

theorem TypeNode.suffix_cases (type : TypeNode) : type.suffix = "Message" ∨ type.suffix = "Enum" := by
  cases type with
  | message _ => exact Or.inl rfl
  | enumeration _ => exact Or.inr rfl

/-- No name that is taken is another one behind which a suffix was put: among the names that are taken, only the
suffixes themselves end in one. -/
theorem not_taken_append {name : String} (taken : IsTaken name) (type : TypeNode) :
    ¬ IsTaken (name ++ type.suffix) := by
  have bare : ∀ ending ∈ ["Message", "Enum"], ∀ longer ∈ takenTypeNames ++ keywords,
      ending.toList <:+ longer.toList → longer = ending := by
    decide +kernel
  have isEnding : type.suffix ∈ ["Message", "Enum"] := by
    rcases type.suffix_cases with isSuffix | isSuffix <;> simp [isSuffix]
  intro again
  have same : name ++ type.suffix = type.suffix := by
    refine bare type.suffix isEnding _ (List.mem_append.mpr again) ?_
    rw [String.toList_append]
    exact List.suffix_append _ _
  have empty : name = "" := by simpa using same
  rw [empty] at taken
  exact absurd taken (by decide)

/-- The suffixes end differently, so names with suffixes are equal only if the names are. -/
theorem eq_of_append_suffix_eq {first second : TypeNode}
    (same : first.name ++ first.suffix = second.name ++ second.suffix) : first.name = second.name := by
  have last : ∀ name suffix : String, suffix.toList ≠ [] →
      (name ++ suffix).toList.getLast? = suffix.toList.getLast? := by
    intro name suffix some
    rw [String.toList_append, List.getLast?_append_of_ne_nil _ some]
  have ends : first.suffix.toList.getLast? = second.suffix.toList.getLast? := by
    have some : ∀ type : TypeNode, type.suffix.toList ≠ [] := by
      intro type
      rcases type.suffix_cases with isSuffix | isSuffix <;> rw [isSuffix] <;> decide
    rw [← last first.name _ (some first), same, last second.name _ (some second)]
  have suffixes : first.suffix = second.suffix := by
    rcases first.suffix_cases with isFirst | isFirst <;> rcases second.suffix_cases with isSecond | isSecond <;>
      rw [isFirst, isSecond] at ends ⊢ <;> cases ends
  rw [suffixes] at same
  exact (String.append_left_inj _).mp same

theorem ne_append_suffix (type : TypeNode) : type.name ≠ type.name ++ type.suffix := by
  intro same
  have empty : type.suffix = "" := String.append_right_inj _ |>.mp (same.symm.trans String.append_empty.symm)
  rcases type.suffix_cases with isSuffix | isSuffix <;> rw [isSuffix] at empty <;> exact absurd empty (by decide)

/-- **Two types of a scope share a name exactly if one gets the name of the other.** -/
theorem localName_eq_iff {first second : TypeNode} (different : first.name ≠ second.name) :
    first.localName = second.localName
      ↔ (IsTaken first.name ∧ second.name = first.name ++ first.suffix)
        ∨ (IsTaken second.name ∧ first.name = second.name ++ second.suffix) := by
  unfold TypeNode.localName
  by_cases firstTaken : IsTaken first.name
  · rw [avoidTakenName_of_taken firstTaken]
    by_cases secondTaken : IsTaken second.name
    · rw [avoidTakenName_of_taken secondTaken]
      constructor
      · exact fun same => absurd (eq_of_append_suffix_eq same) different
      · rintro (⟨_, same⟩ | ⟨_, same⟩)
        · exact absurd (same ▸ secondTaken) (not_taken_append firstTaken first)
        · exact absurd (same ▸ firstTaken) (not_taken_append secondTaken second)
    · rw [avoidTakenName_of_not_taken secondTaken]
      constructor
      · exact fun same => Or.inl ⟨firstTaken, same.symm⟩
      · rintro (⟨_, same⟩ | ⟨taken, _⟩)
        · exact same.symm
        · exact absurd taken secondTaken
  · rw [avoidTakenName_of_not_taken firstTaken]
    by_cases secondTaken : IsTaken second.name
    · rw [avoidTakenName_of_taken secondTaken]
      constructor
      · exact fun same => Or.inr ⟨secondTaken, same⟩
      · rintro (⟨taken, _⟩ | ⟨_, same⟩)
        · exact absurd taken firstTaken
        · exact same
    · rw [avoidTakenName_of_not_taken secondTaken]
      constructor
      · exact fun same => absurd same different
      · rintro (⟨taken, _⟩ | ⟨taken, _⟩)
        · exact absurd taken firstTaken
        · exact absurd taken secondTaken

/-- **The names in a scope are pairwise distinct exactly if no type with a suffix meets another one.** -/
theorem nodup_localNames_iff {types : List TypeNode} (distinct : (types.map TypeNode.name).Nodup) :
    (types.map TypeNode.localName).Nodup ↔ ¬ Collides types := by
  constructor
  · rintro apart ⟨renamed, isRenamed, taken, other, isOther, same⟩
    have different : renamed.name ≠ other.name := by
      rw [same]
      exact ne_append_suffix renamed
    have meets : renamed.localName = other.localName := (localName_eq_iff different).mpr (Or.inl ⟨taken, same⟩)
    exact different (congrArg TypeNode.name (List.inj_on_of_nodup_map apart isRenamed isOther meets))
  · intro apart
    refine List.Nodup.map_on ?_ (List.Nodup.of_map _ distinct)
    intro first isFirst second isSecond meets
    by_cases different : first.name = second.name
    · exact List.inj_on_of_nodup_map distinct isFirst isSecond different
    · rcases (localName_eq_iff different).mp meets with ⟨taken, same⟩ | ⟨taken, same⟩
      · exact absurd ⟨first, isFirst, taken, second, isSecond, same⟩ apart
      · exact absurd ⟨second, isSecond, taken, first, isFirst, same⟩ apart

/-! ### Names inside each other -/

/-- Types whose names go on differently from the same parts have distinct names, with all that is inside them. -/
theorem nodup_swiftNames_flatMap {types : List TypeNode} {base : List (List Char)} {own : TypeNode → String}
    (spelt : ∀ child ∈ types, nameParts child.swiftName = base ++ [(own child).toList]) (apart : (types.map own).Nodup)
    (goesOn : ∀ child ∈ types, ∀ type ∈ child.inside, nameParts child.swiftName <+: nameParts type.swiftName)
    (each : ∀ child ∈ types, (child.inside.map TypeNode.swiftName).Nodup) :
    ((types.flatMap TypeNode.inside).map TypeNode.swiftName).Nodup := by
  rw [List.map_flatMap, List.nodup_flatMap]
  refine ⟨each, (List.pairwise_map.mp apart).imp_of_mem ?_⟩
  intro first second isFirst isSecond different name inFirst inSecond
  obtain ⟨type, isType, rfl⟩ := List.mem_map.mp inFirst
  obtain ⟨other, isOther, same⟩ := List.mem_map.mp inSecond
  have left := goesOn first isFirst type isType
  have right := goesOn second isSecond other isOther
  rw [spelt first isFirst] at left
  rw [spelt second isSecond, same] at right
  exact different (String.toList_inj.mp (eq_of_prefix_concat left right))

namespace MessageNode

/-- **A message in which all names go on from each other by names without dots.** -/
structure WellNamed (node : MessageNode) : Prop where
  nests : ∀ inner, .message inner ∈ node.types → inner.NestsNames
  plain : ∀ type ∈ node.types, DotFree type.name

/-- The types inside a type that a message declares are inside the message. -/
theorem mem_types_of_mem_children {node : MessageNode} {child type : TypeNode} (isChild : child ∈ node.children)
    (isInside : type ∈ child.inside) : type ∈ node.types := by
  rw [types_eq_children]
  exact List.mem_cons_of_mem _ (List.mem_flatMap.mpr ⟨child, isChild, isInside⟩)

namespace WellNamed

variable {node : MessageNode}

theorem of_mem_messages (named : node.WellNamed) {inner : MessageNode} (isInner : inner ∈ node.messages) :
    inner.WellNamed :=
  ⟨fun other among => named.nests other (mem_types_of_mem_messages isInner among),
    fun type among => named.plain type (mem_types_of_mem_messages isInner among)⟩

/-- The name of a type that a message declares is one more part. -/
theorem nameParts_of_mem_children (named : node.WellNamed) {child : TypeNode} (isChild : child ∈ node.children) :
    nameParts child.swiftName = nameParts node.swiftName ++ [child.localName.toList] := by
  have plain : DotFree child.localName :=
    TypeNode.dotFree_localName (named.plain child (mem_types_of_mem_children isChild child.mem_inside_self))
  rw [(named.nests node node.mem_types_self).of_mem_children isChild, nameParts_append _ plain]

/-- The name of a type inside a message goes on from that of the message. -/
theorem prefix_of_mem_types (named : node.WellNamed) :
    ∀ type ∈ node.types, nameParts node.swiftName <+: nameParts type.swiftName := by
  induction node using inductionOnNested with
  | step node deeper =>
    intro type among
    rw [types_eq_children] at among
    rcases List.mem_cons.mp among with rfl | below
    · exact List.prefix_rfl
    · obtain ⟨child, isChild, isInside⟩ := List.mem_flatMap.mp below
      have first : nameParts node.swiftName <+: nameParts child.swiftName := by
        rw [named.nameParts_of_mem_children isChild]
        exact List.prefix_append _ _
      rcases mem_children_cases isChild with ⟨inner, isInner, rfl⟩ | ⟨enumeration, _, rfl⟩
      · exact first.trans (deeper inner isInner (named.of_mem_messages isInner) type isInside)
      · obtain rfl := List.mem_singleton.mp isInside
        exact first

end WellNamed

/-- The name of a type inside one that is declared directly goes on from that of the latter. -/
theorem prefix_of_mem_inside {messages : List MessageNode} (enums : List EnumNode)
    (named : ∀ inner ∈ messages, inner.WellNamed) :
    ∀ child ∈ messages.map TypeNode.message ++ enums.map TypeNode.enumeration, ∀ type ∈ child.inside,
      nameParts child.swiftName <+: nameParts type.swiftName := by
  intro child isChild type isInside
  rcases mem_children_cases isChild with ⟨inner, isInner, rfl⟩ | ⟨enumeration, _, rfl⟩
  · exact (named inner isInner).prefix_of_mem_types type isInside
  · obtain rfl := List.mem_singleton.mp isInside
    exact List.prefix_rfl

/-- **Names stay distinct inside each other**: if in every message the names are that are declared in it, so are the
names of all types inside a message. -/
theorem nodup_swiftNames {node : MessageNode} (named : node.WellNamed)
    (apart : ∀ inner, .message inner ∈ node.types → (inner.children.map TypeNode.localName).Nodup) :
    (node.types.map TypeNode.swiftName).Nodup := by
  induction node using inductionOnNested with
  | step node deeper =>
    have goesOn := prefix_of_mem_inside node.enums fun inner isInner => named.of_mem_messages isInner
    have each : ∀ child ∈ node.children, (child.inside.map TypeNode.swiftName).Nodup := by
      intro child isChild
      rcases mem_children_cases isChild with ⟨inner, isInner, rfl⟩ | ⟨enumeration, _, rfl⟩
      · exact deeper inner isInner (named.of_mem_messages isInner)
          fun other among => apart other (mem_types_of_mem_messages isInner among)
      · exact List.nodup_singleton _
    rw [types_eq_children, List.map_cons, List.nodup_cons]
    constructor
    · intro among
      obtain ⟨type, isType, same⟩ := List.mem_map.mp among
      obtain ⟨child, isChild, isInside⟩ := List.mem_flatMap.mp isType
      -- the name of the message has one part less than those of the types inside it
      have longer := (goesOn child isChild type isInside).length_le
      rw [named.nameParts_of_mem_children isChild, same, List.length_append, List.length_singleton] at longer
      exact absurd longer (by show ¬ (nameParts node.swiftName).length + 1 ≤ (nameParts node.swiftName).length; omega)
    · exact nodup_swiftNames_flatMap (fun child isChild => named.nameParts_of_mem_children isChild)
        (apart node node.mem_types_self) goesOn each

end MessageNode

/-! ### Names of a file -/

namespace FileNode

/-- The Swift names of the messages and the enumerations of a file. -/
def swiftNames (file : FileNode) : List String :=
  file.allMessages.map MessageNode.swiftName ++ file.allEnums.map EnumNode.swiftName

/-- Types are messages and enumerations. -/
theorem perm_swiftNames_types (types : List TypeNode) :
    ((types.filterMap TypeNode.message?).map MessageNode.swiftName
        ++ (types.filterMap TypeNode.enum?).map EnumNode.swiftName).Perm
      (types.map TypeNode.swiftName) := by
  induction types with
  | nil => exact List.Perm.refl _
  | cons type rest inRest =>
    cases type with
    | message node => exact inRest.cons _
    | enumeration node => exact List.perm_middle.trans (inRest.cons _)

theorem nodup_swiftNames_iff (file : FileNode) :
    file.swiftNames.Nodup ↔ (file.types.map TypeNode.swiftName).Nodup := by
  unfold swiftNames
  rw [← filterMap_message?_types, ← filterMap_enum?_types]
  exact (perm_swiftNames_types file.types).nodup_iff

variable {era : Era} {file : Schema.File}

/-- A type that a file declares directly is named in the scope of the file. -/
theorem swiftName_of_mem_children {child : TypeNode} (isChild : child ∈ (declare era file).children) :
    child.swiftName = (TypeScope.file (declare era file).typePrefix).typeName child.name child.suffix := by
  rcases mem_children_cases isChild with ⟨node, among, rfl⟩ | ⟨node, among, rfl⟩
  · obtain ⟨position, message, _, rfl⟩ := mem_mapIdx_iff.mp among
    show MessageNode.swiftName _ = TypeScope.typeName _ (MessageNode.schema _).name _
    rw [MessageNode.swiftName_declare, MessageNode.schema_declare]
    rfl
  · obtain ⟨position, enumeration, _, rfl⟩ := mem_mapIdx_iff.mp among
    rfl

/-- In the scope of a file only types without a prefix can meet. -/
theorem nodup_children_iff (distinct : ((declare era file).children.map TypeNode.name).Nodup) :
    ((declare era file).children.map TypeNode.swiftName).Nodup
      ↔ ((declare era file).typePrefix = "" → ¬ Collides (declare era file).children) := by
  by_cases free : (declare era file).typePrefix = ""
  · have names : (declare era file).children.map TypeNode.swiftName
        = (declare era file).children.map TypeNode.localName := by
      apply List.map_congr_left
      intro child isChild
      rw [swiftName_of_mem_children isChild]
      exact if_pos free
    rw [names, nodup_localNames_iff distinct]
    exact ⟨fun apart _ => apart, fun apart => apart free⟩
  · have names : (declare era file).children.map TypeNode.swiftName
        = ((declare era file).children.map TypeNode.name).map ((declare era file).typePrefix ++ ·) := by
      rw [List.map_map]
      apply List.map_congr_left
      intro child isChild
      rw [swiftName_of_mem_children isChild]
      exact if_neg free
    rw [names]
    have apart := distinct.map fun first second => (String.append_right_inj (declare era file).typePrefix).mp
    exact ⟨fun _ empty => absurd empty free, fun _ => apart⟩

/-- All names in a file go on from each other by names without dots. -/
theorem wellNamed_of_mem_messages (plain : ∀ type ∈ (declare era file).types, DotFree type.name) :
    ∀ node ∈ (declare era file).messages, node.WellNamed := by
  intro node declared
  constructor
  · intro inner among
    obtain ⟨position, message, _, rfl⟩ := mem_mapIdx_iff.mp declared
    exact MessageNode.nestsNames_of_mem_types_declare message _ _ _ inner among
  · exact fun type among => plain type (List.mem_append_left _ (List.mem_flatMap.mpr ⟨node, declared, among⟩))

end FileNode

/-- What is inside a message that is inside another one is inside that one. -/
theorem MessageNode.mem_types_trans {node inner : MessageNode} {type : TypeNode}
    (among : .message inner ∈ node.types) (inside : type ∈ inner.types) : type ∈ node.types := by
  induction node using MessageNode.inductionOnNested with
  | step node deeper =>
    rw [types_eq_children] at among
    rcases List.mem_cons.mp among with here | below
    · cases here
      exact inside
    · obtain ⟨child, isChild, isInside⟩ := List.mem_flatMap.mp below
      rcases mem_children_cases isChild with ⟨further, isFurther, rfl⟩ | ⟨enumeration, _, rfl⟩
      · exact mem_types_of_mem_messages isFurther (deeper further isFurther isInside)
      · cases List.mem_singleton.mp isInside

namespace FileNode

variable {era : Era} {file : Schema.File}

theorem mem_types_of_mem_children {file : FileNode} {child : TypeNode} (isChild : child ∈ file.children) :
    child ∈ file.types := by
  rw [types_eq_children]
  exact List.mem_flatMap.mpr ⟨child, isChild, child.mem_inside_self⟩

/-- What a message of a file declares is a type of the file. -/
theorem mem_types_of_mem_allMessages {file : FileNode} {node : MessageNode} (among : node ∈ file.allMessages)
    {child : TypeNode} (isChild : child ∈ node.children) : child ∈ file.types := by
  have inside : child ∈ node.types := MessageNode.mem_types_of_mem_children isChild child.mem_inside_self
  rcases List.mem_append.mp (mem_allMessages_iff.mp among) with isNested | isEnum
  · obtain ⟨outer, declared, isInner⟩ := List.mem_flatMap.mp isNested
    exact List.mem_append_left _ (List.mem_flatMap.mpr ⟨outer, declared, MessageNode.mem_types_trans isInner inside⟩)
  · obtain ⟨enumeration, _, same⟩ := List.mem_map.mp isEnum
    cases same

/-- A message of a file names what it declares after itself. -/
theorem nestsNames_of_mem_allMessages {node : MessageNode} (among : node ∈ (declare era file).allMessages) :
    node.NestsNames := by
  rcases mem_types_declare_iff.mp (mem_allMessages_iff.mp among) with ⟨_, message, _, inside⟩ | ⟨_, _, _, same⟩
  · exact MessageNode.nestsNames_of_mem_types_declare message _ _ _ node inside
  · cases same

/-- **The names of a file are pairwise distinct exactly if they are so in each of its scopes.** -/
theorem nodup_swiftNames_iff_scopes (plainPrefix : ∀ chosen, file.typePrefix? = some chosen → DotFree chosen)
    (plain : ∀ type ∈ (declare era file).types, DotFree type.name)
    (distinct : ((declare era file).children.map TypeNode.name).Nodup)
    (distinctInside : ∀ node ∈ (declare era file).allMessages, (node.children.map TypeNode.name).Nodup) :
    (declare era file).swiftNames.Nodup
      ↔ ((declare era file).children.map TypeNode.swiftName).Nodup
        ∧ ∀ node ∈ (declare era file).allMessages, (node.children.map TypeNode.localName).Nodup := by
  rw [nodup_swiftNames_iff]
  constructor
  · intro apart
    constructor
    · refine List.Nodup.map_on ?_ (List.Nodup.of_map _ distinct)
      intro first isFirst second isSecond same
      exact List.inj_on_of_nodup_map apart (mem_types_of_mem_children isFirst) (mem_types_of_mem_children isSecond)
        same
    · intro node among
      have nests := nestsNames_of_mem_allMessages among
      refine List.Nodup.map_on ?_ (List.Nodup.of_map _ (distinctInside node among))
      intro first isFirst second isSecond same
      refine List.inj_on_of_nodup_map apart (mem_types_of_mem_allMessages among isFirst)
        (mem_types_of_mem_allMessages among isSecond) ?_
      rw [nests.of_mem_children isFirst, nests.of_mem_children isSecond, same]
  · rintro ⟨apart, apartInside⟩
    have prefixFree : DotFree (declare era file).typePrefix := dotFree_typePrefix file.package plainPrefix
    have named := wellNamed_of_mem_messages plain
    have spelt : ∀ child ∈ (declare era file).children, nameParts child.swiftName = [] ++ [child.swiftName.toList] := by
      intro child isChild
      refine nameParts_of_dotFree ?_
      rw [swiftName_of_mem_children isChild]
      refine TypeScope.dotFree_typeName_file prefixFree (plain child (mem_types_of_mem_children isChild)) ?_
      exact child.dotFree_suffix
    rw [types_eq_children]
    refine nodup_swiftNames_flatMap spelt apart (MessageNode.prefix_of_mem_inside _ named) ?_
    intro child isChild
    rcases mem_children_cases isChild with ⟨node, declared, rfl⟩ | ⟨enumeration, _, rfl⟩
    · apply MessageNode.nodup_swiftNames (named node declared)
      intro inner among
      refine apartInside inner (mem_allMessages_iff.mpr ?_)
      exact List.mem_append_left _ (List.mem_flatMap.mpr ⟨node, declared, among⟩)
    · exact List.nodup_singleton _

/-- **When the types of a file have Swift names of their own.** Let the names in every scope be pairwise distinct and
without dots, and the prefix without dots that the file may set. Then the Swift names of the messages and the
enumerations of the file are pairwise distinct exactly if no type that gets a suffix meets another type of its
scope, which cannot happen to the types that the file declares directly with a prefix. -/
theorem distinct_swiftNames_iff (plainPrefix : ∀ chosen, file.typePrefix? = some chosen → DotFree chosen)
    (plain : ∀ type ∈ (declare era file).types, DotFree type.name)
    (distinct : ((declare era file).children.map TypeNode.name).Nodup)
    (distinctInside : ∀ node ∈ (declare era file).allMessages, (node.children.map TypeNode.name).Nodup) :
    ((declare era file).allMessages.map MessageNode.swiftName
        ++ (declare era file).allEnums.map EnumNode.swiftName).Nodup
      ↔ ((declare era file).typePrefix = "" → ¬ Collides (declare era file).children)
        ∧ ∀ node ∈ (declare era file).allMessages, ¬ Collides node.children := by
  show (declare era file).swiftNames.Nodup ↔ _
  rw [nodup_swiftNames_iff_scopes plainPrefix plain distinct distinctInside, nodup_children_iff distinct]
  refine and_congr Iff.rfl (forall₂_congr ?_)
  intro node among
  exact nodup_localNames_iff (distinctInside node among)

/-- A file without a prefix, in which two names are taken. -/
def bankFile : Schema.File :=
  { name? := "bank.proto"
    messages :=
      [{ name? := "Bank"
         messages := [{ name? := "Account", enumerations := [{ name? := "Error" }] }] }]
    enumerations := [{ name? := "Type" }] }

theorem distinct_swiftNames_bank :
    ((declare .proto3 bankFile).allMessages.map MessageNode.swiftName
        ++ (declare .proto3 bankFile).allEnums.map EnumNode.swiftName)
      = ["Bank", "Bank.Account", "Bank.Account.ErrorEnum", "TypeEnum"]
    ∧ ((declare .proto3 bankFile).allMessages.map MessageNode.swiftName
        ++ (declare .proto3 bankFile).allEnums.map EnumNode.swiftName).Nodup :=
  ⟨by decide +kernel,
    (distinct_swiftNames_iff (fun _ chosen => by cases chosen) (by decide +kernel) (by decide +kernel)
      (by decide +kernel)).mpr ⟨by decide +kernel, by decide +kernel⟩⟩

/-- A file with a message whose name is taken, and one that is called like it with the suffix. -/
def noteFile : Schema.File :=
  { name? := "note.proto", messages := [{ name? := "String" }, { name? := "StringMessage" }] }

/-- **A file that gives two messages one name**, although the names in its scope are pairwise distinct. -/
theorem clash_string : noteFile.typePrefix? = none
    ∧ (∀ type ∈ (declare .proto3 noteFile).types, type.name ≠ "" ∧ DotFree type.name)
    ∧ ((declare .proto3 noteFile).children.map TypeNode.name).Nodup
    ∧ (∀ node ∈ (declare .proto3 noteFile).allMessages, (node.children.map TypeNode.name).Nodup)
    ∧ (declare .proto3 noteFile).allMessages.map MessageNode.swiftName = ["StringMessage", "StringMessage"]
    ∧ ¬ ((declare .proto3 noteFile).allMessages.map MessageNode.swiftName
        ++ (declare .proto3 noteFile).allEnums.map EnumNode.swiftName).Nodup :=
  ⟨rfl, by decide +kernel, by decide +kernel, by decide +kernel, by decide +kernel, by decide +kernel⟩

end FileNode

end ProtoSwift
