/-
**What the type reference of a field means.**

A reference means the first declaration of its name. The type of a map field follows from the fields one and
two of the map entry, so it is found by looking up further references, one inside another.

* `FieldType.Resolves` — the type of a field, as rules: one for each kind of field, and one for maps;
* `FieldType.Fault` — why a field has no type: the first reference on the way that fails;
* `SymbolTable.EntriesEnd` — no map entry is inside itself;
* `FieldType.resolves_of_resolve` — the look-up finds only types that follow from the rules;
* `FieldType.resolve_eq_ok_iff`, `FieldType.resolve_eq_error_iff` — if no map entry is inside itself, it finds
  all of them, and otherwise reports the first fault.
-/

import ProtoSwift.Field.Resolved
import ProtoSwift.Proofs.Outcome
import Mathlib.Logic.Relation

namespace ProtoSwift

/-! ### Map entries -/

namespace SymbolTable

variable {table : SymbolTable} {field : Schema.Field} {entry inner : MessageNode}

/-- The map entry that a field refers to, if it is a map. -/
def entryOf? (table : SymbolTable) (field : Schema.Field) : Option MessageNode :=
  if field.kind = .message then (table.message? field.typeName).filter (·.isMapEntry) else none

theorem entryOf?_eq_some : table.entryOf? field = some entry
    ↔ field.kind = .message ∧ table.message? field.typeName = some entry ∧ entry.isMapEntry = true := by
  unfold entryOf?
  split
  · simp [Option.filter_eq_some_iff, *]
  · simp [*]

/-- An entry whose key or value is a map has the entry of that map inside it. -/
def EntryStep (table : SymbolTable) (outer inner : MessageNode) : Prop :=
  ∃ key value, outer.schema.field? 1 = some key ∧ outer.schema.field? 2 = some value
    ∧ (table.entryOf? key = some inner ∨ table.entryOf? value = some inner)

/-- **No map entry is inside itself**, however far. -/
def EntriesEnd (table : SymbolTable) : Prop :=
  ∀ entry, ¬ Relation.TransGen table.EntryStep entry entry

/-- A map entry is the entry of a field, or is inside it. -/
def Enters (table : SymbolTable) (field : Schema.Field) (inner : MessageNode) : Prop :=
  ∃ entry, table.entryOf? field = some entry ∧ Relation.ReflTransGen table.EntryStep entry inner

theorem message?_of_entryOf? (found : table.entryOf? field = some entry) :
    table.message? entry.fullName.text = some entry := by
  obtain ⟨_, declared, _⟩ := entryOf?_eq_some.mp found
  rw [text_of_message? declared, declared]

theorem message?_of_enters (enters : table.Enters field inner) :
    table.message? inner.fullName.text = some inner := by
  obtain ⟨entry, found, path⟩ := enters
  cases path with
  | refl => exact message?_of_entryOf? found
  | tail _ step =>
    obtain ⟨key, value, _, _, inKey | inValue⟩ := step
    · exact message?_of_entryOf? inKey
    · exact message?_of_entryOf? inValue

/-- Whether no map entry has a map for its key or value. -/
def entriesFlat (table : SymbolTable) : Bool :=
  table.messages.all fun entry =>
    !entry.isMapEntry || entry.fields.all fun part => (table.entryOf? part).isNone

theorem entriesEnd_of_flat (flat : table.entriesFlat = true) : table.EntriesEnd := by
  have noMap : ∀ entry ∈ table.messages, entry.isMapEntry = true →
      ∀ part ∈ entry.fields, table.entryOf? part = none := by
    intro entry member isEntry
    have checked := List.all_eq_true.mp flat entry member
    simpa [isEntry] using checked
  intro entry cycle
  have named : entry ∈ table.messages ∧ entry.isMapEntry = true := by
    obtain ⟨_, _, key, value, _, _, inKey | inValue⟩ := Relation.TransGen.tail'_iff.mp cycle
    · obtain ⟨_, declared, isEntry⟩ := entryOf?_eq_some.mp inKey
      exact ⟨mem_of_message? declared, isEntry⟩
    · obtain ⟨_, declared, isEntry⟩ := entryOf?_eq_some.mp inValue
      exact ⟨mem_of_message? declared, isEntry⟩
  obtain ⟨inner, step, _⟩ := Relation.TransGen.head'_iff.mp cycle
  obtain ⟨key, value, keyField, valueField, inKey | inValue⟩ := step
  · have none := noMap entry named.1 named.2 key (List.mem_of_find?_eq_some keyField)
    rw [inKey] at none
    cases none
  · have none := noMap entry named.1 named.2 value (List.mem_of_find?_eq_some valueField)
    rw [inValue] at none
    cases none

end SymbolTable

namespace FieldType

variable {table : SymbolTable} {field : Schema.Field} {type : FieldType} {cause : Error}

/-! ### Types by rules -/

/-- **The type of a field.** A message field that refers to a map entry has the types of the entry's fields
one and two. -/
inductive Resolves (table : SymbolTable) : Schema.Field → FieldType → Prop
  | scalar {field : Schema.Field} {type : Schema.Scalar} (kind : field.kind = .scalar type) :
    Resolves table field (.scalar type)
  | enumeration {field : Schema.Field} {node : EnumNode} (kind : field.kind = .enumeration)
    (declared : table.enum? field.typeName = some node) : Resolves table field (.enumeration node)
  | group {field : Schema.Field} {node : MessageNode} (kind : field.kind = .group)
    (declared : table.message? field.typeName = some node) : Resolves table field (.group node)
  | message {field : Schema.Field} {node : MessageNode} (kind : field.kind = .message)
    (declared : table.message? field.typeName = some node) (plain : node.isMapEntry = false) :
    Resolves table field (.message node)
  | map {field key value : Schema.Field} {entry : MessageNode} {keyType valueType : FieldType}
    (found : table.entryOf? field = some entry) (keyField : entry.schema.field? 1 = some key)
    (valueField : entry.schema.field? 2 = some value) (keyResolves : Resolves table key keyType)
    (valueResolves : Resolves table value valueType) :
    Resolves table field (.map entry keyType valueType)

/-- **Why a field has no type.** The key of a map is looked up before its value. -/
inductive Fault (table : SymbolTable) : Schema.Field → Error → Prop
  | enumeration {field : Schema.Field} (kind : field.kind = .enumeration)
    (undeclared : table.enum? field.typeName = none) :
    Fault table field (.unresolvedSymbol .enumeration field.typeName)
  | message {field : Schema.Field} (refers : field.refersToMessage = true)
    (undeclared : table.message? field.typeName = none) :
    Fault table field (.unresolvedSymbol .message field.typeName)
  | incomplete {field : Schema.Field} {entry : MessageNode} (found : table.entryOf? field = some entry)
    (missing : entry.schema.field? 1 = none ∨ entry.schema.field? 2 = none) :
    Fault table field (.malformedMapEntry entry.fullName.text)
  | key {field key value : Schema.Field} {entry : MessageNode} {cause : Error}
    (found : table.entryOf? field = some entry) (keyField : entry.schema.field? 1 = some key)
    (valueField : entry.schema.field? 2 = some value) (keyFault : Fault table key cause) :
    Fault table field cause
  | value {field key value : Schema.Field} {entry : MessageNode} {keyType : FieldType} {cause : Error}
    (found : table.entryOf? field = some entry) (keyField : entry.schema.field? 1 = some key)
    (valueField : entry.schema.field? 2 = some value) (keyResolves : Resolves table key keyType)
    (valueFault : Fault table value cause) : Fault table field cause

/-- **A field has one type.** -/
theorem Resolves.unique (resolves : Resolves table field type) {other : FieldType}
    (again : Resolves table field other) : type = other := by
  induction resolves generalizing other with
  | scalar kind | enumeration kind declared | group kind declared | message kind declared plain =>
    cases again with
    | map found => simp_all [SymbolTable.entryOf?_eq_some]
    | _ => simp_all
  | map found keyField valueField _ _ sameKey sameValue =>
    have isMap := SymbolTable.entryOf?_eq_some.mp found
    cases again with
    | map other otherKey otherValue keyResolves valueResolves =>
      obtain rfl := Option.some.inj (found.symm.trans other)
      obtain rfl := Option.some.inj (keyField.symm.trans otherKey)
      obtain rfl := Option.some.inj (valueField.symm.trans otherValue)
      rw [sameKey keyResolves, sameValue valueResolves]
    | _ => simp_all

/-- The message behind a type is the one that the reference names. -/
theorem Resolves.declared_of_message? (resolves : Resolves table field type) {node : MessageNode}
    (behind : type.message? = some node) :
    field.refersToMessage = true ∧ table.message? field.typeName = some node := by
  cases resolves with
  | scalar => cases behind
  | enumeration => cases behind
  | group kind declared | message kind declared =>
    cases behind
    exact ⟨by simp [Schema.Field.refersToMessage, kind], declared⟩
  | map found =>
    cases behind
    obtain ⟨kind, declared, _⟩ := SymbolTable.entryOf?_eq_some.mp found
    exact ⟨by simp [Schema.Field.refersToMessage, kind], declared⟩

/-! ### The look-up follows the rules -/

theorem resolves_of_resolveInside {opened : List FullName}
    (resolved : resolveInside table opened field = .ok type) : Resolves table field type := by
  fun_induction resolveInside table opened field generalizing type with
  | case1 opened field scalar kind =>
    cases resolved
    exact .scalar kind
  | case2 opened field kind =>
    obtain ⟨node, found, rfl⟩ := map_eq_ok.mp resolved
    exact .enumeration kind (SymbolTable.resolveEnum_eq_ok.mp found)
  | case3 opened field kind =>
    obtain ⟨node, found, rfl⟩ := map_eq_ok.mp resolved
    exact .group kind (SymbolTable.resolveMessage_eq_ok.mp found)
  | case4 => cases resolved
  | case5 opened field kind node declared plain =>
    cases resolved
    exact .message kind declared (by simpa using plain)
  | case6 opened field kind node declared isEntry fresh key value valueField keyField keyInside valueInside =>
    obtain ⟨keyType, keyResolved, rest⟩ := bind_eq_ok.mp resolved
    obtain ⟨valueType, valueResolved, made⟩ := bind_eq_ok.mp rest
    cases made
    have found := SymbolTable.entryOf?_eq_some.mpr ⟨kind, declared, by simpa using isEntry⟩
    exact .map found keyField valueField (keyInside keyResolved) (valueInside valueResolved)
  | case7 => cases resolved
  | case8 => cases resolved

/-- **The look-up finds only types that follow from the rules.** -/
theorem resolves_of_resolve (resolved : resolve table field = .ok type) : Resolves table field type :=
  resolves_of_resolveInside resolved

/-! ### The look-up finds every type -/

/-- The entries of a field and inside it are not opened yet. -/
def Unopened (table : SymbolTable) (opened : List FullName) (field : Schema.Field) : Prop :=
  ∀ inner, table.Enters field inner → opened.contains inner.fullName = false

theorem unopened_nil (table : SymbolTable) (field : Schema.Field) : Unopened table [] field :=
  fun _ _ => rfl

/-- **An opened entry is not met again** in its own key and value. Two entries that a table names have
different full names, so to meet the name again is to meet the entry again. -/
theorem Unopened.inside {opened : List FullName} {entry : MessageNode} {key value part : Schema.Field}
    (unopened : Unopened table opened field) (ends : table.EntriesEnd)
    (found : table.entryOf? field = some entry) (keyField : entry.schema.field? 1 = some key)
    (valueField : entry.schema.field? 2 = some value) (inside : part = key ∨ part = value) :
    Unopened table (entry.fullName :: opened) part := by
  rintro inner ⟨first, firstFound, path⟩
  have step : table.EntryStep entry first := by
    refine ⟨key, value, keyField, valueField, ?_⟩
    rcases inside with rfl | rfl
    · exact .inl firstFound
    · exact .inr firstFound
  have below : Relation.TransGen table.EntryStep entry inner := .head' step path
  have other : inner.fullName ≠ entry.fullName := by
    intro same
    have innerNamed := SymbolTable.message?_of_enters ⟨first, firstFound, path⟩
    rw [same, SymbolTable.message?_of_entryOf? found] at innerNamed
    cases innerNamed
    exact ends _ below
  simpa [other] using unopened inner ⟨entry, found, below.to_reflTransGen⟩

/-- The look-up of a map, once the entry is known to be complete. -/
theorem resolveInside_of_entryOf? {opened : List FullName} {entry : MessageNode} {key value : Schema.Field}
    (unopened : Unopened table opened field) (found : table.entryOf? field = some entry)
    (keyField : entry.schema.field? 1 = some key) (valueField : entry.schema.field? 2 = some value) :
    resolveInside table opened field = (do
      let keyType ← resolveInside table (entry.fullName :: opened) key
      let valueType ← resolveInside table (entry.fullName :: opened) value
      return .map entry keyType valueType) := by
  obtain ⟨kind, declared, isEntry⟩ := SymbolTable.entryOf?_eq_some.mp found
  have fresh := unopened entry ⟨entry, found, .refl⟩
  rw [resolveInside.eq_def table opened field]
  simp only [kind]
  split <;> simp_all

theorem resolveInside_of_resolves (resolves : Resolves table field type) (ends : table.EntriesEnd)
    {opened : List FullName} (unopened : Unopened table opened field) :
    resolveInside table opened field = .ok type := by
  induction resolves generalizing opened with
  | scalar kind =>
    unfold resolveInside
    split <;> simp_all
  | enumeration kind declared =>
    unfold resolveInside
    split <;> simp_all [SymbolTable.resolveEnum, Except.map]
  | group kind declared =>
    unfold resolveInside
    split <;> simp_all [SymbolTable.resolveMessage, Except.map]
  | message kind declared plain =>
    unfold resolveInside
    simp only [kind]
    split <;> simp_all
  | map found keyField valueField _ _ keyInside valueInside =>
    rw [resolveInside_of_entryOf? unopened found keyField valueField,
      keyInside (unopened.inside ends found keyField valueField (.inl rfl)),
      valueInside (unopened.inside ends found keyField valueField (.inr rfl))]
    rfl

theorem resolveInside_of_fault (fault : Fault table field cause) (ends : table.EntriesEnd)
    {opened : List FullName} (unopened : Unopened table opened field) :
    resolveInside table opened field = .error cause := by
  induction fault generalizing opened with
  | enumeration kind undeclared =>
    unfold resolveInside
    split <;> simp_all [SymbolTable.resolveEnum, Except.map]
  | message refers undeclared =>
    simp only [Schema.Field.refersToMessage, Bool.or_eq_true, decide_eq_true_eq] at refers
    unfold resolveInside
    rcases refers with kind | kind
    · simp only [kind]
      split <;> simp_all
    · simp only [kind, SymbolTable.resolveMessage, undeclared]
      rfl
  | incomplete found missing =>
    obtain ⟨kind, declared, isEntry⟩ := SymbolTable.entryOf?_eq_some.mp found
    have fresh := unopened _ ⟨_, found, .refl⟩
    unfold resolveInside
    simp only [kind]
    split
    · simp_all
    · rename_i node same
      rw [declared] at same
      cases same
      simp only [isEntry, fresh, Bool.not_true, Bool.false_eq_true, if_false, dif_pos]
      split
      · simp_all
      · rfl
  | key found keyField valueField _ keyInside =>
    rw [resolveInside_of_entryOf? unopened found keyField valueField,
      keyInside (unopened.inside ends found keyField valueField (.inl rfl))]
    rfl
  | value found keyField valueField keyResolves _ valueInside =>
    rw [resolveInside_of_entryOf? unopened found keyField valueField,
      resolveInside_of_resolves keyResolves ends
        (unopened.inside ends found keyField valueField (.inl rfl)),
      valueInside (unopened.inside ends found keyField valueField (.inr rfl))]
    rfl

theorem fault_of_resolveInside {opened : List FullName} (ends : table.EntriesEnd)
    (unopened : Unopened table opened field)
    (failed : resolveInside table opened field = .error cause) : Fault table field cause := by
  fun_induction resolveInside table opened field generalizing cause with
  | case1 => cases failed
  | case2 opened field kind =>
    unfold SymbolTable.resolveEnum at failed
    split at failed
    · cases failed
    · cases failed
      exact .enumeration kind (by assumption)
  | case3 opened field kind =>
    unfold SymbolTable.resolveMessage at failed
    split at failed
    · cases failed
    · cases failed
      exact .message (by simp [Schema.Field.refersToMessage, kind]) (by assumption)
  | case4 opened field kind undeclared =>
    cases failed
    exact .message (by simp [Schema.Field.refersToMessage, kind]) undeclared
  | case5 => cases failed
  | case6 opened field kind node declared isEntry fresh key value valueField keyField keyInside valueInside =>
    have found := SymbolTable.entryOf?_eq_some.mpr ⟨kind, declared, by simpa using isEntry⟩
    have keyUnopened := unopened.inside ends found keyField valueField (.inl rfl)
    have valueUnopened := unopened.inside ends found keyField valueField (.inr rfl)
    cases keyOutcome : resolveInside table (node.fullName :: opened) key with
    | error keyCause =>
      rw [keyOutcome] at failed
      cases failed
      exact .key found keyField valueField (keyInside keyUnopened keyOutcome)
    | ok keyType =>
      have keyResolves := resolves_of_resolveInside keyOutcome
      cases valueOutcome : resolveInside table (node.fullName :: opened) value with
      | error valueCause =>
        rw [keyOutcome, valueOutcome] at failed
        cases failed
        exact .value found keyField valueField keyResolves (valueInside valueUnopened valueOutcome)
      | ok valueType =>
        rw [keyOutcome, valueOutcome] at failed
        cases failed
  | case7 opened field kind node declared isEntry fresh incomplete =>
    cases failed
    refine .incomplete (SymbolTable.entryOf?_eq_some.mpr ⟨kind, declared, by simpa using isEntry⟩) ?_
    cases keyField : node.schema.field? 1 with
    | none => exact .inl rfl
    | some key =>
      cases valueField : node.schema.field? 2 with
      | none => exact .inr rfl
      | some value => exact (incomplete key value keyField valueField).elim
  | case8 opened field kind node declared isEntry again =>
    have found := SymbolTable.entryOf?_eq_some.mpr ⟨kind, declared, by simpa using isEntry⟩
    exact (again (unopened node ⟨node, found, .refl⟩)).elim

/-- **If no map entry is inside itself, the look-up finds every type** that follows from the rules. -/
theorem resolve_eq_ok_iff (ends : table.EntriesEnd) :
    resolve table field = .ok type ↔ Resolves table field type :=
  ⟨resolves_of_resolve, fun resolves => resolveInside_of_resolves resolves ends (unopened_nil table field)⟩

/-- **If no map entry is inside itself, the look-up reports the first fault.** -/
theorem resolve_eq_error_iff (ends : table.EntriesEnd) :
    resolve table field = .error cause ↔ Fault table field cause :=
  ⟨fault_of_resolveInside ends (unopened_nil table field),
    fun fault => resolveInside_of_fault fault ends (unopened_nil table field)⟩

end FieldType

/-! ### Fields with their types -/

namespace ResolvedField

variable {table : SymbolTable} {era : Era} {schema : Schema.Field} {field : ResolvedField}

/-- A field of a file together with its type. -/
structure Resolved (table : SymbolTable) (era : Era) (schema : Schema.Field) (field : ResolvedField) :
    Prop where
  schema_eq : field.schema = schema
  era_eq : field.era = era
  type_resolves : FieldType.Resolves table schema field.type

theorem resolved_of_resolve (resolved : resolve table era schema = .ok field) :
    Resolved table era schema field := by
  obtain ⟨type, typeResolved, made⟩ := bind_eq_ok.mp resolved
  cases made
  exact ⟨rfl, rfl, FieldType.resolves_of_resolve typeResolved⟩

/-- Only fields that are not repeated track presence. -/
theorem single_of_tracked (tracked : field.tracksPresence = true) : field.isRepeated = false := by
  unfold tracksPresence at tracked
  simp only [Bool.and_eq_true, Bool.not_eq_true'] at tracked
  exact tracked.1

/-- A message field that is not repeated tracks presence. -/
theorem tracked_of_message (single : field.isRepeated = false) (message : field.isMessageOrGroup = true) :
    field.tracksPresence = true := by
  simp [tracksPresence, single, message]

/-- A map is repeated if every reference to its entry is. -/
theorem Resolved.repeated_of_isMap (resolved : Resolved table era schema field)
    (repeated : ∀ entry, table.entryOf? schema = some entry → schema.label = .repeated)
    (isMap : field.isMap = true) : field.isRepeated = true := by
  obtain ⟨rfl, _, resolves⟩ := resolved
  unfold ResolvedField.isMap at isMap
  cases typed : field.type with
  | scalar | enumeration | message | group =>
    rw [typed] at isMap
    cases isMap
  | map =>
    rw [typed] at resolves
    cases resolves with
    | map found => simp [isRepeated, repeated _ found]

end ResolvedField

end ProtoSwift
