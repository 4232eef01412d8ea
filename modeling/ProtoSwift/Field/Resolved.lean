/-
**Fields with their type references resolved.**

The reference of a field is looked up once. A message field that refers to a map entry is a map field, and
the types of its key and value are those of the entry's fields one and two.

* `FieldType` — what the type of a field turned out to be;
* `FieldType.resolve` — the type of a field;
* `ResolvedField` — a field with its type and the era of its file, and the questions about them.
-/

import ProtoSwift.Symbol.Table

namespace ProtoSwift

open Schema

/-! ## Types -/

/-- The type of a field, with the declarations that it refers to. -/
inductive FieldType
  | scalar (type : Scalar)
  | enumeration (node : EnumNode)
  | message (node : MessageNode)
  | group (node : MessageNode)
  | map (entry : MessageNode) (key value : FieldType)

namespace FieldType

/-- The messages of a table that do not have one of the given full names. -/
def unopened (table : SymbolTable) (opened : List FullName) : List MessageNode :=
  table.messages.filter fun node => !opened.contains node.fullName

theorem length_unopened_lt {table : SymbolTable} {opened : List FullName} {path : String}
    {entry : MessageNode} (declared : table.message? path = some entry)
    (fresh : opened.contains entry.fullName = false) :
    (unopened table (entry.fullName :: opened)).length < (unopened table opened).length := by
  have member : entry ∈ unopened table opened :=
    List.mem_filter.mpr ⟨List.mem_of_find?_eq_some declared, by simp only [fresh, Bool.not_false]⟩
  have narrowed : unopened table (entry.fullName :: opened)
      = (unopened table opened).filter (fun node => node.fullName ≠ entry.fullName) := by
    simp only [unopened, List.filter_filter]
    congr 1
    funext node
    simp
  rw [narrowed]
  exact List.length_filter_lt_length_iff_exists.mpr ⟨entry, member, by simp⟩

/-- The type of a field inside the map entries with the given full names. An entry cannot be inside
itself. -/
def resolveInside (table : SymbolTable) (opened : List FullName) (field : Field) :
    Except Error FieldType :=
  match field.kind with
  | .scalar type => .ok (.scalar type)
  | .enumeration => (table.resolveEnum field.typeName).map .enumeration
  | .group => (table.resolveMessage field.typeName).map .group
  | .message =>
    match _declared : table.message? field.typeName with
    | none => .error (.unresolvedSymbol .message field.typeName)
    | some node =>
      if !node.isMapEntry then .ok (.message node)
      else if _fresh : opened.contains node.fullName = false then
        match node.schema.field? 1, node.schema.field? 2 with
        | some key, some value => do
          let key ← resolveInside table (node.fullName :: opened) key
          let value ← resolveInside table (node.fullName :: opened) value
          return .map node key value
        | _, _ => .error (.malformedMapEntry node.fullName.text)
      else .error (.malformedMapEntry node.fullName.text)
termination_by (unopened table opened).length
decreasing_by all_goals exact length_unopened_lt (by assumption) (by assumption)

/-- The type of a field. -/
def resolve (table : SymbolTable) (field : Field) : Except Error FieldType :=
  resolveInside table [] field

/-- The message that the type refers to: for a map, its entry. -/
def message? : FieldType → Option MessageNode
  | message node | group node | map node _ _ => some node
  | scalar _ | enumeration _ => none

/-- The enumeration that the type refers to. -/
def enum? : FieldType → Option EnumNode
  | enumeration node => some node
  | scalar _ | message _ | group _ | map .. => none

end FieldType

/-! ## Fields -/

/-- A field with its type and the era of its file. -/
structure ResolvedField where
  schema : Field
  era : Era
  type : FieldType

namespace ResolvedField

/-- Resolves the type of a field. -/
def resolve (table : SymbolTable) (era : Era) (field : Field) : Except Error ResolvedField := do
  let type ← FieldType.resolve table field
  return { schema := field, era, type }

def name (field : ResolvedField) : String :=
  field.schema.name

def number (field : ResolvedField) : Int32 :=
  field.schema.number

def isRepeated (field : ResolvedField) : Bool :=
  field.schema.label = .repeated

def isRequired (field : ResolvedField) : Bool :=
  field.schema.label = .required

def isMessage (field : ResolvedField) : Bool :=
  field.schema.kind = .message

def isGroup (field : ResolvedField) : Bool :=
  field.schema.kind = .group

def isMessageOrGroup (field : ResolvedField) : Bool :=
  field.schema.refersToMessage

def isEnum (field : ResolvedField) : Bool :=
  field.schema.kind = .enumeration

def isString (field : ResolvedField) : Bool :=
  field.schema.kind = .scalar .string

def isBytes (field : ResolvedField) : Bool :=
  field.schema.kind = .scalar .bytes

/-- Whether the field is a map, which the type it refers to decides. -/
def isMap (field : ResolvedField) : Bool :=
  match field.type with
  | .map .. => true
  | _ => false

/-- Whether the values of the field can be written without a key for each. -/
def mayBePacked (field : ResolvedField) : Bool :=
  field.isRepeated && !field.isString && !field.isBytes && !field.isMessageOrGroup

/-- Whether the values are packed: as the field says, else by default in the third era. -/
def isPacked (field : ResolvedField) : Bool :=
  field.mayBePacked && field.schema.packed?.getD (field.era = .proto3)

/-- Whether generated code tracks if the field is set. -/
def tracksPresence (field : ResolvedField) : Bool :=
  !field.isRepeated
    && (field.era ≠ .proto3 || field.isMessageOrGroup || field.schema.isProto3Optional)

/-- The last part of an absolute type reference; a relative one as it is. -/
def typeNameTail (field : ResolvedField) : String :=
  let reference := field.schema.typeName
  if reference.toList.head? = some '.' then (FullName.ofTypeName reference).bareName else reference

end ResolvedField

end ProtoSwift
