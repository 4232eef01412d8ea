/-
**Generated messages.**

A message becomes a struct with the types declared inside it, except the entry types of its map fields. Its
fields are declared, copied and compared in the order of the schema, and read and written in the order of
their numbers.

* `StructDecl` — what is generated for a message;
* `StructDecl.ofNode` — the declaration for a node;
* `StructDecl.code` — how it is written.
-/

import ProtoSwift.Decl.Enumeration
import ProtoSwift.Decl.Member

namespace ProtoSwift

/-! ## Schema names -/

/-- The expression for the full name of a message in the schema. -/
inductive SchemaName
  | whole (name : String)
  /-- The name after the package, which is a constant of the file. -/
  | inPackage (relative : String)
  deriving DecidableEq, Repr

/-- The full name of a message of a package. -/
def SchemaName.of (package : String) (name : FullName) : SchemaName :=
  let relative := String.ofList <|
    match ("." ++ package ++ ".").toList.isPrefixOf? name.text.toList with
    | some rest => rest
    | none => FullName.dropDots name.text.toList
  if package = "" then .whole relative else .inPackage relative

def SchemaName.text : SchemaName → String
  | whole name => "\"" ++ name ++ "\""
  | inPackage relative => "_protobuf_package + \"." ++ relative ++ "\""

/-! ## Declarations -/

/-- A generated message. -/
structure StructDecl where
  comments : String
  modifier : String
  name : String
  /-- The name by which other code refers to the struct. -/
  swiftName : String
  schemaName : SchemaName
  /-- Whether the fields are kept on the heap. -/
  heap : Bool
  /-- Whether the struct tells if all required fields are set. -/
  checksRequired : Bool
  fields : List FieldCode
  enums : List EnumDecl
  structs : List StructDecl

namespace StructDecl

mutual

/-- The declaration for a message of a file. -/
def ofNode (unit : CompilationUnit) (file : FileNode) : MessageNode → Run StructDecl
  | node@⟨_, _, _, _, messages, enums⟩ => do
    let plans ← fieldPlans unit file node
    let structs ← ofNodes unit file messages
    return {
      comments := file.commentText node.path
      modifier := unit.options.access.typeModifier
      name := Swift.nameInParent node.swiftName
      swiftName := node.swiftName
      schemaName := .of file.package node.fullName
      heap := node.schema.keepsFieldsOnHeap
      checksRequired := unit.leadsToRequired node
      fields := plans.map FieldPlan.code
      enums := enums.map (EnumDecl.ofNode unit.options.access file)
      structs }

/-- The declarations for the messages inside a message. Entry types of maps need none. -/
def ofNodes (unit : CompilationUnit) (file : FileNode) : List MessageNode → Run (List StructDecl)
  | [] => return []
  | node :: rest =>
    if node.isMapEntry then ofNodes unit file rest
    else do
      let decl ← ofNode unit file node
      let others ← ofNodes unit file rest
      return decl :: others

end

/-- The fields in the order of their numbers. -/
def fieldsByNumber (decl : StructDecl) : List FieldCode :=
  decl.fields.mergeSort fun first second => first.number.toInt ≤ second.number.toInt

/-! ## Code -/

/-- Code that reads the fields. On the heap it holds on to the shared object meanwhile. -/
def withStorage (decl : StructDecl) (call : String) (body : Code) : Code :=
  if decl.heap then
    Code.block (call ++ " withExtendedLifetime(_storage) \x7b (_storage: _StorageClass) in") body "\x7d"
  else body

/-- The slots of the fields. -/
def slotsCode (decl : StructDecl) : Code :=
  decl.fields.flatMap fun field => (field.storage?.map SlotDeclaration.code).getD []

/-- The slots of inline fields, after an empty line if there are any. -/
def inlineSlotsCode (decl : StructDecl) : Code :=
  if decl.heap || decl.fields.all (·.storage?.isNone) then [] else Code.blank ++ decl.slotsCode

/-- The property that tells if all required fields are set. -/
def isInitializedCode (decl : StructDecl) : Code :=
  Code.block (decl.modifier ++ "var isInitialized: Bool \x7b")
    (decl.withStorage "return"
      (decl.fields.flatMap (fun field => (field.required?.map RequiredCheck.code).getD [])
        ++ decl.fields.flatMap (fun field => (field.initialized?.map ValueCheck.code).getD [])
        ++ Code.line "return true"))
    "\x7d"

/-- The method that reads a message. -/
def decodeMessageCode (decl : StructDecl) : Code :=
  Code.block
    (decl.modifier
      ++ "mutating func decodeMessage<D: SwiftProtobuf.Decoder>(decoder: inout D) throws \x7b")
    ((if decl.heap then Code.line "_ = _uniqueStorage()" else [])
      ++ decl.withStorage "try"
        (Code.block "while let fieldNumber = try decoder.nextFieldNumber() \x7b"
          (Code.line "switch fieldNumber \x7b"
            ++ decl.fieldsByNumber.flatMap (fun field => field.decode.code)
            ++ Code.line "default: break"
            ++ Code.line "\x7d")
          "\x7d"))
    "\x7d"

/-- The method that writes a message. -/
def traverseCode (decl : StructDecl) : Code :=
  Code.block (decl.modifier ++ "func traverse<V: SwiftProtobuf.Visitor>(visitor: inout V) throws \x7b")
    (decl.withStorage "try" (decl.fieldsByNumber.flatMap fun field => field.visit.code)
      ++ Code.line "try unknownFields.traverse(visitor: &visitor)")
    "\x7d"

/-- The comparisons of the fields. -/
def comparisonsCode (decl : StructDecl) : Code :=
  decl.fields.flatMap fun field => field.comparison.code

/-- The comparisons of the fields of two shared objects. -/
def storageComparisonCode (decl : StructDecl) : Code :=
  Code.block "if _storage !== other._storage \x7b"
    (Code.block
        ("let storagesAreEqual: Bool = withExtendedLifetime((_storage, other._storage)) \x7b "
          ++ "(_args: (_StorageClass, _StorageClass)) in")
        (Code.line "let _storage = _args.0"
          ++ Code.line "let other_storage = _args.1"
          ++ decl.comparisonsCode
          ++ Code.line "return true")
        "\x7d"
      ++ Code.line "if !storagesAreEqual \x7breturn false\x7d")
    "\x7d"

/-- The method that compares two messages. -/
def equalityCode (decl : StructDecl) : Code :=
  Code.block
    (decl.modifier ++ "func _protobuf_generated_isEqualTo(other: " ++ decl.swiftName ++ ") -> Bool \x7b")
    ((if decl.heap then decl.storageComparisonCode else decl.comparisonsCode)
      ++ Code.line "if unknownFields != other.unknownFields \x7breturn false\x7d"
      ++ Code.line "return true")
    "\x7d"

/-- The class of the shared object, and the members that copy it before a write. -/
def storageClassCode (decl : StructDecl) : Code :=
  Code.block "fileprivate class _StorageClass \x7b"
      (decl.slotsCode
        ++ Code.blank
        ++ Code.line "init() \x7b\x7d"
        ++ Code.blank
        ++ Code.block "init(copying source: _StorageClass) \x7b"
          (decl.fields.flatMap fun field => field.clone.code) "\x7d")
      "\x7d"
    ++ Code.blank
    ++ Code.block "fileprivate mutating func _uniqueStorage() -> _StorageClass \x7b"
      (Code.block "if !isKnownUniquelyReferenced(&_storage) \x7b"
          (Code.line "_storage = _StorageClass(copying: _storage)") "\x7d"
        ++ Code.line "return _storage")
      "\x7d"
    ++ Code.blank
    ++ Code.line "fileprivate var _storage = _StorageClass()"

/-- What a struct declares before its nested types. -/
def membersCode (decl : StructDecl) : Code :=
  Code.line (decl.modifier ++ "static let protoMessageName: String = " ++ decl.schemaName.text)
    ++ decl.inlineSlotsCode
    ++ decl.fields.flatMap (fun field => field.interface.code)
    ++ Code.blank
    ++ Code.line (decl.modifier ++ "var unknownFields = SwiftProtobuf.UnknownStorage()")

/-- What a struct declares after its nested types. -/
def conformanceCode (decl : StructDecl) : Code :=
  Code.blank ++ Code.line (decl.modifier ++ "init() \x7b\x7d")
    ++ (if decl.checksRequired then Code.blank ++ decl.isInitializedCode else [])
    ++ Code.blank ++ decl.decodeMessageCode
    ++ Code.blank ++ decl.traverseCode
    ++ Code.blank ++ decl.equalityCode
    ++ (if decl.heap then Code.blank ++ decl.storageClassCode else [])

/-- The first line of a struct. -/
def opening (decl : StructDecl) : String :=
  decl.modifier ++ "struct " ++ decl.name
    ++ ": SwiftProtobuf.Message, SwiftProtobuf._MessageImplementationBase \x7b"

mutual

/-- The declaration of a struct. -/
def code : StructDecl → Code
  | decl@⟨comments, _, _, _, _, _, _, _, enums, structs⟩ =>
    Code.lines comments
      ++ Code.block decl.opening
        (decl.membersCode
          ++ enums.flatMap (fun nested => Code.blank ++ nested.code)
          ++ codes structs
          ++ decl.conformanceCode)
        "\x7d"

/-- The declarations of structs, each after an empty line. -/
def codes : List StructDecl → Code
  | [] => []
  | decl :: rest => Code.blank ++ code decl ++ codes rest

end

theorem codes_eq (decls : List StructDecl) : codes decls = decls.flatMap fun decl => Code.blank ++ decl.code := by
  induction decls with
  | nil => rfl
  | cons first rest inRest => rw [codes, inRest, List.flatMap_cons]

theorem code_eq (decl : StructDecl) : decl.code = Code.lines decl.comments
    ++ Code.block decl.opening (decl.membersCode ++ decl.enums.flatMap (fun nested => Code.blank ++ nested.code)
      ++ codes decl.structs ++ decl.conformanceCode) "\x7d" := by
  cases decl
  rfl

end StructDecl

end ProtoSwift
