/-
**Declared types: messages and enumerations with their names and places.**

A node knows its declaration in the schema, its full name, its Swift name, and the path on which its file
declares it. The nodes of a file follow from the file alone.

* `MessageNode`, `EnumNode`, `FileNode` — the declared types of a file, as a tree;
* `MessageNode.declare`, `FileNode.declare` — the nodes of a declaration;
* `FileNode.allMessages`, `FileNode.allEnums`, `FileNode.symbols` — all types of a file in the order in
  which they are registered.
-/

import ProtoSwift.Era
import ProtoSwift.FullName
import ProtoSwift.Schema
import ProtoSwift.Swift.CaseName
import ProtoSwift.Swift.Comment
import ProtoSwift.Swift.TypeName

namespace ProtoSwift

/-! ## Paths -/

/-- The place of a declaration in its file: field numbers of the schema format and positions in turn.

Positions are not bounded here, where a location has steps of 32 bits with a sign. A position counts elements in front of
one in the same list. Each of them takes two bytes or more of a request, and messages in wire format are shorter than
2 ^ 31 bytes, so every position that a file can have fits into such a step. -/
abbrev Path := List Int

namespace Path

/-- The message at a position of a file. -/
def message (position : Nat) : Path :=
  [4, position]

/-- The enumeration at a position of a file. -/
def enumeration (position : Nat) : Path :=
  [5, position]

/-- The field at a position of the message at a path. -/
def field (path : Path) (position : Nat) : Path :=
  path ++ [2, (position : Int)]

/-- The message at a position of the message at a path. -/
def nestedMessage (path : Path) (position : Nat) : Path :=
  path ++ [3, (position : Int)]

/-- The enumeration at a position of the message at a path. -/
def nestedEnumeration (path : Path) (position : Nat) : Path :=
  path ++ [4, (position : Int)]

/-- The value at a position of the enumeration at a path. -/
def enumValue (path : Path) (position : Nat) : Path :=
  path ++ [2, (position : Int)]

end Path

/-! ## Enumerations -/

/-- A declared enumeration. -/
structure EnumNode where
  schema : Schema.Enumeration
  fullName : FullName
  swiftName : String
  path : Path

namespace EnumNode

/-- The node of an enumeration declared in a scope. -/
def declare (scope : FullName) (types : Swift.TypeScope) (path : Path)
    (enumeration : Schema.Enumeration) : EnumNode :=
  { schema := enumeration
    fullName := scope.join enumeration.name
    swiftName := types.typeName enumeration.name "Enum"
    path }

/-- The name of the case for a value. -/
def caseNameOf (node : EnumNode) (value : Schema.EnumValue) : String :=
  Swift.caseName node.schema.name value.name

/-- The names of the cases, in the order of the values. -/
def caseNames (node : EnumNode) : List String :=
  node.schema.values.map node.caseNameOf

/-- The name of the case for the first value with a name. -/
def caseName? (node : EnumNode) (value : String) : Option String :=
  (node.schema.values.find? (·.name = value)).map node.caseNameOf

/-- The case that a field of the type starts with. -/
def firstCase? (node : EnumNode) : Option String :=
  node.caseNames.head?

end EnumNode

/-! ## Messages -/

/-- A declared message with the types declared inside it. -/
structure MessageNode where
  schema : Schema.Message
  fullName : FullName
  swiftName : String
  path : Path
  messages : List MessageNode
  enums : List EnumNode

namespace MessageNode

mutual

/-- The node of a message declared in a scope. -/
def declare (scope : FullName) (types : Swift.TypeScope) (path : Path) :
    Schema.Message → MessageNode
  | message@⟨_, _, messages, enumerations, _⟩ =>
    let fullName := scope.join message.name
    let swiftName := types.typeName message.name "Message"
    { schema := message
      fullName
      swiftName
      path
      messages := declareNested fullName swiftName path 0 messages
      enums := enumerations.mapIdx fun position enumeration =>
        EnumNode.declare fullName (.message swiftName) (path.nestedEnumeration position) enumeration }

/-- The nodes of the messages declared inside a message, from a position on. -/
def declareNested (scope : FullName) (parent : String) (path : Path) (position : Nat) :
    List Schema.Message → List MessageNode
  | [] => []
  | message :: rest =>
    declare scope (.message parent) (path.nestedMessage position) message
      :: declareNested scope parent path (position + 1) rest

end

/-- The fields in the order of their declaration. -/
def fields (node : MessageNode) : List Schema.Field :=
  node.schema.fields

/-- Whether the message is the entry type of a map field. -/
def isMapEntry (node : MessageNode) : Bool :=
  node.schema.isMapEntry

mutual

/-- The message and all messages inside it, each before those inside it. -/
def allMessages : MessageNode → List MessageNode
  | node@⟨_, _, _, _, messages, _⟩ => node :: allMessagesOf messages

/-- The messages of a list and all messages inside them. -/
def allMessagesOf : List MessageNode → List MessageNode
  | [] => []
  | node :: rest => allMessages node ++ allMessagesOf rest

end

mutual

/-- The enumerations inside the message: those of its messages, then its own. -/
def allEnums : MessageNode → List EnumNode
  | ⟨_, _, _, _, messages, enums⟩ => allEnumsOf messages ++ enums

/-- The enumerations inside the messages of a list. -/
def allEnumsOf : List MessageNode → List EnumNode
  | [] => []
  | node :: rest => allEnums node ++ allEnumsOf rest

end

end MessageNode

/-- The kind and full name under which a type is registered. -/
abbrev Symbol := SymbolKind × FullName

namespace MessageNode

mutual

/-- The symbols of the message and of the types inside it, in the order of registration. -/
def symbols : MessageNode → List Symbol
  | ⟨_, fullName, _, _, messages, enums⟩ =>
    (.message, fullName) :: (symbolsOf messages ++ enums.map fun node => (.enumeration, node.fullName))

/-- The symbols of the messages of a list and of the types inside them. -/
def symbolsOf : List MessageNode → List Symbol
  | [] => []
  | node :: rest => symbols node ++ symbolsOf rest

end

end MessageNode

/-! ## Files -/

/-- A schema file with its declared types. -/
structure FileNode where
  schema : Schema.File
  era : Era
  typePrefix : String
  messages : List MessageNode
  enums : List EnumNode

namespace FileNode

/-- The node of a file of a known era. -/
def declare (era : Era) (file : Schema.File) : FileNode :=
  let typePrefix := Swift.typePrefix file.package file.typePrefix?
  let scope := FullName.ofPackage file.package
  { schema := file
    era
    typePrefix
    messages := file.messages.mapIdx fun position message =>
      MessageNode.declare scope (.file typePrefix) (.message position) message
    enums := file.enumerations.mapIdx fun position enumeration =>
      EnumNode.declare scope (.file typePrefix) (.enumeration position) enumeration }

def name (file : FileNode) : String :=
  file.schema.name

def package (file : FileNode) : String :=
  file.schema.package

/-- All messages of the file, each before those inside it. -/
def allMessages (file : FileNode) : List MessageNode :=
  MessageNode.allMessagesOf file.messages

/-- All enumerations of the file: those inside its messages, then its own. -/
def allEnums (file : FileNode) : List EnumNode :=
  MessageNode.allEnumsOf file.messages ++ file.enums

/-- The symbols of the file, in the order of registration. -/
def symbols (file : FileNode) : List Symbol :=
  MessageNode.symbolsOf file.messages ++ file.enums.map fun node => (.enumeration, node.fullName)

/-- The comments on the declaration at a path. The first location with the path counts; the empty path and
paths that end in a field number name no declaration. -/
def comments? (file : FileNode) (path : Path) : Option Swift.Comments :=
  if path.isEmpty || path.length % 2 = 1 then none
  else
    (file.schema.locations.find? fun location => location.path.map Int32.toInt = path).map
      Swift.Comments.ofLocation

/-- The comment lines of the declaration at a path. -/
def commentText (file : FileNode) (path : Path) : String :=
  ((file.comments? path).map Swift.Comments.render).getD ""

end FileNode

end ProtoSwift
