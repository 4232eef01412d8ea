/-
**The symbol table as a numbered list.**

Messages and enumerations are numbered in the order of registration, each from zero. An entry gives the
numbers of the types declared directly inside it.

* `Listing.messages`, `Listing.enums`, `Listing.files` — the entries of a table;
* `Listing.message?`, `Listing.enum?` — the entry that a reference means.
-/

import ProtoSwift.Symbol.Table

namespace ProtoSwift

/-- A message with its number, the position of its file, and the numbers of the types inside it. -/
structure MessageEntry where
  node : MessageNode
  index : Nat
  file : Nat
  messages : List Nat
  enums : List Nat

/-- An enumeration with its number and the position of its file. -/
structure EnumEntry where
  node : EnumNode
  index : Nat
  file : Nat

/-- A file with the numbers of the types declared directly in it. -/
structure FileEntry where
  node : FileNode
  messages : List Nat
  enums : List Nat

namespace Listing

/-! ## Numbers -/

/-- How many messages a message stands for, itself included. -/
def messageCount (node : MessageNode) : Nat :=
  node.allMessages.length

/-- How many enumerations stand inside a message. -/
def enumCount (node : MessageNode) : Nat :=
  node.allEnums.length

/-- The numbers of messages of which the first has a given number. -/
def messageNumbers (first : Nat) : List MessageNode → List Nat
  | [] => []
  | node :: rest => first :: messageNumbers (first + messageCount node) rest

/-! ## Entries -/

mutual

/-- The entries of a message and of the messages inside it, given the first free numbers. -/
def ofMessage (file message enum : Nat) : MessageNode → List MessageEntry
  | node@⟨_, _, _, _, messages, enums⟩ =>
    { node, index := message, file
      messages := messageNumbers (message + 1) messages
      enums := List.range' (enum + (MessageNode.allEnumsOf messages).length) enums.length }
      :: ofMessages file (message + 1) enum messages

/-- The entries of the messages of a list and of the messages inside them. -/
def ofMessages (file message enum : Nat) : List MessageNode → List MessageEntry
  | [] => []
  | node :: rest =>
    ofMessage file message enum node
      ++ ofMessages file (message + messageCount node) (enum + enumCount node) rest

end

/-- The entries of files, given the position of the first file and the first free numbers. -/
def messagesFrom (file message enum : Nat) : List FileNode → List MessageEntry
  | [] => []
  | node :: rest =>
    ofMessages file message enum node.messages
      ++ messagesFrom (file + 1) (message + node.allMessages.length) (enum + node.allEnums.length) rest

/-- The enumeration entries of files, given the position of the first file and the first free number. -/
def enumsFrom (file enum : Nat) : List FileNode → List EnumEntry
  | [] => []
  | node :: rest =>
    (node.allEnums.zipIdx enum).map (fun (enumNode, index) => { node := enumNode, index, file })
      ++ enumsFrom (file + 1) (enum + node.allEnums.length) rest

/-- The file entries, given the first free numbers. -/
def filesFrom (message enum : Nat) : List FileNode → List FileEntry
  | [] => []
  | node :: rest =>
    { node
      messages := messageNumbers message node.messages
      enums := List.range' (enum + (MessageNode.allEnumsOf node.messages).length) node.enums.length }
      :: filesFrom (message + node.allMessages.length) (enum + node.allEnums.length) rest

/-- All messages of a table, by number. -/
def messages (table : SymbolTable) : List MessageEntry :=
  messagesFrom 0 0 0 table.files

/-- All enumerations of a table, by number. -/
def enums (table : SymbolTable) : List EnumEntry :=
  enumsFrom 0 0 table.files

/-- All files of a table. -/
def files (table : SymbolTable) : List FileEntry :=
  filesFrom 0 0 table.files

/-! ## Look-ups -/

/-- The entry of the message that a reference means. -/
def message? (table : SymbolTable) (path : String) : Option MessageEntry :=
  (messages table).find? (·.node.fullName.text = path)

/-- The entry of the enumeration that a reference means. -/
def enum? (table : SymbolTable) (path : String) : Option EnumEntry :=
  (enums table).find? (·.node.fullName.text = path)

/-- The entries of all enumerations of a name. -/
def enumsNamed (table : SymbolTable) (path : String) : List EnumEntry :=
  (enums table).filter (·.node.fullName.text = path)

end Listing

end ProtoSwift
