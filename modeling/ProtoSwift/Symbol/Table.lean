/-
**The symbol table of a compilation unit.**

Files are added in the order in which they are supplied. If a full name is declared more than once, the
first declaration is the one that references mean, and each later one is reported.

* `SymbolTable.ofFiles` — the table of a list of files;
* `SymbolTable.message?`, `SymbolTable.enum?`, `SymbolTable.file?` — the first declaration of a name;
* `SymbolTable.enumsNamed` — all enumerations of a name;
* `SymbolTable.resolveMessage`, `SymbolTable.resolveEnum`, `SymbolTable.resolveCase` — look-ups that report
  what is missing.
-/

import ProtoSwift.Run
import ProtoSwift.Symbol.Node

namespace ProtoSwift

/-- The files of a compilation unit with their declared types. -/
structure SymbolTable where
  files : List FileNode := []

namespace SymbolTable

/-- All messages, in the order of registration. -/
def messages (table : SymbolTable) : List MessageNode :=
  table.files.flatMap FileNode.allMessages

/-- All enumerations, in the order of registration. -/
def enums (table : SymbolTable) : List EnumNode :=
  table.files.flatMap FileNode.allEnums

/-- All symbols, in the order of registration. -/
def symbols (table : SymbolTable) : List Symbol :=
  table.files.flatMap FileNode.symbols

/-! ## Building the table -/

/-- The symbols that repeat one before them. -/
def repeated (seen : List Symbol) : List Symbol → List Symbol
  | [] => []
  | symbol :: rest =>
    if seen.contains symbol then symbol :: repeated seen rest else repeated (symbol :: seen) rest

/-- The table with one more file. The era of the file is checked before its types are registered. -/
def add (table : SymbolTable) (file : Schema.File) : Run SymbolTable := do
  let era ← Era.ofDeclared file.era?
  let node := FileNode.declare era file
  Run.warn ((repeated table.symbols node.symbols).map fun (kind, name) => .duplicate kind name)
  return { files := table.files ++ [node] }

/-- The table of files in the order in which they are supplied. -/
def ofFiles (files : List Schema.File) : Run SymbolTable :=
  files.foldlM add {}

/-! ## Look-ups -/

/-- The first file with a name. -/
def file? (table : SymbolTable) (name : String) : Option FileNode :=
  table.files.find? (·.name = name)

/-- The first message with a full name. -/
def message? (table : SymbolTable) (path : String) : Option MessageNode :=
  table.messages.find? (·.fullName.text = path)

/-- The first enumeration with a full name. -/
def enum? (table : SymbolTable) (path : String) : Option EnumNode :=
  table.enums.find? (·.fullName.text = path)

/-- All enumerations with a full name. -/
def enumsNamed (table : SymbolTable) (path : String) : List EnumNode :=
  table.enums.filter (·.fullName.text = path)

/-- The message that a reference means. -/
def resolveMessage (table : SymbolTable) (path : String) : Except Error MessageNode :=
  match table.message? path with
  | some node => .ok node
  | none => .error (.unresolvedSymbol .message path)

/-- The enumeration that a reference means. -/
def resolveEnum (table : SymbolTable) (path : String) : Except Error EnumNode :=
  match table.enum? path with
  | some node => .ok node
  | none => .error (.unresolvedSymbol .enumeration path)

/-- The name of the case for a value. Every enumeration with the full name is searched. -/
def resolveCase (table : SymbolTable) (path value : String) : Except Error String :=
  match (table.enumsNamed path).findSome? (·.caseName? value) with
  | some name => .ok name
  | none => .error (.unresolvedEnumCase path value)

variable {table : SymbolTable} {path : String}

theorem resolveMessage_eq_ok {node : MessageNode} :
    table.resolveMessage path = .ok node ↔ table.message? path = some node := by
  unfold resolveMessage
  cases table.message? path <;> simp

theorem resolveEnum_eq_ok {node : EnumNode} :
    table.resolveEnum path = .ok node ↔ table.enum? path = some node := by
  unfold resolveEnum
  cases table.enum? path <;> simp

theorem text_of_message? {node : MessageNode} (declared : table.message? path = some node) :
    node.fullName.text = path := by
  simpa using List.find?_some declared

theorem mem_of_message? {node : MessageNode} (declared : table.message? path = some node) :
    node ∈ table.messages :=
  List.mem_of_find?_eq_some declared

/-- A value is not found if no enumeration with the full name has it. -/
theorem resolveCase_eq_error_iff {value : String} {cause : Error} :
    table.resolveCase path value = .error cause ↔ cause = .unresolvedEnumCase path value
      ∧ ∀ node ∈ table.enums, node.fullName.text = path →
        ∀ declared ∈ node.schema.values, declared.name ≠ value := by
  have unknown : (table.enumsNamed path).findSome? (·.caseName? value) = none
      ↔ ∀ node ∈ table.enums, node.fullName.text = path →
        ∀ declared ∈ node.schema.values, declared.name ≠ value := by
    simp [enumsNamed, EnumNode.caseName?]
  rw [← unknown]
  unfold resolveCase
  split
  · simp [*]
  · simp [*, eq_comm]

end SymbolTable

end ProtoSwift
