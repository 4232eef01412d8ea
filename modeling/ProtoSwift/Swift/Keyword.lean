/-
**Words that generated Swift code cannot use as names.**

* `keywords` — words that must be quoted to serve as names;
* `messageMembers` — members that every generated message declares;
* `takenTypeNames` — types that a nested or unprefixed type would hide;
* `escapeKeyword`, `unescapeKeyword` — names between backquotes, and without them;
* `legalStart` — a name that starts as a name may.
-/

namespace ProtoSwift.Swift

/-- The keywords of the language. -/
def keywords : List String := [
  "associatedtype", "class", "deinit", "enum", "extension", "fileprivate", "func", "import", "init",
  "inout", "internal", "let", "open", "operator", "private", "protocol", "public", "rethrows", "static",
  "struct", "subscript", "typealias", "var", "break", "case", "continue", "default", "defer", "do", "else",
  "fallthrough", "for", "guard", "if", "in", "repeat", "return", "switch", "where", "while", "as", "Any",
  "catch", "false", "is", "nil", "super", "self", "Self", "throw", "throws", "true", "try", "Type",
  "Protocol"]

/-- The members that every generated message declares. -/
def messageMembers : List String := [
  "debugDescription", "description", "hashValue", "isInitialized", "protoMessageName", "unknownFields",
  "traverse", "decodeMessage"]

/-- The types of the standard library and of the runtime that generated code refers to. -/
def takenTypeNames : List String := [
  "Array", "Bool", "Character", "Data", "Dictionary", "Double", "Enum", "Error", "Float", "Foundation",
  "Int", "Int32", "Int64", "Message", "Optional", "String", "SwiftProtobuf", "UInt", "UInt32", "UInt64"]

/-- A name in the form in which it can be declared: a keyword stands between backquotes. -/
def escapeKeyword (name : String) : String :=
  if keywords.contains name then "\x60" ++ name ++ "\x60" else name

/-- A name without the backquotes around it. -/
def unescapeKeyword (name : String) : String :=
  let isQuote : Char → Bool := (· = '\x60')
  String.ofList ((name.toList.dropWhile isQuote).reverse.dropWhile isQuote).reverse

/-- A name with an underscore in front if it is empty or starts with an ASCII digit. -/
def legalStart (name : List Char) : List Char :=
  match name with
  | [] => ['_']
  | c :: _ => if c.isDigit then '_' :: name else name

end ProtoSwift.Swift
