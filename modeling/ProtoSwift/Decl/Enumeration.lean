/-
**Generated enumerations.**

The first value with a number becomes a case; every later one with that number becomes a constant that
stands for the case. In the third era a further case holds numbers without a declared value.

* `EnumDecl` — what is generated for an enumeration;
* `EnumDecl.ofNode` — the declaration for a node;
* `EnumDecl.code` — how it is written.
-/

import ProtoSwift.Field.Code

namespace ProtoSwift

/-- A case of a generated enumeration. -/
structure EnumCase where
  name : String
  number : Int32
  /-- The comment lines of the case. -/
  comments : String
  deriving DecidableEq, Repr

/-- A constant that stands for a case. -/
structure EnumAlias where
  name : String
  target : String
  deriving DecidableEq, Repr

/-- A generated enumeration. -/
structure EnumDecl where
  comments : String
  modifier : String
  name : String
  /-- Whether there is a case for numbers without a declared value. -/
  openEnded : Bool
  cases : List EnumCase
  aliases : List EnumAlias
  deriving DecidableEq, Repr

namespace EnumDecl

/-- Divides values into cases and constants, given the cases before them and the position of the first. -/
def divide (node : EnumNode) (comments : Path → String) (before : List EnumCase) (position : Nat) :
    List Schema.EnumValue → List EnumCase × List EnumAlias
  | [] => (before, [])
  | value :: rest =>
    let name := node.caseNameOf value
    match before.find? (·.number = value.number) with
    | some first =>
      let (cases, aliases) := divide node comments before (position + 1) rest
      (cases, ⟨name, first.name⟩ :: aliases)
    | none =>
      let case := ⟨name, value.number, comments (node.path.enumValue position)⟩
      divide node comments (before ++ [case]) (position + 1) rest

/-- The declaration for an enumeration of a file. -/
def ofNode (access : AccessLevel) (file : FileNode) (node : EnumNode) : EnumDecl :=
  let (cases, aliases) := divide node file.commentText [] 0 node.schema.values
  { comments := file.commentText node.path
    modifier := access.typeModifier
    name := Swift.nameInParent node.swiftName
    openEnded := file.era = .proto3
    cases, aliases }

/-- The case that a new value is: the first one, or in the third era the one for the number zero. -/
def initialCase? (decl : EnumDecl) : Option String :=
  match decl.cases.head? with
  | some case => some ("." ++ case.name)
  | none => if decl.openEnded then some ".UNRECOGNIZED(0)" else none

/-- The cases, each under its comments. -/
def casesCode (decl : EnumDecl) : Code :=
  decl.cases.flatMap (fun case =>
      Code.lines case.comments
        ++ Code.line ("case " ++ case.name ++ " // = " ++ numberText case.number))
    ++ if decl.openEnded then Code.line "case UNRECOGNIZED(Int)" else []

/-- The initializer without arguments. -/
def initCode (decl : EnumDecl) : Code :=
  match decl.initialCase? with
  | some initial =>
    Code.blank ++ Code.block (decl.modifier ++ "init() \x7b") (Code.line ("self = " ++ initial)) "\x7d"
  | none => []

/-- The initializer from a number. -/
def ofNumberCode (decl : EnumDecl) : Code :=
  Code.blank
    ++ Code.block (decl.modifier ++ "init?(rawValue: Int) \x7b")
      (Code.line "switch rawValue \x7b"
        ++ decl.cases.flatMap (fun case =>
          Code.line ("case " ++ numberText case.number ++ ": self = ." ++ case.name))
        ++ Code.line (if decl.openEnded then "default: self = .UNRECOGNIZED(rawValue)"
          else "default: return nil")
        ++ Code.line "\x7d")
      "\x7d"

/-- The property that gives the number. -/
def numberCode (decl : EnumDecl) : Code :=
  Code.blank
    ++ Code.block (decl.modifier ++ "var rawValue: Int \x7b")
      (Code.line "switch self \x7b"
        ++ decl.cases.flatMap (fun case =>
          Code.line ("case ." ++ case.name ++ ": return " ++ numberText case.number))
        ++ (if decl.openEnded then Code.line "case .UNRECOGNIZED(let i): return i" else [])
        ++ Code.line "\x7d")
      "\x7d"

/-- The constants, after an empty line if there are any. -/
def aliasesCode (decl : EnumDecl) : Code :=
  if decl.aliases.isEmpty then []
  else
    Code.blank ++ decl.aliases.flatMap fun constant =>
      Code.line (decl.modifier ++ "static let " ++ constant.name ++ ": " ++ decl.name ++ " = ."
        ++ constant.target)

/-- The declaration of an enumeration. -/
def code (decl : EnumDecl) : Code :=
  Code.lines decl.comments
    ++ Code.block (decl.modifier ++ "enum " ++ decl.name ++ ": SwiftProtobuf.Enum \x7b")
      (Code.line (decl.modifier ++ "typealias RawValue = Int")
        ++ decl.casesCode ++ decl.initCode ++ decl.ofNumberCode ++ decl.numberCode ++ decl.aliasesCode)
      "\x7d"

end EnumDecl

end ProtoSwift
