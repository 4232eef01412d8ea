/-
**The Swift names of messages and enumerations.**

The types of a file share a prefix made from its package or set by the file. A type inside a message is
named by the path through the enclosing types. A type without a prefix whose name is a keyword or hides a
type in use gets a suffix.

* `typePrefix` — the prefix of a file;
* `TypeScope.typeName` — the name of a type declared in a file or in a message;
* `nameInParent` — the part of it that the declaration itself spells.
-/

import ProtoSwift.Swift.Keyword
import ProtoSwift.Text.Casing

namespace ProtoSwift.Swift

open Text

/-- The prefix of the types declared directly in a file. One that the file sets wins. -/
def typePrefix (package : String) (chosen? : Option String) : String :=
  match chosen? with
  | some chosen => chosen
  | none =>
    let parts := (package.toList.splitOn '.').filter (!·.isEmpty)
    if parts.isEmpty then ""
    else String.ofList (['_'].intercalate (parts.map upperCamel) ++ ['_'])

/-- A type name, with a suffix if it is a keyword or hides a type in use. -/
def avoidTakenName (name suffix : String) : String :=
  if takenTypeNames.contains name || keywords.contains name then name ++ suffix else name

/-- Where a type is declared. -/
inductive TypeScope
  /-- Directly in a file with this type prefix. -/
  | file (typePrefix : String)
  /-- Inside the message with this Swift name. -/
  | message (parent : String)
  deriving DecidableEq, Repr

/-- The Swift name of a type declared in a scope. A prefix keeps any name from being taken. -/
def TypeScope.typeName (scope : TypeScope) (name suffix : String) : String :=
  match scope with
  | file typePrefix => if typePrefix = "" then avoidTakenName name suffix else typePrefix ++ name
  | message parent => parent ++ "." ++ avoidTakenName name suffix

/-- The name by which a type is declared inside its parent. -/
def nameInParent (swiftName : String) : String :=
  String.ofList (((swiftName.toList.splitOn '.').getLast?).getD [])

end ProtoSwift.Swift
