/-
**Full names of messages and enumerations.**

The full name of a type is the package, the enclosing messages and its own name, with a dot before each.
The leading dot of the text is not stored, so that no name can lack it.

* `FullName.text` — the name as references spell it, `.package.Outer.Inner`;
* `FullName.ofParts`, `FullName.ofTypeName`, `FullName.join` — the three ways to build one;
* `FullName.segments`, `FullName.bareName` — its parts.
-/

namespace ProtoSwift

/-- A full name, without its leading dot. -/
structure FullName where
  path : String
  deriving DecidableEq, Inhabited, Repr

namespace FullName

/-- The spelling of the name in references. -/
def text (name : FullName) : String :=
  "." ++ name.path

/-- The text of a reference without its leading dots. -/
def dropDots (text : List Char) : List Char :=
  text.dropWhile (· = '.')

/-- The name of a type in a package, inside the messages of a path. Empty segments are left out. -/
def ofParts (package : String) (path : List String) (name : String) : FullName :=
  let segments := package.toList.splitOn '.' ++ path.map (dropDots ·.toList) ++ [name.toList]
  ⟨String.ofList (['.'].intercalate (segments.filter (!·.isEmpty)))⟩

/-- The name that a reference spells, with or without a leading dot. -/
def ofTypeName (reference : String) : FullName :=
  ⟨String.ofList (dropDots reference.toList)⟩

/-- The scope of the types declared directly in a package. -/
def ofPackage (package : String) : FullName :=
  ofParts package [] ""

/-- The name of a type declared inside the named scope. -/
def join (scope : FullName) (name : String) : FullName :=
  if scope.path = "" then ⟨name⟩ else ⟨scope.path ++ "." ++ name⟩

/-- The parts of the name between its dots. -/
def segments (name : FullName) : List String :=
  (name.path.toList.splitOn '.').map String.ofList

/-- The last part of the name. -/
def bareName (name : FullName) : String :=
  name.segments.getLast?.getD ""

theorem text_inj {first second : FullName} : first.text = second.text ↔ first = second := by
  cases first; cases second
  simp [text, ← String.toList_inj]

end FullName

end ProtoSwift
