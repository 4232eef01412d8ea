/-
**What a run reports without failing.**

* `Warning` — the occasions;
* `Warning.message` — the wording.
-/

import ProtoSwift.Error
import ProtoSwift.FullName
import ProtoSwift.Schema

namespace ProtoSwift

/-- Something that deserves attention but does not stop a run. -/
inductive Warning
  /-- The request does not say which compiler wrote it. -/
  | unknownCompiler
  /-- The request was written by a compiler outside the tested versions. -/
  | untestedCompiler (version : Schema.CompilerVersion)
  /-- A second type is declared under a full name; references mean the first. -/
  | duplicate (kind : SymbolKind) (name : FullName)
  /-- A member of a oneof is left out of the generated code. -/
  | skippedOneofMember (message : FullName) (field : String)
  deriving DecidableEq, Repr

namespace Schema.CompilerVersion

/-- Versions from 3.1 to the end of the fourth major version are tested. -/
def isTested (version : CompilerVersion) : Bool :=
  let major := version.major?.getD 0
  major = 4 || major = 3 && (version.minor?.getD 0).toInt ≥ 1

/-- The version with dots between its parts. -/
def text (version : CompilerVersion) : String :=
  let numbers := [version.major?, version.minor?, version.patch?].map fun part =>
    toString (part.getD 0).toInt
  let suffix := version.suffix?.getD ""
  ".".intercalate (if suffix = "" then numbers else numbers ++ [suffix])

end Schema.CompilerVersion

/-- The wording of a warning. -/
def Warning.message : Warning → String
  | unknownCompiler => "unknown version of protoc, use 3.1 or later"
  | untestedCompiler version => "untested version of protoc (" ++ version.text ++ ")"
  | duplicate kind name =>
    "duplicate " ++ kind.word ++ " " ++ name.text ++ ": the first definition wins"
  | skippedOneofMember message field =>
    "skipping oneof field " ++ message.text ++ "." ++ field ++ ": oneofs are not supported"

end ProtoSwift
