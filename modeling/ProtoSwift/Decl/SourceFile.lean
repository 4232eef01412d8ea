/-
**Generated files.**

* `SourceFile` — what is generated for a schema file;
* `SourceFile.ofNode` — the declarations for a file; the entry type of a map counts as a message here;
* `SourceFile.code` — how the file is written.
-/

import ProtoSwift.Decl.Struct

namespace ProtoSwift

/-- A generated file. -/
structure SourceFile where
  /-- The name of the schema file. -/
  source : String
  package : String
  structs : List StructDecl
  enums : List EnumDecl

namespace SourceFile

/-- The declarations for a file. -/
def ofNode (unit : CompilationUnit) (file : FileNode) : Run SourceFile := do
  let structs ← file.messages.mapM (StructDecl.ofNode unit file)
  return {
    source := file.name
    package := file.package
    structs
    enums := file.enums.map (EnumDecl.ofNode unit.options.access file) }

/-- The comment and the imports at the head of a file. -/
def headCode (source : String) : Code :=
  Code.line "// DO NOT EDIT."
    ++ Code.line "//"
    ++ Code.line "// Generated by the Swift generator plugin for the protocol buffer compiler."
    ++ Code.line ("// Source: " ++ source)
    ++ Code.line "//"
    ++ Code.line "// For information on using the generated types, please see the documentation:"
    ++ Code.line "//   https://github.com/apple/swift-protobuf/"
    ++ Code.blank
    ++ Code.line "import Foundation"
    ++ Code.line "import SwiftProtobuf"

/-- The constant for the package, unless that is empty. -/
def packageCode (package : String) : Code :=
  if package = "" then []
  else Code.blank ++ Code.line ("fileprivate let _protobuf_package = \"" ++ package ++ "\"")

/-- The code of a file. -/
def code (file : SourceFile) : Code :=
  headCode file.source ++ packageCode file.package
    ++ StructDecl.codes file.structs
    ++ file.enums.flatMap fun decl => Code.blank ++ decl.code

end SourceFile

end ProtoSwift
