/-
**From a request to generated files.**

* `generate` — one file for every requested one, in the order of the requests, or the first error;
* `CompilationUnit.generateFile` — the file generated for one name.
-/

import ProtoSwift.Decl.SourceFile

namespace ProtoSwift

/-- A generated file with its name. -/
structure OutputFile where
  name : String
  content : String
  deriving DecidableEq, Inhabited, Repr

namespace CompilationUnit

/-- The file generated for a requested name. -/
def generateFile (unit : CompilationUnit) (name : String) : Run OutputFile := do
  match unit.symbols.file? name with
  | none => throw (.unknownFile name)
  | some file =>
    let source ← SourceFile.ofNode unit file
    return {
      name := unit.options.naming.outputName file.name
      content := Printer.render source.code }

/-- The files generated for the requested names. -/
def generateFiles (unit : CompilationUnit) : Run (List OutputFile) :=
  unit.requested.mapM unit.generateFile

end CompilationUnit

/-- The files generated for a request. -/
def generate (request : Schema.Request) : Run (List OutputFile) := do
  let unit ← CompilationUnit.ofRequest request
  unit.generateFiles

end ProtoSwift
