/-
**A compilation unit: what every part of a run can look up.**

* `CompilationUnit` — the options, the symbol table and the required-field analysis of a request;
* `CompilationUnit.ofRequest` — the unit of a request, with the warnings about its compiler and its symbols.
-/

import ProtoSwift.Options
import ProtoSwift.Symbol.Requirement

namespace ProtoSwift

/-- The global facts of a run. -/
structure CompilationUnit where
  options : Options
  symbols : SymbolTable
  /-- The full names of the messages that lead to a required field. -/
  requiring : List String := symbols.requiring
  /-- The names of the files to generate, in order. -/
  requested : List String
  requiring_eq : requiring = symbols.requiring := by rfl

namespace CompilationUnit

/-- The warning about the compiler that wrote a request, if one is due. -/
def compilerWarnings (compiler? : Option Schema.CompilerVersion) : List Warning :=
  match compiler? with
  | none => [.unknownCompiler]
  | some version => if version.isTested then [] else [.untestedCompiler version]

/-- The unit of a request. -/
def ofRequest (request : Schema.Request) : Run CompilationUnit := do
  Run.warn (compilerWarnings request.compiler?)
  let options ← Options.parse request.parameter
  let symbols ← SymbolTable.ofFiles request.files
  return { options, symbols, requested := request.filesToGenerate }

/-- Whether a message or one that it refers to, however far, declares a required field. -/
def leadsToRequired (unit : CompilationUnit) (node : MessageNode) : Bool :=
  node.leadsToRequired unit.requiring

end CompilationUnit

end ProtoSwift
