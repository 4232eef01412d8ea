/-
**The compiler plugin: bytes of a request in, bytes of a response out.**

* `Response` — the generated files, or the error that took their place;
* `generateBytes` — the files generated for the bytes of a request;
* `respond` — the bytes of the response.
-/

import ProtoSwift.Generate
import ProtoSwift.Wire.Request
import ProtoSwift.Wire.Writer

namespace ProtoSwift

/-- What a plugin answers: all files, or the wording of the first error. -/
inductive Response
  | files (outputs : List OutputFile)
  | failure (message : String)
  deriving DecidableEq, Repr

namespace Response

/-- A generated file in wire format. -/
def encodeFile (file : OutputFile) : List UInt8 :=
  Wire.encodeString 1 file.name ++ Wire.encodeString 15 file.content

/-- A response in wire format. -/
def encode : Response → List UInt8
  | files outputs => outputs.flatMap fun file => Wire.encodeDelimited 15 (encodeFile file)
  | failure message => Wire.encodeString 1 message

/-- The response to the result of a run. -/
def ofResult : Except Error (List OutputFile) → Response
  | .ok outputs => .files outputs
  | .error cause => .failure cause.message

end Response

/-- The files generated for the bytes of a request. -/
def generateBytes (bytes : List UInt8) : Run (List OutputFile) := do
  let request ← (Schema.Request.decode bytes).mapError Error.undecodable
  generate request

/-- The bytes of the response to the bytes of a request. -/
def respond (bytes : List UInt8) : List UInt8 :=
  (Response.ofResult (generateBytes bytes).result).encode

end ProtoSwift
