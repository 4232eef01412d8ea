/-
**The command line: a plugin that reads a request from standard input.**

The response goes to standard output, warnings go to standard error, one a line. A failed run is a response
too, so the plugin itself always succeeds.
-/

import ProtoSwift.Plugin

/-- Answers the request on standard input. -/
def main : IO Unit := do
  let bytes ← (← IO.getStdin).readBinToEnd
  let run := ProtoSwift.generateBytes bytes.data.toList
  for warning in run.warnings do
    IO.eprintln warning.message
  let output ← IO.getStdout
  output.write ⟨(ProtoSwift.Response.ofResult run.result).encode.toArray⟩
  output.flush
