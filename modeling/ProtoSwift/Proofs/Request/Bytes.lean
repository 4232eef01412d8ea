/-
**A plugin goes from bytes to bytes.**

What a plugin reads are the bytes of a request. A run on them is a run on the request, and the only error that can
come before it is one about the bytes themselves. Whatever the bytes on its input are, the bytes that a plugin writes are
read as one response. That has a file for each requested name, or it has an error and no file.

* `generateBytes_encode` — a run on the bytes of a request is a run on the request;
* `Schema.Request.names_of_generate` — the names of the files of a run are those of the requested files;
* `Answered` — what is read of a plugin's answer;
* `respond_answers` — every input is answered, and no text is lost on the way.
-/

import ProtoSwift.Proofs.Request.Causes
import ProtoSwift.Proofs.Wire.Requests
import ProtoSwift.Proofs.Wire.Responses

namespace ProtoSwift

open Schema Wire

/-! ### Runs on bytes -/

theorem generateBytes_of_decode {input : List UInt8} {request : Request}
    (decoded : Request.decode input = .ok request) : generateBytes input = generate request := by
  unfold generateBytes
  rw [decoded]
  exact pure_bind request generate

/-- A run on bytes has files if they stand for a request, and the run on that has them. -/
theorem generateBytes_eq_ok {input : List UInt8} {outputs : List OutputFile} :
    (generateBytes input).result = .ok outputs
      ↔ ∃ request, Request.decode input = .ok request ∧ (generate request).result = .ok outputs := by
  constructor
  · intro done
    cases decoded : Request.decode input with
    | error cause =>
      unfold generateBytes at done
      rw [decoded] at done
      cases done
    | ok request =>
      rw [generateBytes_of_decode decoded] at done
      exact ⟨request, rfl, done⟩
  · rintro ⟨request, decoded, done⟩
    rwa [generateBytes_of_decode decoded]

/-- **A run on the bytes of a request is a run on the request**, with the same files and warnings or with the same
error, and that is never one about the bytes. Messages may be inside each other as often as a reader allows. The other
condition is that the bytes can be counted, since a length is written as a number of 64 bits. -/
theorem generateBytes_encode {request : Request} (shallow : request.nesting ≤ Request.depthLimit)
    (short : request.encode.length < numberBound) :
    Request.decode request.encode = .ok request
      ∧ generateBytes request.encode = generate request
      ∧ ∀ fault, (generateBytes request.encode).result ≠ .error (.undecodable fault) := by
  have decoded : Request.decode request.encode = .ok request := Request.decode_encode shallow short
  have same : generateBytes request.encode = generate request := generateBytes_of_decode decoded
  refine ⟨decoded, same, fun fault failed => ?_⟩
  rw [same] at failed
  exact generate_failsOnlyWith request _ failed fault rfl

/-- The request for the ledger with settings that are set to nothing, and with comments. -/
def annotatedRequest : Request :=
  { filesToGenerate := ["bank.proto"]
    parameter? := some ""
    compiler? := some { major? := some 3, minor? := some (-1), suffix? := some "" }
    files := [{ ledgerFile with
      sourceInfo? := some { locations := [{ path := [4, 0, -1], leading? := some "" }, {}] } }] }

/-- What is set to nothing is still set when it has been read. -/
theorem generateBytes_encode_annotated : annotatedRequest.nesting ≤ Request.depthLimit
    ∧ annotatedRequest.encode.length < numberBound
    ∧ (Request.decode annotatedRequest.encode).map (·.parameter?) = .ok (some "")
    ∧ generateBytes annotatedRequest.encode = generate annotatedRequest := by
  have shallow : annotatedRequest.nesting ≤ Request.depthLimit := by decide
  have short : annotatedRequest.encode.length < numberBound := by decide +kernel
  obtain ⟨decoded, same, _⟩ := generateBytes_encode shallow short
  refine ⟨shallow, short, ?_, same⟩
  rw [decoded]
  rfl

/-! ### The names of files -/

/-- What is known of each value of a list of computations is known of all of them. -/
theorem Run.map_eq_of_mapM {α β γ : Type} {step : α → Run β} {view : β → γ} {expected : α → γ}
    (each : ∀ element value, (step element).result = .ok value → view value = expected element)
    {elements : List α} {values : List β} (done : (elements.mapM step).result = .ok values) :
    values.map view = elements.map expected := by
  induction elements generalizing values with
  | nil =>
    cases done
    rfl
  | cons element rest inRest =>
    obtain ⟨first, others, firstDone, othersDone, rfl⟩ := result_mapM_cons_eq_ok.mp done
    rw [List.map_cons, List.map_cons, each element first firstDone, inRest othersDone]

/-- A file is named after the file that is requested. -/
theorem CompilationUnit.name_of_generateFile {unit : CompilationUnit} (name : String) (output : OutputFile)
    (generated : (unit.generateFile name).result = .ok output) :
    output.name = unit.options.naming.outputName name := by
  unfold generateFile at generated
  cases found : unit.symbols.file? name with
  | none =>
    rw [found] at generated
    cases generated
  | some file =>
    have named : file.name = name := by simpa using List.find?_some found
    rw [found] at generated
    dsimp only at generated
    rw [Run.result_bind] at generated
    obtain ⟨source, _, generated⟩ := bind_eq_ok.mp generated
    cases generated
    rw [named]

/-- **There is a file for each requested name**, in their order. -/
theorem Schema.Request.names_of_generate {request : Request} {outputs : List OutputFile}
    (generated : (generate request).result = .ok outputs) :
    ∃ options, Options.parse request.parameter = .ok options
      ∧ outputs.map (·.name) = request.filesToGenerate.map options.naming.outputName := by
  unfold generate at generated
  rw [Run.result_bind, CompilationUnit.result_ofRequest] at generated
  obtain ⟨unit, made, generated⟩ := bind_eq_ok.mp generated
  obtain ⟨options, parsed, made⟩ := bind_eq_ok.mp made
  obtain ⟨symbols, _, made⟩ := bind_eq_ok.mp made
  cases made
  exact ⟨options, parsed, Run.map_eq_of_mapM CompilationUnit.name_of_generateFile generated⟩

/-! ### Answers -/

/-- **What is read of a plugin's answer** to some input. -/
structure Answered (input : List UInt8) : Prop where
  /-- If there are files, all of them are in the response, one for each name of the request, and there is no
  error. -/
  success : ∀ outputs, (generateBytes input).result = .ok outputs →
    Answer.decode (respond input) = .ok { files := outputs.map OutputFile.answer }
      ∧ ∃ request options, Request.decode input = .ok request ∧ Options.parse request.parameter = .ok options
        ∧ outputs.map (·.name) = request.filesToGenerate.map options.naming.outputName
  /-- Otherwise its wording is all that the response has. -/
  failure : ∀ cause, (generateBytes input).result = .error cause →
    Answer.decode (respond input) = .ok { error? := some cause.message }

/-- **Every input is answered with one response**, which has all files or an error and no file. What is written of
a response is the message for it and nothing else. No text is lost when that is read, if its length is a number of
64 bits, as a reader expects of lengths. And however long the texts are, no two responses are written alike. -/
theorem respond_answers : (∀ input, (respond input).length < numberBound → Answered input)
    ∧ (∀ response : Response, response.encode = response.answer.encode
      ∧ (response.encode.length < numberBound → Answer.decode response.encode = .ok response.answer))
    ∧ ∀ first second : Response, first.encode = second.encode → first = second := by
  refine ⟨fun input short => ?_, fun response => ⟨response.encode_eq, Response.decode_encode⟩,
    fun _ _ => Response.eq_of_encode_eq⟩
  have read : Answer.decode (respond input) = .ok (Response.ofResult (generateBytes input).result).answer :=
    Response.decode_encode short
  constructor
  case success =>
    intro outputs generated
    rw [generated] at read
    obtain ⟨request, decoded, generated⟩ := generateBytes_eq_ok.mp generated
    obtain ⟨options, parsed, names⟩ := request.names_of_generate generated
    exact ⟨read, request, options, decoded, parsed, names⟩
  case failure =>
    intro cause failed
    rw [failed] at read
    exact read

/-- A request for a file without declarations. -/
def bareRequest : Request :=
  { filesToGenerate := ["a.proto"], files := [{ name? := some "a.proto" }] }

/-- A request for a file is answered with the file, and bytes that end too early with an error. -/
theorem respond_answers_bare : (respond bareRequest.encode).length < numberBound
    ∧ (∃ file, Answer.decode (respond bareRequest.encode) = .ok { files := [file] }
      ∧ file.name? = some "a.pb.swift")
    ∧ (respond [0x0a]).length < numberBound
    ∧ ∃ wording, Answer.decode (respond [0x0a]) = .ok { error? := some wording } := by
  have short : (respond bareRequest.encode).length < numberBound := by decide +kernel
  have errorShort : (respond [0x0a]).length < numberBound := by decide +kernel
  refine ⟨short, ?_, errorShort, ?_⟩
  · have decoded : Request.decode bareRequest.encode = .ok bareRequest :=
      Request.decode_encode (by decide) (by decide +kernel)
    obtain ⟨output, generated, named⟩ : ∃ output, (generate bareRequest).result = .ok [output]
        ∧ output.name = "a.pb.swift" := ⟨_, rfl, rfl⟩
    obtain ⟨read, _⟩ := (respond_answers.1 bareRequest.encode short).success [output]
      (generateBytes_eq_ok.mpr ⟨bareRequest, decoded, generated⟩)
    exact ⟨output.answer, read, congrArg some named⟩
  · obtain ⟨cause, failed⟩ : ∃ cause, (generateBytes [0x0a]).result = .error cause := ⟨_, rfl⟩
    exact ⟨cause.message, (respond_answers.1 [0x0a] errorShort).failure cause failed⟩

end ProtoSwift
