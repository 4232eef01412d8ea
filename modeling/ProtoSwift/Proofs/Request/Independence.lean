/-
**Every requested file is generated as if it were the only one.**

The requested files share one compilation unit, which no file changes, and the names of the other requested files are
not part of what a file is generated from. So a run for several files is a run for each of them in a row, up to
the first that fails, and there is no response with only some of the files.

* `StructDecl.ofNode_ask`, `CompilationUnit.generateFile_ask` — what is generated for a name does not depend on the
  requested names;
* `Schema.Request.alone`, `Schema.Request.ground` — a request for one of the files, and the unit that all runs
  share;
* `Run.result_mapM_eq_ok_iff_forall₂` — a computation for every element of a list has a value for each of them;
* `Schema.Request.FileByFile` — a run is the runs for its files in a row;
* `generate_file_by_file` — as every run for at least one file is.
-/

import ProtoSwift.Plugin
import ProtoSwift.Proofs.Request.FileOrder
import Mathlib.Data.List.Forall2

namespace ProtoSwift

open Schema

/-! ### One element after the other -/

/-- **A computation for every element of a list has a value for each of them.** -/
theorem Run.result_mapM_eq_ok_iff_forall₂ {α β : Type} {step : α → Run β} {elements : List α}
    {values : List β} : (elements.mapM step).result = .ok values
      ↔ List.Forall₂ (fun element value => (step element).result = .ok value) elements values := by
  induction elements generalizing values with
  | nil =>
    rw [List.forall₂_nil_left_iff]
    constructor
    · intro done
      cases done
      rfl
    · rintro rfl
      rfl
  | cons element rest inRest =>
    rw [result_mapM_cons_eq_ok, List.forall₂_cons_left_iff]
    constructor
    · rintro ⟨first, others, firstDone, othersDone, rfl⟩
      exact ⟨first, others, firstDone, inRest.mp othersDone, rfl⟩
    · rintro ⟨first, others, firstDone, othersDone, rfl⟩
      exact ⟨first, others, firstDone, inRest.mpr othersDone, rfl⟩

/-- It reports the first element that has none. -/
theorem Run.reports_mapM_self {α β : Type} (step : α → Run β) (elements : List α) :
    Reports (fun element cause => (step element).result = .error cause) (elements.mapM step).result elements := by
  have each : ∀ element, Reports (fun element cause => (step element).result = .error cause)
      (step element).result [element] := fun element => Reports.singleton fun _ => Iff.rfl
  have all := Run.reports_mapM each elements
  rwa [List.flatMap_singleton'] at all

/-! ### The requested names -/

/-- The unit of a run for other files. -/
def CompilationUnit.ask (unit : CompilationUnit) (names : List String) : CompilationUnit :=
  { unit with requested := names }

variable (unit : CompilationUnit) (names : List String) (file : FileNode)

namespace StructDecl

mutual

/-- **The declaration for a message does not depend on the requested names.** -/
theorem ofNode_ask : (node : MessageNode) → ofNode (unit.ask names) file node = ofNode unit file node
  | ⟨_, _, _, _, messages, _⟩ => by
    unfold ofNode
    rw [ofNodes_ask messages]
    rfl

theorem ofNodes_ask : (nodes : List MessageNode) → ofNodes (unit.ask names) file nodes = ofNodes unit file nodes
  | [] => by
    unfold ofNodes
    rfl
  | node :: rest => by
    unfold ofNodes
    rw [ofNode_ask node, ofNodes_ask rest]

end

end StructDecl

theorem SourceFile.ofNode_ask : ofNode (unit.ask names) file = ofNode unit file := by
  have each : StructDecl.ofNode (unit.ask names) file = StructDecl.ofNode unit file :=
    funext (StructDecl.ofNode_ask unit names file)
  unfold ofNode
  rw [each]
  rfl

/-- **A file is generated from its own name** and from what all files share. -/
theorem CompilationUnit.generateFile_ask : (unit.ask names).generateFile = unit.generateFile := by
  funext name
  unfold generateFile
  simp only [SourceFile.ofNode_ask]
  rfl

/-! ### Runs for one file -/

namespace Schema.Request

/-- The request for one file. -/
def alone (request : Request) (name : String) : Request :=
  { request with filesToGenerate := [name] }

/-- The run for one file fails. -/
def FailsAlone (request : Request) (name : String) (cause : Error) : Prop :=
  (generate (request.alone name)).result = .error cause

/-- What is there before any file is generated. It is the same whichever files are requested. -/
def ground (request : Request) : Except Error CompilationUnit :=
  (CompilationUnit.ofRequest request).result.map (·.ask [])

/-- **A run is the runs for its files in a row.** -/
structure FileByFile (request : Request) : Prop where
  /-- It succeeds if the run for each file does. -/
  succeeds : (∃ outputs, (generate request).result = .ok outputs)
    ↔ ∀ name ∈ request.filesToGenerate, ∃ outputs, (generate (request.alone name)).result = .ok outputs
  /-- The response then has a file for each name, which is the only file of its own run, and no error. -/
  outputs : ∀ outputs, (generate request).result = .ok outputs →
    outputs.length = request.filesToGenerate.length
      ∧ List.Forall₂ (fun name output => (generate (request.alone name)).result = .ok [output])
        request.filesToGenerate outputs
      ∧ Response.ofResult (generate request).result = .files outputs
  /-- Otherwise it reports what the first run reports that fails. -/
  failure : ∀ cause, (generate request).result = .error cause
    ↔ FirstViolation request.FailsAlone request.filesToGenerate cause
  /-- A name that is requested again gives the same file again. -/
  repeated : ∀ outputs, (generate request).result = .ok outputs → ∀ first second : Nat,
    request.filesToGenerate[first]? = request.filesToGenerate[second]? → outputs[first]? = outputs[second]?

variable {request : Request} {unit : CompilationUnit}

/-- Runs for other files have the ground in common. -/
theorem ground_alone (request : Request) (name : String) : (request.alone name).ground = request.ground := by
  have parameter : (request.alone name).parameter = request.parameter := rfl
  have files : (request.alone name).files = request.files := rfl
  unfold ground
  rw [CompilationUnit.result_ofRequest, CompilationUnit.result_ofRequest, parameter, files]
  cases Options.parse request.parameter with
  | error cause => rfl
  | ok options => cases (SymbolTable.ofFiles request.files).result <;> rfl

/-- The unit of a request is the common ground with the names of the request. -/
theorem result_ofRequest_of_ground (request : Request) : (CompilationUnit.ofRequest request).result = (do
    let unit ← request.ground
    return unit.ask request.filesToGenerate) := by
  unfold ground
  rw [CompilationUnit.result_ofRequest]
  cases Options.parse request.parameter with
  | error cause => rfl
  | ok options => cases (SymbolTable.ofFiles request.files).result <;> rfl

/-- A run goes over the names of its request on the common ground. -/
theorem result_generate_of_ground (request : Request) : (generate request).result = (do
    let unit ← request.ground
    (request.filesToGenerate.mapM unit.generateFile).result) := by
  unfold generate
  rw [Run.result_bind, result_ofRequest_of_ground]
  cases request.ground with
  | error cause => rfl
  | ok unit =>
    show (request.filesToGenerate.mapM (unit.ask request.filesToGenerate).generateFile).result = _
    rw [CompilationUnit.generateFile_ask]
    rfl

/-- A run for one file has the file that is generated for its name. -/
theorem result_generate_alone (grounded : request.ground = .ok unit) (name : String) :
    (generate (request.alone name)).result = (unit.generateFile name).result.map ([·]) := by
  rw [result_generate_of_ground, ground_alone, grounded]
  show ([name].mapM unit.generateFile).result = _
  rw [List.mapM_cons, Run.result_bind]
  cases (unit.generateFile name).result <;> rfl

theorem result_generate_alone_eq_ok {output : OutputFile} (grounded : request.ground = .ok unit) (name : String) :
    (generate (request.alone name)).result = .ok [output] ↔ (unit.generateFile name).result = .ok output := by
  rw [result_generate_alone grounded, map_eq_ok]
  constructor
  · rintro ⟨found, generated, same⟩
    cases same
    exact generated
  · intro generated
    exact ⟨output, generated, rfl⟩

theorem failsAlone_iff {cause : Error} (grounded : request.ground = .ok unit) (name : String) :
    request.FailsAlone name cause ↔ (unit.generateFile name).result = .error cause := by
  unfold FailsAlone
  rw [result_generate_alone grounded]
  cases (unit.generateFile name).result <;> simp [Except.map]

/-- Without the common ground every run fails, and all of them alike. -/
theorem failsAlone_of_ground {cause : Error} (ungrounded : request.ground = .error cause) (name : String)
    (other : Error) : request.FailsAlone name other ↔ cause = other := by
  unfold FailsAlone
  rw [result_generate_of_ground, ground_alone, ungrounded]
  exact Except.error.injEq cause other ▸ Iff.rfl

/-- **A run reports what the first of the runs for its files reports** that fails. -/
theorem reports_alone (asked : request.filesToGenerate ≠ []) :
    Reports request.FailsAlone (generate request).result request.filesToGenerate := by
  rw [result_generate_of_ground]
  cases grounded : request.ground with
  | error cause =>
    -- The first file fails already, as the others would.
    obtain ⟨name, rest, names⟩ := List.exists_cons_of_ne_nil asked
    intro other
    rw [names, firstViolation_cons]
    simp only [failsAlone_of_ground grounded]
    show Except.error cause = .error other ↔ _
    simp
  | ok unit =>
    have same : request.FailsAlone = fun name cause => (unit.generateFile name).result = .error cause := by
      funext name cause
      exact propext (failsAlone_iff grounded name)
    rw [same]
    exact Run.reports_mapM_self unit.generateFile request.filesToGenerate

/-- **The files of a run** are those of the runs for its names. -/
theorem forall₂_alone {outputs : List OutputFile} (generated : (generate request).result = .ok outputs) :
    List.Forall₂ (fun name output => (generate (request.alone name)).result = .ok [output])
      request.filesToGenerate outputs := by
  rw [result_generate_of_ground] at generated
  obtain ⟨unit, grounded, generated⟩ := bind_eq_ok.mp generated
  refine (Run.result_mapM_eq_ok_iff_forall₂.mp generated).imp fun name output done => ?_
  exact (result_generate_alone_eq_ok grounded name).mpr done

end Schema.Request

/-- A run either fails or has files. -/
theorem exists_ok_iff_forall_not_error {α : Type} {result : Except Error α} :
    (∃ value, result = .ok value) ↔ ∀ cause, result ≠ .error cause := by
  cases result <;> simp

open Schema.Request in
/-- **A run for at least one file is the runs for its files in a row.** With no files requested nothing would tell
that the parameter is faulty, or that a supplied file is. -/
theorem generate_file_by_file (request : Request) (asked : request.filesToGenerate ≠ []) :
    request.FileByFile := by
  have reports := reports_alone asked
  constructor
  case succeeds =>
    rw [reports.succeeds_iff]
    refine forall₂_congr fun name _ => ?_
    rw [exists_ok_iff_forall_not_error]
    rfl
  case outputs =>
    intro outputs generated
    have each := forall₂_alone generated
    exact ⟨each.length_eq.symm, each, by rw [generated]; rfl⟩
  case failure => exact reports
  case repeated =>
    intro outputs generated first second same
    have each := forall₂_alone generated
    have lengths := each.length_eq
    by_cases among : first < request.filesToGenerate.length
    · have alsoAmong : second < request.filesToGenerate.length := by
        rw [List.getElem?_eq_getElem among] at same
        exact (List.getElem?_eq_some_iff.mp same.symm).1
      have firstDone := each.get among (lengths ▸ among)
      have secondDone := each.get alsoAmong (lengths ▸ alsoAmong)
      rw [List.getElem?_eq_getElem among, List.getElem?_eq_getElem alsoAmong, Option.some.injEq] at same
      simp only [List.get_eq_getElem, ← same] at firstDone secondDone
      rw [firstDone] at secondDone
      rw [List.getElem?_eq_getElem (lengths ▸ among), List.getElem?_eq_getElem (lengths ▸ alsoAmong)]
      simpa using secondDone
    · rw [List.getElem?_eq_none (by omega)] at same
      have alsoBeyond := List.getElem?_eq_none_iff.mp same.symm
      rw [List.getElem?_eq_none (by omega), List.getElem?_eq_none (by omega)]

/-- A request for the file of the ledger, twice. -/
def ledgerTwice : Request :=
  { ledgerRequest with filesToGenerate := ["bank.proto", "bank.proto"] }

/-- The ledger's file is generated twice, and is the same both times. -/
theorem generate_file_by_file_ledger : ledgerTwice.filesToGenerate ≠ []
    ∧ ∃ output, (generate ledgerRequest).result = .ok [output]
      ∧ (generate ledgerTwice).result = .ok [output, output] := by
  have asked : ledgerTwice.filesToGenerate ≠ [] := List.cons_ne_nil _ _
  refine ⟨asked, ?_⟩
  have whole := generate_file_by_file ledgerTwice asked
  obtain ⟨outputs, generated⟩ := whole.succeeds.mpr fun name among => by
    obtain rfl : name = "bank.proto" := by simpa [ledgerTwice] using among
    exact exists_generate_ledgerRequest
  obtain ⟨_, each, _⟩ := whole.outputs outputs generated
  obtain ⟨output, others, done, rest, rfl⟩ := List.forall₂_cons_left_iff.mp each
  obtain ⟨again, none, doneAgain, nothing, rfl⟩ := List.forall₂_cons_left_iff.mp rest
  obtain rfl := List.forall₂_nil_left_iff.mp nothing
  refine ⟨output, done, ?_⟩
  rw [generated]
  rw [done] at doneAgain
  cases doneAgain
  rfl

end ProtoSwift
