/-
**Methods that get to the code of every field.**

A method of a struct has the parts of the fields between lines that are the same for all fields. What is written for a
field counts only if these lines let it: none of them may be the label of a case, or a number could be decoded by
something else than a field, and none of those in front of the fields may leave the method.

* `goesOn`, `isLabel` — lines behind which the next one is run, and labels of cases;
* `RunsThrough` — code in which nothing is in the way of its sections;
* `StructDecl.runsThrough_methods` — the methods of a struct are such code, whatever its fields are.
-/

import ProtoSwift.Proofs.Decl.Sections
import ProtoSwift.Proofs.Text.Levels
import Mathlib

namespace ProtoSwift

/-- The first line of code that holds on to the object with the fields. It gives the answer of the lines inside it. -/
def holdingLine : String :=
  "return withExtendedLifetime(_storage) \x7b (_storage: _StorageClass) in\n"

/-- Whether a word occurs in a text. -/
def occurs (word text : String) : Bool :=
  text.toList.tails.any word.toList.isPrefixOf

/-- Whether a line cannot leave the code that it is in, other than with the answer of the lines inside it. -/
def goesOn (line : String) : Bool :=
  line = holdingLine || ["return", "break", "continue", "throw"].all (!occurs · line)

/-- Whether a line is the label of a case. -/
def isLabel (line : String) : Bool :=
  "case ".toList.isPrefixOf line.toList

/-- **Code that gets through sections**: it has them next to each other, no line around them is the label of a case, and
none in front of them leaves the code. -/
def RunsThrough (make : List FieldCode → Code) (sections : List Section) : Prop :=
  ∃ front back : Code, (∀ fields, make fields = front ++ sections.flatMap (·.body fields) ++ back)
    ∧ (∀ line ∈ front.filterMap Code.stepText?, goesOn line = true ∧ isLabel line = false)
    ∧ ∀ line ∈ back.filterMap Code.stepText?, isLabel line = false

namespace RunsThrough

variable {make : List FieldCode → Code} {sections : List Section} {code : Code}

theorem of (sections : List Section) : RunsThrough (fun fields => sections.flatMap (·.body fields)) sections :=
  ⟨[], [], fun _ => (List.append_nil _).symm, fun _ among => absurd among List.not_mem_nil,
    fun _ among => absurd among List.not_mem_nil⟩

theorem before (runs : RunsThrough make sections)
    (plain : ∀ line ∈ code.filterMap Code.stepText?, goesOn line = true ∧ isLabel line = false) :
    RunsThrough (fun fields => code ++ make fields) sections := by
  obtain ⟨front, back, whole, inFront, inBack⟩ := runs
  refine ⟨code ++ front, back, fun fields => ?_, ?_, inBack⟩
  · simp only [whole, List.append_assoc]
  · rw [List.filterMap_append]
    exact List.forall_mem_append.mpr ⟨plain, inFront⟩

theorem after (runs : RunsThrough make sections)
    (plain : ∀ line ∈ code.filterMap Code.stepText?, isLabel line = false) :
    RunsThrough (fun fields => make fields ++ code) sections := by
  obtain ⟨front, back, whole, inFront, inBack⟩ := runs
  refine ⟨front, back ++ code, fun fields => ?_, inFront, ?_⟩
  · simp only [whole, List.append_assoc]
  · rw [List.filterMap_append]
    exact List.forall_mem_append.mpr ⟨inBack, plain⟩

theorem block (runs : RunsThrough make sections) {opening closing : String}
    (first : goesOn (opening ++ "\n") = true ∧ isLabel (opening ++ "\n") = false)
    (last : isLabel (closing ++ "\n") = false) :
    RunsThrough (fun fields => Code.block opening (make fields) closing) sections := by
  have noText : [Step.indent].filterMap Code.stepText? = [] := rfl
  have front : ∀ line ∈ (Code.line opening ++ [Step.indent]).filterMap Code.stepText?,
      goesOn line = true ∧ isLabel line = false := by
    intro line among
    rw [List.filterMap_append, noText, List.append_nil] at among
    rwa [List.mem_singleton.mp among]
  have back : ∀ line ∈ ([Step.outdent] ++ Code.line closing).filterMap Code.stepText?, isLabel line = false := by
    intro line among
    rwa [List.mem_singleton.mp among]
  have whole : (fun fields => Code.block opening (make fields) closing) = fun fields =>
      Code.line opening ++ [Step.indent] ++ make fields ++ ([Step.outdent] ++ Code.line closing) := by
    funext fields
    simp [Code.block, Code.indented]
  rw [whole]
  exact (runs.before front).after back

theorem either {other : List FieldCode → Code} {condition : Bool} (runs : RunsThrough make sections)
    (otherwise : RunsThrough other sections) :
    RunsThrough (fun fields => if condition then make fields else other fields) sections := by
  cases condition with
  | true => exact runs
  | false => exact otherwise

theorem withStorage (decl : StructDecl) (runs : RunsThrough make sections) {call : String}
    (known : call = "return" ∨ call = "try") :
    RunsThrough (fun fields => (decl.withFields fields).withStorage call (make fields)) sections := by
  simp only [StructDecl.withStorage, StructDecl.heap_withFields]
  refine (runs.block ?_ (by decide)).either runs
  rcases known with rfl | rfl
  · decide
  · decide

end RunsThrough

namespace StructDecl

variable (decl : StructDecl)

theorem runsThrough_isInitializedCode :
    ∃ make, (∀ fields, (decl.withFields fields).isInitializedCode
        = Code.block (decl.modifier ++ "var isInitialized: Bool \x7b") (make fields) "\x7d")
      ∧ RunsThrough make [requiredChecks, valueChecks] := by
  have last : ∀ line ∈ (Code.line "return true").filterMap Code.stepText?, isLabel line = false := by decide
  have checks : RunsThrough (fun fields => requiredChecks.body fields ++ valueChecks.body fields
      ++ Code.line "return true") [requiredChecks, valueChecks] := by
    simpa using (RunsThrough.of [requiredChecks, valueChecks]).after last
  exact ⟨_, fun _ => rfl, checks.withStorage decl (.inl rfl)⟩

theorem runsThrough_decodeMessageCode :
    ∃ make, (∀ fields, (decl.withFields fields).decodeMessageCode = Code.block (decl.modifier
        ++ "mutating func decodeMessage<D: SwiftProtobuf.Decoder>(decoder: inout D) throws \x7b") (make fields) "\x7d")
      ∧ RunsThrough make [decodeCases] := by
  have opening : ∀ line ∈ (Code.line "switch fieldNumber \x7b").filterMap Code.stepText?,
      goesOn line = true ∧ isLabel line = false := by decide
  have otherwise : ∀ line ∈ (Code.line "default: break").filterMap Code.stepText?, isLabel line = false := by decide
  have closing : ∀ line ∈ (Code.line "\x7d").filterMap Code.stepText?, isLabel line = false := by decide
  have copies : ∀ line ∈ (if decl.heap then Code.line "_ = _uniqueStorage()" else []).filterMap Code.stepText?,
      goesOn line = true ∧ isLabel line = false := by
    cases decl.heap <;> decide
  have cases : RunsThrough decodeCases.body [decodeCases] := by
    simpa using RunsThrough.of [decodeCases]
  have loop : RunsThrough (fun fields => Code.block "while let fieldNumber = try decoder.nextFieldNumber() \x7b"
      (Code.line "switch fieldNumber \x7b" ++ decodeCases.body fields ++ Code.line "default: break"
        ++ Code.line "\x7d") "\x7d") [decodeCases] :=
    (((cases.before opening).after otherwise).after closing).block (by decide) (by decide)
  exact ⟨_, fun _ => rfl, (loop.withStorage decl (.inr rfl)).before copies⟩

theorem runsThrough_traverseCode :
    ∃ make, (∀ fields, (decl.withFields fields).traverseCode = Code.block (decl.modifier
        ++ "func traverse<V: SwiftProtobuf.Visitor>(visitor: inout V) throws \x7b") (make fields) "\x7d")
      ∧ RunsThrough make [visits] := by
  have last : ∀ line ∈ (Code.line "try unknownFields.traverse(visitor: &visitor)").filterMap Code.stepText?,
      isLabel line = false := by decide
  have written : RunsThrough visits.body [visits] := by
    simpa using RunsThrough.of [visits]
  exact ⟨_, fun _ => rfl, (written.withStorage decl (.inr rfl)).after last⟩

theorem runsThrough_equalityCode :
    ∃ make, (∀ fields, (decl.withFields fields).equalityCode = Code.block (decl.modifier
        ++ "func _protobuf_generated_isEqualTo(other: " ++ decl.swiftName ++ ") -> Bool \x7b") (make fields) "\x7d")
      ∧ RunsThrough make [comparisons] := by
  have copies : ∀ line ∈ (Code.line "let _storage = _args.0" ++ Code.line "let other_storage = _args.1").filterMap
      Code.stepText?, goesOn line = true ∧ isLabel line = false := by decide
  have differ : ∀ line ∈ (Code.line "if !storagesAreEqual \x7breturn false\x7d").filterMap Code.stepText?,
      isLabel line = false := by decide
  have unknown : ∀ line ∈ (Code.line "if unknownFields != other.unknownFields \x7breturn false\x7d").filterMap
      Code.stepText?, isLabel line = false := by decide
  have last : ∀ line ∈ (Code.line "return true").filterMap Code.stepText?, isLabel line = false := by decide
  have compared : RunsThrough comparisons.body [comparisons] := by
    simpa using RunsThrough.of [comparisons]
  have shared : RunsThrough (fun fields => (decl.withFields fields).storageComparisonCode) [comparisons] :=
    ((((compared.before copies).after last).block (by decide +kernel) (by decide)).after differ).block (by decide)
      (by decide)
  exact ⟨_, fun _ => rfl, ((shared.either compared).after unknown).after last⟩

/-- **The methods of a struct get to the code of every field**: the property that checks the required fields, the
decoder, the visitor and the comparison. -/
theorem runsThrough_methods :
    (∃ make, (∀ fields, (decl.withFields fields).isInitializedCode
        = Code.block (decl.modifier ++ "var isInitialized: Bool \x7b") (make fields) "\x7d")
      ∧ RunsThrough make [requiredChecks, valueChecks])
    ∧ (∃ make, (∀ fields, (decl.withFields fields).decodeMessageCode = Code.block (decl.modifier
        ++ "mutating func decodeMessage<D: SwiftProtobuf.Decoder>(decoder: inout D) throws \x7b") (make fields) "\x7d")
      ∧ RunsThrough make [decodeCases])
    ∧ (∃ make, (∀ fields, (decl.withFields fields).traverseCode = Code.block (decl.modifier
        ++ "func traverse<V: SwiftProtobuf.Visitor>(visitor: inout V) throws \x7b") (make fields) "\x7d")
      ∧ RunsThrough make [visits])
    ∧ ∃ make, (∀ fields, (decl.withFields fields).equalityCode = Code.block (decl.modifier
        ++ "func _protobuf_generated_isEqualTo(other: " ++ decl.swiftName ++ ") -> Bool \x7b") (make fields) "\x7d")
      ∧ RunsThrough make [comparisons] :=
  ⟨decl.runsThrough_isInitializedCode, decl.runsThrough_decodeMessageCode, decl.runsThrough_traverseCode,
    decl.runsThrough_equalityCode⟩

end StructDecl

end ProtoSwift
