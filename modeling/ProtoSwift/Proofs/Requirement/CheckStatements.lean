/-
**Running the property that checks the required fields.**

The property is a list of statements on the variables of a message. Each of them looks at one variable, and gives an
answer if it finds something wrong; the last one gives the answer that nothing is wrong. The statements are read from
the lines that are written, and a line that is read as none of them has no answer, nor has a variable that does not
exist or cannot be looked at in this way.

* `Content` — a value of a generated type, as far as it matters whether fields are set;
* `HeldVariable` — a variable of a message with what it holds;
* `CheckStatement.read?` — the statement on a line;
* `CheckStatement.step?`, `runLines?` — what a statement does, and what the lines of a property give;
* `runLines?_checks` — lines that can be run give the answer that each of them has nothing to say against;
* `StructDecl.checksBody?`, `StructDecl.checksBody?_eq` — the lines of the property, read in the code of a struct.
-/

import ProtoSwift.Proofs.Decl.MemberVariables
import ProtoSwift.Proofs.Decl.MethodBodies
import ProtoSwift.Proofs.Decl.Openings
import Mathlib

namespace ProtoSwift

open Swift

/-! ### Values -/

/-- **A value of a generated type**, as far as it matters whether fields are set. -/
inductive Content
  /-- What a field holds that is not set. -/
  | unset
  /-- A scalar or a case of an enumeration. -/
  | plain
  /-- A message of a file, with what its fields hold in the order of their plans. -/
  | message (file : FileNode) (node : MessageNode) (fields : List Content)
  /-- The values of a repeated field or of a map. -/
  | many (elements : List Content)

namespace Content

/-- What holds of a value if it holds of its parts holds of every value. -/
@[elab_as_elim]
theorem inductionOnParts {motive : Content → Prop} (unset : motive .unset) (plain : motive .plain)
    (message : ∀ file node fields, (∀ part ∈ fields, motive part) → motive (.message file node fields))
    (many : ∀ elements, (∀ part ∈ elements, motive part) → motive (.many elements))
    (content : Content) : motive content := by
  refine @Content.rec motive (fun contents => ∀ part ∈ contents, motive part) unset plain message many
    ?_ ?_ content
  · exact fun _ among => absurd among List.not_mem_nil
  · intro first rest here below part among
    rcases List.mem_cons.mp among with rfl | among
    · exact here
    · exact below part among

/-- A value is inside itself, inside the message that holds it, and so on. -/
inductive Inside (part : Content) : Content → Prop
  | here : Inside part part
  | field {file : FileNode} {node : MessageNode} {fields : List Content} {held : Content}
    (among : held ∈ fields) (inside : Inside part held) : Inside part (.message file node fields)
  | element {elements : List Content} {held : Content} (among : held ∈ elements)
    (inside : Inside part held) : Inside part (.many elements)

def isUnset : Content → Bool
  | .unset => true
  | _ => false

end Content

def Swift.SwiftType.isOptional : SwiftType → Bool
  | .optional _ => true
  | _ => false

/-- **A variable of a message**, with what it holds. -/
structure HeldVariable where
  /-- The expression that stands for the variable in the code of the message. -/
  expression : String
  /-- Whether the variable can be `nil`. -/
  optional : Bool
  content : Content
  /-- What the properties of the messages in the variable give, if they give an answer. -/
  answer? : Option Bool

/-! ### Statements -/

/-- A statement of the property. -/
inductive CheckStatement
  /-- Gives the answer that nothing is wrong. -/
  | allIsWell
  /-- Finds a variable that is `nil`. -/
  | isNil (expression : String)
  /-- Finds a message in which something is wrong, unless there is none. -/
  | isUnfinished (expression : String)
  /-- Finds a message among many in which something is wrong. -/
  | anyIsUnfinished (expression : String)
  deriving DecidableEq, Repr

namespace CheckStatement

/-- **The statement on a line.** -/
def read? (line : String) : Option CheckStatement :=
  if line = "return true\n" then some .allIsWell
  else
    match between? "if let v = " ", !v.isInitialized \x7breturn false\x7d\n" line.toList with
    | some expression => some (.isUnfinished expression)
    | none =>
      match between? "if !SwiftProtobuf.Internal.areAllInitialized(" ") \x7breturn false\x7d\n" line.toList with
      | some expression => some (.anyIsUnfinished expression)
      | none => (between? "if " " == nil \x7breturn false\x7d\n" line.toList).map .isNil

/-- **What a statement does**: it gives an answer, or the next statement is run. There may be no variable that it could
look at. -/
def step? (state : List HeldVariable) : CheckStatement → Option (Option Bool)
  | .allIsWell => some (some true)
  | .isNil expression => (state.find? (·.expression = expression)).map fun held =>
      if held.optional && held.content.isUnset then some false else none
  | .isUnfinished expression => (state.find? (·.expression = expression)).bind fun held =>
      match held.optional, held.content with
      | true, .unset => some none
      | true, .message .. => held.answer?.map fun well => if well then none else some false
      | _, _ => none
  | .anyIsUnfinished expression => (state.find? (·.expression = expression)).bind fun held =>
      match held.content with
      | .many _ => held.answer?.map fun well => if well then none else some false
      | _ => none

end CheckStatement

/-- What the statement on a line does. -/
def stepOn? (state : List HeldVariable) (line : String) : Option (Option Bool) :=
  (CheckStatement.read? line).bind (·.step? state)

/-- **The answer that lines give**, one after another. -/
def runLines? (state : List HeldVariable) : List String → Option Bool
  | [] => none
  | line :: rest =>
    match stepOn? state line with
    | some (some answer) => some answer
    | some none => runLines? state rest
    | none => none

/-- **The answer that the lines of the property give.** What holds on to the object with the fields gives the answer of
the lines inside it. -/
def answerOf? (state : List HeldVariable) (lines : List String) : Option Bool :=
  match lines with
  | [] => none
  | first :: rest =>
    if first = holdingLine then
      if rest.getLast? = some "\x7d\n" then runLines? state rest.dropLast else none
    else runLines? state (first :: rest)

/-! ### Lines that can be run -/

/-- A line that says nothing against a message, or finds something wrong. -/
def Tests (state : List HeldVariable) (line : String) : Prop :=
  stepOn? state line = some none ∨ stepOn? state line = some (some false)

theorem runLines?_return (state : List HeldVariable) : runLines? state ["return true\n"] = some true :=
  rfl

/-- **Lines that can be run give an answer**: the first that finds something wrong does, and if none does nothing is
wrong. -/
theorem runLines?_checks {state : List HeldVariable} {lines : List String} (tests : ∀ line ∈ lines, Tests state line) :
    ∃ answer, runLines? state (lines ++ ["return true\n"]) = some answer
      ∧ (answer = true ↔ ∀ line ∈ lines, stepOn? state line = some none) := by
  induction lines with
  | nil => exact ⟨true, runLines?_return state, iff_of_true rfl fun _ among => absurd among List.not_mem_nil⟩
  | cons line rest inRest =>
    rw [List.forall_mem_cons] at tests
    obtain ⟨answer, given, right⟩ := inRest tests.2
    rcases tests.1 with passes | finds
    · refine ⟨answer, ?_, ?_⟩
      · rw [List.cons_append, runLines?, passes]
        exact given
      · rw [right, List.forall_mem_cons, and_iff_right passes]
    · refine ⟨false, ?_, ?_⟩
      · rw [List.cons_append, runLines?, finds]
      · refine iff_of_false Bool.false_ne_true fun all => ?_
        rw [all line List.mem_cons_self] at finds
        cases finds

/-! ### How the statements are read -/

/-- An expression for a variable starts neither like the binding of a name nor like a negation. -/
def StartsPlainly (expression : String) : Prop :=
  ∃ first, expression.toList.head? = some first ∧ first ≠ 'l' ∧ first ≠ '!'

theorem startsPlainly_ownerOf (heap : Bool) (name : String) : StartsPlainly (ownerOf heap ++ name) := by
  cases heap
  · exact ⟨'s', by rw [String.toList_append]; rfl, by decide, by decide⟩
  · exact ⟨'_', by rw [String.toList_append]; rfl, by decide, by decide⟩

/-- A text that goes on with another character does not start like a statement. -/
theorem between?_of_differ {opening closing : String} {front rest text : List Char} {first other : Char}
    (spelt : opening.toList = front ++ first :: rest) (begins : text.head? = some other) (different : first ≠ other) :
    between? opening closing (front ++ text) = none := by
  have none : opening.toList.isPrefixOf? (front ++ text) = none := by
    rw [Option.eq_none_iff_forall_ne_some]
    intro behind found
    rw [List.isPrefixOf?_eq_some_iff_append_eq, spelt, List.append_assoc] at found
    have same := congrArg List.head? (List.append_cancel_left found)
    rw [begins] at same
    exact different (Option.some.inj same)
  unfold between?
  rw [none]
  rfl

/-- The line that finds a variable that is `nil`. -/
def RequiredCheck.line (check : RequiredCheck) : String :=
  "if " ++ check.slot.text ++ " == nil \x7breturn false\x7d" ++ "\n"

/-- The line that finds something wrong in the messages of a variable. -/
def ValueCheck.line (check : ValueCheck) : String :=
  if check.many then
    "if !SwiftProtobuf.Internal.areAllInitialized(" ++ check.slot.text ++ ") \x7breturn false\x7d" ++ "\n"
  else "if let v = " ++ check.slot.text ++ ", !v.isInitialized \x7breturn false\x7d" ++ "\n"

/-- A text that starts with another character is not the line that gives the last answer. -/
theorem ne_of_head {text other : String} {first : Char} (starts : text.toList.head? = some first)
    (differ : other.toList.head? ≠ some first) : text ≠ other := by
  rintro rfl
  exact differ starts

namespace CheckStatement

/-- The openings of the statements. Behind `if` they go on with different characters. -/
theorem toList_openings : "if let v = ".toList = "if ".toList ++ 'l' :: "et v = ".toList
    ∧ "if !SwiftProtobuf.Internal.areAllInitialized(".toList
      = "if ".toList ++ '!' :: "SwiftProtobuf.Internal.areAllInitialized(".toList := by
  decide

/-- **The check that a variable is not `nil`.** -/
theorem read?_required (check : RequiredCheck) (plain : StartsPlainly check.slot.text) :
    read? check.line = some (.isNil check.slot.text) := by
  obtain ⟨first, starts, noLet, noNot⟩ := plain
  have spelt : check.line = "if " ++ check.slot.text ++ " == nil \x7breturn false\x7d\n" := by
    simp only [RequiredCheck.line, String.append_assoc]
    rfl
  have split : check.line.toList = "if ".toList ++ (check.slot.text ++ " == nil \x7breturn false\x7d\n").toList := by
    rw [spelt, String.append_assoc, String.toList_append]
  have begins : (check.slot.text ++ " == nil \x7breturn false\x7d\n").toList.head? = some first := by
    rw [String.toList_append, List.head?_append, starts, Option.some_or]
  have goesOn : check.line ≠ "return true\n" := by
    refine @ne_of_head _ _ 'i' ?_ (by decide)
    rw [split]
    rfl
  unfold read?
  rw [if_neg goesOn, split, between?_of_differ toList_openings.1 begins noLet.symm,
    between?_of_differ toList_openings.2 begins noNot.symm, ← split, spelt]
  show Option.map _ (between? _ _ _) = _
  rw [between?_append, Option.map_some]

/-- **The check of the messages in a variable.** -/
theorem read?_values (check : ValueCheck) : read? check.line
    = some (if check.many then .anyIsUnfinished check.slot.text else .isUnfinished check.slot.text) := by
  cases many : check.many with
  | true =>
    have spelt : check.line = "if !SwiftProtobuf.Internal.areAllInitialized(" ++ check.slot.text
        ++ ") \x7breturn false\x7d\n" := by
      simp only [ValueCheck.line, many, if_true, String.append_assoc]
      rfl
    have split : check.line.toList = "if ".toList
        ++ ("!SwiftProtobuf.Internal.areAllInitialized(" ++ check.slot.text ++ ") \x7breturn false\x7d\n").toList := by
      have opening : "if !SwiftProtobuf.Internal.areAllInitialized("
          = "if " ++ "!SwiftProtobuf.Internal.areAllInitialized(" := rfl
      rw [spelt, opening]
      simp only [String.append_assoc, String.toList_append]
    have goesOn : check.line ≠ "return true\n" := by
      refine @ne_of_head _ _ 'i' ?_ (by decide)
      rw [split]
      rfl
    have begins : ("!SwiftProtobuf.Internal.areAllInitialized(" ++ check.slot.text
        ++ ") \x7breturn false\x7d\n").toList.head? = some '!' := by
      rw [String.append_assoc, String.toList_append]
      rfl
    unfold read?
    rw [if_neg goesOn, split, between?_of_differ toList_openings.1 begins (by decide), ← split, spelt, between?_append]
    rfl
  | false =>
    have spelt : check.line = "if let v = " ++ check.slot.text ++ ", !v.isInitialized \x7breturn false\x7d\n" := by
      simp only [ValueCheck.line, many, Bool.false_eq_true, if_false, String.append_assoc]
      rfl
    have goesOn : check.line ≠ "return true\n" := by
      refine @ne_of_head _ _ 'i' ?_ (by decide)
      rw [spelt, String.append_assoc, String.toList_append]
      rfl
    unfold read?
    rw [if_neg goesOn, spelt, between?_append]
    rfl

end CheckStatement

/-! ### The property of a struct -/

namespace StructDecl

/-- **The lines of the property that checks the required fields**, read in the code of a struct, if there is one. -/
def checksBody? (decl : StructDecl) : Option (List String) :=
  (decl.code.memberBody? fun line => VariableHead.read? line = some ⟨"isInitialized", false⟩).map (·.map (·.2))

/-- The lines of the checks of the fields. -/
def checkLines (decl : StructDecl) : List String :=
  decl.fields.flatMap (fun field => (field.required?.map RequiredCheck.line).toList)
    ++ decl.fields.flatMap fun field => (field.initialized?.map ValueCheck.line).toList

/-- The statements of the property. -/
def checkStatements (decl : StructDecl) : Code :=
  decl.fields.flatMap (fun field => (field.required?.map RequiredCheck.code).getD [])
    ++ decl.fields.flatMap (fun field => (field.initialized?.map ValueCheck.code).getD [])
    ++ Code.line "return true"

variable {decl : StructDecl}

theorem checksCode_of_checksRequired (checks : decl.checksRequired = true) : decl.checksCode
    = Code.blank ++ Code.block (decl.modifier ++ "var isInitialized: Bool \x7b")
      (decl.withStorage "return" decl.checkStatements) "\x7d" := by
  rw [checksCode, if_pos checks]
  rfl

theorem filterMap_checkStatements (decl : StructDecl) :
    decl.checkStatements.filterMap Code.stepText? = decl.checkLines ++ ["return true\n"] := by
  have required (field : FieldCode) : ((field.required?.map RequiredCheck.code).getD []).filterMap Code.stepText?
      = (field.required?.map RequiredCheck.line).toList := by
    cases field.required? <;> rfl
  have values (field : FieldCode) : ((field.initialized?.map ValueCheck.code).getD []).filterMap Code.stepText?
      = (field.initialized?.map ValueCheck.line).toList := by
    cases field.initialized? with
    | none => rfl
    | some check =>
      show (ValueCheck.code check).filterMap Code.stepText? = [check.line]
      unfold ValueCheck.code ValueCheck.line
      cases check.many <;> rfl
  unfold checkStatements
  rw [List.filterMap_append, List.filterMap_append, List.filterMap_flatMap, List.filterMap_flatMap]
  simp only [required, values]
  rfl

/-- The lines of the property: those of the checks, and around them on the heap what holds on to the object. -/
def bodyLines (decl : StructDecl) : List String :=
  if decl.heap then holdingLine :: (decl.checkLines ++ ["return true\n"] ++ ["\x7d\n"])
  else decl.checkLines ++ ["return true\n"]

theorem filterMap_withStorage (decl : StructDecl) :
    (decl.withStorage "return" decl.checkStatements).filterMap Code.stepText? = decl.bodyLines := by
  have lines := decl.filterMap_checkStatements
  unfold withStorage bodyLines
  cases decl.heap with
  | false => exact lines
  | true =>
    have inside : Code.block ("return" ++ " withExtendedLifetime(_storage) \x7b (_storage: _StorageClass) in")
        decl.checkStatements "\x7d" = [Step.print holdingLine, Step.indent]
          ++ (decl.checkStatements ++ [Step.outdent, Step.print "\x7d\n"]) := by
      simp [Code.block, Code.line, Code.indented]
      rfl
    simp only [if_true]
    rw [inside, List.filterMap_append, List.filterMap_append, lines]
    rfl

/-- **The property is there if the struct checks required fields**, and has the lines of their checks. -/
theorem checksBody?_eq (readable : decl.Readable) :
    decl.checksBody? = if decl.checksRequired then some decl.bodyLines else none := by
  have others : ∀ code : Code, code.MadeOf (MemberLine decl) → ∀ line ∈ code.outer,
      decide (VariableHead.read? line = some ⟨"isInitialized", false⟩) = false :=
    fun code made line among => decide_eq_false ((made.outer line among).read?_ne readable)
  unfold checksBody?
  rw [code_eq_around]
  cases checks : decl.checksRequired with
  | false =>
    have made := (madeOf_beforeChecks readable).append (madeOf_afterChecks readable)
    have none : decl.checksCode = [] := by
      rw [checksCode, checks]
      rfl
    rw [none, List.append_nil, Code.memberBody?_eq_none made.balanced (others _ made)]
    rfl
  | true =>
    have front := (madeOf_beforeChecks readable).append (.lines .blank)
    have found : decide (VariableHead.read? (decl.modifier ++ "var isInitialized: Bool \x7b" ++ "\n")
        = some ⟨"isInitialized", false⟩) = true := decide_eq_true (read?_checksHead readable.access)
    have inside : (decl.withStorage "return" decl.checkStatements).Balanced :=
      decl.balanced_withStorage decl.balanced_checks
    have body := Code.memberBody?_declaration front.balanced inside decl.balanced_afterChecks (others _ front) found
      "\x7d" decl.comments decl.opening "\x7d"
    rw [checksCode_of_checksRequired checks, ← List.append_assoc]
    refine (congrArg (Option.map _) body).trans ?_
    rw [Option.map_some, Code.map_snd_texts, filterMap_withStorage]
    rfl

/-- The lines of checks start like conditions. -/
theorem head?_of_mem_checkLines {line : String} (among : line ∈ decl.checkLines) : line.toList.head? = some 'i' := by
  have required (check : RequiredCheck) : check.line.toList.head? = some 'i' := by
    simp only [RequiredCheck.line, String.append_assoc, String.toList_append]
    rfl
  have values (check : ValueCheck) : check.line.toList.head? = some 'i' := by
    unfold ValueCheck.line
    cases check.many <;>
      simp only [String.append_assoc, String.toList_append, if_true, if_false, Bool.false_eq_true] <;> rfl
  rcases List.mem_append.mp among with inRequired | inValues
  · obtain ⟨field, _, isLine⟩ := List.mem_flatMap.mp inRequired
    obtain ⟨check, _, rfl⟩ := Option.map_eq_some_iff.mp (Option.mem_toList.mp isLine)
    exact required check
  · obtain ⟨field, _, isLine⟩ := List.mem_flatMap.mp inValues
    obtain ⟨check, _, rfl⟩ := Option.map_eq_some_iff.mp (Option.mem_toList.mp isLine)
    exact values check

/-- **The property gives the answer of its checks**, whether it holds on to an object meanwhile or not. -/
theorem answerOf?_bodyLines (state : List HeldVariable) :
    answerOf? state decl.bodyLines = runLines? state (decl.checkLines ++ ["return true\n"]) := by
  unfold bodyLines
  cases decl.heap with
  | true =>
    simp only [if_true, answerOf?]
    rw [List.getLast?_concat, if_pos rfl, List.dropLast_concat]
  | false =>
    simp only [Bool.false_eq_true, if_false]
    cases lines : decl.checkLines with
    | nil => rfl
    | cons first rest =>
      have other : first ≠ holdingLine := by
        refine ne_of_head (@head?_of_mem_checkLines decl _ ?_) (by decide)
        rw [lines]
        exact List.mem_cons_self
      simp only [List.cons_append, answerOf?]
      rw [if_neg other]

end StructDecl

end ProtoSwift
