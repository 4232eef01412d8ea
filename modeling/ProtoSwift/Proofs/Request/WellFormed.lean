/-
**Which requests are well-formed, and what is checked first.**

The definitions here speak of the request alone: of its parameter, its files, and the fields of the messages
to generate. How files are generated does not matter.

* `Schema.Request.WellFormed` — nothing is wrong with a request;
* `Schema.File.Generates` — the messages for which a file has code: all but the entries of maps;
* `Request.Check`, `Schema.Request.Violates` — the checks that a request has to pass, and how it fails one;
* `Schema.Request.checks` — the checks in their order;
* `Schema.Request.wellFormed_iff` — a request is well-formed if it violates no check.
-/

import ProtoSwift.Options
import ProtoSwift.Field.Default
import ProtoSwift.Proofs.Field.Resolution
import Mathlib.Tactic.ByContra

namespace ProtoSwift

open Schema

namespace Schema

/-! ### Messages to generate -/

/-- **The messages for which a file has code**: those at its top, and those inside one of them that are not
the entry of a map. -/
inductive File.Generates (file : File) : Message → Prop
  | top {message : Message} (declared : message ∈ file.messages) : Generates file message
  | nested {outer message : Message} (inside : Generates file outer)
    (declared : message ∈ outer.messages) (noEntry : message.isMapEntry = false) :
    Generates file message

mutual

/-- A message and the messages inside it that have code, each before those inside it. -/
def Message.generated : Message → List Message
  | message@⟨_, _, messages, _, _⟩ => message :: generatedOf messages

/-- The messages of a list and inside them that have code. -/
def Message.generatedOf : List Message → List Message
  | [] => []
  | message :: rest =>
    if message.isMapEntry then generatedOf rest else generated message ++ generatedOf rest

end

/-- The messages for which a file has code, in order. -/
def File.generated (file : File) : List Message :=
  file.messages.flatMap Message.generated

theorem Message.mem_generated_self (message : Message) : message ∈ message.generated := by
  cases message
  unfold Message.generated
  exact List.mem_cons_self

mutual

theorem Message.generates_of_mem_generated {file : File} {message : Message} :
    (outer : Message) → file.Generates outer → message ∈ outer.generated → file.Generates message
  | outer@⟨_, _, messages, _, _⟩, inside, member => by
    unfold Message.generated at member
    rcases List.mem_cons.mp member with rfl | member
    · exact inside
    · exact generates_of_mem_generatedOf messages (fun _ declared => .nested inside declared) member

theorem Message.generates_of_mem_generatedOf {file : File} {message : Message} :
    (messages : List Message) →
    (∀ inner ∈ messages, inner.isMapEntry = false → file.Generates inner) →
    message ∈ generatedOf messages → file.Generates message
  | [], _, member => by
    unfold Message.generatedOf at member
    exact absurd member List.not_mem_nil
  | inner :: rest, inside, member => by
    unfold Message.generatedOf at member
    have insideRest : ∀ other ∈ rest, other.isMapEntry = false → file.Generates other :=
      fun other among => inside other (List.mem_cons_of_mem _ among)
    split at member
    · exact generates_of_mem_generatedOf rest insideRest member
    · rename_i noEntry
      rcases List.mem_append.mp member with member | member
      · exact generates_of_mem_generated inner
          (inside inner List.mem_cons_self (by simpa using noEntry)) member
      · exact generates_of_mem_generatedOf rest insideRest member

end

/-- The messages of a list that are no entries of maps have code. -/
theorem Message.mem_generatedOf {message : Message} {messages : List Message}
    (declared : message ∈ messages) (noEntry : message.isMapEntry = false) :
    message ∈ generatedOf messages := by
  induction messages with
  | nil => exact absurd declared List.not_mem_nil
  | cons first rest inRest =>
    unfold generatedOf
    rcases List.mem_cons.mp declared with rfl | among
    · simp [noEntry, mem_generated_self]
    · split
      · exact inRest among
      · exact List.mem_append_right _ (inRest among)

mutual

/-- What is generated inside a message, what is declared inside that is generated, too. -/
theorem Message.mem_generated_of_nested {outer message : Message} (declared : message ∈ outer.messages)
    (noEntry : message.isMapEntry = false) :
    (whole : Message) → outer ∈ whole.generated → message ∈ whole.generated
  | whole@⟨_, _, messages, _, _⟩, member => by
    unfold Message.generated at member ⊢
    refine List.mem_cons_of_mem _ ?_
    rcases List.mem_cons.mp member with rfl | member
    · exact mem_generatedOf declared noEntry
    · exact mem_generatedOf_of_nested declared noEntry messages member

theorem Message.mem_generatedOf_of_nested {outer message : Message}
    (declared : message ∈ outer.messages) (noEntry : message.isMapEntry = false) :
    (messages : List Message) → outer ∈ generatedOf messages → message ∈ generatedOf messages
  | [], member => by
    unfold Message.generatedOf at member
    exact absurd member List.not_mem_nil
  | inner :: rest, member => by
    unfold Message.generatedOf at member ⊢
    split at member
    · simp only [*, if_true]
      exact mem_generatedOf_of_nested declared noEntry rest member
    · simp only [*, if_false, Bool.false_eq_true]
      rcases List.mem_append.mp member with member | member
      · exact List.mem_append_left _ (mem_generated_of_nested declared noEntry inner member)
      · exact List.mem_append_right _ (mem_generatedOf_of_nested declared noEntry rest member)

end

/-- **The list holds exactly the messages for which a file has code.** -/
theorem File.mem_generated_iff {file : File} {message : Message} :
    message ∈ file.generated ↔ file.Generates message := by
  constructor
  · intro member
    obtain ⟨top, declared, member⟩ := List.mem_flatMap.mp member
    exact Message.generates_of_mem_generated top (.top declared) member
  · intro generates
    induction generates with
    | top declared => exact List.mem_flatMap.mpr ⟨_, declared, Message.mem_generated_self _⟩
    | nested _ declared noEntry inGenerated =>
      obtain ⟨top, topDeclared, member⟩ := List.mem_flatMap.mp inGenerated
      exact List.mem_flatMap.mpr
        ⟨top, topDeclared, Message.mem_generated_of_nested declared noEntry top member⟩

/-- The fields for which a message has code: the members of a oneof are left out. -/
def Message.keptFields (message : Message) : List Field :=
  message.fields.filter (!·.isOneofMember)

/-! ### Sound defaults -/

/-- The default that a field declares can be written: bytes can be decoded, and an enumeration has the value
in one of the declarations of its name. -/
structure Field.DefaultSound (table : SymbolTable) (field : Field) : Prop where
  bytes : ∀ text, field.kind = .scalar .bytes → field.default? = some text →
    text = "" ∨ ∃ bytes, Text.CEscape.decode (Text.utf8 text) = .ok bytes
  enumeration : ∀ text, field.kind = .enumeration → field.default? = some text →
    ∃ node ∈ table.enums, node.fullName.text = field.typeName
      ∧ ∃ value ∈ node.schema.values, value.name = text

/-- Why the default that a field declares cannot be written. -/
inductive Field.DefaultFault (table : SymbolTable) (field : Field) : Error → Prop
  | bytes {text : String} {fault : Text.CEscape.Fault} (kind : field.kind = .scalar .bytes)
    (declared : field.default? = some text) (some : text ≠ "")
    (undecodable : Text.CEscape.decode (Text.utf8 text) = .error fault) :
    DefaultFault table field (.invalidDefault field.name text fault)
  | enumeration {text : String} (kind : field.kind = .enumeration)
    (declared : field.default? = some text)
    (unknown : ∀ node ∈ table.enums, node.fullName.text = field.typeName →
      ∀ value ∈ node.schema.values, value.name ≠ text) :
    DefaultFault table field (.unresolvedEnumCase field.typeName text)

/-- **A default is sound if there is no fault in it.** -/
theorem Field.defaultSound_iff {table : SymbolTable} {field : Field} :
    field.DefaultSound table ↔ ∀ cause, ¬ field.DefaultFault table cause := by
  constructor
  · rintro ⟨bytesSound, enumSound⟩ cause fault
    cases fault with
    | bytes kind declared some undecodable =>
      rcases bytesSound _ kind declared with empty | ⟨bytes, decoded⟩
      · exact some empty
      · rw [undecodable] at decoded
        cases decoded
    | enumeration kind declared unknown =>
      obtain ⟨node, member, named, value, among, same⟩ := enumSound _ kind declared
      exact unknown node member named value among same
  · intro faultless
    refine ⟨fun text kind declared => ?_, fun text kind declared => ?_⟩
    · by_cases empty : text = ""
      · exact .inl empty
      · cases decoded : Text.CEscape.decode (Text.utf8 text) with
        | ok bytes => exact .inr ⟨bytes, rfl⟩
        | error fault => exact absurd (.bytes kind declared empty decoded) (faultless _)
    · by_contra missing
      refine faultless _ (.enumeration kind declared ?_)
      intro node member named value among same
      exact missing ⟨node, member, named, value, among, same⟩

/-! ### Requests -/

namespace Request

variable {request : Request}

/-- The era of a file, where one that is unknown counts as the second. -/
def eraOf (file : File) : Era :=
  (Era.ofDeclared file.era?).toOption.getD .proto2

/-- The declared types of a request. -/
def table (request : Request) : SymbolTable :=
  ⟨request.files.map fun file => FileNode.declare (eraOf file) file⟩

/-- The first file with a name. -/
def file? (request : Request) (name : String) : Option File :=
  request.files.find? (·.name = name)

/-- A field for which some requested file has code. -/
def Keeps (request : Request) (field : Field) : Prop :=
  ∃ name ∈ request.filesToGenerate, ∃ file, request.file? name = some file
    ∧ ∃ message, file.Generates message ∧ field ∈ message.fields ∧ field.isOneofMember = false

/-- **A well-formed request.** -/
structure WellFormed (request : Request) : Prop where
  parameter : ∃ options, Options.parse request.parameter = .ok options
  eras : ∀ file ∈ request.files, file.era? = none ∨ file.era? = some "" ∨ file.era? = some "proto2"
    ∨ file.era? = some "proto3"
  supplied : ∀ name ∈ request.filesToGenerate, ∃ file ∈ request.files, file.name = name
  typed : ∀ field, request.Keeps field → ∃ type, FieldType.Resolves request.table field type
  sound : ∀ field, request.Keeps field → field.DefaultSound request.table

/-- Something that a request is checked for. -/
inductive Check
  | parameter
  | era (file : File)
  /-- A file is requested by its name. -/
  | supply (name : String)
  /-- The type of a field is looked up. -/
  | reference (field : Field)
  | default (field : Field)

/-- **How a request fails a check**, and the error for it. -/
inductive Violates (request : Request) : Check → Error → Prop
  | parameter {cause : Error} (unread : Options.parse request.parameter = .error cause) :
    Violates request .parameter cause
  | era {file : File} {text : String} (declared : file.era? = some text)
    (unknown : text ≠ "" ∧ text ≠ "proto2" ∧ text ≠ "proto3") :
    Violates request (.era file) (.unsupportedEra text)
  | supply {name : String} (missing : ∀ file ∈ request.files, file.name ≠ name) :
    Violates request (.supply name) (.unknownFile name)
  | reference {field : Field} {cause : Error} (fault : FieldType.Fault request.table field cause) :
    Violates request (.reference field) cause
  | default {field : Field} {cause : Error} (fault : field.DefaultFault request.table cause) :
    Violates request (.default field) cause

/-- What is checked about a message: field by field, first the type, then the default. -/
def messageChecks (message : Message) : List Check :=
  message.keptFields.flatMap fun field => [.reference field, .default field]

/-- What is checked about a requested file. -/
def fileChecks (request : Request) (name : String) : List Check :=
  .supply name ::
    ((request.file? name).map fun file => file.generated.flatMap messageChecks).getD []

/-- **The checks of a request, in their order.** -/
def checks (request : Request) : List Check :=
  .parameter :: (request.files.map .era ++ request.filesToGenerate.flatMap request.fileChecks)

/-! ### No violation -/

variable {file : File} {name : String} {field : Field}

theorem parameter_mem_checks : .parameter ∈ request.checks :=
  List.mem_cons_self

theorem mem_fileChecks {check : Check} : check ∈ request.fileChecks name ↔ check = .supply name
    ∨ ∃ file, request.file? name = some file ∧ ∃ message, file.Generates message
      ∧ ∃ field, field ∈ message.fields ∧ field.isOneofMember = false
        ∧ (check = .reference field ∨ check = .default field) := by
  unfold fileChecks
  cases request.file? name with
  | none => simp
  | some file => simp [messageChecks, Message.keptFields, File.mem_generated_iff, and_assoc]

theorem era_mem_checks : .era file ∈ request.checks ↔ file ∈ request.files := by
  simp [checks, mem_fileChecks]

theorem supply_mem_checks : .supply name ∈ request.checks ↔ name ∈ request.filesToGenerate := by
  simp [checks, mem_fileChecks]

theorem reference_mem_checks : .reference field ∈ request.checks ↔ request.Keeps field := by
  simp [checks, Keeps, mem_fileChecks]

theorem default_mem_checks : .default field ∈ request.checks ↔ request.Keeps field := by
  simp [checks, Keeps, mem_fileChecks]

/-- **A request is well-formed if it violates no check.** -/
theorem wellFormed_iff (ends : request.table.EntriesEnd) :
    request.WellFormed ↔ ∀ check ∈ request.checks, ∀ cause, ¬ request.Violates check cause := by
  constructor
  · rintro wellFormed check member cause violated
    cases violated with
    | parameter unread =>
      obtain ⟨options, read⟩ := wellFormed.parameter
      rw [unread] at read
      cases read
    | era declared unknown =>
      have known := wellFormed.eras _ (era_mem_checks.mp member)
      simp [declared, unknown] at known
    | supply missing =>
      obtain ⟨file, supplied, named⟩ := wellFormed.supplied _ (supply_mem_checks.mp member)
      exact missing file supplied named
    | reference fault =>
      obtain ⟨type, resolves⟩ := wellFormed.typed _ (reference_mem_checks.mp member)
      have resolved := (FieldType.resolve_eq_ok_iff ends).mpr resolves
      rw [(FieldType.resolve_eq_error_iff ends).mpr fault] at resolved
      cases resolved
    | default fault =>
      have sound := wellFormed.sound _ (default_mem_checks.mp member)
      exact Field.defaultSound_iff.mp sound _ fault
  · intro unviolated
    refine ⟨?_, fun file supplied => ?_, fun name requested => ?_, fun field kept => ?_,
      fun field kept => ?_⟩
    · cases read : Options.parse request.parameter with
      | ok options => exact ⟨options, rfl⟩
      | error cause => exact absurd (.parameter read) (unviolated _ parameter_mem_checks cause)
    · by_contra unknown
      simp only [not_or] at unknown
      obtain ⟨unset, rest⟩ := unknown
      obtain ⟨text, declared⟩ := Option.ne_none_iff_exists'.mp unset
      refine unviolated _ (era_mem_checks.mpr supplied) _ (.era declared ?_)
      simpa [declared] using rest
    · by_contra missing
      refine unviolated _ (supply_mem_checks.mpr requested) _ (.supply ?_)
      intro file supplied named
      exact missing ⟨file, supplied, named⟩
    · cases resolved : FieldType.resolve request.table field with
      | ok type => exact ⟨type, FieldType.resolves_of_resolve resolved⟩
      | error cause =>
        have fault := (FieldType.resolve_eq_error_iff ends).mp resolved
        exact absurd (.reference fault) (unviolated _ (reference_mem_checks.mpr kept) cause)
    · refine Field.defaultSound_iff.mpr fun cause fault => ?_
      exact unviolated _ (default_mem_checks.mpr kept) cause (.default fault)

end Request

end Schema

end ProtoSwift
