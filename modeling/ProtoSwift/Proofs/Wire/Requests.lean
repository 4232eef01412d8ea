/-
**Requests are read as they are written.**

Fields are written in the order of their tags. A setting that is unset is not written, but one that is set to an
empty string, to zero or to `false` is. The elements of a list have keys of their own, except the numbers of paths
and spans, which have one key together.

* `Request.entries` — the fields of a request as they are written, with those of everything inside it;
* `Request.encode` — the bytes of a request;
* `Request.nesting` — how many messages are inside each other in a request;
* `Request.reads` — a request is what its format makes of its fields;
* `Request.decode_encode` — a request that is not too deep is decoded from its bytes.
-/

import ProtoSwift.Wire.Request
import ProtoSwift.Proofs.Symbol.Place
import ProtoSwift.Proofs.Wire.Entries

namespace ProtoSwift.Schema

open Wire

/-! ### Enumerations -/

def EnumValue.entries (value : EnumValue) : List Entry :=
  Entry.optional (.string 1) value.name?
    ++ Entry.optional (.int32 2) value.number?

theorem EnumValue.reads (value : EnumValue) (depth : Nat) :
    (format depth).Reads depth value.entries {} value := by
  unfold entries
  refine .append (.string (fun name? value => { value with name? }) rfl (by decide) rfl rfl) ?_
  exact .int32 (fun number? value => { value with number? }) rfl (by decide) rfl rfl

def Enumeration.entries (enumeration : Enumeration) : List Entry :=
  Entry.optional (.string 1) enumeration.name?
    ++ enumeration.values.map fun value => .message 2 value.entries

theorem Enumeration.reads (enumeration : Enumeration) (depth : Nat) :
    (format depth).Reads depth enumeration.entries {} enumeration := by
  unfold entries
  refine .append (.string (fun name? value => { value with name? }) rfl (by decide) rfl rfl) ?_
  exact .all (fun values enumeration => { enumeration with values }) rfl
    (fun value _ _ => .message rfl (by decide) value.reads rfl) rfl

/-! ### Fields -/

def FieldOptions.entries (options : FieldOptions) : List Entry :=
  Entry.optional (.bool 2) options.packed?

theorem FieldOptions.reads (options : FieldOptions) (depth : Nat) :
    (format depth).Reads depth options.entries {} options :=
  .bool (fun packed? options => { options with packed? }) rfl (by decide) rfl rfl

def Field.entries (field : Field) : List Entry :=
  Entry.optional (.string 1) field.name?
    ++ Entry.optional (.int32 3) field.number?
    ++ Entry.optional (.int32 4) field.label?
    ++ Entry.optional (.int32 5) field.type?
    ++ Entry.optional (.string 6) field.typeName?
    ++ Entry.optional (.string 7) field.default?
    ++ Entry.optional (fun options => .message 8 options.entries) field.options?
    ++ Entry.optional (.int32 9) field.oneofIndex?
    ++ Entry.optional (.bool 17) field.proto3Optional?

theorem Field.reads (field : Field) (depth : Nat) : (format depth).Reads depth field.entries {} field := by
  simp only [entries, List.append_assoc]
  refine .append (.string (fun name? value => { value with name? }) rfl (by decide) rfl rfl) ?_
  refine .append (.int32 (fun number? value => { value with number? }) rfl (by decide) rfl rfl) ?_
  refine .append (.int32 (fun label? value => { value with label? }) rfl (by decide) rfl rfl) ?_
  refine .append (.int32 (fun type? value => { value with type? }) rfl (by decide) rfl rfl) ?_
  refine .append (.string (fun typeName? value => { value with typeName? }) rfl (by decide) rfl rfl) ?_
  refine .append (.string (fun default? value => { value with default? }) rfl (by decide) rfl rfl) ?_
  refine .append (.optional (fun options? value => { value with options? }) rfl (fun options => ?_) rfl) ?_
  · exact .message rfl (by decide) options.reads rfl
  refine .append (.int32 (fun oneofIndex? value => { value with oneofIndex? }) rfl (by decide) rfl rfl) ?_
  exact .bool (fun proto3Optional? value => { value with proto3Optional? }) rfl (by decide) rfl rfl

/-! ### Messages -/

def MessageOptions.entries (options : MessageOptions) : List Entry :=
  Entry.optional (.bool 7) options.entryOfMap?

theorem MessageOptions.reads (options : MessageOptions) (depth : Nat) :
    (format depth).Reads depth options.entries {} options :=
  .bool (fun entryOfMap? options => { options with entryOfMap? }) rfl (by decide) rfl rfl

mutual

def Message.entries : Message → List Entry
  | ⟨name?, fields, messages, enumerations, options?⟩ =>
    Entry.optional (.string 1) name?
      ++ fields.map (fun field => .message 2 field.entries)
      ++ nestedEntries messages
      ++ enumerations.map (fun enumeration => .message 4 enumeration.entries)
      ++ Entry.optional (fun options => .message 7 options.entries) options?

/-- The fields for the messages inside a message. -/
def Message.nestedEntries : List Message → List Entry
  | [] => []
  | message :: rest => .message 3 (entries message) :: nestedEntries rest

end

theorem Message.nestedEntries_eq_map (messages : List Message) :
    nestedEntries messages = messages.map fun message => .message 3 message.entries := by
  induction messages with
  | nil => rfl
  | cons message rest inRest => rw [nestedEntries, inRest, List.map_cons]

theorem Message.format_eq (depth : Nat) : format depth = formatAround depth (Format.below depth format) := by
  cases depth <;> rfl

theorem Message.reads (message : Message) (depth : Nat) :
    (format depth).Reads depth message.entries {} message := by
  induction message using Message.inductionOnNested generalizing depth with
  | step message inNested =>
    obtain ⟨name?, fields, messages, enumerations, options?⟩ := message
    simp only [entries, nestedEntries_eq_map, List.append_assoc, format_eq]
    refine .append (.string (fun name? value => { value with name? }) rfl (by decide) rfl rfl) ?_
    refine .append (.all (fun fields value => { value with fields }) rfl
      (fun field _ _ => .message rfl (by decide) field.reads rfl) rfl) ?_
    refine .append (.all (fun messages value => { value with messages }) rfl
      (fun inner among _ => .message rfl (by decide) (inNested inner among) rfl) rfl) ?_
    refine .append (.all (fun enumerations value => { value with enumerations }) rfl
      (fun enumeration _ _ => .message rfl (by decide) enumeration.reads rfl) rfl) ?_
    refine .optional (fun options? value => { value with options? }) rfl (fun options => ?_) rfl
    exact .message rfl (by decide) options.reads rfl

/-! ### Files -/

def Location.entries (location : Location) : List Entry :=
  Entry.packed 1 location.path
    ++ Entry.packed 2 location.span
    ++ Entry.optional (.string 3) location.leading?
    ++ Entry.optional (.string 4) location.trailing?
    ++ location.detached.map (.string 6)

theorem Location.reads (location : Location) (depth : Nat) :
    (format depth).Reads depth location.entries {} location := by
  simp only [entries, List.append_assoc]
  refine .append (.packed (fun path value => { value with path }) rfl (by decide) rfl (fun _ _ => rfl) rfl) ?_
  refine .append (.packed (fun span value => { value with span }) rfl (by decide) rfl (fun _ _ => rfl) rfl) ?_
  refine .append (.string (fun leading? value => { value with leading? }) rfl (by decide) rfl rfl) ?_
  refine .append (.string (fun trailing? value => { value with trailing? }) rfl (by decide) rfl rfl) ?_
  exact .all (fun detached value => { value with detached }) rfl (fun _ _ _ => .string rfl (by decide) rfl) rfl

def SourceInfo.entries (info : SourceInfo) : List Entry :=
  info.locations.map fun location => .message 1 location.entries

theorem SourceInfo.reads (info : SourceInfo) (depth : Nat) : (format depth).Reads depth info.entries {} info :=
  .all (fun locations value => { value with locations }) rfl
    (fun location _ _ => .message rfl (by decide) location.reads rfl) rfl

def FileOptions.entries (options : FileOptions) : List Entry :=
  Entry.optional (.string 39) options.swiftPrefix?

theorem FileOptions.reads (options : FileOptions) (depth : Nat) :
    (format depth).Reads depth options.entries {} options :=
  .string (fun swiftPrefix? options => { options with swiftPrefix? }) rfl (by decide) rfl rfl

def File.entries (file : File) : List Entry :=
  Entry.optional (.string 1) file.name?
    ++ Entry.optional (.string 2) file.package?
    ++ file.dependencies.map (.string 3)
    ++ file.messages.map (fun message => .message 4 message.entries)
    ++ file.enumerations.map (fun enumeration => .message 5 enumeration.entries)
    ++ Entry.optional (fun options => .message 8 options.entries) file.options?
    ++ Entry.optional (fun info => .message 9 info.entries) file.sourceInfo?
    ++ Entry.optional (.string 12) file.era?

theorem File.reads (file : File) (depth : Nat) : (format depth).Reads depth file.entries {} file := by
  simp only [entries, List.append_assoc]
  refine .append (.string (fun name? value => { value with name? }) rfl (by decide) rfl rfl) ?_
  refine .append (.string (fun package? value => { value with package? }) rfl (by decide) rfl rfl) ?_
  refine .append (.all (fun dependencies value => { value with dependencies }) rfl
    (fun _ _ _ => .string rfl (by decide) rfl) rfl) ?_
  refine .append (.all (fun messages value => { value with messages }) rfl
    (fun message _ _ => .message rfl (by decide) message.reads rfl) rfl) ?_
  refine .append (.all (fun enumerations value => { value with enumerations }) rfl
    (fun enumeration _ _ => .message rfl (by decide) enumeration.reads rfl) rfl) ?_
  refine .append (.optional (fun options? value => { value with options? }) rfl (fun options => ?_) rfl) ?_
  · exact .message rfl (by decide) options.reads rfl
  refine .append (.optional (fun sourceInfo? value => { value with sourceInfo? }) rfl (fun info => ?_) rfl) ?_
  · exact .message rfl (by decide) info.reads rfl
  exact .string (fun era? value => { value with era? }) rfl (by decide) rfl rfl

/-! ### Requests -/

def CompilerVersion.entries (version : CompilerVersion) : List Entry :=
  Entry.optional (.int32 1) version.major?
    ++ Entry.optional (.int32 2) version.minor?
    ++ Entry.optional (.int32 3) version.patch?
    ++ Entry.optional (.string 4) version.suffix?

theorem CompilerVersion.reads (version : CompilerVersion) (depth : Nat) :
    (format depth).Reads depth version.entries {} version := by
  simp only [entries, List.append_assoc]
  refine .append (.int32 (fun major? value => { value with major? }) rfl (by decide) rfl rfl) ?_
  refine .append (.int32 (fun minor? value => { value with minor? }) rfl (by decide) rfl rfl) ?_
  refine .append (.int32 (fun patch? value => { value with patch? }) rfl (by decide) rfl rfl) ?_
  exact .string (fun suffix? value => { value with suffix? }) rfl (by decide) rfl rfl

namespace Request

def entries (request : Request) : List Entry :=
  request.filesToGenerate.map (.string 1)
    ++ Entry.optional (.string 2) request.parameter?
    ++ Entry.optional (fun version => .message 3 version.entries) request.compiler?
    ++ request.files.map (fun file => .message 15 file.entries)

/-- **The bytes of a request.** -/
def encode (request : Request) : List UInt8 :=
  Entry.encodeAll request.entries

/-- How many messages are inside each other in a request, which is not counted. -/
def nesting (request : Request) : Nat :=
  Entry.nestingOf request.entries

/-- **A request is what its format makes of its fields.** -/
theorem reads (request : Request) (depth : Nat) : (format depth).Reads depth request.entries {} request := by
  simp only [entries, List.append_assoc]
  refine .append (.all (fun filesToGenerate value => { value with filesToGenerate }) rfl
    (fun _ _ _ => .string rfl (by decide) rfl) rfl) ?_
  refine .append (.string (fun parameter? value => { value with parameter? }) rfl (by decide) rfl rfl) ?_
  refine .append (.optional (fun compiler? value => { value with compiler? }) rfl (fun version => ?_) rfl) ?_
  · exact .message rfl (by decide) version.reads rfl
  exact .all (fun files value => { value with files }) rfl
    (fun file _ _ => .message rfl (by decide) file.reads rfl) rfl

/-- **A request is decoded from its bytes**, unless it is too deep. -/
theorem decode_encode {request : Request} (shallow : request.nesting ≤ depthLimit)
    (short : request.encode.length < numberBound) : decode request.encode = .ok request :=
  (request.reads depthLimit).decode shallow short

end Request

end ProtoSwift.Schema
