/-
**Requests in wire format.**

* `Request.format` — the format of a request, and those of everything inside it;
* `Request.decode` — the request that bytes stand for.

Fields that are not listed are passed over. Message and field names appear in the text of errors.

The tables have the fields that generating code depends on. The others of a full schema are passed over as unknown ones
are, with only their wire types read: names in JSON, what a field extends, extensions and their ranges, declarations of
oneofs, services, reserved numbers and names, which dependencies are public or weak, and all options but `map_entry`,
`packed` and `swift_prefix`. A reader that knows these fields checks what is inside them as well, and takes fewer requests:
none in which such a field has another wire type than its own, is no text where it should be, or is a message that cannot
be read. What both readers take is the same request to them.
-/

import ProtoSwift.Schema
import ProtoSwift.Wire.Format

namespace ProtoSwift.Schema

open Wire

/-! ## Enumerations -/

def EnumValue.format (depth : Nat) : Format EnumValue :=
  { name := "EnumValueDescriptorProto", depth
    fields := [
      .string 1 "name" fun name value => { value with name? := some name },
      .int32 2 "number" fun number value => { value with number? := some number }] }

def Enumeration.format (depth : Nat) : Format Enumeration :=
  { name := "EnumDescriptorProto", depth
    fields := [
      .string 1 "name" fun name value => { value with name? := some name },
      .message 2 "value" (Format.below depth EnumValue.format) (fun _ => {})
        fun new value => { value with values := value.values ++ [new] }] }

/-! ## Fields -/

def FieldOptions.format (depth : Nat) : Format FieldOptions :=
  { name := "FieldOptions", depth
    fields := [.bool 2 "packed" fun packed value => { value with packed? := some packed }] }

def Field.format (depth : Nat) : Format Field :=
  { name := "FieldDescriptorProto", depth
    fields := [
      .string 1 "name" fun name value => { value with name? := some name },
      .int32 3 "number" fun number value => { value with number? := some number },
      .int32 4 "label" fun label value => { value with label? := some label },
      .int32 5 "r#type" fun type value => { value with type? := some type },
      .string 6 "type_name" fun name value => { value with typeName? := some name },
      .string 7 "default_value" fun text value => { value with default? := some text },
      .message 8 "options" (Format.below depth FieldOptions.format) (·.options?.getD {})
        fun options value => { value with options? := some options },
      .int32 9 "oneof_index" fun index value => { value with oneofIndex? := some index },
      .bool 17 "proto3_optional" fun flag value => { value with proto3Optional? := some flag }] }

/-! ## Messages -/

def MessageOptions.format (depth : Nat) : Format MessageOptions :=
  { name := "MessageOptions", depth
    fields := [.bool 7 "map_entry" fun flag value => { value with entryOfMap? := some flag }] }

/-- The format of a message, given the format of the messages inside it. -/
def Message.formatAround (depth : Nat) (nested? : Option (Format Message)) : Format Message :=
  { name := "DescriptorProto", depth
    fields := [
      .string 1 "name" fun name value => { value with name? := some name },
      .message 2 "field" (Format.below depth Field.format) (fun _ => {})
        fun new value => { value with fields := value.fields ++ [new] },
      .message 3 "nested_type" nested? (fun _ => {})
        fun new value => { value with messages := value.messages ++ [new] },
      .message 4 "enum_type" (Format.below depth Enumeration.format) (fun _ => {})
        fun new value => { value with enumerations := value.enumerations ++ [new] },
      .message 7 "options" (Format.below depth MessageOptions.format) (·.options?.getD {})
        fun options value => { value with options? := some options }] }

def Message.format : (depth : Nat) → Format Message
  | 0 => formatAround 0 none
  | depth + 1 => formatAround (depth + 1) (some (format depth))

/-! ## Files -/

def Location.format (depth : Nat) : Format Location :=
  { name := "Location", depth
    fields := [
      .int32s 1 "path" fun step value => { value with path := value.path ++ [step] },
      .int32s 2 "span" fun number value => { value with span := value.span ++ [number] },
      .string 3 "leading_comments" fun text value => { value with leading? := some text },
      .string 4 "trailing_comments" fun text value => { value with trailing? := some text },
      .string 6 "leading_detached_comments"
        fun text value => { value with detached := value.detached ++ [text] }] }

def SourceInfo.format (depth : Nat) : Format SourceInfo :=
  { name := "SourceCodeInfo", depth
    fields := [
      .message 1 "location" (Format.below depth Location.format) (fun _ => {})
        fun new value => { value with locations := value.locations ++ [new] }] }

def FileOptions.format (depth : Nat) : Format FileOptions :=
  { name := "FileOptions", depth
    fields := [
      .string 39 "swift_prefix" fun text value => { value with swiftPrefix? := some text }] }

def File.format (depth : Nat) : Format File :=
  { name := "FileDescriptorProto", depth
    fields := [
      .string 1 "name" fun name value => { value with name? := some name },
      .string 2 "package" fun name value => { value with package? := some name },
      .string 3 "dependency" fun name value => { value with dependencies := value.dependencies ++ [name] },
      .message 4 "message_type" (Format.below depth Message.format) (fun _ => {})
        fun new value => { value with messages := value.messages ++ [new] },
      .message 5 "enum_type" (Format.below depth Enumeration.format) (fun _ => {})
        fun new value => { value with enumerations := value.enumerations ++ [new] },
      .message 8 "options" (Format.below depth FileOptions.format) (·.options?.getD {})
        fun options value => { value with options? := some options },
      .message 9 "source_code_info" (Format.below depth SourceInfo.format) (·.sourceInfo?.getD {})
        fun info value => { value with sourceInfo? := some info },
      .string 12 "syntax" fun era value => { value with era? := some era }] }

/-! ## Requests -/

def CompilerVersion.format (depth : Nat) : Format CompilerVersion :=
  { name := "Version", depth
    fields := [
      .int32 1 "major" fun number value => { value with major? := some number },
      .int32 2 "minor" fun number value => { value with minor? := some number },
      .int32 3 "patch" fun number value => { value with patch? := some number },
      .string 4 "suffix" fun text value => { value with suffix? := some text }] }

def Request.format (depth : Nat) : Format Request :=
  { name := "CodeGeneratorRequest", depth
    fields := [
      .string 1 "file_to_generate"
        fun name value => { value with filesToGenerate := value.filesToGenerate ++ [name] },
      .string 2 "parameter" fun text value => { value with parameter? := some text },
      .message 3 "compiler_version" (Format.below depth CompilerVersion.format) (·.compiler?.getD {})
        fun version value => { value with compiler? := some version },
      .message 15 "proto_file" (Format.below depth File.format) (fun _ => {})
        fun new value => { value with files := value.files ++ [new] }] }

/-- How deeply messages may nest inside a request. -/
def Request.depthLimit : Nat :=
  100

/-- The request that bytes stand for. -/
def Request.decode (bytes : List UInt8) : Except DecodeError Request :=
  (format depthLimit).decode {} bytes

end ProtoSwift.Schema
