/-
**A response is read as it is written.**

The message that a plugin writes has a field for the wording of an error and one for each file. What reads it may
find both or none, and settings that this plugin never makes. A plugin writes either an error or files.

* `Answer`, `AnswerFile` — the message that is written, with all that may be set in it;
* `Answer.encode`, `Answer.decode` — how it is written and read;
* `Answer.decode_encode` — reading gives back what was written;
* `Delimited.flatMap_encode_inj` — fields with texts come apart in one way only;
* `Response.answer`, `Response.decode_encode` — a response as such a message, which is what is read of it;
* `Response.eq_of_encode_eq` — no two responses are written alike, however long they are.
-/

import ProtoSwift.Plugin
import ProtoSwift.Proofs.Wire.Entries

namespace ProtoSwift

open Wire

theorem Text.utf8_inj {first second : String} (same : utf8 first = utf8 second) : first = second := by
  have read := ofUtf8?_utf8 first
  rw [same, ofUtf8?_utf8] at read
  exact (Option.some.inj read).symm

/-! ### The message -/

/-- A file in a response. -/
structure AnswerFile where
  name? : Option String := none
  insertionPoint? : Option String := none
  content? : Option String := none
  deriving DecidableEq, Repr

/-- A response as a message. -/
structure Answer where
  error? : Option String := none
  features? : Option UInt64 := none
  files : List AnswerFile := []
  deriving DecidableEq, Repr

def AnswerFile.format (depth : Nat) : Format AnswerFile :=
  { name := "File", depth
    fields := [
      .string 1 "name" fun name value => { value with name? := some name },
      .string 2 "insertion_point" fun point value => { value with insertionPoint? := some point },
      .string 15 "content" fun content value => { value with content? := some content }] }

def AnswerFile.entries (file : AnswerFile) : List Entry :=
  Entry.optional (.string 1) file.name?
    ++ Entry.optional (.string 2) file.insertionPoint?
    ++ Entry.optional (.string 15) file.content?

theorem AnswerFile.reads (file : AnswerFile) (depth : Nat) : (format depth).Reads depth file.entries {} file := by
  simp only [entries, List.append_assoc]
  refine .append (.string (fun name? value => { value with name? }) rfl (by decide) rfl rfl) ?_
  refine .append (.string (fun insertionPoint? value => { value with insertionPoint? }) rfl (by decide) rfl rfl) ?_
  exact .string (fun content? value => { value with content? }) rfl (by decide) rfl rfl

/-- There are no messages inside a file. -/
theorem AnswerFile.nesting_le (file : AnswerFile) : Entry.nestingOf file.entries ≤ 0 := by
  rw [Entry.nestingOf_le_iff]
  simp only [entries, List.mem_append, Entry.mem_optional_iff]
  rintro entry ((⟨name, _, rfl⟩ | ⟨point, _, rfl⟩) | ⟨content, _, rfl⟩) <;> exact Nat.le_refl 0

namespace Answer

def format (depth : Nat) : Format Answer :=
  { name := "CodeGeneratorResponse", depth
    fields := [
      .string 1 "error" fun text value => { value with error? := some text },
      .number 2 "supported_features" fun number value => { value with features? := some (.ofNat number) },
      .message 15 "file" (Format.below depth AnswerFile.format) (fun _ => {})
        fun new value => { value with files := value.files ++ [new] }] }

def entries (answer : Answer) : List Entry :=
  Entry.optional (.string 1) answer.error?
    ++ Entry.optional (fun number => .number 2 number.toNat) answer.features?
    ++ answer.files.map fun file => .message 15 file.entries

/-- The bytes of a response. -/
def encode (answer : Answer) : List UInt8 :=
  Entry.encodeAll answer.entries

/-- The response that bytes stand for. -/
def decode (bytes : List UInt8) : Except DecodeError Answer :=
  (format Schema.Request.depthLimit).decode {} bytes

theorem reads (answer : Answer) (depth : Nat) : (format depth).Reads depth answer.entries {} answer := by
  simp only [entries, List.append_assoc]
  refine .append (.string (fun error? value => { value with error? }) rfl (by decide) rfl rfl) ?_
  refine .append (.optional (fun features? value => { value with features? }) rfl (fun number => ?_) rfl) ?_
  · refine .number rfl (by decide) number.toNat_lt ?_
    simp
  exact .all (fun files value => { value with files }) rfl
    (fun file _ _ => .message rfl (by decide) file.reads rfl) rfl

/-- There are no messages inside a response but its files. -/
theorem nesting_le (answer : Answer) : Entry.nestingOf answer.entries ≤ 1 := by
  rw [Entry.nestingOf_le_iff]
  simp only [entries, List.mem_append, Entry.mem_optional_iff, List.mem_map]
  rintro entry ((⟨text, _, rfl⟩ | ⟨number, _, rfl⟩) | ⟨file, _, rfl⟩)
  · exact Nat.zero_le 1
  · exact Nat.zero_le 1
  · exact Nat.succ_le_succ file.nesting_le

/-- **Reading gives back what was written.** -/
theorem decode_encode {answer : Answer} (short : answer.encode.length < numberBound) :
    decode answer.encode = .ok answer :=
  (answer.reads Schema.Request.depthLimit).decode (Nat.le_trans answer.nesting_le (by decide)) short

end Answer

/-! ### Bytes in a row -/

/-- A field with bytes after their number. -/
structure Delimited where
  tag : Nat
  bytes : List UInt8

namespace Delimited

def encode (field : Delimited) : List UInt8 :=
  encodeDelimited field.tag field.bytes

/-- **Such fields in a row come apart in one way only.** -/
theorem flatMap_encode_inj {first second : List Delimited}
    (same : first.flatMap encode = second.flatMap encode) : first = second := by
  have some : ∀ field : Delimited, ∀ rest, field.encode ++ rest ≠ [] := by
    simp [encode, encodeDelimited, encodeVarint_ne_nil]
  induction first generalizing second with
  | nil =>
    cases second with
    | nil => rfl
    | cons field rest => exact absurd same.symm (some field _)
  | cons field rest inRest =>
    cases second with
    | nil => exact absurd same (some field _)
    | cons other others =>
      obtain ⟨tags, contents, rests⟩ := encodeDelimited_append_inj same
      obtain ⟨tag, bytes⟩ := field
      obtain rfl : tag = other.tag := tags
      obtain rfl : bytes = other.bytes := contents
      rw [inRest rests]

end Delimited

/-! ### What a plugin writes -/

/-- A generated file in a response. -/
def OutputFile.answer (file : OutputFile) : AnswerFile :=
  { name? := some file.name, content? := some file.content }

namespace Response

/-- The response as a message: all files, or the wording of the error. -/
def answer : Response → Answer
  | files outputs => { files := outputs.map OutputFile.answer }
  | failure message => { error? := some message }

theorem encodeFile_eq (file : OutputFile) : encodeFile file = Entry.encodeAll file.answer.entries := by
  show _ = encodeString 1 file.name ++ (encodeString 15 file.content ++ [])
  rw [List.append_nil]
  rfl

theorem encode_eq (response : Response) : response.encode = response.answer.encode := by
  cases response with
  | failure message =>
    show encodeString 1 message = encodeString 1 message ++ []
    rw [List.append_nil]
  | files outputs =>
    show outputs.flatMap _ = Entry.encodeAll ((outputs.map _).map _)
    rw [Entry.encodeAll_eq_flatMap, List.map_map, List.flatMap_map]
    simp only [encodeFile_eq]
    rfl

/-- **A response is read as it is written.** -/
theorem decode_encode {response : Response} (short : response.encode.length < numberBound) :
    Answer.decode response.encode = .ok response.answer := by
  rw [encode_eq] at short ⊢
  exact Answer.decode_encode short

/-! ### Responses that are written alike -/

/-- The fields of a generated file. -/
def fileFields (file : OutputFile) : List Delimited :=
  [⟨1, Text.utf8 file.name⟩, ⟨15, Text.utf8 file.content⟩]

/-- The fields of a response. -/
def fields : Response → List Delimited
  | files outputs => outputs.map fun file => ⟨15, encodeFile file⟩
  | failure message => [⟨1, Text.utf8 message⟩]

theorem encodeFile_eq_flatMap (file : OutputFile) : encodeFile file = (fileFields file).flatMap Delimited.encode := by
  show _ = encodeString 1 file.name ++ (encodeString 15 file.content ++ [])
  rw [List.append_nil]
  rfl

theorem encode_eq_flatMap (response : Response) : response.encode = response.fields.flatMap Delimited.encode := by
  cases response with
  | files outputs =>
    unfold encode fields
    rw [List.flatMap_map]
    rfl
  | failure message => exact (List.append_nil _).symm

theorem encodeFile_inj {first second : OutputFile} (same : encodeFile first = encodeFile second) :
    first = second := by
  obtain ⟨name, content⟩ := first
  obtain ⟨otherName, otherContent⟩ := second
  rw [encodeFile_eq_flatMap, encodeFile_eq_flatMap] at same
  have fields := Delimited.flatMap_encode_inj same
  simp only [fileFields, List.cons.injEq, Delimited.mk.injEq, and_true, true_and] at fields
  obtain ⟨names, contents⟩ := fields
  obtain rfl : name = otherName := Text.utf8_inj names
  obtain rfl : content = otherContent := Text.utf8_inj contents
  rfl

/-- **No two responses are written alike**, whatever their texts are and however long. -/
theorem eq_of_encode_eq {first second : Response} (same : first.encode = second.encode) : first = second := by
  rw [encode_eq_flatMap, encode_eq_flatMap] at same
  have fields := Delimited.flatMap_encode_inj same
  cases first with
  | failure message =>
    cases second with
    | failure other =>
      simp only [Response.fields, List.cons.injEq, Delimited.mk.injEq, and_true, true_and] at fields
      rw [Text.utf8_inj fields]
    | files others => cases others <;> simp [Response.fields] at fields
  | files outputs =>
    cases second with
    | failure other => cases outputs <;> simp [Response.fields] at fields
    | files others =>
      refine congrArg files (List.map_inj_right (fun file other same => ?_) |>.mp fields)
      exact encodeFile_inj (Delimited.mk.inj same).2

end Response

end ProtoSwift
