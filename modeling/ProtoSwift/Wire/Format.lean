/-
**Message formats: which tags a message has and how their values are read.**

A format is a table of fields. Fields of a tag that the table lacks are passed over. A value that occurs
again replaces the one before it, except that messages are merged and lists are extended.

* `Format` — the table of a message;
* `Format.mergeField` — reads one field into a value;
* `Format.decode` — reads a whole input.
-/

import ProtoSwift.Text.Utf8
import ProtoSwift.Wire.Reader

namespace ProtoSwift.Wire

/-- A field of a message: its tag, its name, and how a value with a wire type is read into the message. -/
structure FieldFormat (α : Type) where
  tag : Nat
  name : String
  merge : WireType → α → Reader α

/-- A message: its name, how many more messages or groups may nest inside, and its fields. -/
structure Format (α : Type) where
  name : String
  depth : Nat
  fields : List (FieldFormat α)

namespace Format

variable {α : Type}

/-- Reads one field into a value. -/
def mergeField (format : Format α) (value : α) : Reader α := do
  let (tag, wire) ← key
  match format.fields.find? (·.tag = tag) with
  | some field => inside ⟨format.name, field.name⟩ (field.merge wire value)
  | none =>
    skip format.depth wire tag
    return value

/-- Reads all of the input into a value. -/
def decode (format : Format α) (empty : α) (bytes : List UInt8) : Except DecodeError α :=
  let input := Input.ofList bytes
  (repeatAbove format.mergeField 0 input.size empty input).map Prod.fst

/-- The format of messages one level further in, unless the level is the last one. -/
def below (depth : Nat) (format : Nat → Format α) : Option (Format α) :=
  match depth with
  | 0 => none
  | depth + 1 => some (format depth)

end Format

/-! ## Kinds of fields -/

namespace FieldFormat

variable {α β : Type}

/-- A wire type other than the expected one is an error. -/
def expect (expected actual : WireType) : Reader Unit :=
  if actual = expected then return () else fail (.unexpectedWireType actual expected)

/-- A field whose value is a number. -/
def number (tag : Nat) (name : String) (put : Nat → α → α) : FieldFormat α :=
  { tag, name, merge := fun wire value => do
      expect .varint wire
      return put (← varint) value }

/-- A field whose value is a number of 32 bits with a sign. Higher bits do not count. -/
def int32 (tag : Nat) (name : String) (put : Int32 → α → α) : FieldFormat α :=
  number tag name fun read => put (Int32.ofNat read)

/-- A field whose value is true unless it is zero. -/
def bool (tag : Nat) (name : String) (put : Bool → α → α) : FieldFormat α :=
  number tag name fun read => put (read != 0)

/-- A field whose value is a text. -/
def string (tag : Nat) (name : String) (put : String → α → α) : FieldFormat α :=
  { tag, name, merge := fun wire value => do
      expect .lengthDelimited wire
      match Text.ofUtf8? (← delimitedBytes) with
      | some text => return put text value
      | none => fail .notUtf8 }

/-- A field with a list of numbers of 32 bits, each with a key of its own or many after one key. -/
def int32s (tag : Nat) (name : String) (put : Int32 → α → α) : FieldFormat α :=
  { tag, name, merge := fun wire value => do
      let one := fun value => do return put (Int32.ofNat (← varint)) value
      if wire = .lengthDelimited then delimited one value
      else
        expect .varint wire
        one value }

/-- A field whose value is a message. It starts from the value that `get` finds. -/
def message (tag : Nat) (name : String) (inner? : Option (Format β)) (get : α → β)
    (put : β → α → α) : FieldFormat α :=
  { tag, name, merge := fun wire value => do
      expect .lengthDelimited wire
      match inner? with
      | some inner => return put (← delimited inner.mergeField (get value)) value
      | none => fail .recursionLimitReached }

end FieldFormat

end ProtoSwift.Wire
