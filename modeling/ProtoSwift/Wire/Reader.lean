/-
**Reading the parts of a message from bytes.**

* `varint` — a number in groups of seven bits, the lowest first;
* `key` — the tag and wire type in front of a value;
* `delimitedBytes` — bytes after their number;
* `skip` — an unknown field, passed over.
-/

import ProtoSwift.Wire.Fault
import ProtoSwift.Wire.Input

namespace ProtoSwift.Wire

/-- A computation that consumes input. -/
abbrev Reader :=
  StateT Input (Except DecodeError)

/-- Reading fails. -/
def fail {α : Type} (fault : Fault) : Reader α :=
  throw { fault }

/-- Reading as part of the value of a field. -/
def inside {α : Type} (field : FieldName) (reader : Reader α) : Reader α := fun input =>
  (reader input).mapError (·.inside field)

/-! ## Numbers -/

/-- A varint of at most the given number of bytes, the last of which may be at most one. -/
def varintWithin : Nat → Input → Option (Nat × Input)
  | 0, _ => none
  | allowed + 1, input =>
    match input.next? with
    | none => none
    | some (byte, rest) =>
      if byte < 128 then
        if allowed = 0 ∧ 2 ≤ byte then none else some (byte.toNat, rest)
      else
        (varintWithin allowed rest).map fun (high, rest) => (byte.toNat - 128 + 128 * high, rest)

/-- A number below `2 ^ 64`, in at most ten bytes. -/
def varint : Reader Nat := fun input =>
  match varintWithin 10 input with
  | some read => .ok read
  | none => .error { fault := .invalidVarint }

/-- Keys are below `2 ^ 32`. -/
def keyBound : Nat :=
  0x100000000

/-- The tag and wire type in front of a value. -/
def key : Reader (Nat × WireType) := do
  let key ← varint
  if keyBound ≤ key then fail (.invalidKey key)
  else match WireType.ofNumber? (key % 8) with
    | none => fail (.invalidWireType (key % 8))
    | some wire => if key / 8 = 0 then fail .zeroTag else return (key / 8, wire)

/-! ## Bytes -/

/-- Passes over a number of bytes. -/
def dropBytes (count : Nat) : Reader Unit := do
  let input ← get
  if input.size < count then fail .bufferUnderflow else set (input.drop count)

/-- As many bytes as the varint in front of them says. -/
def delimitedBytes : Reader (List UInt8) := do
  let count ← varint
  let bytes := (← get).bytes
  dropBytes count
  return bytes.take count

/-- Reads as often as input beyond a given size is left. Every reading must consume something, so the
size of the input bounds their number. -/
def repeatAbove {α : Type} (step : α → Reader α) (stop : Nat) : (bound : Nat) → α → Reader α
  | 0, value, input => .ok (value, input)
  | bound + 1, value, input =>
    if input.size ≤ stop then .ok (value, input)
    else
      match step value input with
      | .error cause => .error cause
      | .ok (next, rest) => repeatAbove step stop bound next rest

/-- Reads to the end of a part of known length, starting from its length. -/
def delimited {α : Type} (step : α → Reader α) (value : α) : Reader α := do
  let count ← varint
  let size := (← get).size
  if size < count then fail .bufferUnderflow
  else
    let value ← repeatAbove step (size - count) size value
    if (← get).size = size - count then return value else fail .lengthExceeded

/-! ## Unknown fields -/

/-- Passes over the fields of a group up to its end, given how to pass over one of them. -/
def skipGroup (skipField : WireType → Nat → Reader Unit) (tag : Nat) : (bound : Nat) → Reader Unit
  | 0, _ => .error { fault := .invalidVarint }
  | bound + 1, input =>
    match key input with
    | .error cause => .error cause
    | .ok ((innerTag, .endGroup), rest) =>
      if innerTag = tag then .ok ((), rest) else .error { fault := .unexpectedGroupEnd }
    | .ok ((innerTag, wire), rest) =>
      match skipField wire innerTag rest with
      | .error cause => .error cause
      | .ok (_, rest) => skipGroup skipField tag bound rest

/-- Passes over the value of an unknown field, down to a depth of nested groups. -/
def skip : (depth : Nat) → WireType → (tag : Nat) → Reader Unit
  | 0, _, _ => fail .recursionLimitReached
  | depth + 1, wire, tag =>
    match wire with
    | .varint => discard varint
    | .thirtyTwoBit => dropBytes 4
    | .sixtyFourBit => dropBytes 8
    | .lengthDelimited => do dropBytes (← varint)
    | .startGroup => do skipGroup (skip depth) tag ((← get).size + 1)
    | .endGroup => fail .unexpectedGroupEnd

end ProtoSwift.Wire
