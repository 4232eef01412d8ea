/-
**Bytes that are still to be read.**

* `Input` — the bytes and how many there are, so that the count is at hand without a walk;
* `Input.next?`, `Input.drop` — what is left after one byte, or after several.
-/

namespace ProtoSwift.Wire

/-- Bytes that are still to be read, with their number. -/
structure Input where
  bytes : List UInt8
  size : Nat := bytes.length
  size_eq : size = bytes.length := by rfl

namespace Input

/-- All of the given bytes. -/
def ofList (bytes : List UInt8) : Input :=
  { bytes }

/-- The first byte, and what is left after it. -/
def next? : Input → Option (UInt8 × Input)
  | ⟨[], _, _⟩ => none
  | ⟨byte :: rest, size, size_eq⟩ => some (byte, ⟨rest, size - 1, by simp [size_eq]⟩)

/-- What is left after a number of bytes. -/
def drop (input : Input) (count : Nat) : Input :=
  ⟨input.bytes.drop count, input.size - count, by simp [input.size_eq]⟩

theorem ext {first second : Input} (equal : first.bytes = second.bytes) : first = second := by
  cases first with
  | mk bytes size size_eq =>
    cases second
    subst equal size_eq
    rename_i size_eq
    subst size_eq
    rfl

theorem next?_ofList_cons (byte : UInt8) (rest : List UInt8) :
    next? (ofList (byte :: rest)) = some (byte, ofList rest) := by
  simp only [ofList, next?]
  exact congrArg (fun input => some (byte, input)) (ext rfl)

theorem drop_ofList_append (first rest : List UInt8) :
    (ofList (first ++ rest)).drop first.length = ofList rest :=
  ext (by simp [drop, ofList])

end Input

end ProtoSwift.Wire
