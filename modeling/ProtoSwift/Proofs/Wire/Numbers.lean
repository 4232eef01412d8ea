/-
**Numbers and texts are read as they are written.**

A number is written in groups of seven bits and read back whatever comes after it, as long as it has 64 bits. The
tenth group has only one bit of these. No number is written as the beginning of another one, so that what is
written one after the other can be told apart, whether it can be read or not.

* `numberBound`, `numberBoundWithin` — numbers of 64 bits, and those that fit into a number of bytes;
* `varint_encodeVarint`, `key_encodeVarint` — a number and a key are read back;
* `bind_of_ok` — readers in a row;
* `delimitedBytes_encodeVarint` — bytes after their number are;
* `encodeVarint_append_inj`, `encodeDelimited_append_inj` — what is written comes apart in one way only;
* `signExtended` — a number with a sign as it is written.
-/

import ProtoSwift.Wire.Reader
import ProtoSwift.Wire.Writer

namespace ProtoSwift.Wire

/-! ### Numbers -/

/-- Numbers on the wire have at most 64 bits. -/
def numberBound : Nat :=
  0x10000000000000000

/-- The numbers that fit into one byte more than given, if the last one may be at most one. -/
def numberBoundWithin : (more : Nat) → Nat
  | 0 => 2
  | more + 1 => 128 * numberBoundWithin more

theorem encodeVarint_of_lt {value : Nat} (small : value < 128) : encodeVarint value = [value.toUInt8] := by
  rw [encodeVarint, if_pos small]

theorem encodeVarint_of_le {value : Nat} (large : 128 ≤ value) :
    encodeVarint value = (value % 128 + 128).toUInt8 :: encodeVarint (value / 128) := by
  rw [encodeVarint, if_neg (by omega)]

theorem encodeVarint_ne_nil (value : Nat) : encodeVarint value ≠ [] := by
  rw [encodeVarint]
  split <;> exact List.cons_ne_nil _ _

theorem toNat_toUInt8_of_lt {value : Nat} (small : value < 256) : value.toUInt8.toNat = value := by
  rw [Nat.toUInt8_eq, UInt8.toNat_ofNat']
  omega

/-- The byte of a last group is below 128, and that of any other group is not. -/
theorem toUInt8_lt_iff {value : Nat} (small : value < 256) : value.toUInt8 < 128 ↔ value < 128 := by
  rw [UInt8.lt_iff_toNat_lt, toNat_toUInt8_of_lt small]
  rfl

/-- **A number that fits into the allowed bytes is read back**, whatever comes after it. -/
theorem varintWithin_encodeVarint (more value : Nat) (rest : List UInt8) (fits : value < numberBoundWithin more) :
    varintWithin (more + 1) (.ofList (encodeVarint value ++ rest)) = some (value, .ofList rest) := by
  induction more generalizing value with
  | zero =>
    have two : value < 2 := fits
    have byte : value.toUInt8 < 128 := (toUInt8_lt_iff (by omega)).mpr (by omega)
    have legal : ¬ (2 : UInt8) ≤ value.toUInt8 := by
      rw [UInt8.le_iff_toNat_le, toNat_toUInt8_of_lt (by omega)]
      exact Nat.not_le.mpr two
    rw [encodeVarint_of_lt (by omega), List.singleton_append, varintWithin, Input.next?_ofList_cons]
    simp only [if_pos byte, legal, and_false, if_false, toNat_toUInt8_of_lt (show value < 256 by omega)]
  | succ more inMore =>
    by_cases small : value < 128
    · have byte : value.toUInt8 < 128 := (toUInt8_lt_iff (by omega)).mpr small
      rw [encodeVarint_of_lt small, List.singleton_append, varintWithin, Input.next?_ofList_cons]
      simp only [if_pos byte, Nat.add_one_ne_zero, false_and, if_false,
        toNat_toUInt8_of_lt (show value < 256 by omega)]
    · have group : value % 128 + 128 < 256 := by omega
      have byte : ¬ (value % 128 + 128).toUInt8 < 128 := by
        rw [toUInt8_lt_iff group]
        omega
      have high : value / 128 < numberBoundWithin more := by
        have bound : value < 128 * numberBoundWithin more := fits
        omega
      rw [encodeVarint_of_le (by omega), List.cons_append, varintWithin, Input.next?_ofList_cons]
      simp only [if_neg byte, inMore (value / 128) high, Option.map_some, toNat_toUInt8_of_lt group,
        Option.some.injEq, Prod.mk.injEq, and_true]
      omega

/-- **A number of 64 bits is read back**, whatever comes after it. -/
theorem varint_encodeVarint {value : Nat} (fits : value < numberBound) (rest : List UInt8) :
    varint (.ofList (encodeVarint value ++ rest)) = .ok (value, .ofList rest) := by
  unfold varint
  rw [varintWithin_encodeVarint 9 value rest fits]

/-! ### Readers in a row -/

section

variable {α β : Type} {input rest : Input}

/-- The second reader starts where the first one ends. -/
theorem bind_of_ok {first : Reader α} {next : α → Reader β} {value : α}
    (read : first input = .ok (value, rest)) : (first >>= next) input = next value rest := by
  show (first input).bind (fun read => next read.1 read.2) = _
  rw [read]
  rfl

theorem get_bind (next : Input → Reader β) (input : Input) : (get >>= next) input = next input input :=
  rfl

end

/-! ### Keys -/

/-- The tags of fields. -/
def IsTag (tag : Nat) : Prop :=
  0 < tag ∧ tag < 0x20000000

instance (tag : Nat) : Decidable (IsTag tag) :=
  inferInstanceAs (Decidable (0 < tag ∧ tag < 0x20000000))

/-- **A key is read back.** -/
theorem key_encodeVarint {tag number : Nat} {wire : WireType} (tagged : IsTag tag) (small : number < 8)
    (assigned : WireType.ofNumber? number = some wire) (rest : List UInt8) :
    key (.ofList (encodeVarint (8 * tag + number) ++ rest)) = .ok ((tag, wire), .ofList rest) := by
  obtain ⟨positive, bounded⟩ := tagged
  have legal : ¬ keyBound ≤ 8 * tag + number := by
    unfold keyBound
    omega
  have fits : 8 * tag + number < numberBound := by
    unfold numberBound
    omega
  have low : (8 * tag + number) % 8 = number := by omega
  have high : (8 * tag + number) / 8 = tag := by omega
  unfold key
  rw [bind_of_ok (varint_encodeVarint fits rest)]
  simp only [if_neg legal, low, assigned, high, if_neg (show ¬ tag = 0 by omega)]
  rfl

/-! ### Bytes -/

/-- Bytes that are there can be passed over. -/
theorem dropBytes_append (bytes rest : List UInt8) :
    dropBytes bytes.length (.ofList (bytes ++ rest)) = .ok ((), .ofList rest) := by
  have there : ¬ (Input.ofList (bytes ++ rest)).size < bytes.length := by
    show ¬ (bytes ++ rest).length < bytes.length
    rw [List.length_append]
    omega
  unfold dropBytes
  rw [get_bind, if_neg there]
  show Except.ok ((), (Input.ofList (bytes ++ rest)).drop bytes.length) = _
  rw [Input.drop_ofList_append]

/-- **Bytes after their number are read back.** -/
theorem delimitedBytes_encodeVarint {bytes : List UInt8} (short : bytes.length < numberBound) (rest : List UInt8) :
    delimitedBytes (.ofList (encodeVarint bytes.length ++ bytes ++ rest)) = .ok (bytes, .ofList rest) := by
  unfold delimitedBytes
  rw [List.append_assoc, bind_of_ok (varint_encodeVarint short _), get_bind, bind_of_ok (dropBytes_append bytes rest)]
  show Except.ok ((bytes ++ rest).take bytes.length, Input.ofList rest) = _
  rw [List.take_left]

/-! ### What is written comes apart in one way only -/

/-- Every number fits into some number of bytes. -/
theorem lt_numberBoundWithin (value : Nat) : value < numberBoundWithin value := by
  induction value with
  | zero => exact Nat.zero_lt_two
  | succ value inValue =>
    show value + 1 < 128 * numberBoundWithin value
    omega

/-- **No number is written as the beginning of another one.** A reader that allows for the bytes of both numbers
would find both. -/
theorem encodeVarint_append_inj {first second : Nat} {rest other : List UInt8}
    (same : encodeVarint first ++ rest = encodeVarint second ++ other) : first = second ∧ rest = other := by
  have enough := lt_numberBoundWithin (first + second)
  have firstRead := varintWithin_encodeVarint (first + second) first rest (by omega)
  have secondRead := varintWithin_encodeVarint (first + second) second other (by omega)
  rw [same, secondRead, Option.some.injEq, Prod.mk.injEq] at firstRead
  exact ⟨firstRead.1.symm, (congrArg Input.bytes firstRead.2).symm⟩

/-- **No field with bytes is written as the beginning of another one**, however long the bytes are. -/
theorem encodeDelimited_append_inj {tag otherTag : Nat} {bytes others rest other : List UInt8}
    (same : encodeDelimited tag bytes ++ rest = encodeDelimited otherTag others ++ other) :
    tag = otherTag ∧ bytes = others ∧ rest = other := by
  unfold encodeDelimited at same
  simp only [List.append_assoc] at same
  obtain ⟨keys, afterKey⟩ := encodeVarint_append_inj same
  obtain ⟨lengths, afterLength⟩ := encodeVarint_append_inj afterKey
  obtain ⟨contents, rests⟩ := List.append_inj afterLength lengths
  exact ⟨by omega, contents, rests⟩

/-! ### Numbers with a sign -/

/-- A number with a sign as it is written: a negative one with its sign in all of the 64 bits. -/
def signExtended (value : Int32) : Nat :=
  value.toInt64.toUInt64.toNat

theorem signExtended_lt (value : Int32) : signExtended value < numberBound :=
  value.toInt64.toUInt64.toNat_lt

/-- **The lower half of the bits gives the number back.** -/
theorem ofNat_signExtended (value : Int32) : Int32.ofNat (signExtended value) = value := by
  apply Int32.toBitVec_inj.mp
  show BitVec.ofNat 32 (value.toBitVec.signExtend 64).toNat = value.toBitVec
  rw [BitVec.ofNat_toNat]
  ext position low
  have inside : position < 64 := by omega
  rw [BitVec.getElem_setWidth, BitVec.getLsbD_signExtend, if_pos low, BitVec.getLsbD_eq_getElem low,
    decide_eq_true inside, Bool.true_and]

end ProtoSwift.Wire
