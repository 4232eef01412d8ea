/-
**Hexadecimal digits.**

* `hex` — a number in lower-case digits without leading zeros;
* `hexByte` — a byte in exactly two of them;
* `hexDigitValue?` — the value of a digit, in either letter case;
* `escapedPoint` — a character by its code point.
-/

namespace ProtoSwift.Text

/-- A number in lower-case hexadecimal digits, without leading zeros. -/
def hex (value : Nat) : List Char :=
  Nat.toDigits 16 value

/-- A byte in two lower-case hexadecimal digits. -/
def hexByte (byte : UInt8) : List Char :=
  [Nat.digitChar (byte.toNat / 16), Nat.digitChar (byte.toNat % 16)]

/-- A character by its code point. -/
def escapedPoint (c : Char) : List Char :=
  ['\\', 'u', '\x7b'] ++ hex c.toNat ++ ['\x7d']

/-- The value of a hexadecimal digit. -/
def hexDigitValue? (c : Char) : Option Nat :=
  if '0' ≤ c ∧ c ≤ '9' then some (c.toNat - '0'.toNat)
  else if 'a' ≤ c ∧ c ≤ 'f' then some (c.toNat - 'a'.toNat + 10)
  else if 'A' ≤ c ∧ c ≤ 'F' then some (c.toNat - 'A'.toNat + 10)
  else none

end ProtoSwift.Text
