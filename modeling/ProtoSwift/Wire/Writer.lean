/-
**Writing the parts of a message as bytes.**

* `encodeVarint` — a number in groups of seven bits, the lowest first;
* `encodeDelimited` — a field with bytes after their number;
* `encodeString` — a field with a text.
-/

import ProtoSwift.Text.Utf8

namespace ProtoSwift.Wire

/-- A number in groups of seven bits. Every byte but the last has its high bit set. -/
def encodeVarint (value : Nat) : List UInt8 :=
  if value < 128 then [value.toUInt8]
  else (value % 128 + 128).toUInt8 :: encodeVarint (value / 128)

/-- A field with bytes after their number. -/
def encodeDelimited (tag : Nat) (bytes : List UInt8) : List UInt8 :=
  encodeVarint (8 * tag + 2) ++ encodeVarint bytes.length ++ bytes

/-- A field with a text. -/
def encodeString (tag : Nat) (text : String) : List UInt8 :=
  encodeDelimited tag (Text.utf8 text)

end ProtoSwift.Wire
