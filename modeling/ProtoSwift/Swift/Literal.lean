/-
**Strings and bytes as literals of generated Swift code.**

* `stringLiteral` — a text between quotation marks, with escapes for control characters, quotes and
  backslashes;
* `dataLiteral` — bytes as a call that builds them from hexadecimal numbers.
-/

import ProtoSwift.Text.Hex

namespace ProtoSwift.Swift

open Text

/-- Whether a character is a control character. -/
def isControl (c : Char) : Bool :=
  c.toNat < 0x20 || (0x7f ≤ c.toNat && c.toNat < 0xa0)

/-- A character inside a string literal. -/
def literalChar (c : Char) : List Char :=
  if c = '\x00' then ['\\', '0']
  else if c = '\\' then ['\\', '\\']
  else if c = '"' then ['\\', '"']
  else if c = '\x27' then ['\\', '\x27']
  else if c = '\t' then ['\\', 't']
  else if c = '\n' then ['\\', 'n']
  else if c = '\r' then ['\\', 'r']
  else if isControl c then escapedPoint c
  else [c]

/-- A text as a string literal. -/
def stringLiteral (text : List Char) : List Char :=
  ['"'] ++ text.flatMap literalChar ++ ['"']

/-- Bytes as an expression. -/
def dataLiteral (bytes : List UInt8) : List Char :=
  "Data(bytes: [".toList
    ++ [',', ' '].intercalate (bytes.map fun byte => ['0', 'x'] ++ hexByte byte)
    ++ "])".toList

end ProtoSwift.Swift
