/-
**Text shown between quotation marks so that every character of it is legible.**

The quotation mark, the backslash and the common control characters have short escapes. Any other
character that is not legible is shown by its code point; a space is shown as it is.

* `quoted` — the quoted form of a text.
-/

import ProtoSwift.Text.Hex
import ProtoSwift.Unicode.Graphic

namespace ProtoSwift.Text

open Unicode

/-- A character inside quotation marks. -/
def quotedChar (c : Char) : List Char :=
  if c = '"' then ['\\', '"']
  else if c = '\\' then ['\\', '\\']
  else if c = '\n' then ['\\', 'n']
  else if c = '\r' then ['\\', 'r']
  else if c = '\t' then ['\\', 't']
  else if c = '\x00' then ['\\', '0']
  else if c = ' ' then [' ']
  else if isLegible c then [c]
  else escapedPoint c

/-- A text between quotation marks. -/
def quoted (text : List Char) : List Char :=
  ['"'] ++ text.flatMap quotedChar ++ ['"']

end ProtoSwift.Text
