/-
**Blank characters, and text without them at its ends.**

A character is blank if it has the property White_Space. The byte order mark, the zero width space and
the information separators are not blank.

* `isBlank` — the class;
* `trimStart`, `trimEnd`, `trim` — a text without blank characters at the start, the end, both.
-/

namespace ProtoSwift.Text

/-- The code points of the blank characters from 128 on. -/
def blankPoints : List Nat :=
  [0x85, 0xa0, 0x1680, 0x2000, 0x2001, 0x2002, 0x2003, 0x2004, 0x2005, 0x2006, 0x2007, 0x2008, 0x2009,
    0x200a, 0x2028, 0x2029, 0x202f, 0x205f, 0x3000]

/-- Whether a character is white space. -/
def isBlank (c : Char) : Bool :=
  c == ' ' || (0x9 ≤ c.toNat && c.toNat ≤ 0xd) || blankPoints.contains c.toNat

/-- A text without its leading blank characters. -/
def trimStart (text : List Char) : List Char :=
  text.dropWhile isBlank

/-- A text without its trailing blank characters. -/
def trimEnd (text : List Char) : List Char :=
  (text.reverse.dropWhile isBlank).reverse

/-- A text without blank characters at either end. -/
def trim (text : List Char) : List Char :=
  trimEnd (trimStart text)

end ProtoSwift.Text
