/-
**Spelling the words of an identifier in a letter case.**

* `lowerCamel` — `fooBarBaz`: the first word lower case, the others capitalized;
* `upperCamel` — `FooBarBaz`: every word capitalized;
* `shoutySnake` — `FOO_BAR_BAZ`: every word upper case, joined by underscores;
* `capitalizeFirst` — a text with its first character upper case and no other change.

Case maps are the full ones, so a character may become several. A sigma at the end of the lower-case part
of a word takes the final form `ς`.
-/

import ProtoSwift.Text.Words
import ProtoSwift.Unicode.CaseMap

namespace ProtoSwift.Text

open Unicode

/-- A word in lower case; a capital sigma at its end becomes a final sigma. -/
def lowerWord : List Char → List Char
  | [] => []
  | [c] => if c = 'Σ' then ['ς'] else toLowercase c
  | c :: next :: rest => toLowercase c ++ lowerWord (next :: rest)

/-- A word in upper case. -/
def upperWord (word : List Char) : List Char :=
  word.flatMap toUppercase

/-- A word with its first character in upper case and the others in lower case. -/
def capitalize : List Char → List Char
  | [] => []
  | c :: rest => toUppercase c ++ lowerWord rest

/-- A text with its first character in upper case. -/
def capitalizeFirst : List Char → List Char
  | [] => []
  | c :: rest => toUppercase c ++ rest

/-- Words joined as `fooBarBaz`. -/
def joinLowerCamel : List (List Char) → List Char
  | [] => []
  | first :: rest => lowerWord first ++ rest.flatMap capitalize

/-- The words of a text joined as `fooBarBaz`. -/
def lowerCamel (text : List Char) : List Char :=
  joinLowerCamel (words text)

/-- The words of a text joined as `FooBarBaz`. -/
def upperCamel (text : List Char) : List Char :=
  (words text).flatMap capitalize

/-- The words of a text joined as `FOO_BAR_BAZ`. -/
def shoutySnake (text : List Char) : List Char :=
  ['_'].intercalate ((words text).map upperWord)

end ProtoSwift.Text
