/-
**The Swift names of the values of an enumeration.**

Values often repeat the name of their enumeration, as `COLOR_DARK_RED` in `Color`. The repetition is left
out if a name that can start with its next character remains.

* `withoutTypeName?` — the rest of a value name after the name of its enumeration;
* `caseName` — the name of the case.
-/

import ProtoSwift.Swift.Keyword
import ProtoSwift.Text.Casing

namespace ProtoSwift.Swift

open Text

/-- What follows the words of the enumeration's name in the value's name, in capitals. -/
def withoutTypeName? (enumeration value : List Char) : Option (List Char) :=
  match (shoutySnake enumeration ++ ['_']).isPrefixOf? (shoutySnake value) with
  | none | some [] => none
  | some (c :: rest) => if c.isDigit then none else some (c :: rest)

/-- The name of the case for a value of an enumeration. -/
def caseName (enumeration value : String) : String :=
  let remaining := (withoutTypeName? enumeration.toList value.toList).getD value.toList
  escapeKeyword (String.ofList (legalStart (lowerCamel remaining)))

end ProtoSwift.Swift
