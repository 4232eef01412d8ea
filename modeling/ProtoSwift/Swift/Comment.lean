/-
**Comments of the schema as comments of the generated code.**

Comments on a declaration document it. Detached blocks in front of it become plain comments, each with an
empty line after it.

* `Comments` — the three kinds of comments on a declaration;
* `Comments.render` — the comment lines, each with its line feed.
-/

import ProtoSwift.Schema
import ProtoSwift.Text.Blank
import ProtoSwift.Text.Lines

namespace ProtoSwift.Swift

open Text

/-- The comments on a declaration. -/
structure Comments where
  detached : List String := []
  leading : String := ""
  trailing : String := ""
  deriving DecidableEq, Inhabited, Repr

namespace Comments

/-- The comments of a location. -/
def ofLocation (location : Schema.Location) : Comments :=
  { detached := location.detached
    leading := location.leading?.getD ""
    trailing := location.trailing?.getD "" }

/-- A comment line: a space parts the marker from text that does not start with one. -/
def commentLine (marker line : List Char) : List Char :=
  let space := if trim line = [] ∨ line.head? = some ' ' then [] else [' ']
  marker ++ space ++ trimEnd line ++ ['\n']

/-- The comment lines of a text. -/
def commentLines (marker : String) (text : String) : List Char :=
  (lines text.toList).flatMap (commentLine marker.toList)

/-- The comment line between the leading and the trailing comments, if there are both. -/
def separator (comments : Comments) : List Char :=
  if comments.leading ≠ "" ∧ comments.trailing ≠ "" then "///\n".toList else []

/-- The comment lines of a declaration. -/
def render (comments : Comments) : String :=
  String.ofList
    (comments.detached.flatMap (fun block => commentLines "//" block ++ ['\n'])
      ++ commentLines "///" comments.leading
      ++ comments.separator
      ++ commentLines "///" comments.trailing)

end Comments

end ProtoSwift.Swift
