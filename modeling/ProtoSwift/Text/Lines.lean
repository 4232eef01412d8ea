/-
**The lines of a text.**

A line ends at a line feed, and loses it together with a carriage return directly before it. A text that
ends in a line feed has no empty last line. A carriage return anywhere else belongs to its line.

* `lines` — the lines of a text, in order;
* `linesWithFeeds` — the lines of a text as they are, each with its line feed.
-/

namespace ProtoSwift.Text

/-- A terminated line without the carriage return of its terminator. -/
def dropReturn (line : List Char) : List Char :=
  if line.getLast? = some '\r' then line.dropLast else line

/-- The lines behind the pieces between line feeds: all pieces but the last are terminated. -/
def linesOfPieces : List (List Char) → List (List Char)
  | [] => []
  | [last] => if last.isEmpty then [] else [last]
  | piece :: next :: rest => dropReturn piece :: linesOfPieces (next :: rest)

/-- The lines of a text. -/
def lines (text : List Char) : List (List Char) :=
  linesOfPieces (text.splitOn '\n')

/-- The lines behind the pieces between line feeds, with the line feeds put back. -/
def restoreFeeds : List (List Char) → List (List Char)
  | [] => []
  | [last] => if last.isEmpty then [] else [last]
  | piece :: next :: rest => (piece ++ ['\n']) :: restoreFeeds (next :: rest)

/-- The lines of a text, each with its line feed. The last one may lack it. -/
def linesWithFeeds (text : List Char) : List (List Char) :=
  restoreFeeds (text.splitOn '\n')

end ProtoSwift.Text
