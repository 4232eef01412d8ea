/-
**Printing source text at a level of indentation.**

Text arrives in fragments that may hold any number of line feeds, and is printed line by line. Indentation goes in
front of a line that starts at the beginning of a line, unless the line is empty.

* `Step` — print a text, or change the level;
* `Printer.print` — the lines of a text, in order;
* `Printer.run` — the steps of a list, in order.
-/

import ProtoSwift.Text.Lines

namespace ProtoSwift

/-- One instruction to a printer. -/
inductive Step
  | print (text : String)
  | indent
  | outdent
  deriving DecidableEq, Repr

/-- The text printed so far, the level of indentation, and whether the next character starts a line. -/
structure Printer where
  content : String := ""
  level : Nat := 0
  atLineStart : Bool := true
  deriving DecidableEq, Inhabited, Repr

namespace Printer

/-- The indentation of a level. -/
def indentation (level : Nat) : List Char :=
  List.replicate (2 * level) ' '

/-- Prints a line or what a fragment has of it. -/
def printLine (printer : Printer) (line : List Char) : Printer :=
  let content :=
    if printer.atLineStart && line ≠ ['\n'] then
      printer.content ++ String.ofList (indentation printer.level)
    else printer.content
  { printer with content := content ++ String.ofList line, atLineStart := line.getLast? = some '\n' }

/-- Prints a text. -/
def print (printer : Printer) (text : String) : Printer :=
  (Text.linesWithFeeds text.toList).foldl printLine printer

/-- Carries out one step. The level does not go below zero. -/
def step (printer : Printer) : Step → Printer
  | .print text => printer.print text
  | .indent => { printer with level := printer.level + 1 }
  | .outdent => { printer with level := printer.level - 1 }

/-- Carries out steps in order. -/
def run (printer : Printer) (steps : List Step) : Printer :=
  steps.foldl step printer

/-- The text that steps print on a new printer. -/
def render (steps : List Step) : String :=
  (run {} steps).content

theorem run_append (printer : Printer) (first second : List Step) :
    printer.run (first ++ second) = (printer.run first).run second := by
  simp [run]

end Printer

/-! ## Code -/

/-- Steps that print declarations or statements. -/
abbrev Code := List Step

/-- A line of code. -/
def Code.line (text : String) : Code :=
  [.print (text ++ "\n")]

/-- Lines that are printed as they are, each with its line feed. -/
def Code.lines (text : String) : Code :=
  [.print text]

/-- An empty line. -/
def Code.blank : Code :=
  [.print "\n"]

/-- Code one level further in. -/
def Code.indented (body : Code) : Code :=
  .indent :: body ++ [.outdent]

/-- Indented code between an opening and a closing line. -/
def Code.block (opening : String) (body : Code) (closing : String) : Code :=
  line opening ++ indented body ++ line closing

end ProtoSwift
