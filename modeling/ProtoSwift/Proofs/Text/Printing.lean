/-
**What a printer prints.**

Fragments of text may be cut anywhere, and the level of indentation may change between any two of them. What a
printer makes of them depends on the characters alone, each with the level in force when it is printed: they come
out as they are, with the indentation of its first character in front of every line that is not empty.

* `Printer.layout`, `Printer.advance` — what is laid out for characters, and what that does to a printer;
* `Printer.print_eq` — a text is printed line by line, and that is the same as character by character;
* `Printer.printed`, `Printer.run_eq` — the characters that steps print, and what steps do to a printer;
* `Printer.layout_eq_lines` — what is laid out are the lines of the characters, each behind its indentation;
* `Printer.prints_lines` — cuts do not matter, and a run prints the lines of its texts.
-/

import ProtoSwift.Printer
import ProtoSwift.Proofs.Text.WordCharacters
import Mathlib

namespace ProtoSwift

/-! ### Lines with their line feeds -/

namespace Text

/-- Text that is all on one line: a line feed can only be its last character. -/
def OneLine (text : List Char) : Prop :=
  '\n' ∉ text.dropLast

theorem flatten_restoreFeeds (pieces : List (List Char)) :
    (restoreFeeds pieces).flatten = ['\n'].intercalate pieces := by
  induction pieces with
  | nil => rfl
  | cons piece rest inRest =>
    cases rest with
    | nil => cases piece <;> simp [restoreFeeds]
    | cons next others => rw [restoreFeeds, List.flatten_cons, inRest, List.intercalate_cons_cons]

/-- The lines of a text make up the text. -/
theorem flatten_linesWithFeeds (text : List Char) : (linesWithFeeds text).flatten = text := by
  unfold linesWithFeeds
  rw [flatten_restoreFeeds, List.intercalate_splitOn]

theorem oneLine_of_mem_restoreFeeds {pieces : List (List Char)} (plain : ∀ piece ∈ pieces, '\n' ∉ piece) :
    ∀ line ∈ restoreFeeds pieces, line ≠ [] ∧ OneLine line := by
  induction pieces with
  | nil => exact fun _ among => absurd among List.not_mem_nil
  | cons piece rest inRest =>
    have here := plain piece List.mem_cons_self
    cases rest with
    | nil =>
      intro line among
      cases piece with
      | nil => cases among
      | cons first more =>
        obtain rfl := List.mem_singleton.mp among
        exact ⟨List.cons_ne_nil _ _, fun inside => here (List.mem_of_mem_dropLast inside)⟩
    | cons next others =>
      intro line among
      rcases List.mem_cons.mp among with rfl | among
      · refine ⟨List.append_ne_nil_of_right_ne_nil _ (List.cons_ne_nil _ _), ?_⟩
        unfold OneLine
        rwa [List.dropLast_concat]
      · exact inRest (fun piece isPiece => plain piece (List.mem_cons_of_mem _ isPiece)) line among

/-- The lines of a text are not empty, and a line feed ends its line. -/
theorem oneLine_of_mem_linesWithFeeds {text line : List Char} (isLine : line ∈ linesWithFeeds text) :
    line ≠ [] ∧ OneLine line := by
  refine oneLine_of_mem_restoreFeeds (fun piece isPiece feed => ?_) line isLine
  have outside := (mem_of_mem_splitOnP isPiece feed).2
  exact absurd outside (by decide)

end Text

namespace Printer

open Text

/-! ### Character by character -/

/-- A character with the level in force when it is printed. -/
abbrev Glyph := Char × Nat

/-- The characters of a text, all at one level. -/
def glyphs (level : Nat) (text : List Char) : List Glyph :=
  text.map (·, level)

/-- What is laid out for characters, the first of which starts a line or does not. -/
def layout : Bool → List Glyph → List Char
  | _, [] => []
  | starts, (c, level) :: rest =>
    (if starts && c ≠ '\n' then indentation level else []) ++ c :: layout (c = '\n') rest

/-- Whether a line starts behind some characters. -/
def endsLine (starts : Bool) (characters : List Glyph) : Bool :=
  characters.foldl (fun _ character => character.1 = '\n') starts

/-- The printer after some more characters. -/
def advance (printer : Printer) (characters : List Glyph) : Printer :=
  { printer with
    content := printer.content ++ String.ofList (layout printer.atLineStart characters)
    atLineStart := endsLine printer.atLineStart characters }

theorem glyphs_append (level : Nat) (first second : List Char) :
    glyphs level (first ++ second) = glyphs level first ++ glyphs level second :=
  List.map_append

theorem layout_append (starts : Bool) (first second : List Glyph) :
    layout starts (first ++ second) = layout starts first ++ layout (endsLine starts first) second := by
  induction first generalizing starts with
  | nil => rfl
  | cons character rest inRest =>
    rw [List.cons_append, layout, layout, inRest, List.append_assoc, List.cons_append]
    rfl

theorem endsLine_append (starts : Bool) (first second : List Glyph) :
    endsLine starts (first ++ second) = endsLine (endsLine starts first) second :=
  List.foldl_append

theorem advance_nil (printer : Printer) : printer.advance [] = printer := by
  unfold advance
  rw [layout, String.ofList_nil, String.append_empty]
  rfl

theorem advance_append (printer : Printer) (first second : List Glyph) :
    printer.advance (first ++ second) = (printer.advance first).advance second := by
  unfold advance
  rw [layout_append, endsLine_append, String.ofList_append, String.append_assoc]

/-- Within a line, characters are laid out as they are. -/
theorem layout_false_glyphs {line : List Char} (single : OneLine line) (level : Nat) :
    layout false (glyphs level line) = line := by
  induction line with
  | nil => rfl
  | cons c rest inRest =>
    cases rest with
    | nil => rfl
    | cons next others =>
      have other : c ≠ '\n' := by
        rintro rfl
        exact single List.mem_cons_self
      have below := inRest fun inside => single (List.mem_cons_of_mem _ inside)
      show _ ++ c :: layout (decide (c = '\n')) (glyphs level (next :: others)) = _
      rw [decide_eq_false other, below]
      rfl

theorem endsLine_glyphs {line : List Char} (full : line ≠ []) (starts : Bool) (level : Nat) :
    endsLine starts (glyphs level line) = decide (line.getLast? = some '\n') := by
  obtain ⟨front, last, rfl⟩ := (List.eq_nil_or_concat' line).resolve_left full
  rw [glyphs_append, endsLine_append, List.getLast?_concat]
  simp [glyphs, endsLine]

/-- A line is laid out behind its indentation, unless it is empty or has begun before. -/
theorem layout_glyphs_line {line : List Char} (full : line ≠ []) (single : OneLine line) (starts : Bool)
    (level : Nat) : layout starts (glyphs level line)
      = (if starts && line ≠ ['\n'] then indentation level else []) ++ line := by
  cases line with
  | nil => exact absurd rfl full
  | cons c rest =>
    by_cases feed : c = '\n'
    · cases rest with
      | nil => simp [feed, glyphs, layout]
      | cons next others =>
        rw [feed] at single
        exact absurd List.mem_cons_self single
    · have alone : c :: rest ≠ ['\n'] := fun same => feed (List.cons.inj same).1
      have behind : OneLine rest := by
        cases rest with
        | nil => exact List.not_mem_nil
        | cons next others => exact fun inside => single (List.mem_cons_of_mem _ inside)
      show _ ++ c :: layout (decide (c = '\n')) (glyphs level rest) = _
      rw [decide_eq_false feed, layout_false_glyphs behind]
      simp [alone, feed]

/-- **Printing a line is printing its characters.** A line feed alone gets no indentation, and neither does what a
line goes on with. -/
theorem printLine_eq (printer : Printer) {line : List Char} (full : line ≠ []) (single : OneLine line) :
    printer.printLine line = printer.advance (glyphs printer.level line) := by
  unfold printLine advance
  rw [layout_glyphs_line full single, endsLine_glyphs full, String.ofList_append]
  dsimp only
  split
  · rw [String.append_assoc]
  · rw [String.ofList_nil, String.empty_append]

theorem foldl_printLine (printer : Printer) {lines : List (List Char)}
    (areLines : ∀ line ∈ lines, line ≠ [] ∧ OneLine line) :
    lines.foldl printLine printer = printer.advance (glyphs printer.level lines.flatten) := by
  induction lines generalizing printer with
  | nil => exact printer.advance_nil.symm
  | cons line rest inRest =>
    obtain ⟨full, single⟩ := areLines line List.mem_cons_self
    rw [List.foldl_cons, inRest _ fun line among => areLines line (List.mem_cons_of_mem _ among),
      printer.printLine_eq full single, List.flatten_cons, glyphs_append, advance_append]
    rfl

/-- **A text is printed character by character**, though a printer takes it line by line. -/
theorem print_eq (printer : Printer) (text : String) :
    printer.print text = printer.advance (glyphs printer.level text.toList) := by
  unfold print
  rw [foldl_printLine printer fun _ => oneLine_of_mem_linesWithFeeds, flatten_linesWithFeeds]

/-! ### Steps -/

/-- The text of a step. -/
def textOf : Step → List Char
  | .print text => text.toList
  | .indent | .outdent => []

/-- **The characters that steps print**, each with the level in force. -/
def printed (level : Nat) : List Step → List Glyph
  | [] => []
  | .print text :: rest => glyphs level text.toList ++ printed level rest
  | .indent :: rest => printed (level + 1) rest
  | .outdent :: rest => printed (level - 1) rest

/-- The level that steps lead to. -/
def levelAfter (level : Nat) : List Step → Nat
  | [] => level
  | .print _ :: rest => levelAfter level rest
  | .indent :: rest => levelAfter (level + 1) rest
  | .outdent :: rest => levelAfter (level - 1) rest

/-- **Steps print their characters**, and lead to their level. -/
theorem run_eq (printer : Printer) (steps : List Step) : printer.run steps
    = { printer.advance (printed printer.level steps) with level := levelAfter printer.level steps } := by
  induction steps generalizing printer with
  | nil =>
    rw [printed, advance_nil]
    rfl
  | cons step rest inRest =>
    cases step with
    | print text =>
      show (printer.print text).run rest = _
      rw [print_eq, inRest, printed, advance_append]
      rfl
    | indent => exact inRest { printer with level := printer.level + 1 }
    | outdent => exact inRest { printer with level := printer.level - 1 }

theorem levelAfter_append (level : Nat) (first second : List Step) :
    levelAfter level (first ++ second) = levelAfter (levelAfter level first) second := by
  induction first generalizing level with
  | nil => rfl
  | cons step rest inRest => cases step <;> exact inRest _

theorem printed_append (level : Nat) (first second : List Step) :
    printed level (first ++ second) = printed level first ++ printed (levelAfter level first) second := by
  induction first generalizing level with
  | nil => rfl
  | cons step rest inRest =>
    cases step with
    | print text =>
      rw [List.cons_append, printed, inRest, printed, List.append_assoc]
      rfl
    | indent | outdent => exact inRest _

theorem map_fst_printed (level : Nat) (steps : List Step) :
    (printed level steps).map Prod.fst = steps.flatMap textOf := by
  induction steps generalizing level with
  | nil => rfl
  | cons step rest inRest =>
    cases step with
    | print text =>
      have own : (glyphs level text.toList).map Prod.fst = text.toList := by
        unfold glyphs
        rw [List.map_map]
        exact List.map_id _
      rw [printed, List.map_append, inRest, own]
      rfl
    | indent | outdent => exact inRest _

/-! ### Lines -/

/-- A line behind the indentation of its first character. An empty line has none. -/
def indentedLine : List Glyph → List Char
  | [] => []
  | (c, level) :: rest => indentation level ++ c :: rest.map Prod.fst

/-- The lines of characters, without their line feeds. -/
def linesOf (characters : List Glyph) : List (List Glyph) :=
  characters.splitOnP (·.1 = '\n')

theorem linesOf_cons (character : Glyph) (rest : List Glyph) : linesOf (character :: rest)
    = if character.1 = '\n' then [] :: linesOf rest else (linesOf rest).modifyHead (character :: ·) := by
  unfold linesOf
  rw [List.splitOnP_cons_eq_if_modifyHead]
  simp only [decide_eq_true_eq]

theorem intercalate_append_cons_append {separator front first : List Char} {rest : List (List Char)} :
    separator.intercalate ((front ++ first) :: rest) = front ++ separator.intercalate (first :: rest) := by
  cases rest with
  | nil => rw [List.intercalate_singleton, List.intercalate_singleton]
  | cons next others => simp only [List.intercalate_cons_cons, List.append_assoc]

/-- What is laid out starts with the first line, which has its indentation if it starts there. -/
theorem layout_eq_of_linesOf {characters first : List Glyph} {rest : List (List Glyph)}
    (cut : linesOf characters = first :: rest) :
    layout true characters = ['\n'].intercalate (indentedLine first :: rest.map indentedLine)
      ∧ layout false characters = ['\n'].intercalate (first.map Prod.fst :: rest.map indentedLine) := by
  induction characters generalizing first rest with
  | nil =>
    obtain ⟨rfl, rfl⟩ := List.cons.inj cut
    exact ⟨rfl, rfl⟩
  | cons character others inOthers =>
    obtain ⟨c, level⟩ := character
    obtain ⟨next, below, cutOthers⟩ : ∃ next below, linesOf others = next :: below :=
      List.exists_cons_of_ne_nil (List.splitOnP_ne_nil _ _)
    obtain ⟨laid, laidBehind⟩ := inOthers cutOthers
    rw [linesOf_cons, cutOthers] at cut
    by_cases feed : c = '\n'
    · rw [if_pos feed] at cut
      obtain ⟨rfl, rfl⟩ := List.cons.inj cut
      have after : decide (c = '\n') = true := decide_eq_true feed
      rw [layout, layout, after, laid, List.map_cons, List.map_nil, List.intercalate_cons_cons, feed]
      exact ⟨rfl, rfl⟩
    · rw [if_neg feed, List.modifyHead_cons] at cut
      obtain ⟨rfl, rfl⟩ := List.cons.inj cut
      have after : decide (c = '\n') = false := decide_eq_false feed
      have indented : indentedLine ((c, level) :: next) = (indentation level ++ [c]) ++ next.map Prod.fst := by
        rw [indentedLine, List.append_assoc, List.singleton_append]
      have plain : ((c, level) :: next).map Prod.fst = [c] ++ next.map Prod.fst := rfl
      rw [layout, layout, after, laidBehind, indented, plain, intercalate_append_cons_append,
        intercalate_append_cons_append, List.append_assoc]
      simp [feed]

/-- **What is laid out are the lines of the characters**, each behind the indentation of its first one. -/
theorem layout_eq_lines (characters : List Glyph) :
    layout true characters = ['\n'].intercalate ((linesOf characters).map indentedLine) := by
  cases cut : linesOf characters with
  | nil => exact absurd cut (List.splitOnP_ne_nil _ _)
  | cons first rest => exact (layout_eq_of_linesOf cut).1

theorem toList_render (steps : List Step) : (render steps).toList = layout true (printed 0 steps) := by
  unfold render
  rw [run_eq]
  show ("" ++ String.ofList _).toList = _
  rw [String.empty_append, String.toList_ofList]

/-- **A text that is all on one line is printed as it is**, wherever it is printed. -/
theorem infix_render {steps : List Step} {text : String} (among : Step.print text ∈ steps)
    (single : OneLine text.toList) : text.toList <:+: (render steps).toList := by
  by_cases full : text.toList = []
  · rw [full]
    exact List.nil_infix
  · obtain ⟨before, after, rfl⟩ := List.append_of_mem among
    rw [toList_render, printed_append, layout_append, printed, layout_append, layout_glyphs_line full single,
      ← List.append_assoc, ← List.append_assoc]
    exact List.infix_append _ _ _

/-- **Cuts do not matter to a printer, and a run prints the lines of its texts.** Two texts one after the other
leave a printer as their join does. Any steps on a new printer print the lines of their texts, each that is not empty
behind two spaces for every level in force when its first character is printed, and nothing else. -/
theorem prints_lines :
    (∀ (printer : Printer) (first second : String),
      (printer.print first).print second = printer.print (first ++ second))
    ∧ ∀ steps : List Step,
      (render steps).toList = ['\n'].intercalate ((linesOf (printed 0 steps)).map indentedLine)
        ∧ (printed 0 steps).map Prod.fst = steps.flatMap textOf := by
  refine ⟨fun printer first second => ?_, fun steps => ⟨?_, map_fst_printed 0 steps⟩⟩
  · rw [print_eq, print_eq, print_eq, String.toList_append, glyphs_append, advance_append]
    rfl
  · rw [toList_render, layout_eq_lines]

/-- A line that is cut in two, and ended behind a change of the level. -/
example : render [.indent, .print "a", .indent, .print "b", .outdent, .print "\n\nc", .outdent, .outdent, .print "d"]
    = "  ab\n\n  cd" := by
  decide +kernel

end Printer

end ProtoSwift
