/-
**Rendered comments keep every line, in order.**

Rendered comments can be read again. A reader that knows nothing of the comments cuts a text at its line feeds and
takes the markers off: two slashes belong to a detached block, which ends at an empty line, and three slashes to the
documentation. What it finds are the lines of the comments as they are shown, without what is blank at their ends
and without one space at their start.

* `shownText` — what is shown of a line, and `shownText_eq_nil_iff`: nothing exactly of a blank one;
* `CommentTexts.ofRendered?`, `CommentTexts.print` — the reader, and a printer for what it finds;
* `CommentTexts.ofRendered?_print` — the reader finds what was printed;
* `Comments.toList_render` — rendering prints what is shown of all lines;
* `Comments.keeps_lines` — so every line is there, in its place and with its marker;
* `Comments.render_eq_iff` — and comments are rendered alike exactly if they show the same.
-/

import ProtoSwift.Proofs.Swift.CommentLines
import Mathlib

namespace ProtoSwift.Swift

open Text

/-! ### What is shown of a line -/

/-- **What is shown of a line of the schema**: the line without what is blank at its end, and without its first
character if that is a space. -/
def shownText (line : List Char) : List Char :=
  if line.head? = some ' ' then (trimEnd line).tail else trimEnd line

/-- **Nothing is shown of a blank line**, and something of any other line. -/
theorem shownText_eq_nil_iff {line : List Char} : shownText line = [] ↔ IsBlankText line := by
  unfold shownText
  by_cases blank : IsBlankText line
  · have none : trimEnd line = [] := trimEnd_eq_nil_iff.mpr blank
    rw [none, List.tail_nil, ite_self]
    exact iff_of_true rfl blank
  · refine iff_of_false (fun empty => ?_) blank
    by_cases space : line.head? = some ' '
    · -- a space is left at the end, where nothing blank can be
      rw [if_pos space] at empty
      obtain ⟨rest, whole⟩ := List.head?_eq_some_iff.mp ((head?_trimEnd blank).trans space)
      rw [whole, List.tail_cons] at empty
      have last : (trimEnd line).getLast? = some ' ' := by rw [whole, empty]; rfl
      exact absurd (isBlank_getLast_trimEnd last) (by decide)
    · rw [if_neg space] at empty
      exact blank (trimEnd_eq_nil_iff.mp empty)

/-- A text that is shown on a line of its own: it has no line feed, and nothing blank at its end. -/
structure FitsLine (text : List Char) : Prop where
  noFeed : '\n' ∉ text
  last : ∀ c, text.getLast? = some c → isBlank c = false

theorem FitsLine.nil : FitsLine [] where
  noFeed := List.not_mem_nil
  last := fun c last => by cases last

theorem fitsLine_shownText {text line : List Char} (isLine : line ∈ lines text) : FitsLine (shownText line) := by
  have noFeed : '\n' ∉ trimEnd line := fun among => not_mem_of_mem_lines isLine (mem_of_mem_trimEnd among)
  unfold shownText
  by_cases space : line.head? = some ' '
  · rw [if_pos space]
    refine ⟨fun among => noFeed (List.mem_of_mem_tail among), fun c last => ?_⟩
    rw [List.getLast?_tail] at last
    split at last
    · cases last
    · exact isBlank_getLast_trimEnd last
  · rw [if_neg space]
    exact ⟨noFeed, fun c => isBlank_getLast_trimEnd⟩

/-! ### Comment lines -/

/-- A line of rendered comments: the empty line behind a detached block, a line of such a block, or a line of
documentation. -/
inductive RenderedLine
  | gap
  | remark (text : List Char)
  | doc (text : List Char)
  deriving DecidableEq, Repr

namespace RenderedLine

/-- What is shown behind the marker of a line. -/
def text : RenderedLine → List Char
  | gap => []
  | remark text => text
  | doc text => text

/-- A marker and, if there is something to show, one space and that. -/
def marked (marker text : List Char) : List Char :=
  if text = [] then marker else marker ++ ' ' :: text

/-- The spelling of a line. -/
def write : RenderedLine → List Char
  | gap => []
  | remark text => marked "//".toList text
  | doc text => marked "///".toList text

/-- What is shown behind a marker: nothing, or what is behind one space. -/
def behindMarker? : List Char → Option (List Char)
  | [] => some []
  | ' ' :: c :: rest => some (c :: rest)
  | _ => none

/-- **A line that is read.** It is empty, or a marker is in front of what it shows. -/
def read? : List Char → Option RenderedLine
  | [] => some gap
  | '/' :: '/' :: '/' :: behind => (behindMarker? behind).map doc
  | '/' :: '/' :: behind => (behindMarker? behind).map remark
  | _ => none

theorem read?_write (line : RenderedLine) : read? line.write = some line := by
  cases line with
  | gap => rfl
  | remark text => cases text <;> rfl
  | doc text => cases text <;> rfl

theorem fitsLine_marked {marker text : List Char} (ofMarker : FitsLine marker) (ofText : FitsLine text) :
    FitsLine (marked marker text) := by
  unfold marked
  by_cases empty : text = []
  · rwa [if_pos empty]
  · rw [if_neg empty]
    constructor
    · rw [List.mem_append, List.mem_cons]
      rintro (inMarker | space | inText)
      · exact ofMarker.noFeed inMarker
      · exact absurd space (by decide)
      · exact ofText.noFeed inText
    · intro c last
      rw [List.getLast?_append_of_ne_nil _ (List.cons_ne_nil _ _), List.getLast?_cons_of_ne_nil empty] at last
      exact ofText.last c last

theorem fitsLine_slashes {marker : List Char} (isMarker : IsMarker marker) : FitsLine marker where
  noFeed among := absurd (isMarker.slashes _ among) (by decide)
  last c last := by
    rw [isMarker.slashes c (List.mem_of_getLast? last)]
    decide

theorem fitsLine_write {line : RenderedLine} (fits : FitsLine line.text) : FitsLine line.write := by
  cases line with
  | gap => exact fits
  | remark text => exact fitsLine_marked (fitsLine_slashes isMarker_two) fits
  | doc text => exact fitsLine_marked (fitsLine_slashes isMarker_three) fits

end RenderedLine

/-! ### Texts of comments -/

/-- What rendered comments say: the lines of the detached blocks, and those of the documentation. -/
structure CommentTexts where
  blocks : List (List (List Char)) := []
  documentation : List (List Char) := []
  deriving DecidableEq, Repr

namespace CommentTexts

open RenderedLine

/-- The lines that say it: a gap behind each block, and the documentation at the end. -/
def lines (texts : CommentTexts) : List RenderedLine :=
  texts.blocks.flatMap (fun block => block.map remark ++ [gap]) ++ texts.documentation.map doc

/-- Lines as a text, each with a line feed. -/
def print (texts : CommentTexts) : List Char :=
  texts.lines.flatMap fun line => line.write ++ ['\n']

/-- One more line in front of texts. A remark belongs to a block, and no block follows documentation. -/
def add? (line : RenderedLine) (texts : CommentTexts) : Option CommentTexts :=
  match line, texts.blocks with
  | gap, blocks => some { texts with blocks := [] :: blocks }
  | remark text, block :: others => some { texts with blocks := (text :: block) :: others }
  | doc text, [] => some { texts with documentation := text :: texts.documentation }
  | _, _ => none

/-- What lines say together. -/
def gather? : List RenderedLine → Option CommentTexts
  | [] => some {}
  | line :: rest => (gather? rest).bind (add? line)

/-- The lines of a text that was cut at its line feeds. The last of them ended it. -/
def readLines? : List (List Char) → Option (List RenderedLine)
  | [] => none
  | [last] => if last = [] then some [] else none
  | piece :: next :: rest => do return (← read? piece) :: (← readLines? (next :: rest))

/-- **The texts that are read off rendered comments.** -/
def ofRendered? (rendered : List Char) : Option CommentTexts := do
  gather? (← readLines? (rendered.splitOn '\n'))

/-! ### Reading what was printed -/

theorem readLines?_map_write (rendered : List RenderedLine) :
    readLines? (rendered.map write ++ [[]]) = some rendered := by
  induction rendered with
  | nil => rfl
  | cons line rest inRest =>
    obtain ⟨next, others, shape⟩ : ∃ next others, rest.map write ++ [[]] = next :: others :=
      List.exists_cons_of_ne_nil (List.append_ne_nil_of_right_ne_nil _ (List.cons_ne_nil _ _))
    rw [List.map_cons, List.cons_append, shape, readLines?, ← shape, read?_write, inRest]
    rfl

/-- Documentation is gathered line by line. -/
theorem gather?_map_doc (texts : List (List Char)) :
    gather? (texts.map doc) = some { documentation := texts } := by
  induction texts with
  | nil => rfl
  | cons text rest inRest =>
    rw [List.map_cons, gather?, inRest]
    rfl

/-- A block is gathered as one, up to its gap. The induction is on its lines. -/
theorem gather?_block (block : List (List Char)) {rest : List RenderedLine} {texts : CommentTexts}
    (gathered : gather? rest = some texts) :
    gather? (block.map remark ++ gap :: rest) = some { texts with blocks := block :: texts.blocks } := by
  induction block with
  | nil =>
    rw [List.map_nil, List.nil_append, gather?, gathered]
    rfl
  | cons text others inOthers =>
    rw [List.map_cons, List.cons_append, gather?, inOthers]
    rfl

/-- **Lines say together what they were made for.** -/
theorem gather?_lines (texts : CommentTexts) : gather? texts.lines = some texts := by
  obtain ⟨blocks, documented⟩ := texts
  unfold lines
  induction blocks with
  | nil => exact gather?_map_doc documented
  | cons block others inOthers =>
    rw [List.flatMap_cons, List.append_assoc, List.append_assoc]
    exact gather?_block block inOthers

/-- Lines with their line feeds are cut into the lines. -/
theorem splitOn_flatMap_feed {pieces : List (List Char)} (noFeed : ∀ piece ∈ pieces, '\n' ∉ piece) :
    (pieces.flatMap (· ++ ['\n'])).splitOn '\n' = pieces ++ [[]] := by
  induction pieces with
  | nil => rfl
  | cons piece rest inRest =>
    have below := inRest fun other among => noFeed other (List.mem_cons_of_mem _ among)
    rw [List.flatMap_cons, List.append_assoc, List.singleton_append, List.splitOn_append_cons_self,
      List.splitOn_eq_singleton (noFeed piece List.mem_cons_self), below]
    rfl

/-- Texts of which every one fits a line. -/
structure Fit (texts : CommentTexts) : Prop where
  blocks : ∀ block ∈ texts.blocks, ∀ text ∈ block, FitsLine text
  documentation : ∀ text ∈ texts.documentation, FitsLine text

variable {texts : CommentTexts}

theorem Fit.fitsLine_write (fit : texts.Fit) : ∀ line ∈ texts.lines, FitsLine line.write := by
  have inBlock : ∀ block ∈ texts.blocks, ∀ line ∈ block.map remark ++ [gap], FitsLine line.text := by
    intro block isBlock
    refine List.forall_mem_append.mpr ⟨List.forall_mem_map.mpr (fit.blocks block isBlock), ?_⟩
    exact List.forall_mem_singleton.mpr .nil
  intro line among
  apply RenderedLine.fitsLine_write
  rcases List.mem_append.mp among with inBlocks | inDocumentation
  · obtain ⟨block, isBlock, isLine⟩ := List.mem_flatMap.mp inBlocks
    exact inBlock block isBlock line isLine
  · obtain ⟨text, isText, rfl⟩ := List.mem_map.mp inDocumentation
    exact fit.documentation text isText

theorem print_eq (texts : CommentTexts) : texts.print = (texts.lines.map write).flatMap (· ++ ['\n']) := by
  rw [List.flatMap_map]
  rfl

/-- **What was printed is cut into its lines again.** -/
theorem splitOn_print (fit : texts.Fit) :
    texts.print.splitOn '\n' = texts.lines.map write ++ [[]] := by
  rw [print_eq]
  exact splitOn_flatMap_feed (List.forall_mem_map.mpr fun line among => (fit.fitsLine_write line among).noFeed)

/-- **The reader finds what was printed.** -/
theorem ofRendered?_print (fit : texts.Fit) : ofRendered? texts.print = some texts := by
  unfold ofRendered?
  rw [splitOn_print fit, readLines?_map_write]
  exact gather?_lines texts

/-- What was printed ends its last line. -/
theorem getLast?_print (texts : CommentTexts) : texts.print = [] ∨ texts.print.getLast? = some '\n' := by
  unfold print
  rcases List.eq_nil_or_concat texts.lines with none | ⟨before, last, whole⟩
  · exact Or.inl (by rw [none, List.flatMap_nil])
  · right
    rw [whole, List.concat_eq_append, List.flatMap_append, List.flatMap_singleton, ← List.append_assoc,
      List.getLast?_concat]

/-- No line of what was printed ends in a blank character. -/
theorem isBlank_getLast_of_mem_splitOn_print (fit : texts.Fit) {line : List Char} {c : Char}
    (isLine : line ∈ texts.print.splitOn '\n') (last : line.getLast? = some c) : isBlank c = false := by
  rw [splitOn_print fit] at isLine
  rcases List.mem_append.mp isLine with written | atEnd
  · obtain ⟨rendered, among, rfl⟩ := List.mem_map.mp written
    exact (fit.fitsLine_write rendered among).last c last
  · rw [List.mem_singleton.mp atEnd] at last
    cases last

end CommentTexts

/-! ### Rendered comments -/

namespace Comments

open RenderedLine

variable (comments : Comments)

/-- What is shown of the lines of a text. -/
def shownLines (text : String) : List (List Char) :=
  (lines text.toList).map shownText

/-- **What comments show**: the detached blocks in order, and as documentation the leading comments, a line without
text if there are both, and the trailing comments. -/
def shownTexts : CommentTexts where
  blocks := comments.detached.map shownLines
  documentation := shownLines comments.leading
    ++ (if comments.leading ≠ "" ∧ comments.trailing ≠ "" then [[]] else []) ++ shownLines comments.trailing

/-- **A line of a comment as it is rendered**: the marker alone if the line is blank, and otherwise the marker, one
space and what is shown of the line. -/
def keptLine (marker : String) (line : List Char) : List Char :=
  if IsBlankText line then marker.toList else marker.toList ++ ' ' :: shownText line

/-- **The lines of rendered comments.** An empty line follows each detached block, and a bare marker parts the leading
comments from the trailing ones if there are both. -/
def keptLines : List (List Char) :=
  comments.detached.flatMap (fun block => (lines block.toList).map (keptLine "//") ++ [[]])
    ++ (lines comments.leading.toList).map (keptLine "///")
    ++ (if comments.leading ≠ "" ∧ comments.trailing ≠ "" then ["///".toList] else [])
    ++ (lines comments.trailing.toList).map (keptLine "///")

/-! ### Rendering line by line -/

theorem commentLine_eq (marker : String) (line : List Char) :
    commentLine marker.toList line = keptLine marker line ++ ['\n'] := by
  have spelt : commentLine marker.toList line = marker.toList
      ++ (if trim line = [] ∨ line.head? = some ' ' then [] else [' ']) ++ trimEnd line ++ ['\n'] := rfl
  rw [spelt]
  unfold keptLine
  by_cases blank : IsBlankText line
  · rw [if_pos (Or.inl (trim_eq_nil_iff.mpr blank)), if_pos blank, trimEnd_eq_nil_iff.mpr blank, List.append_nil,
      List.append_nil]
  · rw [if_neg blank]
    unfold shownText
    by_cases space : line.head? = some ' '
    · obtain ⟨rest, whole⟩ := List.head?_eq_some_iff.mp ((head?_trimEnd blank).trans space)
      rw [if_pos (Or.inr space), if_pos space, whole, List.append_nil, List.tail_cons]
    · have apart : ¬ (trim line = [] ∨ line.head? = some ' ') :=
        not_or.mpr ⟨mt trim_eq_nil_iff.mp blank, space⟩
      rw [if_neg apart, if_neg space, List.append_assoc marker.toList, List.singleton_append]

theorem commentLines_eq (marker text : String) :
    commentLines marker text = ((lines text.toList).map (keptLine marker)).flatMap (· ++ ['\n']) := by
  unfold commentLines
  rw [List.flatMap_map]
  exact List.flatMap_congr fun line _ => commentLine_eq marker line

theorem separator_eq : comments.separator
    = (if comments.leading ≠ "" ∧ comments.trailing ≠ "" then ["///".toList] else []).flatMap (· ++ ['\n']) := by
  unfold separator
  split <;> rfl

theorem detached_eq (blocks : List String) : blocks.flatMap (fun block => commentLines "//" block ++ ['\n'])
    = (blocks.flatMap fun block => (lines block.toList).map (keptLine "//") ++ [[]]).flatMap (· ++ ['\n']) := by
  rw [List.flatMap_assoc]
  refine List.flatMap_congr fun block _ => ?_
  rw [commentLines_eq, List.flatMap_append]
  rfl

theorem toList_render_eq : comments.render.toList = comments.keptLines.flatMap (· ++ ['\n']) := by
  unfold render keptLines
  rw [String.toList_ofList, detached_eq, commentLines_eq, separator_eq, commentLines_eq, List.flatMap_append,
    List.flatMap_append, List.flatMap_append]

/-- Lines that are written one by one are the lines as they are rendered. -/
theorem map_write_shownLines {marker : String} {make : List Char → RenderedLine}
    (spelt : ∀ text, (make text).write = marked marker.toList text) (text : String) :
    ((shownLines text).map make).map write = (lines text.toList).map (keptLine marker) := by
  unfold shownLines
  rw [List.map_map, List.map_map]
  refine List.map_congr_left fun line _ => ?_
  calc (make (shownText line)).write = marked marker.toList (shownText line) := spelt _
    _ = keptLine marker line := if_congr shownText_eq_nil_iff rfl rfl

theorem map_write_lines : comments.shownTexts.lines.map write = comments.keptLines := by
  have inBlock : ∀ block, ((shownLines block).map remark ++ [gap]).map write
      = (lines block.toList).map (keptLine "//") ++ [[]] := by
    intro block
    rw [List.map_append, map_write_shownLines fun _ => rfl]
    rfl
  have between : ((if comments.leading ≠ "" ∧ comments.trailing ≠ "" then [[]] else []).map doc).map write
      = if comments.leading ≠ "" ∧ comments.trailing ≠ "" then ["///".toList] else [] := by
    split <;> rfl
  have documented : ∀ text, ((shownLines text).map doc).map write = (lines text.toList).map (keptLine "///") :=
    map_write_shownLines fun _ => rfl
  unfold CommentTexts.lines shownTexts keptLines
  rw [List.map_append, List.map_append, List.map_append, List.map_append, List.map_append, documented, between,
    documented, List.map_flatMap, List.flatMap_map, List.flatMap_congr fun block _ => inBlock block, ← List.append_assoc,
    ← List.append_assoc]

/-- **Rendering prints what is shown of all lines.** -/
theorem toList_render : comments.render.toList = comments.shownTexts.print := by
  rw [toList_render_eq, CommentTexts.print_eq, map_write_lines]

theorem fit_shownTexts : comments.shownTexts.Fit := by
  have shown : ∀ source, ∀ text ∈ shownLines source, FitsLine text := fun source =>
    List.forall_mem_map.mpr fun line => fitsLine_shownText
  constructor
  · exact List.forall_mem_map.mpr fun block _ => shown block
  · refine List.forall_mem_append.mpr ⟨List.forall_mem_append.mpr ⟨shown _, fun text among => ?_⟩, shown _⟩
    split at among
    · rw [List.mem_singleton.mp among]
      exact .nil
    · cases among

/-- **Rendered comments keep every line, in order.** Cut at its line feeds, the text has one line for each line of
the detached blocks, of the leading and of the trailing comments, an empty line behind each block, and a bare marker
between leading and trailing comments; so a reader that takes off the markers finds what is shown of them. The text
is empty or ends its last line, and no line ends in a blank character. -/
theorem keeps_lines :
    comments.render.toList.splitOn '\n' = comments.keptLines ++ [[]]
      ∧ CommentTexts.ofRendered? comments.render.toList = some comments.shownTexts
      ∧ (comments.render = "" ∨ comments.render.toList.getLast? = some '\n')
      ∧ ∀ line ∈ comments.render.toList.splitOn '\n', ∀ c, line.getLast? = some c → isBlank c = false := by
  have fit := comments.fit_shownTexts
  rw [toList_render]
  refine ⟨?_, CommentTexts.ofRendered?_print fit, ?_, fun line isLine c last => ?_⟩
  · rw [CommentTexts.splitOn_print fit, map_write_lines]
  · rw [← String.toList_eq_nil_iff, toList_render]
    exact CommentTexts.getLast?_print _
  · exact CommentTexts.isBlank_getLast_of_mem_splitOn_print fit isLine last

/-- No space is doubled, a tab stays, and a carriage return in front of a line feed goes. -/
example : render { detached := ["old\n"], leading := " The size.\n \t\n\tIn bytes. \r\n", trailing := "More" }
    = "// old\n\n/// The size.\n///\n/// \tIn bytes.\n///\n/// More\n" := by
  decide

/-- **Comments are rendered alike exactly if they show the same.** -/
theorem render_eq_iff {first second : Comments} :
    first.render = second.render ↔ first.shownTexts = second.shownTexts := by
  rw [← String.toList_inj, toList_render, toList_render]
  constructor
  · intro same
    have read := CommentTexts.ofRendered?_print first.fit_shownTexts
    rw [same, CommentTexts.ofRendered?_print second.fit_shownTexts] at read
    exact (Option.some.inj read).symm
  · exact congrArg CommentTexts.print

end Comments

end ProtoSwift.Swift
