/-
**Rendered comments as lines of source text.**

Comments are rendered line by line, and a line of the schema ends at a line feed. Lines of source text end at a
carriage return as well. So one that stands inside a line of the schema, where it ends nothing, starts a line of
source text that has no marker. All other lines have one, or are empty.

* `sourceLines` — the lines of source text;
* `sourceLines_append` — text up to a line feed is cut at its carriage returns;
* `StaysComment` — whether what a line of the schema is cut into stays a comment;
* `Comments.areComments_render_iff` — rendered comments are comments exactly if all of their lines stay so;
* `Comments.escape_return` — which a line does not that goes on behind a carriage return.
-/

import ProtoSwift.Proofs.Text.Trimming
import ProtoSwift.Proofs.Text.WordCharacters
import ProtoSwift.Swift.Comment
import Mathlib

namespace ProtoSwift.Swift

open Text

/-! ### Lines of source text -/

/-- **The lines of source text.** A line ends at a line feed, at a carriage return, or at both of them in this
order. -/
def sourceLines : List Char → List (List Char)
  | [] => [[]]
  | '\r' :: '\n' :: rest => [] :: sourceLines rest
  | c :: rest =>
    if c = '\r' ∨ c = '\n' then [] :: sourceLines rest else (sourceLines rest).modifyHead (c :: ·)

/-- A line that is empty or starts like a comment. -/
def IsComment (line : List Char) : Prop :=
  line = [] ∨ "//".toList <+: line

instance (line : List Char) : Decidable (IsComment line) :=
  inferInstanceAs (Decidable (_ ∨ _))

theorem modifyHead_append {α : Type} {first second : List α} (change : α → α) (some : first ≠ []) :
    (first ++ second).modifyHead change = first.modifyHead change ++ second := by
  cases first with
  | nil => exact absurd rfl some
  | cons head rest => rfl

/-- **Text up to a line feed is cut at its carriage returns**, if the last of them does not belong to the line
feed. The induction is on the text. -/
theorem sourceLines_append {text : List Char} (rest : List Char) (noFeed : '\n' ∉ text)
    (last : text.getLast? ≠ some '\r') :
    sourceLines (text ++ '\n' :: rest) = text.splitOn '\r' ++ sourceLines rest := by
  induction text with
  | nil => simp [sourceLines]
  | cons c text inText =>
    have other : c ≠ '\n' := fun same => noFeed (same ▸ List.mem_cons_self)
    have noFeedInText : '\n' ∉ text := fun among => noFeed (List.mem_cons_of_mem _ among)
    have lastInText : text.getLast? ≠ some '\r' := by
      intro same
      refine last ?_
      rw [List.getLast?_cons, same]
      rfl
    have below := inText noFeedInText lastInText
    have step : sourceLines (c :: (text ++ '\n' :: rest)) = if c = '\r' ∨ c = '\n'
        then [] :: sourceLines (text ++ '\n' :: rest)
        else (sourceLines (text ++ '\n' :: rest)).modifyHead (c :: ·) := by
      rw [sourceLines]
      intro after isReturn isFeed
      cases text with
      | nil =>
        rw [isReturn] at last
        exact last rfl
      | cons next more =>
        obtain ⟨rfl, -⟩ := List.cons.inj isFeed
        exact noFeedInText List.mem_cons_self
    rw [List.cons_append, step, below, List.splitOn_cons_eq_if_modifyHead]
    by_cases isReturn : c = '\r'
    · rw [if_pos (.inl isReturn), if_pos (beq_iff_eq.mpr isReturn), List.cons_append]
    · rw [if_neg (by simp [isReturn, other]), if_neg (by simp [isReturn]),
        modifyHead_append _ (List.splitOn_ne_nil _ _)]

/-- Text in front of the first mark is part of the first piece. -/
theorem splitOn_append_of_not_mem {mark : Char} {front : List Char} (without : mark ∉ front) (text : List Char) :
    (front ++ text).splitOn mark = (text.splitOn mark).modifyHead (front ++ ·) := by
  induction front with
  | nil => cases h : text.splitOn mark <;> rw [List.nil_append, h] <;> rfl
  | cons c front inFront =>
    have other : ¬ (c == mark) = true := by
      rw [beq_iff_eq]
      rintro rfl
      exact without List.mem_cons_self
    have below := inFront fun among => without (List.mem_cons_of_mem _ among)
    rw [List.cons_append, List.splitOn_cons_eq_if_modifyHead, if_neg other, below, List.modifyHead_modifyHead]
    rfl

/-! ### Comment lines -/

/-- A text whose lines are empty or comments. -/
def AreComments (text : List Char) : Prop :=
  ∀ line ∈ sourceLines text, IsComment line

instance (text : List Char) : Decidable (AreComments text) :=
  List.decidableBAll (fun line => IsComment line) (sourceLines text)

/-- **A line of the schema that stays a comment.** Behind each carriage return in it, up to the next one, there is
nothing or another comment. What is blank at its end is not rendered. -/
def StaysComment (line : List Char) : Prop :=
  ∀ part ∈ ((trimEnd line).splitOn '\r').tail, IsComment part

instance (line : List Char) : Decidable (StaysComment line) :=
  List.decidableBAll (fun part => IsComment part) ((trimEnd line).splitOn '\r').tail

/-- What is blank at the end of a line is left out, and with it a carriage return. -/
example : StaysComment " Both of them.\t\r ".toList := by decide

/-- What a comment line starts with: two slashes or more. -/
structure IsMarker (marker : List Char) : Prop where
  two : "//".toList <+: marker
  slashes : ∀ c ∈ marker, c = '/'

theorem isMarker_two : IsMarker "//".toList where
  two := ⟨[], rfl⟩
  slashes := by simp

theorem isMarker_three : IsMarker "///".toList where
  two := ⟨['/'], rfl⟩
  slashes := by simp

theorem areComments_feed (rest : List Char) : AreComments ('\n' :: rest) ↔ AreComments rest := by
  have cut : sourceLines ('\n' :: rest) = [] :: sourceLines rest := by simp [sourceLines]
  unfold AreComments
  rw [cut, List.forall_mem_cons]
  exact and_iff_right (Or.inl rfl)

/-- No line of a text has a line feed in it. -/
theorem not_mem_of_mem_linesOfPieces {pieces : List (List Char)} (without : ∀ piece ∈ pieces, '\n' ∉ piece)
    {line : List Char} (isLine : line ∈ linesOfPieces pieces) : '\n' ∉ line := by
  induction pieces using linesOfPieces.induct with
  | case1 => cases isLine
  | case2 last empty =>
    rw [linesOfPieces, if_pos empty] at isLine
    cases isLine
  | case3 last some =>
    rw [linesOfPieces, if_neg some] at isLine
    obtain rfl := List.mem_singleton.mp isLine
    exact without line List.mem_cons_self
  | case4 piece next rest inRest =>
    rw [linesOfPieces] at isLine
    rcases List.mem_cons.mp isLine with rfl | later
    · intro feed
      refine without piece List.mem_cons_self ?_
      unfold dropReturn at feed
      split at feed
      · exact List.mem_of_mem_dropLast feed
      · exact feed
    · exact inRest (fun other among => without other (List.mem_cons_of_mem _ among)) later

theorem not_mem_of_mem_lines {text line : List Char} (isLine : line ∈ lines text) : '\n' ∉ line := by
  refine not_mem_of_mem_linesOfPieces (fun piece among feed => ?_) isLine
  have outside := (mem_of_mem_splitOnP among feed).2
  simp at outside

/-- **A comment line is cut at the carriage returns of the line it renders.** The line feed at its end is not part
of a pair, since no blank character is rendered in front of it. -/
theorem sourceLines_commentLine {marker line : List Char} (isMarker : IsMarker marker) (noFeed : '\n' ∉ line)
    (rest : List Char) : ∃ front, "//".toList <+: front ∧ sourceLines (Comments.commentLine marker line ++ rest)
      = ((trimEnd line).splitOn '\r').modifyHead (front ++ ·) ++ sourceLines rest := by
  obtain ⟨front, spelt, two, marks⟩ : ∃ front,
      Comments.commentLine marker line = front ++ trimEnd line ++ ['\n'] ∧ "//".toList <+: front
        ∧ ∀ c ∈ front, c = '/' ∨ c = ' ' := by
    refine ⟨_, rfl, isMarker.two.trans (List.prefix_append _ _), fun c among => ?_⟩
    rcases List.mem_append.mp among with inMarker | inSpace
    · exact Or.inl (isMarker.slashes c inMarker)
    · split at inSpace
      · cases inSpace
      · exact Or.inr (List.mem_singleton.mp inSpace)
  have noReturn : '\r' ∉ front := fun among => absurd (marks _ among) (by decide)
  have noFeedInFront : '\n' ∉ front := fun among => absurd (marks _ among) (by decide)
  have noFeedInLine : '\n' ∉ trimEnd line := fun among => noFeed (mem_of_mem_trimEnd among)
  have last : (front ++ trimEnd line).getLast? ≠ some '\r' := by
    rw [List.getLast?_append]
    intro same
    cases shown : (trimEnd line).getLast? with
    | none =>
      rw [shown, Option.none_or] at same
      exact noReturn (List.mem_of_getLast? same)
    | some c =>
      rw [shown, Option.some_or] at same
      have notBlank := isBlank_getLast_trimEnd shown
      rw [Option.some.inj same] at notBlank
      exact absurd notBlank (by decide)
  refine ⟨front, two, ?_⟩
  have noFeedAtAll : '\n' ∉ front ++ trimEnd line := fun among =>
    (List.mem_append.mp among).elim noFeedInFront noFeedInLine
  rw [spelt, List.append_assoc, List.singleton_append, sourceLines_append rest noFeedAtAll last,
    splitOn_append_of_not_mem noReturn]

theorem areComments_commentLine {marker line : List Char} (isMarker : IsMarker marker) (noFeed : '\n' ∉ line)
    (rest : List Char) :
    AreComments (Comments.commentLine marker line ++ rest) ↔ StaysComment line ∧ AreComments rest := by
  obtain ⟨front, two, cut⟩ := sourceLines_commentLine isMarker noFeed rest
  unfold AreComments StaysComment
  rw [cut, List.forall_mem_append]
  refine and_congr_left' ?_
  cases shape : (trimEnd line).splitOn '\r' with
  | nil => exact absurd shape (List.splitOn_ne_nil _ _)
  | cons first others =>
    rw [List.modifyHead_cons, List.forall_mem_cons, List.tail_cons]
    exact and_iff_right (Or.inr (two.trans (List.prefix_append _ _)))

/-- **Comment lines are comments exactly if all of the lines they render stay comments.** The induction is on the
lines. -/
theorem areComments_flatMap_commentLine {marker : List Char} (isMarker : IsMarker marker)
    {pieces : List (List Char)} (noFeed : ∀ line ∈ pieces, '\n' ∉ line) (rest : List Char) :
    AreComments (pieces.flatMap (Comments.commentLine marker) ++ rest)
      ↔ (∀ line ∈ pieces, StaysComment line) ∧ AreComments rest := by
  induction pieces with
  | nil => simp
  | cons first others inOthers =>
    have below := inOthers fun line among => noFeed line (List.mem_cons_of_mem _ among)
    rw [List.flatMap_cons, List.append_assoc, areComments_commentLine isMarker (noFeed first List.mem_cons_self),
      below, List.forall_mem_cons, and_assoc]

theorem areComments_commentLines {marker : String} (isMarker : IsMarker marker.toList) (text : String)
    (rest : List Char) : AreComments (Comments.commentLines marker text ++ rest)
      ↔ (∀ line ∈ lines text.toList, StaysComment line) ∧ AreComments rest :=
  areComments_flatMap_commentLine isMarker (fun _ => not_mem_of_mem_lines) rest

namespace Comments

/-! ### The comments of a declaration -/

/-- The texts of the comments on a declaration, in order. -/
def texts (comments : Comments) : List String :=
  comments.detached ++ [comments.leading, comments.trailing]

theorem areComments_separator (comments : Comments) (rest : List Char) :
    AreComments (comments.separator ++ rest) ↔ AreComments rest := by
  unfold separator
  split
  · have cut : sourceLines ("///\n".toList ++ rest) = ["///".toList] ++ sourceLines rest :=
      @sourceLines_append "///".toList rest (by decide) (by decide)
    unfold AreComments
    rw [cut, List.singleton_append, List.forall_mem_cons]
    exact and_iff_right (by decide)
  · rw [List.nil_append]

theorem areComments_detached (blocks : List String) (rest : List Char) :
    AreComments (blocks.flatMap (fun block => commentLines "//" block ++ ['\n']) ++ rest)
      ↔ (∀ block ∈ blocks, ∀ line ∈ lines block.toList, StaysComment line) ∧ AreComments rest := by
  induction blocks with
  | nil => simp
  | cons first others inOthers =>
    rw [List.flatMap_cons, List.append_assoc, List.append_assoc, areComments_commentLines isMarker_two,
      List.singleton_append, areComments_feed, inOthers, List.forall_mem_cons, and_assoc]

/-- **Rendered comments are comments exactly if all lines of their texts stay comments.** So the only text that
is read as code is the one behind a carriage return inside a line. -/
theorem areComments_render_iff (comments : Comments) :
    AreComments comments.render.toList
      ↔ ∀ text ∈ comments.texts, ∀ line ∈ lines text.toList, StaysComment line := by
  have empty : AreComments [] := by decide
  have atEnd := areComments_commentLines isMarker_three comments.trailing []
  rw [List.append_nil, and_iff_left empty] at atEnd
  unfold render texts
  rw [String.toList_ofList, List.append_assoc, List.append_assoc, areComments_detached,
    areComments_commentLines isMarker_three, areComments_separator, atEnd, List.forall_mem_append,
    List.forall_mem_cons, List.forall_mem_singleton]

/-- What follows a carriage return inside a line is no comment. -/
theorem escape_return : ¬ AreComments (render { leading := " a\rfoo()\n" }).toList := by
  decide

end Comments

end ProtoSwift.Swift
