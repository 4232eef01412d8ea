/-
**The words of an identifier.**

Characters that are not alphanumeric separate words. Inside a run of alphanumeric characters a word ends
after a lowercase letter that an uppercase one follows (`fooBar` has two words), and before the last of
several uppercase letters if a lowercase one follows it (`XMLFile` has two words). Digits and letters
without case belong to the word around them and keep its case.

* `segments` — the words of one alphanumeric run;
* `words` — the words of a text;
* `flatten_segments` — segmentation loses no character.
-/

import ProtoSwift.Unicode.Alphanumeric
import ProtoSwift.Unicode.LetterCase

namespace ProtoSwift.Text

open Unicode

/-- The case of the letters of the current word, as far as one is known. -/
inductive WordCase
  | unknown
  | lower
  | upper
  deriving DecidableEq, Repr

/-- The case known after one more character of the word. -/
def WordCase.after (before : WordCase) (c : Char) : WordCase :=
  if isLowercase c then .lower else if isUppercase c then .upper else before

/-- The words of an alphanumeric run, the first of which continues a word of the given case. The first
word is empty exactly if that word ends before the run. -/
def segmentsFrom (before : WordCase) : List Char → List (List Char)
  | [] => []
  | [c] => [[c]]
  | c :: next :: rest =>
    if before.after c = .lower ∧ isUppercase next then
      [c] :: segmentsFrom .unknown (next :: rest)
    else if before = .upper ∧ isUppercase c ∧ isLowercase next then
      [] :: (segmentsFrom .unknown (next :: rest)).modifyHead (c :: ·)
    else
      (segmentsFrom (before.after c) (next :: rest)).modifyHead (c :: ·)

/-- The words of an alphanumeric run. -/
def segments (run : List Char) : List (List Char) :=
  segmentsFrom .unknown run

/-- The words of a text, in order. -/
def words (text : List Char) : List (List Char) :=
  (text.splitOnP (fun c => !isAlphanumeric c)).flatMap segments

theorem segmentsFrom_cons_ne_nil (before : WordCase) (c : Char) (rest : List Char) :
    segmentsFrom before (c :: rest) ≠ [] := by
  induction rest generalizing before c with
  | nil => simp [segmentsFrom]
  | cons next rest ih =>
    unfold segmentsFrom
    split
    · simp
    · split
      · simp
      · have tail := ih (before.after c) next
        cases shape : segmentsFrom (before.after c) (next :: rest) with
        | nil => exact absurd shape tail
        | cons head others => simp

/-- Adding a character to the first word adds it to the text. -/
theorem flatten_modifyHead_cons (c : Char) (pieces : List (List Char)) (some : pieces ≠ []) :
    (pieces.modifyHead (c :: ·)).flatten = c :: pieces.flatten := by
  cases pieces with
  | nil => exact absurd rfl some
  | cons head others => simp

/-- Segmentation loses no character. -/
theorem flatten_segmentsFrom (before : WordCase) (run : List Char) :
    (segmentsFrom before run).flatten = run := by
  induction run generalizing before with
  | nil => simp [segmentsFrom]
  | cons c rest ih =>
    cases rest with
    | nil => simp [segmentsFrom]
    | cons next rest =>
      unfold segmentsFrom
      split
      · simp [ih]
      · split
        · simp [flatten_modifyHead_cons c _ (segmentsFrom_cons_ne_nil _ _ _), ih]
        · rw [flatten_modifyHead_cons c _ (segmentsFrom_cons_ne_nil _ _ _), ih]

end ProtoSwift.Text
