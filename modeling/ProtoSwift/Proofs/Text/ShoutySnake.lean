/-
**Words joined in capitals, and read again.**

In ASCII, capitals and underscores keep the words of a name: a word in capitals has no place where another one
starts, and an underscore is in no word.

* `words_append_cons` — a separator parts the words of a text;
* `IsCapitalWord` — a word without separators and without small letters;
* `words_intercalate` — such words joined by underscores are read as they are;
* `append_cons_eq_intercalate_iff` — what starts with some of them and an underscore goes on with the others;
* `map_upperWord_isPrefix_iff` — upper case compares words as lower case does;
* `joinLowerCamel_map_upperWord` — camel case does not depend on the case of the words.
-/

import ProtoSwift.Proofs.Text.CamelCase
import Mathlib

namespace ProtoSwift.Text

open Unicode

/-! ### Words without small letters -/

/-- **A separator parts the words of a text.** -/
theorem words_append_cons {mark : Char} (separates : isAlphanumeric mark = false) (front back : List Char) :
    words (front ++ mark :: back) = words front ++ words back := by
  unfold words
  rw [List.splitOnP_append_cons front back (by rw [separates]; rfl), List.flatMap_append]

/-- Without small letters, and behind none, no word starts inside a run. -/
theorem segmentsFrom_of_not_lowercase {before : WordCase} (noSmall : before ≠ .lower) {first : Char}
    {rest : List Char} (none : ∀ c ∈ first :: rest, isLowercase c = false) :
    segmentsFrom before (first :: rest) = [first :: rest] := by
  induction rest generalizing before first with
  | nil => rfl
  | cons next rest inRest =>
    have firstNot : isLowercase first = false := none first List.mem_cons_self
    have nextNot : isLowercase next = false := none next (List.mem_cons_of_mem _ List.mem_cons_self)
    have after : before.after first ≠ .lower := by
      unfold WordCase.after
      rw [firstNot]
      by_cases capital : isUppercase first = true
      · simp [capital]
      · simpa [capital] using noSmall
    have later := inRest after fun c among => none c (List.mem_cons_of_mem _ among)
    unfold segmentsFrom
    rw [if_neg fun ends => after ends.1, if_neg (by simp [nextNot]), later]
    rfl

/-- A word that has no separator and no small letter in it. -/
structure IsCapitalWord (word : List Char) : Prop where
  some : word ≠ []
  alphanumeric : ∀ c ∈ word, isAlphanumeric c = true
  noSmall : ∀ c ∈ word, isLowercase c = false

theorem words_of_isCapitalWord {word : List Char} (capital : IsCapitalWord word) : words word = [word] := by
  cases word with
  | nil => exact absurd rfl capital.some
  | cons first rest =>
    have whole : ∀ c ∈ first :: rest, (!isAlphanumeric c) = false := by
      intro c among
      rw [capital.alphanumeric c among]
      rfl
    have single := segmentsFrom_of_not_lowercase (by decide : WordCase.unknown ≠ .lower) capital.noSmall
    unfold words segments
    rw [List.splitOnP_eq_singleton whole, List.flatMap_singleton, single]

/-- An underscore is in no word. -/
theorem IsCapitalWord.not_mem {word : List Char} (capital : IsCapitalWord word) : '_' ∉ word :=
  fun among => absurd (capital.alphanumeric '_' among) (by decide)

/-- **Capital words joined by underscores are read as they are.** -/
theorem words_intercalate {pieces : List (List Char)} (capital : ∀ piece ∈ pieces, IsCapitalWord piece) :
    words (['_'].intercalate pieces) = pieces := by
  induction pieces with
  | nil => rfl
  | cons first rest inRest =>
    have alone := words_of_isCapitalWord (capital first List.mem_cons_self)
    cases rest with
    | nil => rw [List.intercalate_singleton, alone]
    | cons second others =>
      have later := inRest fun piece among => capital piece (List.mem_cons_of_mem _ among)
      rw [List.intercalate_cons_cons, List.append_assoc, List.singleton_append,
        words_append_cons (by decide), alone, later, List.singleton_append]

/-! ### The start of joined words -/

theorem intercalate_append {front more : List (List Char)} (someFront : front ≠ []) (some : more ≠ []) :
    ['_'].intercalate (front ++ more) = ['_'].intercalate front ++ '_' :: ['_'].intercalate more := by
  induction front with
  | nil => exact absurd rfl someFront
  | cons first front inFront =>
    cases front with
    | nil =>
      rw [List.singleton_append, List.intercalate_cons_of_ne_nil some, List.append_assoc,
        List.intercalate_singleton, List.singleton_append]
    | cons second others =>
      rw [List.cons_append, List.cons_append, List.intercalate_cons_cons, ← List.cons_append,
        inFront (List.cons_ne_nil _ _), List.intercalate_cons_cons]
      simp only [List.append_assoc]

/-- Joined words do not start with an underscore. -/
theorem underscore_cons_ne_intercalate {pieces : List (List Char)}
    (capital : ∀ piece ∈ pieces, IsCapitalWord piece) (rest : List Char) :
    '_' :: rest ≠ ['_'].intercalate pieces := by
  intro same
  cases pieces with
  | nil => cases same
  | cons first others =>
    have isFirst := capital first List.mem_cons_self
    obtain ⟨tail, start⟩ : ∃ tail, ['_'].intercalate (first :: others) = first ++ tail := by
      cases others with
      | nil => exact ⟨[], by rw [List.intercalate_singleton, List.append_nil]⟩
      | cons second more => exact ⟨_, by rw [List.intercalate_cons_cons, List.append_assoc]⟩
    obtain ⟨c, inFirst, shape⟩ := List.exists_cons_of_ne_nil isFirst.some
    rw [start, shape, List.cons_append] at same
    refine isFirst.not_mem ?_
    rw [shape, (List.cons.inj same).1]
    exact List.mem_cons_self

/-- **What starts with some words and an underscore goes on with the other words.** The words can be read on both
sides, so those in front are the first ones, and all that is left is joined from the others. -/
theorem append_cons_eq_intercalate_iff {front pieces : List (List Char)} {rest : List Char}
    (capitalFront : ∀ piece ∈ front, IsCapitalWord piece) (capital : ∀ piece ∈ pieces, IsCapitalWord piece) :
    ['_'].intercalate front ++ '_' :: rest = ['_'].intercalate pieces
      ↔ front ≠ [] ∧ ∃ more, more ≠ [] ∧ pieces = front ++ more ∧ rest = ['_'].intercalate more := by
  constructor
  · intro same
    have some : front ≠ [] := by
      rintro rfl
      exact underscore_cons_ne_intercalate capital rest same
    have read := congrArg words same
    rw [words_append_cons (by decide), words_intercalate capitalFront, words_intercalate capital] at read
    have someMore : words rest ≠ [] := by
      intro none
      rw [none, List.append_nil] at read
      rw [← read] at same
      simpa using congrArg List.length same
    rw [← read, intercalate_append some someMore] at same
    have behind := List.append_cancel_left same
    exact ⟨some, words rest, someMore, read.symm, (List.cons.inj behind).2⟩
  · rintro ⟨some, more, someMore, rfl, rfl⟩
    exact (intercalate_append some someMore).symm

/-! ### Words in capitals -/

theorem isCapitalWord_upperWord {text word : List Char} (ascii : IsAscii text) (isWord : word ∈ words text) :
    IsCapitalWord (upperWord word) := by
  have small := ascii.of_mem_words isWord
  have each : ∀ c ∈ upperWord word, c.isAlphanum = true ∧ c.isLower = false := by
    rw [upperWord_eq_map small]
    intro c among
    obtain ⟨d, inside, rfl⟩ := List.mem_map.mp among
    have alphanum := isWordCharacter_of_mem_words isWord d inside (small d inside)
    exact ⟨isAlphanum_toUpper alphanum, Char.isLower_toUpper_eq_false d⟩
  refine ⟨?_, fun c among => ?_, fun c among => ?_⟩
  · rw [upperWord_eq_map small]
    exact fun none => ne_nil_of_mem_words isWord (List.map_eq_nil_iff.mp none)
  · rw [isAlphanumeric_of_lt c (small.upperWord c among), (each c among).1]
  · rw [isLowercase_of_lt c (small.upperWord c among), (each c among).2]

theorem forall_isCapitalWord {text : List Char} (ascii : IsAscii text) :
    ∀ piece ∈ (words text).map upperWord, IsCapitalWord piece := by
  intro piece among
  obtain ⟨word, isWord, rfl⟩ := List.mem_map.mp among
  exact isCapitalWord_upperWord ascii isWord

/-- Words without the case of their letters. -/
def folded (pieces : List (List Char)) : List (List Char) :=
  pieces.map (·.map Char.toLower)

theorem folded_map_upperWord {pieces : List (List Char)} (ascii : ∀ piece ∈ pieces, IsAscii piece) :
    folded (pieces.map upperWord) = folded pieces := by
  unfold folded
  rw [List.map_map]
  refine List.map_congr_left fun piece among => ?_
  rw [Function.comp_apply, upperWord_eq_map (ascii piece among), List.map_map]
  exact List.map_congr_left fun c _ => Char.toLower_toUpper_eq_toLower c

theorem map_map_toUpper_folded {pieces : List (List Char)} (ascii : ∀ piece ∈ pieces, IsAscii piece) :
    (folded pieces).map (·.map Char.toUpper) = pieces.map upperWord := by
  unfold folded
  rw [List.map_map]
  refine List.map_congr_left fun piece among => ?_
  rw [Function.comp_apply, upperWord_eq_map (ascii piece among), List.map_map]
  exact List.map_congr_left fun c _ => Char.toUpper_toLower_eq_toUpper c

/-- **Upper case compares words as lower case does.** -/
theorem map_upperWord_isPrefix_iff {front pieces : List (List Char)} (asciiFront : ∀ piece ∈ front, IsAscii piece)
    (ascii : ∀ piece ∈ pieces, IsAscii piece) :
    front.map upperWord <+: pieces.map upperWord ↔ folded front <+: folded pieces := by
  constructor
  · intro starts
    have both : folded (front.map upperWord) <+: folded (pieces.map upperWord) := starts.map _
    rwa [folded_map_upperWord asciiFront, folded_map_upperWord ascii] at both
  · intro starts
    have both := starts.map (·.map Char.toUpper)
    rwa [map_map_toUpper_folded asciiFront, map_map_toUpper_folded ascii] at both

/-! ### Camel case of words in capitals -/

theorem lowerWord_upperWord {word : List Char} (ascii : IsAscii word) : lowerWord (upperWord word) = lowerWord word := by
  rw [lowerWord_eq_map ascii.upperWord, upperWord_eq_map ascii, lowerWord_eq_map ascii, List.map_map]
  exact List.map_congr_left fun c _ => Char.toLower_toUpper_eq_toLower c

theorem capitalize_upperWord {word : List Char} (ascii : IsAscii word) :
    capitalize (upperWord word) = capitalize word := by
  cases word with
  | nil => rfl
  | cons c rest =>
    have small := ascii c List.mem_cons_self
    have later : IsAscii rest := fun d among => ascii d (List.mem_cons_of_mem _ among)
    have whole : upperWord (c :: rest) = c.toUpper :: upperWord rest := by
      unfold upperWord
      rw [List.flatMap_cons, toUppercase_of_lt c small, List.singleton_append]
    rw [whole, capitalize, capitalize, lowerWord_upperWord later, toUppercase_of_lt c small,
      toUppercase_of_lt _ (toNat_toUpper_lt small), Char.toUpper_toUpper_eq_toUpper]

/-- **Camel case does not depend on the case of the words.** -/
theorem joinLowerCamel_map_upperWord {pieces : List (List Char)} (ascii : ∀ piece ∈ pieces, IsAscii piece) :
    joinLowerCamel (pieces.map upperWord) = joinLowerCamel pieces := by
  cases pieces with
  | nil => rfl
  | cons first rest =>
    have each : ∀ word ∈ rest, capitalize (upperWord word) = capitalize word :=
      fun word among => capitalize_upperWord (ascii word (List.mem_cons_of_mem _ among))
    rw [List.map_cons, joinLowerCamel, joinLowerCamel, lowerWord_upperWord (ascii first List.mem_cons_self),
      List.flatMap_map, List.flatMap_congr each]

end ProtoSwift.Text
