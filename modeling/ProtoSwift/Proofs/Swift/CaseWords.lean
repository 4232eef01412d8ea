/-
**The name of a case as words of the name of its value.**

A value repeats the name of its enumeration if it starts with its words. The comparison is made on names in
capitals, where words are joined by underscores, and what is left is taken apart into words again. In ASCII both
can be said of the words themselves, because these can be read off a name in capitals.

* `remainingWords` — the words of a value without those of its enumeration;
* `withoutTypeName?_eq_some_iff` — what is left of a name in capitals is joined from them;
* `lowerCamel_remainingName` — camel case takes them apart again;
* `declaredName` — a text as a name, with an underscore or backquotes where it needs them;
* `caseName_eq_declaredName` — the name of a case is made of the remaining words.
-/

import ProtoSwift.Proofs.Swift.CaseNames
import ProtoSwift.Proofs.Text.ShoutySnake
import Mathlib

namespace ProtoSwift.Swift

open Text

/-! ### Words that are left -/

/-- A text that starts with a digit. -/
def StartsWithDigit (text : List Char) : Prop :=
  ∃ c ∈ text.head?, c.isDigit = true

instance (text : List Char) : Decidable (StartsWithDigit text) :=
  decidable_of_iff (text.head?.any Char.isDigit = true) (by rw [StartsWithDigit, Option.any_eq_true]; rfl)

/-- **The words of a value without those of its enumeration.** The enumeration has words, the value starts with
them up to their case, and goes on with a word that does not start with a digit. Otherwise all words are left. -/
def remainingWords (enumeration value : List (List Char)) : List (List Char) :=
  match value.drop enumeration.length with
  | [] => value
  | next :: others =>
    if enumeration ≠ [] ∧ folded enumeration <+: folded value ∧ ¬ StartsWithDigit next then next :: others
    else value

theorem startsWithDigit_cons {c : Char} {rest : List Char} : StartsWithDigit (c :: rest) ↔ c.isDigit = true := by
  simp [StartsWithDigit]

/-- The case of letters does not matter to the digit at the start. -/
theorem startsWithDigit_upperWord {word : List Char} (ascii : IsAscii word) :
    StartsWithDigit (upperWord word) ↔ StartsWithDigit word := by
  rw [upperWord_eq_map ascii]
  cases word with
  | nil => rfl
  | cons c rest => rw [List.map_cons, startsWithDigit_cons, startsWithDigit_cons, isDigit_toUpper]

/-- What joined words start with is what the first of them starts with. -/
theorem startsWithDigit_intercalate {next : List Char} {others : List (List Char)} (some : next ≠ []) :
    StartsWithDigit (['_'].intercalate (next :: others)) ↔ StartsWithDigit next := by
  obtain ⟨c, rest, rfl⟩ := List.exists_cons_of_ne_nil some
  cases others with
  | nil => rw [List.intercalate_singleton]
  | cons second more =>
    rw [List.intercalate_cons_cons, List.append_assoc, List.cons_append, startsWithDigit_cons, startsWithDigit_cons]

/-! ### Names in capitals -/

/-- **What is left of a name in capitals is joined from the words that are left.** -/
theorem isPrefixOf?_shoutySnake_eq_some_iff {enumeration value rest : List Char} (asciiEnumeration : IsAscii enumeration)
    (ascii : IsAscii value) :
    (shoutySnake enumeration ++ ['_']).isPrefixOf? (shoutySnake value) = some rest
      ↔ words enumeration ≠ [] ∧ folded (words enumeration) <+: folded (words value)
        ∧ (words value).drop (words enumeration).length ≠ []
        ∧ rest = ['_'].intercalate (((words value).drop (words enumeration).length).map upperWord) := by
  have inEnumeration : ∀ word ∈ words enumeration, IsAscii word := fun _ => asciiEnumeration.of_mem_words
  have inValue : ∀ word ∈ words value, IsAscii word := fun _ => ascii.of_mem_words
  rw [List.isPrefixOf?_eq_some_iff_append_eq, List.append_assoc, List.singleton_append]
  unfold shoutySnake
  rw [append_cons_eq_intercalate_iff (forall_isCapitalWord asciiEnumeration) (forall_isCapitalWord ascii),
    ← map_upperWord_isPrefix_iff inEnumeration inValue]
  have dropped : ∀ more, (words value).map upperWord = (words enumeration).map upperWord ++ more →
      more = ((words value).drop (words enumeration).length).map upperWord := by
    intro more whole
    rw [List.map_drop, whole, List.drop_left' (List.length_map upperWord)]
  constructor
  · rintro ⟨some, more, someMore, whole, rfl⟩
    have behind := dropped more whole
    refine ⟨fun none => some (List.map_eq_nil_iff.mpr none), ⟨more, whole.symm⟩, fun none => someMore ?_, ?_⟩
    · rw [behind, none, List.map_nil]
    · rw [behind]
  · rintro ⟨some, ⟨more, whole⟩, someMore, rfl⟩
    have behind := dropped more whole.symm
    refine ⟨fun none => some (List.map_eq_nil_iff.mp none), more, fun none => someMore ?_, whole.symm, by rw [behind]⟩
    rw [none] at behind
    exact List.map_eq_nil_iff.mp behind.symm

theorem withoutTypeName?_eq_some_iff_isPrefixOf? {enumeration value text : List Char} :
    withoutTypeName? enumeration value = some text
      ↔ (shoutySnake enumeration ++ ['_']).isPrefixOf? (shoutySnake value) = some text ∧ text ≠ []
        ∧ ¬ StartsWithDigit text := by
  unfold withoutTypeName?
  cases behind : (shoutySnake enumeration ++ ['_']).isPrefixOf? (shoutySnake value) with
  | none => simp
  | some rest =>
    cases rest with
    | nil =>
      simp only [reduceCtorEq, Option.some.injEq, false_iff]
      rintro ⟨rfl, some, -⟩
      exact some rfl
    | cons c rest =>
      by_cases digit : c.isDigit = true
      · simp only [digit, if_true, reduceCtorEq, Option.some.injEq, false_iff]
        rintro ⟨rfl, -, noDigit⟩
        exact noDigit (startsWithDigit_cons.mpr digit)
      · simp only [digit, Bool.false_eq_true, if_false, Option.some.injEq]
        constructor
        · rintro rfl
          exact ⟨rfl, List.cons_ne_nil _ _, fun starts => digit (startsWithDigit_cons.mp starts)⟩
        · exact fun found => found.1

/-- The words that are left are capital words in capitals. -/
theorem forall_isCapitalWord_of_drop {value : List Char} (ascii : IsAscii value) {count : Nat}
    {left : List (List Char)} (isLeft : (words value).drop count = left) :
    ∀ piece ∈ left.map upperWord, IsCapitalWord piece := by
  intro piece among
  obtain ⟨word, inLeft, rfl⟩ := List.mem_map.mp among
  rw [← isLeft] at inLeft
  exact isCapitalWord_upperWord ascii (List.mem_of_mem_drop inLeft)

/-- **When a name repeats its enumeration.** What is left then has the other words of the name. -/
theorem withoutTypeName?_eq_some_iff {enumeration value text : List Char} (asciiEnumeration : IsAscii enumeration)
    (ascii : IsAscii value) :
    withoutTypeName? enumeration value = some text
      ↔ words enumeration ≠ [] ∧ folded (words enumeration) <+: folded (words value)
        ∧ ∃ next others, (words value).drop (words enumeration).length = next :: others ∧ ¬ StartsWithDigit next
          ∧ text = ['_'].intercalate ((next :: others).map upperWord) := by
  have start : ∀ {next others}, (words value).drop (words enumeration).length = next :: others →
      (StartsWithDigit (['_'].intercalate ((next :: others).map upperWord)) ↔ StartsWithDigit next) := by
    intro next others left
    have isWord : next ∈ words value := by
      refine List.mem_of_mem_drop (i := (words enumeration).length) ?_
      rw [left]
      exact List.mem_cons_self
    rw [List.map_cons, startsWithDigit_intercalate (isCapitalWord_upperWord ascii isWord).some,
      startsWithDigit_upperWord (ascii.of_mem_words isWord)]
  rw [withoutTypeName?_eq_some_iff_isPrefixOf?, isPrefixOf?_shoutySnake_eq_some_iff asciiEnumeration ascii]
  constructor
  · rintro ⟨⟨some, starts, someLeft, rfl⟩, -, noDigit⟩
    obtain ⟨next, others, left⟩ := List.exists_cons_of_ne_nil someLeft
    rw [left, start left] at noDigit
    exact ⟨some, starts, next, others, left, noDigit, by rw [left]⟩
  · rintro ⟨some, starts, next, others, left, noDigit, rfl⟩
    have someLeft : (words value).drop (words enumeration).length ≠ [] := by
      rw [left]
      exact List.cons_ne_nil _ _
    refine ⟨⟨some, starts, someLeft, by rw [left]⟩, fun none => ?_, by rwa [start left]⟩
    have read := words_intercalate (forall_isCapitalWord_of_drop ascii left)
    rw [none] at read
    cases read

/-! ### The name of a case -/

/-- **Camel case of what is left is made of the words that are left.** The cases are those of the name in capitals:
it goes on behind the name of the enumeration, or it does not. -/
theorem lowerCamel_remainingName {enumeration value : String} (asciiEnumeration : IsAscii enumeration.toList)
    (ascii : IsAscii value.toList) : lowerCamel (remainingName enumeration value)
      = joinLowerCamel (remainingWords (words enumeration.toList) (words value.toList)) := by
  unfold remainingName
  cases found : withoutTypeName? enumeration.toList value.toList with
  | some text =>
    obtain ⟨some, starts, next, others, left, noDigit, rfl⟩ :=
      (withoutTypeName?_eq_some_iff asciiEnumeration ascii).mp found
    have remaining : remainingWords (words enumeration.toList) (words value.toList) = next :: others := by
      unfold remainingWords
      rw [left]
      exact if_pos ⟨some, starts, noDigit⟩
    have inLeft : ∀ word ∈ next :: others, IsAscii word := by
      intro word among
      rw [← left] at among
      exact ascii.of_mem_words (List.mem_of_mem_drop among)
    rw [Option.getD_some, lowerCamel, words_intercalate (forall_isCapitalWord_of_drop ascii left),
      joinLowerCamel_map_upperWord inLeft, remaining]
  | none =>
    have remaining : remainingWords (words enumeration.toList) (words value.toList) = words value.toList := by
      unfold remainingWords
      split
      · rfl
      · rename_i next others left
        refine if_neg fun repeats => ?_
        have some := (withoutTypeName?_eq_some_iff asciiEnumeration ascii).mpr
          ⟨repeats.1, repeats.2.1, next, others, left, repeats.2.2, rfl⟩
        rw [found] at some
        cases some
    rw [Option.getD_none, lowerCamel, remaining]

/-- A text as a name: an underscore stands in front of it if it is empty or starts with a digit, and what is a
keyword then stands between backquotes. -/
def declaredName (text : List Char) : String :=
  let name := String.ofList (if text = [] ∨ StartsWithDigit text then '_' :: text else text)
  if name ∈ keywords then "\x60" ++ name ++ "\x60" else name

theorem escapeKeyword_legalStart (text : List Char) :
    escapeKeyword (String.ofList (legalStart text)) = declaredName text := by
  have start : legalStart text = if text = [] ∨ StartsWithDigit text then '_' :: text else text := by
    cases text with
    | nil => rfl
    | cons c rest => simp [legalStart, startsWithDigit_cons]
  unfold escapeKeyword declaredName
  rw [start]
  simp only [List.contains_iff_mem]

/-- **The name of a case is made of the words that are left of the name of its value**, in lower camel case. -/
theorem caseName_eq_declaredName {enumeration value : String} (asciiEnumeration : IsAscii enumeration.toList)
    (ascii : IsAscii value.toList) : caseName enumeration value
      = declaredName (joinLowerCamel (remainingWords (words enumeration.toList) (words value.toList))) := by
  rw [caseName_eq, bareCaseName, escapeKeyword_legalStart, lowerCamel_remainingName asciiEnumeration ascii]

/-- The words of a value may be apart in other ways than those of its enumeration. -/
theorem caseName_eq_declaredName_shade :
    IsAscii "fillColor".toList ∧ IsAscii "FILL_color-darkRED_2nd".toList
      ∧ caseName "fillColor" "FILL_color-darkRED_2nd" = "darkRed2nd" := by
  have ascii : IsAscii "fillColor".toList ∧ IsAscii "FILL_color-darkRED_2nd".toList := by decide
  have left : remainingWords (words "fillColor".toList) (words "FILL_color-darkRED_2nd".toList)
      = ["dark".toList, "RED".toList, "2nd".toList] := by decide +kernel
  refine ⟨ascii.1, ascii.2, ?_⟩
  rw [caseName_eq_declaredName ascii.1 ascii.2, left]
  decide +kernel

end ProtoSwift.Swift
