/-
**What the name of a case says about the name of its value.**

The name of a case is what is left of the name of a value, in camel case. An underscore is put in front of it if
it would not start as a name may, and a keyword is put between backquotes. Both can be undone, since camel case
has neither character. So two values have one case name exactly if camel case makes what is left of them equal.

* `remainingName`, `bareCaseName` — what is left of the name of a value, and the name of its case without quotes;
* `mem_caseName`, `isUpper_head_caseName` — what the name of a case is made of, and how it starts;
* `caseName_eq_iff` — which values share the name of a case;
* `caseName_eq_iff_of_ascii` — the same for names in ASCII, without camel case.
-/

import ProtoSwift.Proofs.Swift.FieldNames
import ProtoSwift.Proofs.Text.CamelCase
import ProtoSwift.Swift.CaseName
import Mathlib

namespace ProtoSwift.Swift

open Text

/-- What is left of the name of a value when it does not repeat the name of its enumeration. -/
def remainingName (enumeration value : String) : List Char :=
  (withoutTypeName? enumeration.toList value.toList).getD value.toList

/-- The name of a case before a keyword is quoted. -/
def bareCaseName (enumeration value : String) : String :=
  String.ofList (legalStart (lowerCamel (remainingName enumeration value)))

theorem caseName_eq (enumeration value : String) :
    caseName enumeration value = escapeKeyword (bareCaseName enumeration value) :=
  rfl

theorem unquoted_bareCaseName (enumeration value : String) : Unquoted (bareCaseName enumeration value) := by
  unfold Unquoted bareCaseName
  rw [String.toList_ofList]
  intro quote
  rcases mem_legalStart quote with underscore | inWords
  · exact absurd underscore (by decide)
  · exact not_mem_lowerCamel (by decide) inWords

/-! ### The characters of a case name -/

/-- **The name of a case is made of word characters, underscores and backquotes.** -/
theorem mem_caseName {enumeration value : String} {c : Char} (among : c ∈ (caseName enumeration value).toList) :
    c = '\x60' ∨ c = '_' ∨ IsWordCharacter c := by
  rw [caseName_eq] at among
  rcases mem_escapeKeyword among with quote | inside
  · exact Or.inl quote
  · rw [bareCaseName, String.toList_ofList] at inside
    rcases mem_legalStart inside with underscore | inWords
    · exact Or.inr (Or.inl underscore)
    · exact Or.inr (Or.inr (isWordCharacter_of_mem_lowerCamel inWords))

/-- **The name of a case does not start with an ASCII capital.** -/
theorem isUpper_head_caseName {enumeration value : String} {c : Char}
    (first : (caseName enumeration value).toList.head? = some c) : c.isUpper = false := by
  rw [caseName_eq] at first
  unfold escapeKeyword at first
  by_cases keyword : keywords.contains (bareCaseName enumeration value) = true
  · rw [if_pos keyword, String.append_assoc, String.toList_append] at first
    obtain rfl : '\x60' = c := Option.some.inj first
    rfl
  · rw [if_neg keyword, bareCaseName, String.toList_ofList] at first
    rcases legalStart_eq_or (lowerCamel (remainingName enumeration value)) with unmarked | marked
    · rw [unmarked] at first
      exact isUpper_head_lowerCamel first
    · rw [marked] at first
      obtain rfl : '_' = c := Option.some.inj first
      rfl

/-! ### Values that share the name of a case -/

/-- The underscore in front of a word can be taken off again. -/
theorem dropWhile_legalStart {word : List Char} (whole : '_' ∉ word) :
    (legalStart word).dropWhile (fun c => decide (c = '_')) = word := by
  have none : ∀ c ∈ word, decide (c = '_') = false := by
    intro c among
    rw [decide_eq_false_iff_not]
    rintro rfl
    exact whole among
  cases word with
  | nil => rfl
  | cons first rest =>
    unfold legalStart
    by_cases digit : first.isDigit = true
    · simp only [digit, if_true]
      exact dropWhile_of_forall_not none
    · simp only [digit]
      exact dropWhile_of_forall_not none

/-- **Two values share the name of a case exactly if camel case makes what is left of them equal.** -/
theorem caseName_eq_iff {enumeration value other another : String} :
    caseName enumeration value = caseName other another
      ↔ lowerCamel (remainingName enumeration value) = lowerCamel (remainingName other another) := by
  constructor
  · intro same
    have bare : bareCaseName enumeration value = bareCaseName other another := by
      rw [← unescapeKeyword_escapeKeyword (unquoted_bareCaseName enumeration value),
        ← unescapeKeyword_escapeKeyword (unquoted_bareCaseName other another)]
      exact congrArg unescapeKeyword same
    have spelt := String.ofList_injective bare
    rw [← dropWhile_legalStart (not_mem_lowerCamel (by decide) : '_' ∉ lowerCamel (remainingName enumeration value)),
      ← dropWhile_legalStart (not_mem_lowerCamel (by decide) : '_' ∉ lowerCamel (remainingName other another)), spelt]
  · intro same
    rw [caseName_eq, caseName_eq, bareCaseName, bareCaseName, same]

theorem isAscii_remainingName (enumeration : String) {value : String} (ascii : IsAscii value.toList) :
    IsAscii (remainingName enumeration value) := by
  unfold remainingName withoutTypeName?
  split
  · exact ascii
  · exact ascii
  · rename_i c rest behind
    split
    · exact ascii
    · -- what is behind the name of the enumeration is at the end of the capitals of the value
      rw [List.isPrefixOf?_eq_some_iff_append_eq] at behind
      intro d among
      refine ascii.shoutySnake d ?_
      rw [← behind]
      exact List.mem_append_right _ among

/-- **In ASCII, two values share the name of a case exactly if what is left of them has the same capitals.** -/
theorem caseName_eq_iff_of_ascii {enumeration value other another : String} (ascii : IsAscii value.toList)
    (ascii' : IsAscii another.toList) : caseName enumeration value = caseName other another
      ↔ capitals (remainingName enumeration value) = capitals (remainingName other another) :=
  caseName_eq_iff.trans
    (lowerCamel_eq_iff (isAscii_remainingName enumeration ascii) (isAscii_remainingName other ascii'))

end ProtoSwift.Swift
