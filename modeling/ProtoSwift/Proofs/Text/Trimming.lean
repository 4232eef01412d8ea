/-
**Texts without the blank characters at their ends.**

Trimming takes away what is blank at the ends of a text, and stops at the first and at the last character that is
not. So blank characters that are added at the ends do not change a trimmed text, and a character that is not blank
parts a text into two that are trimmed on their own.

* `IsBlankText` — a text of blank characters only;
* `trim_eq_nil_iff` — which is what trimming leaves nothing of;
* `trim_around` — blank characters at the ends do not count;
* `trim_append_cons` — a text with a character in it that is not blank;
* `trim_map_toLower` — trimming does not depend on the case of letters.
-/

import ProtoSwift.Text.Blank
import Mathlib

namespace ProtoSwift.Text

/-- A text of blank characters only. -/
def IsBlankText (text : List Char) : Prop :=
  ∀ c ∈ text, isBlank c = true

instance (text : List Char) : Decidable (IsBlankText text) :=
  List.decidableBAll (fun c => isBlank c = true) text

theorem IsBlankText.nil : IsBlankText [] :=
  fun _ among => absurd among List.not_mem_nil

/-- A text that is not blank has a character that is not. -/
theorem exists_of_not_isBlankText {text : List Char} (shown : ¬ IsBlankText text) :
    ∃ before c after, text = before ++ c :: after ∧ isBlank c = false := by
  unfold IsBlankText at shown
  push Not at shown
  obtain ⟨c, among, notBlank⟩ := shown
  obtain ⟨before, after, whole⟩ := List.append_of_mem among
  exact ⟨before, c, after, whole, by simpa using notBlank⟩

/-! ### One end -/

theorem trimStart_append_of_blank {left : List Char} (blank : IsBlankText left) (text : List Char) :
    trimStart (left ++ text) = trimStart text :=
  List.dropWhile_append_of_pos blank

/-- Trimming the end is trimming the start of the text read backwards. -/
theorem trimEnd_eq_reverse (text : List Char) : trimEnd text = (trimStart text.reverse).reverse :=
  rfl

theorem trimEnd_append_of_blank {right : List Char} (blank : IsBlankText right) (text : List Char) :
    trimEnd (text ++ right) = trimEnd text := by
  have backwards : IsBlankText right.reverse := fun c among => blank c (List.mem_reverse.mp among)
  rw [trimEnd_eq_reverse, List.reverse_append, trimStart_append_of_blank backwards, trimEnd_eq_reverse]

theorem trimStart_append_cons {c : Char} (shown : isBlank c = false) (left right : List Char) :
    trimStart (left ++ c :: right) = trimStart left ++ c :: right := by
  have stop : List.dropWhile isBlank (c :: right) = c :: right :=
    List.dropWhile_cons_of_neg (by rw [shown]; exact Bool.false_ne_true)
  unfold trimStart
  rw [List.dropWhile_append]
  split
  · rename_i empty
    rw [stop, List.isEmpty_iff.mp empty, List.nil_append]
  · rfl

theorem trimEnd_append_cons {c : Char} (shown : isBlank c = false) (left right : List Char) :
    trimEnd (left ++ c :: right) = left ++ c :: trimEnd right := by
  have backwards : (left ++ c :: right).reverse = right.reverse ++ c :: left.reverse := by
    rw [List.reverse_append, List.reverse_cons, List.append_assoc, List.singleton_append]
  rw [trimEnd_eq_reverse, backwards, trimStart_append_cons shown, List.reverse_append, List.reverse_cons,
    List.reverse_reverse, List.append_assoc, List.singleton_append, trimEnd_eq_reverse]

/-- What is left ends in a character that is not blank. -/
theorem isBlank_getLast_trimEnd {text : List Char} {c : Char} (last : (trimEnd text).getLast? = some c) :
    isBlank c = false := by
  have some : trimEnd text ≠ [] := by
    intro empty
    rw [empty] at last
    cases last
  rw [← (List.getLast_eq_iff_getLast?_eq_some some).mpr last]
  exact Bool.eq_false_of_not_eq_true (List.rdropWhile_last_not isBlank text some)

theorem mem_of_mem_trimEnd {text : List Char} {c : Char} (among : c ∈ trimEnd text) : c ∈ text :=
  (List.rdropWhile_prefix isBlank text).subset among

/-- Nothing is left of a text that is blank, and something of any other text. -/
theorem trimEnd_eq_nil_iff {text : List Char} : trimEnd text = [] ↔ IsBlankText text :=
  List.rdropWhile_eq_nil_iff

/-- A text that is not blank still starts as it did. -/
theorem head?_trimEnd {text : List Char} (shown : ¬ IsBlankText text) : (trimEnd text).head? = text.head? := by
  obtain ⟨before, c, after, rfl, notBlank⟩ := exists_of_not_isBlankText shown
  rw [trimEnd_append_cons notBlank]
  cases before <;> rfl

/-! ### Both ends -/

/-- **Nothing is left of a text that is blank**, and something of any other text. -/
theorem trim_eq_nil_iff {text : List Char} : trim text = [] ↔ IsBlankText text := by
  constructor
  · intro empty
    by_contra shown
    obtain ⟨before, c, after, rfl, notBlank⟩ := exists_of_not_isBlankText shown
    unfold trim at empty
    rw [trimStart_append_cons notBlank, trimEnd_append_cons notBlank] at empty
    cases (List.append_eq_nil_iff.mp empty).2
  · intro blank
    have start : trimStart text = [] := List.dropWhile_eq_nil_iff.mpr blank
    unfold trim
    rw [start]
    rfl

/-- **A character that is not blank** stays, and so does what is between it and the other ends. -/
theorem trim_append_cons {c : Char} (shown : isBlank c = false) (left right : List Char) :
    trim (left ++ c :: right) = trimStart left ++ c :: trimEnd right := by
  unfold trim
  rw [trimStart_append_cons shown, trimEnd_append_cons shown]

/-- **Blank characters at the ends of a text do not count.** -/
theorem trim_around {left right : List Char} (blankLeft : IsBlankText left) (blankRight : IsBlankText right)
    (text : List Char) : trim (left ++ text ++ right) = trim text := by
  by_cases blank : IsBlankText text
  · have whole : IsBlankText (left ++ text ++ right) := by
      intro c among
      rcases List.mem_append.mp among with among | among
      · exact (List.mem_append.mp among).elim (blankLeft c) (blank c)
      · exact blankRight c among
    rw [trim_eq_nil_iff.mpr whole, trim_eq_nil_iff.mpr blank]
  · obtain ⟨before, c, after, rfl, shown⟩ := exists_of_not_isBlankText blank
    have apart : left ++ (before ++ c :: after) ++ right = (left ++ before) ++ c :: (after ++ right) := by
      simp only [List.append_assoc, List.cons_append]
    rw [apart, trim_append_cons shown, trim_append_cons shown, trimStart_append_of_blank blankLeft,
      trimEnd_append_of_blank blankRight]

theorem trim_append_of_blank {right : List Char} (blank : IsBlankText right) (text : List Char) :
    trim (text ++ right) = trim text := by
  have around := trim_around .nil blank text
  rwa [List.nil_append] at around

theorem trim_of_blank_append {left : List Char} (blank : IsBlankText left) (text : List Char) :
    trim (left ++ text) = trim text := by
  have around := trim_around blank .nil text
  rwa [List.append_nil] at around

/-- The start of a text is the same when it is trimmed again. -/
theorem trim_trimStart (text : List Char) : trim (trimStart text) = trim text := by
  unfold trim trimStart
  rw [List.dropWhile_idempotent]

/-- The end of a text is the same when it is trimmed again. -/
theorem trim_trimEnd (text : List Char) : trim (trimEnd text) = trim text := by
  have blank : IsBlankText (text.rtakeWhile isBlank) := fun _ => List.mem_rtakeWhile_imp
  have whole : trimEnd text ++ text.rtakeWhile isBlank = text := List.rdropWhile_append_rtakeWhile
  calc trim (trimEnd text) = trim (trimEnd text ++ text.rtakeWhile isBlank) := (trim_append_of_blank blank _).symm
    _ = trim text := by rw [whole]

/-! ### Letters -/

/-- No letter is blank. -/
theorem isBlank_of_isAlpha {c : Char} (letter : c.isAlpha = true) : isBlank c = false := by
  simp [Char.isAlpha, Char.isUpper, Char.isLower, UInt32.le_iff_toNat_le] at letter
  have point : c.val.toNat = c.toNat := rfl
  have space : c ≠ ' ' := by
    rintro rfl
    simp at letter
  simp [isBlank, blankPoints, space]
  omega

theorem isBlank_toLower (c : Char) : isBlank c.toLower = isBlank c := by
  by_cases capital : c.isUpper = true
  · have letter : c.isAlpha = true := by rw [Char.isAlpha, capital, Bool.true_or]
    rw [isBlank_of_isAlpha letter, isBlank_of_isAlpha (by rwa [Char.isAlpha_toLower_eq_isAlpha])]
  · rw [Char.toLower_eq_of_not_isUpper capital]

/-- **Trimming does not depend on the case of letters.** -/
theorem trim_map_toLower (text : List Char) : trim (text.map Char.toLower) = (trim text).map Char.toLower := by
  have same : isBlank ∘ Char.toLower = isBlank := funext isBlank_toLower
  unfold trim trimEnd trimStart
  rw [List.dropWhile_map, same, ← List.map_reverse, List.dropWhile_map, same, List.map_reverse]

end ProtoSwift.Text
