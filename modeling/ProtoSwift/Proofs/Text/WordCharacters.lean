/-
**The characters of words spelt in a letter case.**

Words are made of alphanumeric characters, and the case maps lead from these to characters that can be in a word
too. Outside ASCII that says nothing, and none of what follows needs it to. In ASCII it leaves letters and digits
only, so that an identifier put together from words has no separator in it: no underscore, dot or backquote.

* `IsWordCharacter` — the characters in question;
* `isWordCharacter_of_mem_toLowercase`, `isWordCharacter_of_mem_toUppercase` — the case maps keep to them;
* `mem_of_mem_words` — the characters of the words of a text are in the text;
* `isWordCharacter_of_mem_lowerCamel`, `isWordCharacter_of_mem_upperCamel` — the law for identifiers;
* `exists_lowerCamel_eq_append` — in ASCII, case tells the first word of an identifier from the others.
-/

import ProtoSwift.Text.Casing
import Mathlib

namespace ProtoSwift.Text

open Unicode

/-! ### Letters and digits -/

/-- No digit is a letter. -/
theorem isAlpha_of_isDigit {c : Char} (digit : c.isDigit = true) : c.isAlpha = false := by
  simp [Char.isDigit, Char.isAlpha, Char.isUpper, Char.isLower, UInt32.le_iff_toNat_le] at digit ⊢
  omega

theorem isAlphanum_of_isAlpha {c : Char} (letter : c.isAlpha = true) : c.isAlphanum = true := by
  rw [Char.isAlphanum, letter, Bool.true_or]

theorem isAlphanum_of_isDigit {c : Char} (digit : c.isDigit = true) : c.isAlphanum = true := by
  rw [Char.isAlphanum, digit, Bool.or_true]

theorem toLower_of_isDigit {c : Char} (digit : c.isDigit = true) : c.toLower = c := by
  have noLetter := isAlpha_of_isDigit digit
  rw [Char.isAlpha, Bool.or_eq_false_iff] at noLetter
  exact Char.toLower_eq_of_not_isUpper (by rw [noLetter.1]; exact Bool.false_ne_true)

theorem toUpper_of_isDigit {c : Char} (digit : c.isDigit = true) : c.toUpper = c := by
  have noLetter := isAlpha_of_isDigit digit
  rw [Char.isAlpha, Bool.or_eq_false_iff] at noLetter
  exact Char.toUpper_eq_of_not_isLower (by rw [noLetter.2]; exact Bool.false_ne_true)

theorem isAlphanum_toLower {c : Char} (alphanum : c.isAlphanum = true) : c.toLower.isAlphanum = true := by
  rcases Bool.or_eq_true_iff.mp alphanum with letter | digit
  · exact isAlphanum_of_isAlpha (by rwa [Char.isAlpha_toLower_eq_isAlpha])
  · rwa [toLower_of_isDigit digit]

theorem isAlphanum_toUpper {c : Char} (alphanum : c.isAlphanum = true) : c.toUpper.isAlphanum = true := by
  rcases Bool.or_eq_true_iff.mp alphanum with letter | digit
  · exact isAlphanum_of_isAlpha (by rwa [Char.isAlpha_toUpper_eq_isAlpha])
  · rwa [toUpper_of_isDigit digit]

theorem isLower_or_isDigit_toLower {c : Char} (alphanum : c.isAlphanum = true) :
    c.toLower.isLower = true ∨ c.toLower.isDigit = true := by
  rcases Bool.or_eq_true_iff.mp alphanum with letter | digit
  · exact Or.inl (by rwa [Char.isLower_toLower_eq_isAlpha])
  · exact Or.inr (by rwa [toLower_of_isDigit digit])

theorem isDigit_toUpper (c : Char) : c.toUpper.isDigit = c.isDigit := by
  by_cases small : c.isLower = true
  · have letter : c.isAlpha = true := by rw [Char.isAlpha, small, Bool.or_true]
    have noDigit : ∀ d : Char, d.isAlpha = true → d.isDigit = false := by
      intro d isLetter
      by_contra digit
      rw [isAlpha_of_isDigit (Bool.eq_true_of_not_eq_false digit)] at isLetter
      cases isLetter
    rw [noDigit c letter, noDigit c.toUpper (by rwa [Char.isAlpha_toUpper_eq_isAlpha])]
  · rw [Char.toUpper_eq_of_not_isLower small]

/-- Letters are in ASCII. -/
theorem toNat_lt_of_isAlpha {c : Char} (letter : c.isAlpha = true) : c.toNat < 128 := by
  simp [Char.isAlpha, Char.isUpper, Char.isLower, UInt32.le_iff_toNat_le] at letter
  omega

theorem toNat_toLower_lt {c : Char} (ascii : c.toNat < 128) : c.toLower.toNat < 128 := by
  by_cases capital : c.isUpper = true
  · apply toNat_lt_of_isAlpha
    rw [Char.isAlpha_toLower_eq_isAlpha, Char.isAlpha, capital, Bool.true_or]
  · rwa [Char.toLower_eq_of_not_isUpper capital]

theorem toNat_toUpper_lt {c : Char} (ascii : c.toNat < 128) : c.toUpper.toNat < 128 := by
  by_cases small : c.isLower = true
  · apply toNat_lt_of_isAlpha
    rw [Char.isAlpha_toUpper_eq_isAlpha, Char.isAlpha, small, Bool.or_true]
  · rwa [Char.toUpper_eq_of_not_isLower small]

/-! ### Case maps -/

/-- In ASCII, a letter or digit. -/
def IsWordCharacter (c : Char) : Prop :=
  c.toNat < 128 → c.isAlphanum = true

instance (c : Char) : Decidable (IsWordCharacter c) :=
  inferInstanceAs (Decidable (_ → _))

theorem isWordCharacter_of_isAlphanumeric {c : Char} (alphanumeric : isAlphanumeric c = true) :
    IsWordCharacter c := by
  intro ascii
  rwa [isAlphanumeric_of_lt c ascii] at alphanumeric

theorem isWordCharacter_of_isAlphanum {c : Char} (alphanum : c.isAlphanum = true) : IsWordCharacter c :=
  fun _ => alphanum

theorem isWordCharacter_of_le {c : Char} (beyond : 128 ≤ c.toNat) : IsWordCharacter c :=
  fun ascii => absurd ascii (by omega)

theorem isWordCharacter_ofNat {point : Nat} (beyond : 128 ≤ point) (valid : point.isValidChar) :
    IsWordCharacter (Char.ofNat point) := by
  refine isWordCharacter_of_le ?_
  rw [Char.toNat_ofNat, if_pos valid]
  exact beyond

/-- Whether a shift leads to word characters. It may lead to ASCII from a single code point only. -/
def leadsToWords (shift : Shift) : Bool :=
  let low := shift.first + shift.distance
  let high := shift.last + shift.distance
  (128 ≤ low && high < 0xd800) || (0xe000 ≤ low && high < 0x110000)
    || (shift.first == shift.last && (Char.ofNat low.toNat).isAlphanum)

theorem isWordCharacter_target {shift : Shift} {point target : Nat} (leads : leadsToWords shift = true)
    (covered : shift.target? point = some target) : IsWordCharacter (Char.ofNat target) := by
  unfold Shift.target? at covered
  split at covered
  · rename_i inside
    cases covered
    obtain ⟨bounds, _⟩ := Bool.and_eq_true_iff.mp inside
    obtain ⟨low, high⟩ := Bool.and_eq_true_iff.mp bounds
    have fromFirst : shift.first ≤ point := of_decide_eq_true low
    have toLast : point ≤ shift.last := of_decide_eq_true high
    simp only [leadsToWords, Bool.or_eq_true, Bool.and_eq_true, decide_eq_true_eq, beq_iff_eq] at leads
    rcases leads with (⟨low, high⟩ | ⟨low, high⟩) | ⟨single, alphanum⟩
    · exact isWordCharacter_ofNat (by omega) (Or.inl (by omega))
    · exact isWordCharacter_ofNat (by omega) (Or.inr (by omega))
    · obtain rfl : point = shift.first := by omega
      exact isWordCharacter_of_isAlphanum alphanum
  · cases covered

/-- A case map keeps to word characters if all of its shifts lead to them. -/
theorem isWordCharacter_shiftBy {shifts : List Shift} (lead : shifts.all leadsToWords = true) {c : Char}
    (beyond : 128 ≤ c.toNat) : IsWordCharacter (Char.ofNat (shiftBy shifts c.toNat)) := by
  unfold shiftBy
  cases found : shifts.findSome? (·.target? c.toNat) with
  | none =>
    rw [Option.getD_none, Char.ofNat_toNat]
    exact isWordCharacter_of_le beyond
  | some target =>
    obtain ⟨shift, among, covered⟩ := List.exists_of_findSome?_eq_some found
    exact isWordCharacter_target (List.all_eq_true.mp lead shift among) covered

theorem lowercaseShifts_lead : lowercaseShifts.all leadsToWords = true := by
  decide +kernel

theorem uppercaseShifts_lead : uppercaseShifts.all leadsToWords = true := by
  decide +kernel

/-- Whether the characters at some code points are word characters. -/
def areWords (points : List Nat) : Bool :=
  points.all fun point => 128 ≤ (Char.ofNat point).toNat || (Char.ofNat point).isAlphanum

theorem uppercaseExpansions_areWords : uppercaseExpansions.all (areWords ·.2) = true := by
  decide +kernel

theorem isWordCharacter_of_mem_toLowercase {c d : Char} (word : IsWordCharacter c)
    (among : d ∈ toLowercase c) : IsWordCharacter d := by
  unfold toLowercase at among
  split at among
  · rename_i ascii
    obtain rfl := List.mem_singleton.mp among
    exact isWordCharacter_of_isAlphanum (isAlphanum_toLower (word ascii))
  · rename_i beyond
    split at among
    · rcases List.mem_cons.mp among with rfl | among
      · exact isWordCharacter_of_isAlphanum rfl
      · obtain rfl := List.mem_singleton.mp among
        exact isWordCharacter_of_le (by decide)
    · obtain rfl := List.mem_singleton.mp among
      exact isWordCharacter_shiftBy lowercaseShifts_lead (by omega)

theorem isWordCharacter_of_mem_toUppercase {c d : Char} (word : IsWordCharacter c)
    (among : d ∈ toUppercase c) : IsWordCharacter d := by
  unfold toUppercase at among
  split at among
  · rename_i ascii
    obtain rfl := List.mem_singleton.mp among
    exact isWordCharacter_of_isAlphanum (isAlphanum_toUpper (word ascii))
  · rename_i beyond
    split at among
    · rename_i points expanded
      obtain ⟨before, after, shape, _⟩ := List.lookup_eq_some_iff.mp expanded
      have entry : (c.toNat, points) ∈ uppercaseExpansions := by simp [shape]
      obtain ⟨point, pointAmong, rfl⟩ := List.mem_map.mp among
      have good :=
        List.all_eq_true.mp (List.all_eq_true.mp uppercaseExpansions_areWords _ entry) point pointAmong
      rcases Bool.or_eq_true_iff.mp good with far | alphanum
      · exact isWordCharacter_of_le (of_decide_eq_true far)
      · exact isWordCharacter_of_isAlphanum alphanum
    · obtain rfl := List.mem_singleton.mp among
      exact isWordCharacter_shiftBy uppercaseShifts_lead (by omega)

/-! ### Words -/

/-- What lies between separators has none in it, and is part of the text. -/
theorem mem_of_mem_splitOnP {α : Type} {separates : α → Bool} {text piece : List α} {element : α}
    (isPiece : piece ∈ text.splitOnP separates) (among : element ∈ piece) :
    element ∈ text ∧ separates element = false := by
  induction text generalizing piece with
  | nil =>
    rw [List.splitOnP_nil, List.mem_singleton] at isPiece
    subst isPiece
    cases among
  | cons first rest inRest =>
    rw [List.splitOnP_cons_eq_if_modifyHead] at isPiece
    by_cases separator : separates first = true
    · rw [if_pos separator] at isPiece
      rcases List.mem_cons.mp isPiece with rfl | isPiece
      · cases among
      · exact (inRest isPiece among).imp_left (List.mem_cons_of_mem _)
    · rw [if_neg separator] at isPiece
      cases pieces : rest.splitOnP separates with
      | nil =>
        rw [pieces] at isPiece
        cases isPiece
      | cons head others =>
        rw [pieces, List.modifyHead_cons] at isPiece
        rcases List.mem_cons.mp isPiece with rfl | isPiece
        · rcases List.mem_cons.mp among with rfl | among
          · exact ⟨List.mem_cons_self, by simpa using separator⟩
          · have inHead : head ∈ rest.splitOnP separates := by rw [pieces]; exact List.mem_cons_self
            exact (inRest inHead among).imp_left (List.mem_cons_of_mem _)
        · have inOthers : piece ∈ rest.splitOnP separates := by
            rw [pieces]
            exact List.mem_cons_of_mem _ isPiece
          exact (inRest inOthers among).imp_left (List.mem_cons_of_mem _)

/-- What is joined by separators has nothing else in it. -/
theorem mem_of_mem_intercalate {α : Type} {separator : List α} {parts : List (List α)} {element : α}
    (among : element ∈ separator.intercalate parts) : element ∈ separator ∨ ∃ part ∈ parts, element ∈ part := by
  induction parts with
  | nil =>
    rw [List.intercalate_nil] at among
    cases among
  | cons first rest inRest =>
    cases rest with
    | nil =>
      rw [List.intercalate_singleton] at among
      exact Or.inr ⟨first, List.mem_cons_self, among⟩
    | cons second others =>
      rw [List.intercalate_cons_cons, List.mem_append, List.mem_append] at among
      rcases among with (here | between) | later
      · exact Or.inr ⟨first, List.mem_cons_self, here⟩
      · exact Or.inl between
      · rcases inRest later with between | ⟨part, isPart, inPart⟩
        · exact Or.inl between
        · exact Or.inr ⟨part, List.mem_cons_of_mem _ isPart, inPart⟩

/-- **The words of a text are made of its alphanumeric characters.** -/
theorem mem_of_mem_words {text word : List Char} {c : Char} (isWord : word ∈ words text) (among : c ∈ word) :
    c ∈ text ∧ isAlphanumeric c = true := by
  obtain ⟨run, isRun, inRun⟩ := List.mem_flatMap.mp isWord
  have inWhole : c ∈ (segmentsFrom .unknown run).flatten := List.mem_flatten.mpr ⟨word, inRun, among⟩
  rw [flatten_segmentsFrom] at inWhole
  have found := mem_of_mem_splitOnP isRun inWhole
  exact ⟨found.1, by simpa using found.2⟩

/-! ### Identifiers -/

theorem isWordCharacter_of_mem_lowerWord {word : List Char} (all : ∀ c ∈ word, IsWordCharacter c) {d : Char}
    (among : d ∈ lowerWord word) : IsWordCharacter d := by
  induction word using lowerWord.induct with
  | case1 => cases among
  | case2 =>
    obtain rfl : d = 'ς' := by simpa [lowerWord] using among
    exact isWordCharacter_of_le (by decide)
  | case3 c notSigma =>
    rw [lowerWord, if_neg notSigma] at among
    exact isWordCharacter_of_mem_toLowercase (all c List.mem_cons_self) among
  | case4 c next rest inRest =>
    rw [lowerWord] at among
    rcases List.mem_append.mp among with here | later
    · exact isWordCharacter_of_mem_toLowercase (all c List.mem_cons_self) here
    · exact inRest (fun other inside => all other (List.mem_cons_of_mem _ inside)) later

theorem isWordCharacter_of_mem_capitalize {word : List Char} (all : ∀ c ∈ word, IsWordCharacter c) {d : Char}
    (among : d ∈ capitalize word) : IsWordCharacter d := by
  cases word with
  | nil => cases among
  | cons first rest =>
    rcases List.mem_append.mp among with here | later
    · exact isWordCharacter_of_mem_toUppercase (all first List.mem_cons_self) here
    · exact isWordCharacter_of_mem_lowerWord (fun c inside => all c (List.mem_cons_of_mem _ inside)) later

theorem isWordCharacter_of_mem_words {text word : List Char} (isWord : word ∈ words text) :
    ∀ c ∈ word, IsWordCharacter c :=
  fun _ among => isWordCharacter_of_isAlphanumeric (mem_of_mem_words isWord among).2

/-- **An identifier in lower camel case has no ASCII separator**, whatever the text is. -/
theorem isWordCharacter_of_mem_lowerCamel {text : List Char} {c : Char} (among : c ∈ lowerCamel text) :
    IsWordCharacter c := by
  have all : ∀ word ∈ words text, ∀ c ∈ word, IsWordCharacter c := fun _ => isWordCharacter_of_mem_words
  unfold lowerCamel at among
  cases shape : words text with
  | nil =>
    rw [shape] at among
    cases among
  | cons first rest =>
    rw [shape] at among all
    rcases List.mem_append.mp among with here | later
    · exact isWordCharacter_of_mem_lowerWord (all first List.mem_cons_self) here
    · obtain ⟨word, isWord, inWord⟩ := List.mem_flatMap.mp later
      exact isWordCharacter_of_mem_capitalize (all word (List.mem_cons_of_mem _ isWord)) inWord

/-- **An identifier in upper camel case has no ASCII separator**, whatever the text is. -/
theorem isWordCharacter_of_mem_upperCamel {text : List Char} {c : Char} (among : c ∈ upperCamel text) :
    IsWordCharacter c := by
  obtain ⟨word, isWord, inWord⟩ := List.mem_flatMap.mp among
  exact isWordCharacter_of_mem_capitalize (isWordCharacter_of_mem_words isWord) inWord

/-! ### Words in ASCII -/

/-- A text of ASCII characters. -/
def IsAscii (text : List Char) : Prop :=
  ∀ c ∈ text, c.toNat < 128

instance (text : List Char) : Decidable (IsAscii text) :=
  List.decidableBAll (fun c : Char => c.toNat < 128) text

/-- The first word of a text in lower case, which is empty if there is none. -/
def firstWord (text : List Char) : List Char :=
  lowerWord ((words text).headD [])

theorem IsAscii.of_mem_words {text word : List Char} (ascii : IsAscii text) (isWord : word ∈ words text) :
    IsAscii word :=
  fun c among => ascii c (mem_of_mem_words isWord among).1

theorem exists_of_mem_lowerWord {word : List Char} (ascii : IsAscii word) {d : Char}
    (among : d ∈ lowerWord word) : ∃ c ∈ word, d = c.toLower := by
  induction word using lowerWord.induct with
  | case1 => cases among
  | case2 => exact absurd (ascii 'Σ' List.mem_cons_self) (by decide)
  | case3 c notSigma =>
    rw [lowerWord, if_neg notSigma, toLowercase_of_lt c (ascii c List.mem_cons_self)] at among
    exact ⟨c, List.mem_cons_self, List.mem_singleton.mp among⟩
  | case4 c next rest inRest =>
    rw [lowerWord, toLowercase_of_lt c (ascii c List.mem_cons_self)] at among
    rcases List.mem_append.mp among with here | later
    · exact ⟨c, List.mem_cons_self, List.mem_singleton.mp here⟩
    · obtain ⟨other, inside, same⟩ :=
        inRest (fun other inside => ascii other (List.mem_cons_of_mem _ inside)) later
      exact ⟨other, List.mem_cons_of_mem _ inside, same⟩

/-- A word in lower case has lower-case letters and digits only. -/
theorem isLower_or_isDigit_of_mem_firstWord {text : List Char} (ascii : IsAscii text) {d : Char}
    (among : d ∈ firstWord text) : d.isLower = true ∨ d.isDigit = true := by
  unfold firstWord at among
  cases shape : words text with
  | nil =>
    rw [shape] at among
    cases among
  | cons first rest =>
    have isWord : first ∈ words text := by
      rw [shape]
      exact List.mem_cons_self
    rw [shape] at among
    obtain ⟨c, inside, rfl⟩ := exists_of_mem_lowerWord (ascii.of_mem_words isWord) among
    have small := ascii.of_mem_words isWord c inside
    exact isLower_or_isDigit_toLower (isWordCharacter_of_mem_words isWord c inside small)

/-- Words that are capitalized do not start with a lower-case letter. -/
theorem isLower_head_flatMap_capitalize {pieces : List (List Char)} (ascii : ∀ piece ∈ pieces, IsAscii piece)
    {c : Char} (first : (pieces.flatMap capitalize).head? = some c) : c.isLower = false := by
  induction pieces with
  | nil => cases first
  | cons piece rest inRest =>
    cases piece with
    | nil => exact inRest (fun other among => ascii other (List.mem_cons_of_mem _ among)) first
    | cons head tail =>
      have small := ascii _ List.mem_cons_self head List.mem_cons_self
      rw [List.flatMap_cons, capitalize, toUppercase_of_lt head small] at first
      obtain rfl : head.toUpper = c := Option.some.inj first
      exact Char.isLower_toUpper_eq_false head

/-- **In ASCII, case tells the first word of an identifier from the others.** -/
theorem exists_lowerCamel_eq_append {text : List Char} (ascii : IsAscii text) : ∃ others,
    lowerCamel text = firstWord text ++ others ∧ ∀ c, others.head? = some c → c.isLower = false := by
  unfold lowerCamel firstWord
  cases shape : words text with
  | nil => exact ⟨[], rfl, fun c first => by cases first⟩
  | cons first rest =>
    refine ⟨rest.flatMap capitalize, rfl, fun c => isLower_head_flatMap_capitalize fun piece among => ?_⟩
    refine ascii.of_mem_words ?_
    rw [shape]
    exact List.mem_cons_of_mem _ among

theorem IsAscii.lowerWord {word : List Char} (ascii : IsAscii word) : IsAscii (lowerWord word) := by
  intro d among
  obtain ⟨c, inside, rfl⟩ := exists_of_mem_lowerWord ascii among
  exact toNat_toLower_lt (ascii c inside)

theorem IsAscii.capitalize {word : List Char} (ascii : IsAscii word) : IsAscii (capitalize word) := by
  cases word with
  | nil => exact ascii
  | cons first rest =>
    have small := ascii first List.mem_cons_self
    have later : IsAscii rest := fun c among => ascii c (List.mem_cons_of_mem _ among)
    intro d among
    rw [Text.capitalize, toUppercase_of_lt first small] at among
    rcases List.mem_cons.mp among with rfl | among
    · exact toNat_toUpper_lt small
    · exact later.lowerWord d among

theorem IsAscii.lowerCamel {text : List Char} (ascii : IsAscii text) : IsAscii (lowerCamel text) := by
  have all : ∀ word ∈ words text, IsAscii word := fun _ => ascii.of_mem_words
  unfold Text.lowerCamel
  cases shape : words text with
  | nil => exact fun c among => by cases among
  | cons first rest =>
    rw [shape] at all
    intro c among
    rcases List.mem_append.mp among with here | later
    · exact (all first List.mem_cons_self).lowerWord c here
    · obtain ⟨word, isWord, inWord⟩ := List.mem_flatMap.mp later
      exact (all word (List.mem_cons_of_mem _ isWord)).capitalize c inWord

end ProtoSwift.Text
