/-
**What camel case keeps of a name.**

A name in camel case does not start with an ASCII capital, because its first word is in lower case and the lower
case of no character is an ASCII capital. In ASCII more can be said: every capital starts a word, so the words
can be read off again, up to their case and up to the place where a word starts with a digit.

* `ne_nil_of_mem_words` — a text has no empty word;
* `isUpper_head_lowerCamel` — how a name in camel case starts;
* `capitals` — the words in upper case, apart where camel case keeps them apart;
* `flatMap_hump_lowerCamel` — in ASCII, a name in camel case has its capitals in it;
* `lowerCamel_eq_iff` — so two of them are equal exactly if their capitals are.
-/

import ProtoSwift.Proofs.Text.WordCharacters
import Mathlib

namespace ProtoSwift.Text

open Unicode

/-! ### No word is empty -/

/-- Words that get another first character are not empty, as far as the others are not. -/
theorem forall_ne_nil_modifyHead_cons {c : Char} {pieces : List (List Char)}
    (later : ∀ word ∈ pieces.tail, word ≠ []) : ∀ word ∈ pieces.modifyHead (c :: ·), word ≠ [] := by
  cases pieces with
  | nil => exact later
  | cons head others =>
    intro word among
    rw [List.modifyHead_cons] at among
    rcases List.mem_cons.mp among with rfl | among
    · exact List.cons_ne_nil _ _
    · exact later word among

/-- Only the first word of a run can be empty, and only if it continues capitals. -/
theorem forall_ne_nil_segmentsFrom (before : WordCase) (run : List Char) :
    (∀ word ∈ (segmentsFrom before run).tail, word ≠ [])
      ∧ (before ≠ .upper → ∀ word ∈ segmentsFrom before run, word ≠ []) := by
  induction run generalizing before with
  | nil => simp [segmentsFrom]
  | cons c rest inRest =>
    cases rest with
    | nil => simp [segmentsFrom]
    | cons next rest =>
      have fresh : ∀ word ∈ segmentsFrom .unknown (next :: rest), word ≠ [] :=
        (inRest .unknown).2 (by decide)
      have grown : ∀ known, ∀ word ∈ (segmentsFrom known (next :: rest)).modifyHead (c :: ·), word ≠ [] :=
        fun known => forall_ne_nil_modifyHead_cons (inRest known).1
      unfold segmentsFrom
      by_cases ends : before.after c = .lower ∧ isUppercase next
      · rw [if_pos ends]
        exact ⟨fresh, fun _ => List.forall_mem_cons.mpr ⟨List.cons_ne_nil _ _, fresh⟩⟩
      · rw [if_neg ends]
        by_cases starts : before = .upper ∧ isUppercase c ∧ isLowercase next
        · rw [if_pos starts]
          exact ⟨grown .unknown, fun other => absurd starts.1 other⟩
        · rw [if_neg starts]
          have all := grown (before.after c)
          exact ⟨fun word among => all word (List.mem_of_mem_tail among), fun _ => all⟩

/-- **A text has no empty word.** -/
theorem ne_nil_of_mem_words {text word : List Char} (isWord : word ∈ words text) : word ≠ [] := by
  obtain ⟨run, _, inRun⟩ := List.mem_flatMap.mp isWord
  exact (forall_ne_nil_segmentsFrom .unknown run).2 (by decide) word inRun

/-! ### The first character -/

theorem isUpper_of_lt {c : Char} (above : 'Z'.toNat < c.toNat) : c.isUpper = false := by
  have bound : ¬ c.val ≤ 'Z'.val := UInt32.not_le.mpr above
  simp only [Char.isUpper, decide_eq_false_iff_not]
  exact fun inside => bound inside.2

/-- Whether a shift leads behind the ASCII capitals. -/
def leadsBehindCapitals (shift : Shift) : Bool :=
  ('Z'.toNat : Int) < shift.first + shift.distance

theorem lowercaseShifts_leadBehindCapitals : lowercaseShifts.all leadsBehindCapitals = true := by
  decide +kernel

theorem isUpper_shiftBy {shifts : List Shift} (lead : shifts.all leadsBehindCapitals = true) {c : Char}
    (beyond : 128 ≤ c.toNat) : (Char.ofNat (shiftBy shifts c.toNat)).isUpper = false := by
  have behind : 'Z'.toNat < shiftBy shifts c.toNat := by
    unfold shiftBy
    cases found : shifts.findSome? (·.target? c.toNat) with
    | none => exact lt_of_lt_of_le (by decide) beyond
    | some target =>
      obtain ⟨shift, among, covered⟩ := List.exists_of_findSome?_eq_some found
      have leads : ('Z'.toNat : Int) < shift.first + shift.distance :=
        of_decide_eq_true (List.all_eq_true.mp lead shift among)
      unfold Shift.target? at covered
      split at covered
      · rename_i inside
        cases covered
        obtain ⟨bounds, _⟩ := Bool.and_eq_true_iff.mp inside
        have fromFirst : shift.first ≤ c.toNat := of_decide_eq_true (Bool.and_eq_true_iff.mp bounds).1
        rw [Option.getD_some]
        omega
      · cases covered
  by_cases valid : (shiftBy shifts c.toNat).isValidChar
  · have spelt : (Char.ofNat (shiftBy shifts c.toNat)).toNat = shiftBy shifts c.toNat := by
      rw [Char.toNat_ofNat, if_pos valid]
    exact isUpper_of_lt (lt_of_lt_of_eq behind spelt.symm)
  · have none : Char.ofNat (shiftBy shifts c.toNat) = '\x00' := by
      unfold Char.ofNat
      rw [dif_neg valid]
      rfl
    rw [none]
    rfl

/-- The lower case of a character has no ASCII capital. -/
theorem isUpper_of_mem_toLowercase {c d : Char} (among : d ∈ toLowercase c) : d.isUpper = false := by
  unfold toLowercase at among
  split at among
  · rename_i ascii
    obtain rfl := List.mem_singleton.mp among
    exact Char.isUpper_toLower_eq_false _
  · rename_i beyond
    split at among
    · rcases List.mem_cons.mp among with rfl | among
      · rfl
      · obtain rfl := List.mem_singleton.mp among
        decide
    · obtain rfl := List.mem_singleton.mp among
      exact isUpper_shiftBy lowercaseShifts_leadBehindCapitals (by omega)

theorem toLowercase_ne_nil (c : Char) : toLowercase c ≠ [] := by
  unfold toLowercase
  split
  · exact List.cons_ne_nil _ _
  · split <;> exact List.cons_ne_nil _ _

theorem lowerWord_ne_nil {word : List Char} (some : word ≠ []) : lowerWord word ≠ [] := by
  cases word with
  | nil => exact absurd rfl some
  | cons c rest =>
    cases rest with
    | nil =>
      rw [lowerWord]
      split
      · exact List.cons_ne_nil _ _
      · exact toLowercase_ne_nil c
    | cons next rest =>
      rw [lowerWord]
      exact List.append_ne_nil_of_left_ne_nil (toLowercase_ne_nil c) _

theorem isUpper_of_mem_lowerWord {word : List Char} {d : Char} (among : d ∈ lowerWord word) :
    d.isUpper = false := by
  induction word using lowerWord.induct with
  | case1 => cases among
  | case2 =>
    obtain rfl : d = 'ς' := by simpa [lowerWord] using among
    decide
  | case3 c notSigma =>
    rw [lowerWord, if_neg notSigma] at among
    exact isUpper_of_mem_toLowercase among
  | case4 c next rest inRest =>
    rw [lowerWord] at among
    rcases List.mem_append.mp among with here | later
    · exact isUpper_of_mem_toLowercase here
    · exact inRest later

/-- **A name in camel case does not start with an ASCII capital.** -/
theorem isUpper_head_lowerCamel {text : List Char} {c : Char} (first : (lowerCamel text).head? = some c) :
    c.isUpper = false := by
  unfold lowerCamel at first
  cases shape : words text with
  | nil =>
    rw [shape] at first
    cases first
  | cons word rest =>
    have isWord : word ∈ words text := by
      rw [shape]
      exact List.mem_cons_self
    rw [shape, joinLowerCamel, List.head?_append_of_ne_nil _ (lowerWord_ne_nil (ne_nil_of_mem_words isWord))]
      at first
    exact isUpper_of_mem_lowerWord (List.mem_of_mem_head? first)

/-! ### Capitals -/

/-- A word behind others, with an underscore between them unless it starts with a digit. -/
def behindOthers : List Char → List Char
  | [] => []
  | c :: rest => if c.isDigit then c :: rest else '_' :: c :: rest

/-- Words in upper case, apart where camel case keeps them apart. -/
def joinCapitals : List (List Char) → List Char
  | [] => []
  | first :: rest => upperWord first ++ rest.flatMap fun word => behindOthers (upperWord word)

/-- **The words of a text in upper case.** An underscore is between two of them, unless the later one starts
with a digit. -/
def capitals (text : List Char) : List Char :=
  joinCapitals (words text)

/-- A character of a name in camel case as its capitals have it. -/
def hump (c : Char) : List Char :=
  if c.isUpper then ['_', c] else [c.toUpper]

/-- A letter or digit stays a digit in upper case, or is a capital there. -/
theorem isDigit_or_isUpper_toUpper {c : Char} (alphanum : c.isAlphanum = true) :
    c.toUpper.isDigit = true ∧ c.toUpper.isUpper = false ∨ c.toUpper.isDigit = false ∧ c.toUpper.isUpper = true := by
  rw [isDigit_toUpper, Char.isUpper_toUpper_eq_isAlpha]
  cases digit : c.isDigit with
  | true => exact Or.inl ⟨rfl, isAlpha_of_isDigit digit⟩
  | false => exact Or.inr ⟨rfl, by rwa [Char.isAlphanum, digit, Bool.or_false] at alphanum⟩

theorem lowerWord_eq_map {word : List Char} (ascii : IsAscii word) : lowerWord word = word.map Char.toLower := by
  induction word using lowerWord.induct with
  | case1 => rfl
  | case2 => exact absurd (ascii 'Σ' List.mem_cons_self) (by decide)
  | case3 c notSigma => rw [lowerWord, if_neg notSigma, toLowercase_of_lt c (ascii c List.mem_cons_self)]; rfl
  | case4 c next rest inRest =>
    rw [lowerWord, toLowercase_of_lt c (ascii c List.mem_cons_self),
      inRest fun other inside => ascii other (List.mem_cons_of_mem _ inside)]
    rfl

theorem upperWord_eq_map {word : List Char} (ascii : IsAscii word) : upperWord word = word.map Char.toUpper := by
  induction word with
  | nil => rfl
  | cons c rest inRest =>
    have later : upperWord rest = rest.map Char.toUpper :=
      inRest fun other inside => ascii other (List.mem_cons_of_mem _ inside)
    show toUppercase c ++ upperWord rest = _
    rw [toUppercase_of_lt c (ascii c List.mem_cons_self), later]
    rfl

/-- The capitals of a word in lower case are the word in upper case. -/
theorem flatMap_hump_lowerWord {word : List Char} (ascii : IsAscii word) :
    (lowerWord word).flatMap hump = upperWord word := by
  have each : ∀ c ∈ word, hump c.toLower = [c.toUpper] := by
    intro c among
    unfold hump
    rw [Char.isUpper_toLower_eq_false, Char.toUpper_toLower_eq_toUpper]
    rfl
  rw [lowerWord_eq_map ascii, upperWord_eq_map ascii, List.flatMap_map, List.flatMap_congr each,
    ← List.map_eq_flatMap]

/-- The capitals of a capitalized word are the word in upper case, behind others. -/
theorem flatMap_hump_capitalize {word : List Char} (ascii : IsAscii word)
    (alphanum : ∀ c ∈ word, c.isAlphanum = true) :
    (capitalize word).flatMap hump = behindOthers (upperWord word) := by
  cases word with
  | nil => rfl
  | cons c rest =>
    have small := ascii c List.mem_cons_self
    have later : (lowerWord rest).flatMap hump = upperWord rest :=
      flatMap_hump_lowerWord fun other inside => ascii other (List.mem_cons_of_mem _ inside)
    have whole : upperWord (c :: rest) = c.toUpper :: upperWord rest := by
      show toUppercase c ++ upperWord rest = _
      rw [toUppercase_of_lt c small]
      rfl
    have start : (capitalize (c :: rest)).flatMap hump = hump c.toUpper ++ upperWord rest := by
      rw [capitalize, toUppercase_of_lt c small, List.singleton_append, List.flatMap_cons, later]
    rw [start, whole, hump, behindOthers]
    rcases isDigit_or_isUpper_toUpper (alphanum c List.mem_cons_self) with ⟨digit, noCapital⟩ | ⟨noDigit, capital⟩
    · rw [digit, noCapital, Char.toUpper_toUpper_eq_toUpper]
      rfl
    · rw [noDigit, capital]
      rfl

/-- **In ASCII, a name in camel case has its capitals in it.** -/
theorem flatMap_hump_lowerCamel {text : List Char} (ascii : IsAscii text) :
    (lowerCamel text).flatMap hump = capitals text := by
  have inWords : ∀ word ∈ words text, IsAscii word := fun _ => ascii.of_mem_words
  have alphanum : ∀ word ∈ words text, ∀ c ∈ word, c.isAlphanum = true :=
    fun word isWord c inside => isWordCharacter_of_mem_words isWord c inside (inWords word isWord c inside)
  unfold lowerCamel capitals
  cases shape : words text with
  | nil => rfl
  | cons first rest =>
    rw [shape] at inWords alphanum
    have each : ∀ word ∈ rest, (capitalize word).flatMap hump = behindOthers (upperWord word) :=
      fun word among => flatMap_hump_capitalize (inWords word (List.mem_cons_of_mem _ among))
        (alphanum word (List.mem_cons_of_mem _ among))
    rw [joinLowerCamel, joinCapitals, List.flatMap_append,
      flatMap_hump_lowerWord (inWords first List.mem_cons_self), List.flatMap_assoc, List.flatMap_congr each]

/-! ### Reading the capitals -/

theorem toUpper_ne_underscore {c : Char} (alphanum : c.isAlphanum = true) : c.toUpper ≠ '_' := by
  intro same
  have kept := isAlphanum_toUpper alphanum
  rw [same] at kept
  cases kept

theorem toLower_toUpper {c : Char} (small : c.isUpper = false) : c.toUpper.toLower = c := by
  rw [Char.toLower_toUpper_eq_toLower, Char.toLower_eq_of_not_isUpper (by rw [small]; exact Bool.false_ne_true)]

/-- The first character can be read off the capitals. -/
theorem hump_append_inj {c d : Char} {first second : List Char} (left : c.isAlphanum = true)
    (right : d.isAlphanum = true) (same : hump c ++ first = hump d ++ second) : c = d ∧ first = second := by
  unfold hump at same
  cases leftCapital : c.isUpper <;> cases rightCapital : d.isUpper <;> rw [leftCapital, rightCapital] at same
  · obtain ⟨head, tail⟩ := List.cons.inj same
    refine ⟨?_, tail⟩
    rw [← toLower_toUpper leftCapital, ← toLower_toUpper rightCapital, head]
  · exact absurd (List.cons.inj same).1 (toUpper_ne_underscore left)
  · exact absurd (List.cons.inj same).1.symm (toUpper_ne_underscore right)
  · exact List.cons.inj (List.cons.inj same).2

/-- A name can be read off its capitals. -/
theorem flatMap_hump_inj {first second : List Char} (left : ∀ c ∈ first, c.isAlphanum = true)
    (right : ∀ c ∈ second, c.isAlphanum = true) (same : first.flatMap hump = second.flatMap hump) :
    first = second := by
  have some : ∀ c : Char, hump c ≠ [] := by
    intro c
    unfold hump
    split <;> exact List.cons_ne_nil _ _
  induction first generalizing second with
  | nil =>
    cases second with
    | nil => rfl
    | cons d rest => exact absurd (List.append_eq_nil_iff.mp same.symm).1 (some d)
  | cons c rest inRest =>
    cases second with
    | nil => exact absurd (List.append_eq_nil_iff.mp same).1 (some c)
    | cons d others =>
      obtain ⟨rfl, tail⟩ := hump_append_inj (left c List.mem_cons_self) (right d List.mem_cons_self) same
      rw [inRest (fun c inside => left c (List.mem_cons_of_mem _ inside))
        (fun d inside => right d (List.mem_cons_of_mem _ inside)) tail]

theorem isAlphanum_of_mem_lowerCamel {text : List Char} (ascii : IsAscii text) :
    ∀ c ∈ lowerCamel text, c.isAlphanum = true :=
  fun c among => isWordCharacter_of_mem_lowerCamel among (ascii.lowerCamel c among)

/-- **In ASCII, names in camel case are equal exactly if their capitals are.** -/
theorem lowerCamel_eq_iff {first second : List Char} (left : IsAscii first) (right : IsAscii second) :
    lowerCamel first = lowerCamel second ↔ capitals first = capitals second := by
  constructor
  · intro same
    rw [← flatMap_hump_lowerCamel left, ← flatMap_hump_lowerCamel right, same]
  · intro same
    apply flatMap_hump_inj (isAlphanum_of_mem_lowerCamel left) (isAlphanum_of_mem_lowerCamel right)
    rw [flatMap_hump_lowerCamel left, flatMap_hump_lowerCamel right, same]

example : capitals "foo_bar_2nd".toList = "FOO_BAR2ND".toList := by decide +kernel

/-! ### Names in upper case -/

theorem IsAscii.upperWord {word : List Char} (ascii : IsAscii word) : IsAscii (upperWord word) := by
  intro d among
  rw [upperWord_eq_map ascii] at among
  obtain ⟨c, inside, rfl⟩ := List.mem_map.mp among
  exact toNat_toUpper_lt (ascii c inside)

theorem IsAscii.shoutySnake {text : List Char} (ascii : IsAscii text) : IsAscii (shoutySnake text) := by
  intro d among
  rcases mem_of_mem_intercalate among with between | ⟨part, isPart, inPart⟩
  · obtain rfl := List.mem_singleton.mp between
    decide
  · obtain ⟨word, isWord, rfl⟩ := List.mem_map.mp isPart
    exact (ascii.of_mem_words isWord).upperWord d inPart

end ProtoSwift.Text
