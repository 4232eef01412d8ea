/-
**The names of fields, with a suffix and without one, cannot be taken for each other.**

A base name is a word in camel case. An underscore is in front of it if it would start with a digit, and `_p` is
behind it if it is a member of every message. So the place of its underscore tells a base name from one with a
number as its suffix, and the last underscore of the latter is in front of the number.

* `unescapeKeyword_escapeKeyword` — the backquotes around a keyword can be taken off again;
* `BaseShape`, `baseShape_baseName` — what a base name looks like;
* `BaseShape.ne_numbered` — no base name looks like one with a number behind it;
* `last_of_append_eq` — the number behind a base name can be read off;
* `FieldNames.property_ofBase_inj` — fields that share a property share the base name.
-/

import ProtoSwift.Proofs.Text.WordCharacters
import ProtoSwift.Swift.FieldNames
import Mathlib

namespace ProtoSwift.Swift

open Text

/-! ### Backquotes -/

/-- A name that is not written between backquotes itself. -/
def Unquoted (name : String) : Prop :=
  '\x60' ∉ name.toList

theorem dropWhile_of_forall_not {α : Type} {drops : α → Bool} {elements : List α}
    (none : ∀ element ∈ elements, drops element = false) : elements.dropWhile drops = elements := by
  refine List.dropWhile_eq_self_iff.mpr fun positive => ?_
  rw [none _ (List.getElem_mem positive)]
  exact Bool.false_ne_true

/-- The marks around elements that are no marks themselves can be dropped. -/
theorem dropWhile_around {α : Type} (isMark : α → Bool) (mark : α) (marks : isMark mark = true)
    {elements : List α} (none : ∀ element ∈ elements, isMark element = false) :
    (((mark :: elements ++ [mark]).dropWhile isMark).reverse.dropWhile isMark).reverse = elements := by
  have fromLeft : (mark :: elements ++ [mark]).dropWhile isMark = (elements ++ [mark]).dropWhile isMark :=
    List.dropWhile_cons_of_pos marks
  rw [fromLeft, List.dropWhile_append, dropWhile_of_forall_not none]
  cases elements with
  | nil => simp [marks]
  | cons first rest =>
    have backwards : ∀ element ∈ (first :: rest).reverse, isMark element = false :=
      fun element among => none element (List.mem_reverse.mp among)
    rw [if_neg (by simp), List.reverse_append, List.reverse_singleton, List.singleton_append,
      List.dropWhile_cons_of_pos marks, dropWhile_of_forall_not backwards, List.reverse_reverse]

/-- **The backquotes around a keyword can be taken off again.** -/
theorem unescapeKeyword_escapeKeyword {name : String} (unquoted : Unquoted name) :
    unescapeKeyword (escapeKeyword name) = name := by
  have none : ∀ c ∈ name.toList, decide (c = '\x60') = false := by
    intro c among
    rw [decide_eq_false_iff_not]
    rintro rfl
    exact unquoted among
  unfold escapeKeyword
  by_cases keyword : keywords.contains name = true
  · rw [if_pos keyword]
    have quoted : ("\x60" ++ name ++ "\x60").toList = '\x60' :: name.toList ++ ['\x60'] := by
      simp only [String.toList_append]
      rfl
    simp only [unescapeKeyword]
    rw [quoted, dropWhile_around (fun c => decide (c = '\x60')) '\x60' rfl none, String.ofList_toList]
  · rw [if_neg keyword]
    have backwards : ∀ c ∈ name.toList.reverse, decide (c = '\x60') = false :=
      fun c among => none c (List.mem_reverse.mp among)
    simp only [unescapeKeyword]
    rw [dropWhile_of_forall_not none, dropWhile_of_forall_not backwards, List.reverse_reverse,
      String.ofList_toList]

theorem mem_escapeKeyword {name : String} {c : Char} (among : c ∈ (escapeKeyword name).toList) :
    c = '\x60' ∨ c ∈ name.toList := by
  unfold escapeKeyword at among
  by_cases keyword : keywords.contains name = true
  · rw [if_pos keyword, String.toList_append, String.toList_append, List.mem_append, List.mem_append] at among
    rcases among with (quote | inside) | quote
    · exact Or.inl (List.mem_singleton.mp quote)
    · exact Or.inr inside
    · exact Or.inl (List.mem_singleton.mp quote)
  · rw [if_neg keyword] at among
    exact Or.inr among

/-! ### Base names -/

/-- **What a base name looks like.** -/
inductive BaseShape : List Char → Prop
  | word {word : List Char} (some : word ≠ []) (whole : '_' ∉ word) : BaseShape word
  | marked {word : List Char} (whole : '_' ∉ word) : BaseShape ('_' :: word)
  | renamed (member : List Char) : BaseShape (member ++ ['_', 'p'])

theorem BaseShape.ne_nil {base : List Char} (shape : BaseShape base) : base ≠ [] := by
  cases shape with
  | word some => exact some
  | marked => exact List.cons_ne_nil _ _
  | renamed => exact List.append_ne_nil_of_right_ne_nil _ (List.cons_ne_nil _ _)

theorem not_mem_lowerCamel {text : List Char} {c : Char} (separator : ¬ IsWordCharacter c) :
    c ∉ lowerCamel text :=
  fun among => separator (isWordCharacter_of_mem_lowerCamel among)

/-- A legal start is that of the name, unless there is an underscore in front of it. -/
theorem legalStart_eq_or (name : List Char) : legalStart name = name ∨ (legalStart name).head? = some '_' := by
  cases name with
  | nil => exact Or.inr rfl
  | cons first rest =>
    unfold legalStart
    by_cases digit : first.isDigit = true
    · simp only [digit, if_true]
      exact Or.inr rfl
    · simp only [digit]
      exact Or.inl rfl

theorem baseShape_legalStart {word : List Char} (whole : '_' ∉ word) : BaseShape (legalStart word) := by
  cases word with
  | nil => exact .marked List.not_mem_nil
  | cons first rest =>
    unfold legalStart
    by_cases digit : first.isDigit = true
    · simp only [digit, if_true]
      exact .marked whole
    · simp only [digit]
      exact .word (List.cons_ne_nil _ _) whole

theorem mem_legalStart {word : List Char} {c : Char} (among : c ∈ legalStart word) : c = '_' ∨ c ∈ word := by
  cases word with
  | nil => exact Or.inl (List.mem_singleton.mp among)
  | cons first rest =>
    unfold legalStart at among
    by_cases digit : first.isDigit = true
    · simp only [digit, if_true] at among
      exact List.mem_cons.mp among
    · simp only [digit] at among
      exact Or.inr among

namespace FieldNames

/-- A base name is in camel case, unless that is a member of every message. -/
theorem baseName_cases (field : String) : ∃ camel : String, camel.toList = legalStart (lowerCamel field.toList)
    ∧ (camel ∉ messageMembers ∧ baseName field = camel
      ∨ camel ∈ messageMembers ∧ baseName field = camel ++ "_p") := by
  refine ⟨String.ofList (legalStart (lowerCamel field.toList)), String.toList_ofList, ?_⟩
  unfold baseName
  by_cases taken : String.ofList (legalStart (lowerCamel field.toList)) ∈ messageMembers
  · exact Or.inr ⟨taken, if_pos (List.contains_iff_mem.mpr taken)⟩
  · exact Or.inl ⟨taken, if_neg (mt List.contains_iff_mem.mp taken)⟩

/-- **Every base name looks like one.** -/
theorem baseShape_baseName (field : String) : BaseShape (baseName field).toList := by
  obtain ⟨camel, spelt, ⟨_, same⟩ | ⟨_, same⟩⟩ := baseName_cases field
  · rw [same, spelt]
    exact baseShape_legalStart (not_mem_lowerCamel (by decide))
  · rw [same, String.toList_append]
    exact .renamed _

/-- A base name is made of word characters and underscores. -/
theorem not_mem_baseName (field : String) {c : Char} (separator : ¬ IsWordCharacter c) (noUnderscore : c ≠ '_') :
    c ∉ (baseName field).toList := by
  obtain ⟨camel, spelt, shape⟩ := baseName_cases field
  have inCamel : c ∉ camel.toList := by
    rw [spelt]
    intro among
    rcases mem_legalStart among with underscore | inWords
    · exact noUnderscore underscore
    · exact not_mem_lowerCamel separator inWords
  rcases shape with ⟨_, same⟩ | ⟨_, same⟩
  · rw [same]
    exact inCamel
  · rw [same, String.toList_append, List.mem_append]
    rintro (here | behind)
    · exact inCamel here
    · have letter : IsWordCharacter 'p' := by decide
      rcases List.mem_cons.mp behind with underscore | last
      · exact noUnderscore underscore
      · exact separator (List.mem_singleton.mp last ▸ letter)

theorem unquoted_baseName (field : String) : Unquoted (baseName field) :=
  not_mem_baseName field (by decide) (by decide)

theorem underscore_not_mem_messageMembers : ∀ member ∈ messageMembers, '_' ∉ member.toList := by
  decide

theorem toList_append_suffix (stem suffix : String) :
    (stem ++ "_" ++ suffix).toList = stem.toList ++ '_' :: suffix.toList := by
  rw [String.toList_append, String.toList_append, List.append_assoc]
  rfl

/-- A name with a suffix is no member of every message. -/
theorem append_suffix_not_mem_messageMembers (stem suffix : String) : stem ++ "_" ++ suffix ∉ messageMembers := by
  intro among
  refine underscore_not_mem_messageMembers _ among ?_
  rw [toList_append_suffix]
  exact List.mem_append_right _ List.mem_cons_self

/-- A base name is no member of every message, as no name with an underscore is. -/
theorem baseName_not_mem_messageMembers (field : String) : baseName field ∉ messageMembers := by
  obtain ⟨camel, _, ⟨free, same⟩ | ⟨_, same⟩⟩ := baseName_cases field
  · rw [same]
    exact free
  · intro among
    refine underscore_not_mem_messageMembers _ among ?_
    rw [same, String.toList_append]
    exact List.mem_append_right _ (by decide)

end FieldNames

/-! ### Numbers behind base names -/

theorem isDigit_of_mem_repr {number : Nat} {c : Char} (among : c ∈ number.repr.toList) : c.isDigit = true := by
  rw [Nat.toList_repr] at among
  exact Nat.isDigit_of_mem_toDigits (by decide) (by decide) among

/-- The characters of a number, which may be negative. -/
def IsDecimal (number : List Char) : Prop :=
  number ≠ [] ∧ ∀ c ∈ number, c = '-' ∨ c.isDigit = true

theorem IsDecimal.not_mem {number : List Char} (decimal : IsDecimal number) {c : Char} (sign : c ≠ '-')
    (noDigit : c.isDigit = false) : c ∉ number := by
  intro among
  rcases decimal.2 c among with rfl | digit
  · exact sign rfl
  · rw [noDigit] at digit
    cases digit

/-- **No base name looks like one with a number behind it.** -/
theorem BaseShape.ne_numbered {base stem number : List Char} (shape : BaseShape base) (stemSome : stem ≠ [])
    (decimal : IsDecimal number) : base ≠ stem ++ '_' :: number := by
  have underscore : '_' ∈ stem ++ '_' :: number := List.mem_append_right _ List.mem_cons_self
  cases shape with
  | word _ whole =>
    rintro rfl
    exact whole underscore
  | marked whole =>
    cases stem with
    | nil => exact absurd rfl stemSome
    | cons first rest =>
      intro same
      obtain ⟨_, rfl⟩ := List.cons.inj same
      exact whole (List.mem_append_right _ List.mem_cons_self)
  | renamed member =>
    -- a renamed member ends in a letter, which no number does
    intro same
    have last : (stem ++ '_' :: number).getLast? = some 'p' := by
      rw [← same]
      simp
    have inNumber : number.getLast? = some 'p' := by
      rw [List.getLast?_append_of_ne_nil _ (List.cons_ne_nil _ _)] at last
      rwa [List.getLast?_cons_of_ne_nil decimal.1] at last
    exact decimal.not_mem (by decide) (by decide) (List.mem_of_getLast? inNumber)

/-- What is behind the last separator can be read off. -/
theorem last_of_append_eq {α : Type} {separator : α} {first second before after : List α}
    (noneBefore : separator ∉ before) (noneAfter : separator ∉ after)
    (same : first ++ separator :: before = second ++ separator :: after) : before = after := by
  rcases List.append_eq_append_iff.mp same with ⟨between, _, tail⟩ | ⟨between, _, tail⟩
  · cases between with
    | nil => exact (List.cons.inj tail).2
    | cons head rest =>
      obtain ⟨_, rfl⟩ := List.cons.inj tail
      exact absurd (List.mem_append_right _ List.mem_cons_self) noneBefore
  · cases between with
    | nil => exact (List.cons.inj tail).2.symm
    | cons head rest =>
      obtain ⟨_, rfl⟩ := List.cons.inj tail
      exact absurd (List.mem_append_right _ List.mem_cons_self) noneAfter

/-! ### Names of a field -/

namespace FieldNames

theorem suffixed_ofField (field suffix : String) :
    (ofField field).suffixed suffix = ofBase (baseName field ++ "_" ++ suffix) := by
  have property : ∀ base : String, (ofBase base).property = escapeKeyword base := fun _ => rfl
  unfold ofField suffixed
  rw [property, unescapeKeyword_escapeKeyword (unquoted_baseName field)]

/-- **Fields that share a property share the base name.** -/
theorem property_ofBase_inj {first second : String} (firstUnquoted : Unquoted first)
    (secondUnquoted : Unquoted second) :
    (ofBase first).property = (ofBase second).property ↔ first = second := by
  constructor
  · intro same
    rw [← unescapeKeyword_escapeKeyword firstUnquoted, ← unescapeKeyword_escapeKeyword secondUnquoted]
    exact congrArg unescapeKeyword same
  · rintro rfl
    rfl

/-- Fields that share a slot share the base name. -/
theorem slot_ofBase_inj {first second : String} : (ofBase first).slot = (ofBase second).slot ↔ first = second :=
  String.append_right_inj "_"

/-- A property is no member of every message if its base name is none. -/
theorem property_ofBase_not_mem_messageMembers {base : String} (other : base ∉ messageMembers) :
    (ofBase base).property ∉ messageMembers := by
  have members : ∀ member ∈ messageMembers, '\x60' ∉ member.toList := by decide
  show escapeKeyword base ∉ messageMembers
  unfold escapeKeyword
  by_cases keyword : keywords.contains base = true
  · rw [if_pos keyword]
    intro among
    refine members _ among ?_
    rw [String.toList_append]
    exact List.mem_append_right _ (by decide)
  · rw [if_neg keyword]
    exact other

end FieldNames

end ProtoSwift.Swift
