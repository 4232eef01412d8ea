/-
**In ASCII, generated names are legal.**

Camel case leaves ASCII letters and digits of a name, and an underscore in front makes an identifier of them where
they are none. What is put around an identifier afterwards, a suffix behind it or a word in front of it, leaves it
one. An identifier can still be a keyword. A property or a case then stands between backquotes, and the other names
of a field start like no keyword does.

* `IsIdentifier` — an ASCII letter or an underscore, and behind it letters, digits and underscores;
* `IsBareName`, `IsLegalName` — an identifier that is no keyword, or a keyword between backquotes;
* `isIdentifier_legalStart` — letters and digits become an identifier;
* `isLegalName_escapeKeyword` — an identifier becomes a legal name;
* `FieldNames.isLegal_ofBase` — all names spelt from an identifier are legal;
* `legalNames_of_ascii` — the names of fields and of cases are legal, with a number as a suffix too.
-/

import ProtoSwift.Proofs.Swift.CaseNames
import Mathlib

namespace ProtoSwift.Swift

open Text Unicode

/-! ### Identifiers -/

/-- Characters that an identifier may go on with: ASCII letters, digits and underscores. -/
def IsIdentifierTail (text : List Char) : Prop :=
  ∀ c ∈ text, c.isAlphanum = true ∨ c = '_'

instance : DecidablePred IsIdentifierTail :=
  fun text => List.decidableBAll (fun c : Char => c.isAlphanum = true ∨ c = '_') text

/-- **An identifier.** It starts with an ASCII letter or an underscore, and goes on with ASCII letters, digits and
underscores. -/
inductive IsIdentifier : List Char → Prop
  | starts {first : Char} {rest : List Char} (start : first.isAlpha = true ∨ first = '_')
      (tail : IsIdentifierTail rest) : IsIdentifier (first :: rest)

variable {name rest text : List Char}

theorem isIdentifierTail_of_isAlphanum (alphanum : ∀ c ∈ text, c.isAlphanum = true) : IsIdentifierTail text :=
  fun c among => Or.inl (alphanum c among)

/-- What starts an identifier may be inside one too. -/
theorem IsIdentifier.isIdentifierTail (identifier : IsIdentifier name) : IsIdentifierTail name := by
  cases identifier with
  | starts start tail =>
    refine List.forall_mem_cons.mpr ⟨?_, tail⟩
    rcases start with letter | underscore
    · exact Or.inl (isAlphanum_of_isAlpha letter)
    · exact Or.inr underscore

/-- An identifier stays one when it goes on. -/
theorem IsIdentifier.append (identifier : IsIdentifier name) (more : IsIdentifierTail rest) :
    IsIdentifier (name ++ rest) := by
  cases identifier with
  | starts start tail => exact .starts start (List.forall_mem_append.mpr ⟨tail, more⟩)

/-- **Letters and digits become an identifier** by an underscore in front, if they are none. -/
theorem isIdentifier_legalStart (alphanum : ∀ c ∈ text, c.isAlphanum = true) : IsIdentifier (legalStart text) := by
  cases text with
  | nil => exact .starts (Or.inr rfl) (isIdentifierTail_of_isAlphanum alphanum)
  | cons first rest =>
    unfold legalStart
    by_cases digit : first.isDigit = true
    · simp only [digit, if_true]
      exact .starts (Or.inr rfl) (isIdentifierTail_of_isAlphanum alphanum)
    · have letter : first.isAlpha = true := by
        have either := alphanum first List.mem_cons_self
        rwa [Char.isAlphanum, eq_false_of_ne_true digit, Bool.or_false] at either
      have later : ∀ c ∈ rest, c.isAlphanum = true := fun c among => alphanum c (List.mem_cons_of_mem _ among)
      simp only [digit]
      exact .starts (Or.inl letter) (isIdentifierTail_of_isAlphanum later)

/-- Camel case of a name in ASCII becomes an identifier. -/
theorem isIdentifier_lowerCamel (ascii : IsAscii text) : IsIdentifier (legalStart (lowerCamel text)) :=
  isIdentifier_legalStart (isAlphanum_of_mem_lowerCamel ascii)

/-- A capital at the start of an identifier may be inside one. -/
theorem IsIdentifier.capitalizeFirst (identifier : IsIdentifier name) : IsIdentifierTail (capitalizeFirst name) := by
  cases identifier with
  | @starts first rest start tail =>
    have capital : IsIdentifierTail (toUppercase first) := by
      rcases start with letter | rfl
      · rw [toUppercase_of_lt first (toNat_lt_of_isAlpha letter)]
        exact List.forall_mem_singleton.mpr (Or.inl (isAlphanum_toUpper (isAlphanum_of_isAlpha letter)))
      · decide
    exact List.forall_mem_append.mpr ⟨capital, tail⟩

/-! ### Legal names -/

/-- An identifier that is no keyword, which needs no backquotes. -/
def IsBareName (name : String) : Prop :=
  IsIdentifier name.toList ∧ name ∉ keywords

/-- **A name that can be declared**: a keyword between backquotes, or an identifier that is no keyword. -/
def IsLegalName (name : String) : Prop :=
  (∃ keyword ∈ keywords, name = "\x60" ++ keyword ++ "\x60") ∨ IsBareName name

/-- **An identifier becomes a legal name.** -/
theorem isLegalName_escapeKeyword {name : String} (identifier : IsIdentifier name.toList) :
    IsLegalName (escapeKeyword name) := by
  unfold escapeKeyword
  by_cases keyword : name ∈ keywords
  · rw [if_pos (List.contains_iff_mem.mpr keyword)]
    exact Or.inl ⟨name, keyword, rfl⟩
  · rw [if_neg (mt List.contains_iff_mem.mp keyword)]
    exact Or.inr ⟨identifier, keyword⟩

/-- What stands in front of the base name in the other names of a field. -/
def fronts : List String :=
  ["has", "clear", "_"]

theorem isIdentifier_of_mem_fronts {front : String} (isFront : front ∈ fronts) : IsIdentifier front.toList := by
  simp only [fronts, List.mem_cons, List.not_mem_nil, or_false] at isFront
  rcases isFront with rfl | rfl | rfl <;> exact .starts (by decide) (by decide)

/-- No keyword starts like another name of a field. -/
theorem not_isPrefix_keyword : ∀ front ∈ fronts, ∀ keyword ∈ keywords, ¬ front.toList <+: keyword.toList := by
  decide

/-- **The other names of a field need no backquotes.** -/
theorem isBareName_append {front : String} (isFront : front ∈ fronts) {rest : String}
    (tail : IsIdentifierTail rest.toList) : IsBareName (front ++ rest) := by
  constructor
  · rw [String.toList_append]
    exact (isIdentifier_of_mem_fronts isFront).append tail
  · intro keyword
    apply not_isPrefix_keyword front isFront _ keyword
    rw [String.toList_append]
    exact List.prefix_append _ _

/-! ### The names of a field -/

namespace FieldNames

/-- **Names of a field that are legal.** The property may be a keyword between backquotes, and is no member of every
message. The other names are identifiers as they stand. -/
structure IsLegal (names : FieldNames) : Prop where
  property : IsLegalName names.property
  free : names.property ∉ messageMembers
  query : IsBareName names.query
  reset : IsBareName names.reset
  slot : IsBareName names.slot
  slot_eq : names.slot = "_" ++ unescapeKeyword names.property

/-- **All names spelt from an identifier are legal.** -/
theorem isLegal_ofBase {base : String} (identifier : IsIdentifier base.toList) (free : base ∉ messageMembers) :
    (ofBase base).IsLegal := by
  have unquoted : Unquoted base := by
    intro quote
    exact absurd (identifier.isIdentifierTail _ quote) (by decide)
  have capitalized : IsIdentifierTail (String.ofList (capitalizeFirst base.toList)).toList := by
    rw [String.toList_ofList]
    exact identifier.capitalizeFirst
  exact {
    property := isLegalName_escapeKeyword identifier
    free := property_ofBase_not_mem_messageMembers free
    query := isBareName_append (by decide) capitalized
    reset := isBareName_append (by decide) capitalized
    slot := isBareName_append (by decide) identifier.isIdentifierTail
    slot_eq := congrArg ("_" ++ ·) (unescapeKeyword_escapeKeyword unquoted).symm }

theorem isIdentifier_baseName {field : String} (ascii : IsAscii field.toList) :
    IsIdentifier (baseName field).toList := by
  have camelCase := isIdentifier_lowerCamel ascii
  obtain ⟨camel, spelt, ⟨_, same⟩ | ⟨_, same⟩⟩ := baseName_cases field
  · rwa [same, spelt]
  · have tail : IsIdentifierTail "_p".toList := by decide
    rw [same, String.toList_append, spelt]
    exact camelCase.append tail

theorem isLegal_ofField {field : String} (ascii : IsAscii field.toList) : (ofField field).IsLegal :=
  isLegal_ofBase (isIdentifier_baseName ascii) (baseName_not_mem_messageMembers field)

/-- A suffix of digits leaves the names spelt from an identifier legal. -/
theorem isLegal_ofBase_suffixed {stem suffix : String} (identifier : IsIdentifier stem.toList)
    (digits : ∀ c ∈ suffix.toList, c.isDigit = true) : (ofBase (stem ++ "_" ++ suffix)).IsLegal := by
  have tail : IsIdentifierTail ('_' :: suffix.toList) := by
    refine List.forall_mem_cons.mpr ⟨Or.inr rfl, ?_⟩
    exact isIdentifierTail_of_isAlphanum fun c among => isAlphanum_of_isDigit (digits c among)
  refine isLegal_ofBase ?_ (append_suffix_not_mem_messageMembers stem suffix)
  rw [toList_append_suffix]
  exact identifier.append tail

/-- **A suffix of digits leaves the names of a field legal**, whether the property is a keyword or not. -/
theorem isLegal_suffixed {field suffix : String} (ascii : IsAscii field.toList)
    (digits : ∀ c ∈ suffix.toList, c.isDigit = true) : ((ofField field).suffixed suffix).IsLegal := by
  rw [suffixed_ofField]
  exact isLegal_ofBase_suffixed (isIdentifier_baseName ascii) digits

end FieldNames

theorem isDigit_of_mem_toString (number : Nat) : ∀ c ∈ (toString number).toList, c.isDigit = true := by
  rw [Nat.toString_eq_repr]
  exact fun c => isDigit_of_mem_repr

/-! ### The names of a case -/

theorem isLegalName_caseName (enumeration : String) {value : String} (ascii : IsAscii value.toList) :
    IsLegalName (caseName enumeration value) := by
  rw [caseName_eq]
  apply isLegalName_escapeKeyword
  rw [bareCaseName, String.toList_ofList]
  exact isIdentifier_lowerCamel (isAscii_remainingName enumeration ascii)

/-- **In ASCII, the names of fields and of cases are legal.** That is so whatever the characters are, also if there
are none, and with a number as a suffix too. -/
theorem legalNames_of_ascii {field value : String} (asciiField : IsAscii field.toList)
    (asciiValue : IsAscii value.toList) (enumeration : String) (number : Nat) :
    (FieldNames.ofField field).IsLegal ∧ ((FieldNames.ofField field).suffixed (toString number)).IsLegal
      ∧ IsLegalName (caseName enumeration value) :=
  ⟨FieldNames.isLegal_ofField asciiField,
    FieldNames.isLegal_suffixed asciiField (isDigit_of_mem_toString number),
    isLegalName_caseName enumeration asciiValue⟩

/-- A member of every message, and a value called like a keyword. -/
theorem legalNames_of_ascii_hash :
    IsAscii "hash-VALUE".toList ∧ IsAscii "MODE_DEFAULT".toList
      ∧ FieldNames.ofField "hash-VALUE" = ⟨"hashValue_p", "hasHashValue_p", "clearHashValue_p", "_hashValue_p"⟩
      ∧ caseName "Mode" "MODE_DEFAULT" = "\x60default\x60"
      ∧ (FieldNames.ofField "hash-VALUE").IsLegal
      ∧ ((FieldNames.ofField "hash-VALUE").suffixed (toString 12)).IsLegal
      ∧ IsLegalName (caseName "Mode" "MODE_DEFAULT") := by
  have ascii : IsAscii "hash-VALUE".toList ∧ IsAscii "MODE_DEFAULT".toList := by decide
  refine ⟨ascii.1, ascii.2, by decide +kernel, by decide +kernel, ?_⟩
  exact legalNames_of_ascii ascii.1 ascii.2 "Mode" 12

end ProtoSwift.Swift
