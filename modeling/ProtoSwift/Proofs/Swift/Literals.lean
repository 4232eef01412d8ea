/-
**Generated literals denote what they were written for.**

A string literal is read by the rules of the language: it begins with a quotation mark and ends at the next one that is
not escaped, holds no line break, and a parenthesis after a backslash would be the beginning of an interpolation. The
readers know nothing of how literals are written. What is written for a character ends by itself, so that it does not
matter which character comes next.

* `LiteralReading`, `readLiteral` — the text of a string literal, and what comes after its closing quotation mark;
* `literalChar_cases` — a character is written with a mark, as a code point, or as it is;
* `readBody_literalChar` — what is written for a character is read as that character;
* `readLiteral_stringLiteral`, `stringLiteral_inj` — a string literal is read as its text, and to its last character;
* `legible_of_mem_stringLiteral` — no character of a string literal is a control character;
* `readData?` — the bytes that an expression for bytes lists;
* `readData?_dataLiteral` — they are the bytes that it was written for.
-/

import ProtoSwift.Swift.Literal

namespace ProtoSwift.Swift

open Text

/-! ### Reading string literals -/

/-- What reading a string literal gives. -/
inductive LiteralReading
  /-- A text, and what comes after the closing quotation mark. -/
  | text (value rest : List Char)
  /-- An interpolation begins. -/
  | interpolation
  | malformed
  deriving DecidableEq

/-- A reading with one character more in front of its text. -/
def LiteralReading.cons (c : Char) : LiteralReading → LiteralReading
  | text value rest => text (c :: value) rest
  | other => other

def isHexDigit (c : Char) : Bool :=
  (hexDigitValue? c).isSome

/-- The number that hexadecimal digits spell. -/
def hexNumber (digits : List Char) : Nat :=
  digits.foldl (fun value digit => 16 * value + (hexDigitValue? digit).getD 0) 0

/-- What comes after the opening brace of a code point: one to eight digits of a character, and the closing brace. -/
def readPoint (input : List Char) : Option (Char × List Char) :=
  let digits := input.takeWhile isHexDigit
  match input.dropWhile isHexDigit with
  | '\x7d' :: rest =>
    if 1 ≤ digits.length ∧ digits.length ≤ 8 ∧ (hexNumber digits).isValidChar then
      some (Char.ofNat (hexNumber digits), rest)
    else none
  | _ => none

/-- What comes after a backslash, if it is the escape of a character. -/
def readEscape : List Char → Option (Char × List Char)
  | '0' :: rest => some ('\x00', rest)
  | '\\' :: rest => some ('\\', rest)
  | '"' :: rest => some ('"', rest)
  | '\x27' :: rest => some ('\x27', rest)
  | 't' :: rest => some ('\t', rest)
  | 'n' :: rest => some ('\n', rest)
  | 'r' :: rest => some ('\r', rest)
  | 'u' :: '\x7b' :: rest => readPoint rest
  | _ => none

theorem length_of_readPoint {input rest : List Char} {c : Char} (read : readPoint input = some (c, rest)) :
    rest.length < input.length := by
  unfold readPoint at read
  simp only at read
  split at read
  · next after closed =>
    split at read
    · cases read
      have shorter := (List.dropWhile_sublist (l := input) isHexDigit).length_le
      rw [closed, List.length_cons] at shorter
      exact shorter
    · cases read
  · cases read

theorem length_of_readEscape {input rest : List Char} {c : Char} (read : readEscape input = some (c, rest)) :
    rest.length < input.length := by
  unfold readEscape at read
  split at read
  case h_8 =>
    have shorter := length_of_readPoint read
    simp only [List.length_cons]
    omega
  case h_9 => cases read
  all_goals
    cases read
    exact Nat.lt_succ_self _

/-- What comes after the opening quotation mark. -/
def readBody : List Char → LiteralReading
  | [] => .malformed
  | c :: rest =>
    if c = '"' then .text [] rest
    else if c = '\\' then
      if rest.head? = some '(' then .interpolation
      else
        match _read : readEscape rest with
        | some (value, after) => (readBody after).cons value
        | none => .malformed
    else if c = '\n' ∨ c = '\r' then .malformed
    else (readBody rest).cons c
termination_by input => input.length
decreasing_by
  · have := length_of_readEscape _read
    simp only [List.length_cons]
    omega
  · exact Nat.lt_succ_self _

/-- **Reading a string literal on one line.** -/
def readLiteral : List Char → LiteralReading
  | '"' :: rest => readBody rest
  | _ => .malformed

/-! ### Hexadecimal numbers -/

/-- The hexadecimal digits as they are written. -/
theorem hexDigitValue?_digitChar : ∀ value < 16, hexDigitValue? (Nat.digitChar value) = some value := by
  decide

theorem isHexDigit_digitChar {value : Nat} (small : value < 16) : isHexDigit (Nat.digitChar value) = true := by
  rw [isHexDigit, hexDigitValue?_digitChar value small, Option.isSome_some]

/-- A number is written with hexadecimal digits only. -/
theorem isHexDigit_of_mem_hex {value : Nat} : ∀ digit ∈ hex value, isHexDigit digit = true := by
  unfold hex
  induction value using Nat.strongRecOn with
  | ind value inSmaller =>
    rcases Nat.lt_or_ge value 16 with small | large
    · rw [Nat.toDigits_of_lt_base small]
      simpa using isHexDigit_digitChar small
    · rw [Nat.toDigits_of_base_le (by decide) large, List.forall_mem_append]
      refine ⟨inSmaller (value / 16) (by omega), ?_⟩
      simpa using isHexDigit_digitChar (Nat.mod_lt value (by decide))

/-- **A number is read as it was written.** -/
theorem hexNumber_hex (value : Nat) : hexNumber (hex value) = value := by
  unfold hex
  induction value using Nat.strongRecOn with
  | ind value inSmaller =>
    rcases Nat.lt_or_ge value 16 with small | large
    · rw [Nat.toDigits_of_lt_base small]
      simp [hexNumber, hexDigitValue?_digitChar value small]
    · have high := inSmaller (value / 16) (by omega)
      have low := hexDigitValue?_digitChar (value % 16) (Nat.mod_lt value (by decide))
      rw [Nat.toDigits_of_base_le (by decide) large]
      unfold hexNumber at high ⊢
      rw [List.foldl_append, high, List.foldl_cons, List.foldl_nil, low, Option.getD_some]
      omega

/-! ### String literals are read as their texts -/

variable {c : Char} {rest : List Char}

/-- A code point in braces is read as its character. -/
theorem readPoint_hex (short : c.toNat < 0x100000000) :
    readPoint (hex c.toNat ++ '\x7d' :: rest) = some (c, rest) := by
  have digits : (hex c.toNat ++ '\x7d' :: rest).takeWhile isHexDigit = hex c.toNat := by
    rw [List.takeWhile_append_of_pos isHexDigit_of_mem_hex]
    simp [isHexDigit, hexDigitValue?]
  have after : (hex c.toNat ++ '\x7d' :: rest).dropWhile isHexDigit = '\x7d' :: rest := by
    rw [List.dropWhile_append_of_pos isHexDigit_of_mem_hex]
    rfl
  have some : 1 ≤ (hex c.toNat).length := Nat.length_toDigits_pos
  have few : (hex c.toNat).length ≤ 8 := (Nat.length_toDigits_le_iff (by decide) (by decide)).mpr short
  have valid : c.toNat.isValidChar := c.valid
  unfold readPoint
  simp only [digits, after, hexNumber_hex, some, few, valid, and_self, if_true, Char.ofNat_toNat]

/-- A backslash and the escape of a character are read as the character. -/
theorem readBody_escape {input : List Char} (plain : input.head? ≠ some '(')
    (read : readEscape input = some (c, rest)) : readBody ('\\' :: input) = (readBody rest).cons c := by
  rw [readBody, if_neg (by decide), if_pos rfl, if_neg plain]
  split
  · next found =>
    rw [read] at found
    cases found
    rfl
  · next missing =>
    rw [read] at missing
    cases missing

theorem lt_of_isControl (control : isControl c = true) : c.toNat < 0xa0 := by
  unfold isControl at control
  simp only [Bool.or_eq_true, Bool.and_eq_true, decide_eq_true_eq] at control
  omega

/-- The marks that characters are written with after a backslash. -/
def escapeMarks : List Char :=
  ['0', '\\', '"', '\x27', 't', 'n', 'r']

/-- **A character is written with a mark, as a code point, or as it is.** A mark is read whatever comes after it. -/
theorem literalChar_cases (c : Char) :
    (∃ mark ∈ escapeMarks, literalChar c = ['\\', mark] ∧ ∀ rest, readEscape (mark :: rest) = some (c, rest))
      ∨ literalChar c = escapedPoint c ∧ isControl c = true
      ∨ literalChar c = [c] ∧ ¬ isControl c = true ∧ c ≠ '"' ∧ c ≠ '\\' ∧ ¬ (c = '\n' ∨ c = '\r') := by
  unfold literalChar
  repeat' split
  · next null =>
    subst null
    exact .inl ⟨'0', by decide, rfl, fun _ => rfl⟩
  · next backslash =>
    subst backslash
    exact .inl ⟨'\\', by decide, rfl, fun _ => rfl⟩
  · next quotationMark =>
    subst quotationMark
    exact .inl ⟨'"', by decide, rfl, fun _ => rfl⟩
  · next apostrophe =>
    subst apostrophe
    exact .inl ⟨'\x27', by decide, rfl, fun _ => rfl⟩
  · next tab =>
    subst tab
    exact .inl ⟨'t', by decide, rfl, fun _ => rfl⟩
  · next lineFeed =>
    subst lineFeed
    exact .inl ⟨'n', by decide, rfl, fun _ => rfl⟩
  · next carriageReturn =>
    subst carriageReturn
    exact .inl ⟨'r', by decide, rfl, fun _ => rfl⟩
  · next control => exact .inr (.inl ⟨rfl, control⟩)
  · next backslash quotationMark _ _ lineFeed carriageReturn plain =>
    exact .inr (.inr ⟨rfl, plain, quotationMark, backslash, not_or.mpr ⟨lineFeed, carriageReturn⟩⟩)

/-- **What is written for a character is read as that character**, whatever comes after it. -/
theorem readBody_literalChar (c : Char) (rest : List Char) :
    readBody (literalChar c ++ rest) = (readBody rest).cons c := by
  rcases literalChar_cases c with ⟨mark, among, written, read⟩ | ⟨written, control⟩ | ⟨written, plain⟩
  · have noParenthesis : mark ≠ '(' := by
      rintro rfl
      exact absurd among (by decide)
    rw [written]
    exact readBody_escape (by simpa using noParenthesis) (read rest)
  · have short := lt_of_isControl control
    have point : readEscape ('u' :: '\x7b' :: (hex c.toNat ++ '\x7d' :: rest)) = some (c, rest) :=
      readPoint_hex (by omega)
    have opened : escapedPoint c ++ rest = '\\' :: 'u' :: '\x7b' :: (hex c.toNat ++ '\x7d' :: rest) := by
      simp [escapedPoint]
    rw [written, opened]
    exact readBody_escape (by simp) point
  · obtain ⟨-, quotationMark, backslash, lineBreak⟩ := plain
    rw [written, List.singleton_append, readBody, if_neg quotationMark, if_neg backslash, if_neg lineBreak]

theorem readBody_flatMap (text rest : List Char) :
    readBody (text.flatMap literalChar ++ '"' :: rest) = .text text rest := by
  induction text with
  | nil =>
    rw [List.flatMap_nil, List.nil_append, readBody, if_pos rfl]
  | cons c text inText =>
    rw [List.flatMap_cons, List.append_assoc, readBody_literalChar, inText]
    rfl

/-- **A string literal is read as its text**, and to its last character, whatever comes after it. -/
theorem readLiteral_stringLiteral (text rest : List Char) :
    readLiteral (stringLiteral text ++ rest) = .text text rest := by
  unfold stringLiteral
  rw [List.append_assoc, List.append_assoc]
  exact readBody_flatMap text rest

example : readLiteral "\"\\(0)\"".toList = .interpolation := by
  simp [readLiteral, readBody]

/-- Different texts have different literals. -/
theorem stringLiteral_inj {text other : List Char} (same : stringLiteral text = stringLiteral other) :
    text = other := by
  have read := readLiteral_stringLiteral text []
  rw [same, readLiteral_stringLiteral other []] at read
  cases read
  rfl

/-! ### String literals hold no control character -/

/-- A character that is no control character. -/
def Legible (c : Char) : Prop :=
  0x20 ≤ c.toNat ∧ (c.toNat < 0x7f ∨ 0xa0 ≤ c.toNat)

instance (c : Char) : Decidable (Legible c) :=
  inferInstanceAs (Decidable (0x20 ≤ c.toNat ∧ (c.toNat < 0x7f ∨ 0xa0 ≤ c.toNat)))

theorem legible_of_isHexDigit (digit : isHexDigit c = true) : Legible c := by
  unfold isHexDigit hexDigitValue? at digit
  split at digit
  · next decimal =>
    have low : 48 ≤ c.toNat := decimal.1
    have high : c.toNat ≤ 57 := decimal.2
    exact ⟨by omega, .inl (by omega)⟩
  split at digit
  · next lower =>
    have low : 97 ≤ c.toNat := lower.1
    have high : c.toNat ≤ 102 := lower.2
    exact ⟨by omega, .inl (by omega)⟩
  split at digit
  · next upper =>
    have low : 65 ≤ c.toNat := upper.1
    have high : c.toNat ≤ 70 := upper.2
    exact ⟨by omega, .inl (by omega)⟩
  · cases digit

theorem legible_of_not_isControl (plain : ¬ isControl c = true) : Legible c := by
  unfold isControl at plain
  simp only [Bool.or_eq_true, Bool.and_eq_true, decide_eq_true_eq] at plain
  unfold Legible
  omega

/-- The characters of a code point in braces. -/
theorem legible_of_mem_escapedPoint {written : Char} (among : written ∈ escapedPoint c) : Legible written := by
  unfold escapedPoint at among
  rcases List.mem_append.mp among with among | closing
  · rcases List.mem_append.mp among with opening | digit
    · have legible : ∀ mark ∈ ['\\', 'u', '\x7b'], Legible mark := by simp [Legible]
      exact legible _ opening
    · exact legible_of_isHexDigit (isHexDigit_of_mem_hex _ digit)
  · rw [List.mem_singleton.mp closing]
    decide

/-- No character that is written for a character is a control character. -/
theorem legible_of_mem_literalChar {written : Char} (among : written ∈ literalChar c) : Legible written := by
  rcases literalChar_cases c with ⟨mark, ofMarks, same, -⟩ | ⟨same, -⟩ | ⟨same, plain, -⟩
  · have legible : ∀ mark ∈ escapeMarks, Legible '\\' ∧ Legible mark := by
      simp [escapeMarks, Legible]
    rw [same, List.mem_cons, List.mem_singleton] at among
    rcases among with rfl | rfl
    · exact (legible _ ofMarks).1
    · exact (legible _ ofMarks).2
  · exact legible_of_mem_escapedPoint (same ▸ among)
  · rw [same, List.mem_singleton] at among
    rw [among]
    exact legible_of_not_isControl plain

/-- **No character of a string literal is a control character.** -/
theorem legible_of_mem_stringLiteral {text : List Char} (among : c ∈ stringLiteral text) : Legible c := by
  unfold stringLiteral at among
  rcases List.mem_append.mp among with among | closing
  · rcases List.mem_append.mp among with opening | among
    · rw [List.mem_singleton.mp opening]
      decide
    · obtain ⟨_, -, among⟩ := List.mem_flatMap.mp among
      exact legible_of_mem_literalChar among
  · rw [List.mem_singleton.mp closing]
    decide

/-! ### Expressions for bytes -/

/-- The value of a hexadecimal digit in lower case. -/
def lowerHexDigit? (c : Char) : Option Nat :=
  if 'A' ≤ c ∧ c ≤ 'F' then none else hexDigitValue? c

/-- The byte that two digits in lower case spell. -/
def readByte? (first second : Char) : Option UInt8 := do
  return (16 * (← lowerHexDigit? first) + (← lowerHexDigit? second)).toUInt8

/-- The bytes of a list after its opening bracket. Each is `0x` and two digits, with a comma and a space before the next
one and the closing brackets after the last one. -/
def readElements? : List Char → Option (List UInt8)
  | ['0', 'x', first, second, ']', ')'] => do return [← readByte? first second]
  | '0' :: 'x' :: first :: second :: ',' :: ' ' :: more => do
    return (← readByte? first second) :: (← readElements? more)
  | _ => none

/-- **The bytes that an expression for bytes lists.** -/
def readData? (expression : List Char) : Option (List UInt8) :=
  if expression = "Data(bytes: [])".toList then some []
  else if "Data(bytes: [".toList <+: expression then readElements? (expression.drop "Data(bytes: [".length)
  else none

theorem lowerHexDigit?_digitChar : ∀ value < 16, lowerHexDigit? (Nat.digitChar value) = some value := by
  decide

/-- **A byte is read from its two digits.** -/
theorem readByte?_halves (byte : UInt8) :
    readByte? (Nat.digitChar (byte.toNat / 16)) (Nat.digitChar (byte.toNat % 16)) = some byte := by
  have bound := byte.toNat_lt
  have high := lowerHexDigit?_digitChar (byte.toNat / 16) (by omega)
  have low := lowerHexDigit?_digitChar (byte.toNat % 16) (by omega)
  have whole : (16 * (byte.toNat / 16) + byte.toNat % 16).toUInt8 = byte := by
    rw [Nat.div_add_mod, Nat.toUInt8_eq, UInt8.ofNat_toNat]
  unfold readByte?
  rw [high, low]
  exact congrArg some whole

/-- What is written after the opening bracket of a list of bytes. -/
def elements (bytes : List UInt8) : List Char :=
  [',', ' '].intercalate (bytes.map fun byte => ['0', 'x'] ++ hexByte byte) ++ "])".toList

theorem dataLiteral_eq (bytes : List UInt8) : dataLiteral bytes = "Data(bytes: [".toList ++ elements bytes :=
  List.append_assoc _ _ _

theorem elements_singleton (byte : UInt8) :
    elements [byte] = ['0', 'x', Nat.digitChar (byte.toNat / 16), Nat.digitChar (byte.toNat % 16), ']', ')'] :=
  rfl

theorem elements_cons_cons (byte next : UInt8) (bytes : List UInt8) : elements (byte :: next :: bytes) =
    '0' :: 'x' :: Nat.digitChar (byte.toNat / 16) :: Nat.digitChar (byte.toNat % 16) :: ',' :: ' '
      :: elements (next :: bytes) :=
  rfl

/-- A list of at least one byte is read to its end. -/
theorem readElements?_elements (byte : UInt8) (bytes : List UInt8) :
    readElements? (elements (byte :: bytes)) = some (byte :: bytes) := by
  induction bytes generalizing byte with
  | nil =>
    rw [elements_singleton, readElements?, readByte?_halves]
    rfl
  | cons next bytes inBytes =>
    rw [elements_cons_cons, readElements?, readByte?_halves, inBytes next]
    rfl

/-- **An expression for bytes lists them.** -/
theorem readData?_dataLiteral (bytes : List UInt8) : readData? (dataLiteral bytes) = some bytes := by
  cases bytes with
  | nil => rfl
  | cons byte bytes =>
    have filled : dataLiteral (byte :: bytes) ≠ "Data(bytes: [])".toList := by
      show dataLiteral (byte :: bytes) ≠ dataLiteral []
      rw [dataLiteral_eq, dataLiteral_eq, Ne, List.append_cancel_left_eq]
      intro same
      have read := readElements?_elements byte bytes
      rw [same] at read
      cases read
    have opens : "Data(bytes: [".toList <+: dataLiteral (byte :: bytes) := ⟨_, (dataLiteral_eq _).symm⟩
    have inside : (dataLiteral (byte :: bytes)).drop "Data(bytes: [".length = elements (byte :: bytes) := by
      rw [dataLiteral_eq]
      exact List.drop_left
    rw [readData?, if_neg filled, if_pos opens, inside, readElements?_elements]

end ProtoSwift.Swift
