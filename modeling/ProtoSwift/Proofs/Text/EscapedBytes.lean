/-
**Bytes are written with backslash escapes and read back.**

A line feed, a carriage return, a tab, the two quotation marks and the backslash are written with a mark, other
printable ASCII as it is, and every other byte as a backslash and three octal digits. Since a run of octal digits ends
after three of them, what is written for a byte is one token whatever comes after it.

* `encodeByte`, `encode` — how bytes are written;
* `utf8_ofList` — ASCII characters are their own bytes;
* `token_encodeByte` — what is written for a byte is one token, which stands for the byte;
* `decode_encode` — what is written is read back.
-/

import ProtoSwift.Proofs.Text.EscapeGrammar

namespace ProtoSwift.Text

/-! ### ASCII -/

/-- **ASCII characters are their own bytes.** -/
theorem utf8_ofList {text : List Char} (ascii : ∀ c ∈ text, c.toNat < 128) :
    utf8 (String.ofList text) = text.map Char.toUInt8 := by
  have single : ∀ c ∈ text, String.utf8EncodeChar c = [c.toUInt8] := fun c among =>
    String.utf8EncodeChar_eq_singleton (Char.utf8Size_eq_one_iff.mpr (Nat.le_of_lt_succ (ascii c among)))
  show (String.ofList text).toByteArray.data.toList = _
  rw [String.toByteArray_ofList, List.utf8Encode, List.data_toByteArray, List.flatMap_def,
    List.map_congr_left single, ← List.flatMap_def, ← List.map_eq_flatMap]

namespace CEscape

/-! ### Writing bytes -/

/-- The mark that a byte is written with, if it has one. -/
def markOf? (value : UInt8) : Option Char :=
  if value = 0x0a then some 'n'
  else if value = 0x0d then some 'r'
  else if value = 0x09 then some 't'
  else if value = 0x22 then some '"'
  else if value = 0x27 then some '\x27'
  else if value = 0x5c then some '\\'
  else none

/-- A byte as it is written. -/
def encodeByte (value : UInt8) : List Char :=
  match markOf? value with
  | some mark => ['\\', mark]
  | none =>
    if 0x20 ≤ value ∧ value < 0x7f then [Char.ofNat value.toNat]
    else
      ['\\', Nat.digitChar (value.toNat / 64), Nat.digitChar (value.toNat / 8 % 8), Nat.digitChar (value.toNat % 8)]

/-- Bytes as they are written. -/
def encode (bytes : List UInt8) : String :=
  String.ofList (bytes.flatMap encodeByte)

theorem mark_of_markOf? {value : UInt8} {mark : Char} (written : markOf? value = some mark) : Mark mark value := by
  unfold markOf? at written
  repeat' split at written
  all_goals cases written
  · next same => exact same ▸ .lineFeed
  · next same => exact same ▸ .carriageReturn
  · next same => exact same ▸ .tab
  · next same => exact same ▸ .quotationMark
  · next same => exact same ▸ .apostrophe
  · next same => exact same ▸ .backslash

theorem ne_backslash_of_markOf? {value : UInt8} (unmarked : markOf? value = none) : value ≠ byte '\\' := by
  rintro rfl
  cases unmarked

/-- The octal digits as characters and as bytes. -/
theorem octal_digitChar : ∀ digit < 8, (Nat.digitChar digit).toNat < 128
    ∧ isOctalDigit (byte (Nat.digitChar digit)) = true ∧ (byte (Nat.digitChar digit) - byte '0').toNat = digit := by
  decide

/-- The printable characters as characters and as bytes. -/
theorem byte_ofNat : ∀ code < 128, (Char.ofNat code).toNat < 128 ∧ (byte (Char.ofNat code)).toNat = code := by
  decide

/-- Three octal digits hold a byte. -/
theorem octalNumber_digits (value : UInt8) :
    octalNumber [byte (Nat.digitChar (value.toNat / 64)), byte (Nat.digitChar (value.toNat / 8 % 8)),
      byte (Nat.digitChar (value.toNat % 8))] = value.toNat := by
  have bound := value.toNat_lt
  obtain ⟨-, -, high⟩ := octal_digitChar (value.toNat / 64) (by omega)
  obtain ⟨-, -, middle⟩ := octal_digitChar (value.toNat / 8 % 8) (by omega)
  obtain ⟨-, -, low⟩ := octal_digitChar (value.toNat % 8) (by omega)
  simp only [octalNumber, List.reverse_cons, List.reverse_nil, List.nil_append, List.cons_append, List.map_cons,
    List.map_nil, Nat.ofDigits_cons, Nat.ofDigits_nil, high, middle, low]
  omega

/-- **What is written for a byte is one token**, whatever comes after it. -/
theorem token_encodeByte (value : UInt8) (rest : List UInt8) :
    Token False ((encodeByte value).map byte ++ rest) value rest := by
  unfold encodeByte
  split
  · next mark written => exact .mark (mark_of_markOf? written)
  · next unmarked =>
    split
    · next printable =>
      have small : value.toNat < 127 := printable.2
      have same : byte (Char.ofNat value.toNat) = value := UInt8.toNat_inj.mp (byte_ofNat _ (by omega)).2
      rw [List.map_singleton, same]
      exact .plain (ne_backslash_of_markOf? unmarked)
    · refine .octal (List.cons_ne_nil _ _) (Nat.le_refl _) ?_ (.inl rfl) (octalNumber_digits value)
      have bound := value.toNat_lt
      simp only [List.map_cons, List.map_nil, List.forall_mem_cons]
      exact ⟨(octal_digitChar _ (by omega)).2.1, (octal_digitChar _ (by omega)).2.1,
        (octal_digitChar _ (by omega)).2.1, fun _ among => absurd among List.not_mem_nil⟩

theorem ascii_encodeByte (value : UInt8) : ∀ c ∈ encodeByte value, c.toNat < 128 := by
  have bound := value.toNat_lt
  unfold encodeByte
  split
  · next mark written =>
    have ascii : mark.toNat < 128 := by cases mark_of_markOf? written <;> decide
    simpa using ascii
  · split
    · next printable =>
      have small : value.toNat < 127 := printable.2
      simpa using (byte_ofNat value.toNat (by omega)).1
    · simp only [List.forall_mem_cons]
      exact ⟨by decide, (octal_digitChar _ (by omega)).1, (octal_digitChar _ (by omega)).1,
        (octal_digitChar _ (by omega)).1, fun _ among => absurd among List.not_mem_nil⟩

theorem encodeByte_ne_nil (value : UInt8) : encodeByte value ≠ [] := by
  unfold encodeByte
  split
  · exact List.cons_ne_nil _ _
  · split <;> exact List.cons_ne_nil _ _

theorem utf8_encode (bytes : List UInt8) :
    utf8 (encode bytes) = bytes.flatMap fun value => (encodeByte value).map byte := by
  unfold encode
  rw [utf8_ofList fun c among => ?_, List.map_flatMap]
  obtain ⟨value, -, among⟩ := List.mem_flatMap.mp among
  exact ascii_encodeByte value c among

/-- **What is written is a row of tokens that stands for the bytes.** -/
theorem spells_encode (bytes : List UInt8) : Spells False (utf8 (encode bytes)) bytes := by
  rw [utf8_encode]
  induction bytes with
  | nil => exact .done
  | cons value rest inRest => exact .next (token_encodeByte value _) inRest

/-- **Bytes are read back as they were written.** -/
theorem decode_encode (bytes : List UInt8) : decode (utf8 (encode bytes)) = .ok bytes :=
  decode_eq_ok_iff.mpr ((spells_encode bytes).imp fun never _ => never.elim)

/-- Only no bytes are written as the empty text. -/
theorem encode_eq_empty_iff {bytes : List UInt8} : encode bytes = "" ↔ bytes = [] := by
  unfold encode
  rw [String.ofList_eq_empty_iff, List.flatMap_eq_nil_iff]
  cases bytes with
  | nil => simp
  | cons value rest =>
    exact ⟨fun none => absurd (none value List.mem_cons_self) (encodeByte_ne_nil value),
      fun none => absurd none (List.cons_ne_nil _ _)⟩

end CEscape

end ProtoSwift.Text
