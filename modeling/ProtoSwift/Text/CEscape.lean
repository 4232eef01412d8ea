/-
**Bytes written as text with backslash escapes.**

A byte stands for itself unless it is a backslash. A backslash begins an escape: one of the eleven letters
and marks with a meaning of their own, up to three octal digits, or `x` and two hexadecimal digits.

* `token` — the value of the first byte or escape, and the bytes after it;
* `decode` — the bytes a text stands for;
* `Fault` — why a text stands for none.
-/

import ProtoSwift.Text.Hex

namespace ProtoSwift.Text.CEscape

/-- Why a text with escapes stands for no bytes. -/
inductive Fault
  /-- The text ends in a backslash. -/
  | danglingBackslash
  /-- An octal escape is larger than a byte. -/
  | octalOutOfRange
  /-- A hexadecimal escape has fewer than two bytes after its letter. -/
  | incompleteHex
  /-- The two bytes of a hexadecimal escape are no number. -/
  | invalidHex
  /-- A backslash is followed by a byte without a meaning. -/
  | unknownEscape
  deriving DecidableEq, Repr

/-- The wording of a fault in a text. -/
def Fault.message (fault : Fault) (text : String) : String :=
  match fault with
  | danglingBackslash => "c-escaped value (" ++ text ++ ") ends with '\\'"
  | octalOutOfRange => "octal escape out of range in (" ++ text ++ ")"
  | incompleteHex => "incomplete hex value in (" ++ text ++ ")"
  | invalidHex => "invalid hex value in (" ++ text ++ ")"
  | unknownEscape => "invalid escape in (" ++ text ++ ")"

/-- The byte of an ASCII character. -/
abbrev byte (c : Char) : UInt8 :=
  c.toUInt8

/-- The values of the escapes of one character. -/
def simpleEscapes : List (UInt8 × UInt8) := [
  (byte 'a', 0x07), (byte 'b', 0x08), (byte 'f', 0x0c), (byte 'n', 0x0a), (byte 'r', 0x0d),
  (byte 't', 0x09), (byte 'v', 0x0b), (byte '\\', 0x5c), (byte '?', 0x3f), (byte '\x27', 0x27),
  (byte '"', 0x22)]

/-- Whether a byte is an octal digit. -/
def isOctalDigit (digit : UInt8) : Bool :=
  byte '0' ≤ digit && digit ≤ byte '7'

/-- The number that octal digits spell. -/
def octalValue (digits : List UInt8) : Nat :=
  digits.foldl (fun value digit => 8 * value + (digit - byte '0').toNat) 0

/-- The value of a byte that is a hexadecimal digit. -/
def hexValue? (digit : UInt8) : Option Nat :=
  hexDigitValue? (Char.ofNat digit.toNat)

/-- The number that the two bytes of a hexadecimal escape spell. A plus sign may stand before one digit. -/
def hexPair? (first second : UInt8) : Option Nat :=
  if first = byte '+' then hexValue? second
  else do return 16 * (← hexValue? first) + (← hexValue? second)

/-- The value of the escape after a backslash, and the bytes after it. -/
def escape : List UInt8 → Except Fault (UInt8 × List UInt8)
  | [] => .error .danglingBackslash
  | letter :: rest =>
    match simpleEscapes.lookup letter with
    | some value => .ok (value, rest)
    | none =>
      if isOctalDigit letter then
        let digits := letter :: (rest.take 2).takeWhile isOctalDigit
        let value := octalValue digits
        if value < 256 then .ok (value.toUInt8, rest.drop (digits.length - 1))
        else .error .octalOutOfRange
      else if letter = byte 'x' ∨ letter = byte 'X' then
        match rest with
        | first :: second :: rest =>
          match hexPair? first second with
          | some value => .ok (value.toUInt8, rest)
          | none => .error .invalidHex
        | _ => .error .incompleteHex
      else .error .unknownEscape

/-- The value of the first byte or escape, and the bytes after it. -/
def token (first : UInt8) (rest : List UInt8) : Except Fault (UInt8 × List UInt8) :=
  if first = byte '\\' then escape rest else .ok (first, rest)

/-- An escape is not empty. -/
theorem length_of_escape {bytes rest : List UInt8} {value : UInt8}
    (read : escape bytes = .ok (value, rest)) : rest.length < bytes.length := by
  cases bytes with
  | nil => simp [escape] at read
  | cons letter tail =>
    simp only [escape] at read
    split at read
    · simp only [Except.ok.injEq, Prod.mk.injEq] at read
      simp [← read.2]
    · split at read
      · split at read
        · simp only [Except.ok.injEq, Prod.mk.injEq] at read
          simp only [← read.2, List.length_drop, List.length_cons]
          omega
        · simp at read
      · split at read
        · split at read
          · split at read
            · simp only [Except.ok.injEq, Prod.mk.injEq] at read
              simp only [← read.2, List.length_cons]
              omega
            · simp at read
          · simp at read
        · simp at read

/-- What is left after a token is shorter than what was there before it. -/
theorem length_of_token {first value : UInt8} {tail rest : List UInt8}
    (read : token first tail = .ok (value, rest)) : rest.length < (first :: tail).length := by
  simp only [token] at read
  split at read
  · have := length_of_escape read
    simp only [List.length_cons]
    omega
  · simp only [Except.ok.injEq, Prod.mk.injEq] at read
    simp [read.2]

/-- The bytes that a text with escapes stands for. -/
def decode : List UInt8 → Except Fault (List UInt8)
  | [] => .ok []
  | first :: tail =>
    match _read : token first tail with
    | .error fault => .error fault
    | .ok (value, rest) => (decode rest).map (value :: ·)
termination_by bytes => bytes.length
decreasing_by exact length_of_token (by assumption)

end ProtoSwift.Text.CEscape
