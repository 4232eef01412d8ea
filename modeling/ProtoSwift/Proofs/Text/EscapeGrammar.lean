/-
**What texts with backslash escapes stand for.**

A text is read as a row of tokens from left to right. A byte that is no backslash stands for itself; a backslash
begins a mark with a meaning, a run of octal digits that is as long as possible, or a letter and two hexadecimal
digits. What is read is exactly what the grammar says, with one more token: a plus sign may stand in the place of the
first hexadecimal digit.

* `Mark`, `HexDigit`, `octalNumber` — the parts of escapes;
* `Token`, `Spells` — the tokens, and the bytes that a row of tokens stands for. The grammar is given with signed
  escapes and without them;
* `token_eq_ok_iff` — one token is read exactly if the text begins with it;
* `decode_eq_ok_iff` — a text is read exactly if it is a row of tokens, and as what the tokens stand for;
* `spells_iff_of_unsigned` — signed escapes make a difference only where a plus sign comes after `\x` or `\X`.
-/

import ProtoSwift.Text.CEscape
import ProtoSwift.Text.Utf8
import Mathlib.Data.List.Induction
import Mathlib.Data.Nat.Digits.Defs

namespace ProtoSwift.Text.CEscape

/-! ### The grammar -/

/-- The marks with a meaning after a backslash. -/
inductive Mark : Char → UInt8 → Prop
  | bell : Mark 'a' 0x07
  | backspace : Mark 'b' 0x08
  | formFeed : Mark 'f' 0x0c
  | lineFeed : Mark 'n' 0x0a
  | carriageReturn : Mark 'r' 0x0d
  | tab : Mark 't' 0x09
  | verticalTab : Mark 'v' 0x0b
  | backslash : Mark '\\' 0x5c
  | questionMark : Mark '?' 0x3f
  | apostrophe : Mark '\x27' 0x27
  | quotationMark : Mark '"' 0x22

/-- The hexadecimal digits with their values, in both letter cases. -/
inductive HexDigit (digit : UInt8) : Nat → Prop
  | decimal (from0 : byte '0' ≤ digit) (to9 : digit ≤ byte '9') : HexDigit digit (digit.toNat - (byte '0').toNat)
  | lower (fromA : byte 'a' ≤ digit) (toF : digit ≤ byte 'f') : HexDigit digit (digit.toNat - (byte 'a').toNat + 10)
  | upper (fromA : byte 'A' ≤ digit) (toF : digit ≤ byte 'F') : HexDigit digit (digit.toNat - (byte 'A').toNat + 10)

/-- The number of octal digits, the last of which counts ones. -/
def octalNumber (digits : List UInt8) : Nat :=
  Nat.ofDigits 8 (digits.reverse.map fun digit => (digit - byte '0').toNat)

/-- **A text begins with a token**: the text, the value of the token, and the rest of the text. A run of octal digits
has three digits, or is not followed by a further one. -/
inductive Token (signs : Prop) : List UInt8 → UInt8 → List UInt8 → Prop
  | plain {value : UInt8} {rest : List UInt8} (ordinary : value ≠ byte '\\') :
    Token signs (value :: rest) value rest
  | mark {letter : Char} {value : UInt8} {rest : List UInt8} (named : Mark letter value) :
    Token signs (byte '\\' :: byte letter :: rest) value rest
  | octal {digits : List UInt8} {value : UInt8} {rest : List UInt8} (some : digits ≠ []) (few : digits.length ≤ 3)
    (octal : ∀ digit ∈ digits, isOctalDigit digit = true)
    (longest : digits.length = 3 ∨ ∀ next ∈ rest.head?, isOctalDigit next = false)
    (number : octalNumber digits = value.toNat) : Token signs (byte '\\' :: (digits ++ rest)) value rest
  | hexadecimal {letter first second value : UInt8} {high low : Nat} {rest : List UInt8}
    (lead : letter = byte 'x' ∨ letter = byte 'X') (firstDigit : HexDigit first high)
    (secondDigit : HexDigit second low) (number : 16 * high + low = value.toNat) :
    Token signs (byte '\\' :: letter :: first :: second :: rest) value rest
  | signed {letter digit value : UInt8} {rest : List UInt8} (allowed : signs)
    (lead : letter = byte 'x' ∨ letter = byte 'X') (digitValue : HexDigit digit value.toNat) :
    Token signs (byte '\\' :: letter :: byte '+' :: digit :: rest) value rest

/-- **A text is a row of tokens** that stand for given bytes. -/
inductive Spells (signs : Prop) : List UInt8 → List UInt8 → Prop
  | done : Spells signs [] []
  | next {text rest values : List UInt8} {value : UInt8} (token : Token signs text value rest)
    (after : Spells signs rest values) : Spells signs text (value :: values)

/-! ### Marks and digits -/

theorem lookup_simpleEscapes_iff {letter value : UInt8} :
    simpleEscapes.lookup letter = some value ↔ ∃ mark, letter = byte mark ∧ Mark mark value := by
  constructor
  · intro found
    obtain ⟨before, after, split, -⟩ := List.lookup_eq_some_iff.mp found
    have among : (letter, value) ∈ simpleEscapes := by
      rw [split]
      simp
    simp only [simpleEscapes, List.mem_cons, Prod.mk.injEq, List.not_mem_nil, or_false] at among
    rcases among with ⟨rfl, rfl⟩ | ⟨rfl, rfl⟩ | ⟨rfl, rfl⟩ | ⟨rfl, rfl⟩ | ⟨rfl, rfl⟩ | ⟨rfl, rfl⟩
      | ⟨rfl, rfl⟩ | ⟨rfl, rfl⟩ | ⟨rfl, rfl⟩ | ⟨rfl, rfl⟩ | ⟨rfl, rfl⟩
    · exact ⟨_, rfl, .bell⟩
    · exact ⟨_, rfl, .backspace⟩
    · exact ⟨_, rfl, .formFeed⟩
    · exact ⟨_, rfl, .lineFeed⟩
    · exact ⟨_, rfl, .carriageReturn⟩
    · exact ⟨_, rfl, .tab⟩
    · exact ⟨_, rfl, .verticalTab⟩
    · exact ⟨_, rfl, .backslash⟩
    · exact ⟨_, rfl, .questionMark⟩
    · exact ⟨_, rfl, .apostrophe⟩
    · exact ⟨_, rfl, .quotationMark⟩
  · rintro ⟨mark, rfl, named⟩
    cases named <;> rfl

theorem hexDigitValue?_of_lt : ∀ code < 256, hexDigitValue? (Char.ofNat code) =
    if 48 ≤ code ∧ code ≤ 57 then some (code - 48)
    else if 97 ≤ code ∧ code ≤ 102 then some (code - 97 + 10)
    else if 65 ≤ code ∧ code ≤ 70 then some (code - 65 + 10) else none := by
  decide +kernel

theorem hexValue?_eq_some_iff {digit : UInt8} {value : Nat} :
    hexValue? digit = some value ↔ HexDigit digit value := by
  unfold hexValue?
  rw [hexDigitValue?_of_lt _ digit.toNat_lt]
  constructor
  · intro found
    split at found
    · next decimal =>
      cases found
      exact .decimal decimal.1 decimal.2
    · split at found
      · next lower =>
        cases found
        exact .lower lower.1 lower.2
      · split at found
        · next upper =>
          cases found
          exact .upper upper.1 upper.2
        · cases found
  · intro isDigit
    cases isDigit with
    | decimal from0 to9 =>
      have : 48 ≤ digit.toNat ∧ digit.toNat ≤ 57 := ⟨from0, to9⟩
      rw [if_pos this]
      rfl
    | lower fromA toF =>
      have : 97 ≤ digit.toNat ∧ digit.toNat ≤ 102 := ⟨fromA, toF⟩
      rw [if_neg (by omega), if_pos this]
      rfl
    | upper fromA toF =>
      have : 65 ≤ digit.toNat ∧ digit.toNat ≤ 70 := ⟨fromA, toF⟩
      rw [if_neg (by omega), if_neg (by omega), if_pos this]
      rfl

theorem HexDigit.lt {digit : UInt8} {value : Nat} (isDigit : HexDigit digit value) : value < 16 := by
  cases isDigit with
  | decimal _ to9 =>
    have bound : digit.toNat ≤ 57 := to9
    show digit.toNat - 48 < 16
    omega
  | lower _ toF =>
    have bound : digit.toNat ≤ 102 := toF
    show digit.toNat - 97 + 10 < 16
    omega
  | upper _ toF =>
    have bound : digit.toNat ≤ 70 := toF
    show digit.toNat - 65 + 10 < 16
    omega

/-- A plus sign is no digit. -/
theorem HexDigit.ne_plus {digit : UInt8} {value : Nat} (isDigit : HexDigit digit value) : digit ≠ byte '+' := by
  rintro rfl
  cases hexValue?_eq_some_iff.mpr isDigit

theorem octalValue_eq (digits : List UInt8) : octalValue digits = octalNumber digits := by
  induction digits using List.reverseRecOn with
  | nil => rfl
  | append_singleton digits last inDigits =>
    unfold octalValue octalNumber at inDigits ⊢
    rw [List.foldl_append, inDigits, List.reverse_append, List.reverse_singleton, List.singleton_append, List.map_cons,
      Nat.ofDigits_cons]
    exact Nat.add_comm _ _

/-- A mark with a meaning is no octal digit. -/
theorem lookup_eq_none_of_octal {digit : UInt8} (octal : isOctalDigit digit = true) :
    simpleEscapes.lookup digit = none := by
  cases found : simpleEscapes.lookup digit with
  | none => rfl
  | some value =>
    obtain ⟨mark, rfl, named⟩ := lookup_simpleEscapes_iff.mp found
    cases named <;> cases octal

/-! ### Runs of octal digits -/

/-- At most two octal digits that cannot be followed by a further one are what is read after the first one. -/
theorem takeWhile_octal {digits rest : List UInt8} (few : digits.length ≤ 2)
    (octal : ∀ digit ∈ digits, isOctalDigit digit = true)
    (longest : digits.length = 2 ∨ ∀ next ∈ rest.head?, isOctalDigit next = false) :
    ((digits ++ rest).take 2).takeWhile isOctalDigit = digits := by
  match digits with
  | [] =>
    have ends := longest.resolve_left (by simp)
    cases rest with
    | nil => rfl
    | cons next rest => simp [ends next rfl]
  | [first] =>
    have ends := longest.resolve_left (by simp)
    cases rest with
    | nil => simp [octal]
    | cons next rest => simp [octal, ends next rfl]
  | [first, second] => simp [octal]
  | _ :: _ :: _ :: _ => simp at few

/-- Every text begins with such a run. -/
theorem exists_octal_run (text : List UInt8) : ∃ digits rest, text = digits ++ rest ∧ digits.length ≤ 2
    ∧ (∀ digit ∈ digits, isOctalDigit digit = true)
    ∧ (digits.length = 2 ∨ ∀ next ∈ rest.head?, isOctalDigit next = false) := by
  match text with
  | [] => exact ⟨[], [], rfl, by simp, by simp, .inr (by simp)⟩
  | first :: rest =>
    cases one : isOctalDigit first with
    | false => exact ⟨[], first :: rest, rfl, by simp, by simp, .inr (by simp [one])⟩
    | true =>
      match rest with
      | [] => exact ⟨[first], [], rfl, by simp, by simp [one], .inr (by simp)⟩
      | second :: rest =>
        cases two : isOctalDigit second with
        | false => exact ⟨[first], second :: rest, rfl, by simp, by simp [one], .inr (by simp [two])⟩
        | true => exact ⟨[first, second], rest, rfl, by simp, by simp [one, two], .inl rfl⟩

/-! ### One token -/

/-- Two hexadecimal digits, or a plus sign and one of them. -/
theorem hexPair?_eq_some_iff {first second : UInt8} {value : Nat} : hexPair? first second = some value
    ↔ (∃ high low, HexDigit first high ∧ HexDigit second low ∧ 16 * high + low = value)
      ∨ first = byte '+' ∧ HexDigit second value := by
  unfold hexPair?
  split
  · next plus =>
    rw [hexValue?_eq_some_iff]
    constructor
    · exact fun digit => .inr ⟨plus, digit⟩
    · rintro (⟨high, low, digit, -⟩ | ⟨-, digit⟩)
      · exact absurd plus digit.ne_plus
      · exact digit
  · next digits =>
    simp only [Option.bind_eq_bind, Option.bind_eq_some_iff, Option.pure_def, Option.some.injEq, hexValue?_eq_some_iff]
    constructor
    · rintro ⟨high, firstDigit, low, secondDigit, rfl⟩
      exact .inl ⟨high, low, firstDigit, secondDigit, rfl⟩
    · rintro (⟨high, low, firstDigit, secondDigit, rfl⟩ | ⟨plus, -⟩)
      · exact ⟨high, firstDigit, low, secondDigit, rfl⟩
      · exact absurd plus digits

/-- A run of octal digits after a backslash is read as its number, unless a byte cannot hold that. -/
theorem escape_of_octal {letter : UInt8} {digits rest : List UInt8} (isOctal : isOctalDigit letter = true)
    (few : digits.length ≤ 2) (octal : ∀ digit ∈ digits, isOctalDigit digit = true)
    (longest : digits.length = 2 ∨ ∀ next ∈ rest.head?, isOctalDigit next = false) :
    escape (letter :: (digits ++ rest)) =
      if octalNumber (letter :: digits) < 256 then .ok ((octalNumber (letter :: digits)).toUInt8, rest)
      else .error .octalOutOfRange := by
  simp only [escape, lookup_eq_none_of_octal isOctal, isOctal, if_true, takeWhile_octal few octal longest,
    octalValue_eq, List.length_cons, Nat.add_sub_cancel, List.drop_left]

theorem unmarked_of_lead {letter : UInt8} (lead : letter = byte 'x' ∨ letter = byte 'X') :
    simpleEscapes.lookup letter = none ∧ isOctalDigit letter = false := by
  rcases lead with rfl | rfl <;> exact ⟨rfl, rfl⟩

/-- Two bytes after the letter of a hexadecimal escape are read as a number. -/
theorem escape_of_lead {letter first second value : UInt8} {rest : List UInt8}
    (lead : letter = byte 'x' ∨ letter = byte 'X') (found : hexPair? first second = some value.toNat) :
    escape (letter :: first :: second :: rest) = .ok (value, rest) := by
  obtain ⟨unmarked, notOctal⟩ := unmarked_of_lead lead
  simp only [escape, unmarked, notOctal, Bool.false_eq_true, if_false, if_pos lead, found]
  rw [Nat.toUInt8_eq, UInt8.ofNat_toNat]

/-- The number of two bytes after the letter of a hexadecimal escape is that of a token. -/
theorem token_of_hexPair {letter first second : UInt8} {rest : List UInt8} {number : Nat}
    (lead : letter = byte 'x' ∨ letter = byte 'X') (found : hexPair? first second = some number) :
    Token True (byte '\\' :: letter :: first :: second :: rest) number.toUInt8 rest := by
  rcases hexPair?_eq_some_iff.mp found with ⟨high, low, firstDigit, secondDigit, rfl⟩ | ⟨rfl, digit⟩
  · have small : 16 * high + low < 256 := by
      have := firstDigit.lt
      have := secondDigit.lt
      omega
    exact .hexadecimal lead firstDigit secondDigit (UInt8.toNat_ofNat_of_lt' small).symm
  · have same : number.toUInt8.toNat = number := UInt8.toNat_ofNat_of_lt' (Nat.lt_trans digit.lt (by decide))
    exact .signed trivial lead (same.symm ▸ digit)

/-- What is read after a backslash is the rest of a token. -/
theorem token_of_escape {text rest : List UInt8} {value : UInt8} (read : escape text = .ok (value, rest)) :
    Token True (byte '\\' :: text) value rest := by
  cases text with
  | nil => cases read
  | cons letter text =>
    by_cases isOctal : isOctalDigit letter = true
    · obtain ⟨digits, after, rfl, few, octal, longest⟩ := exists_octal_run text
      rw [escape_of_octal isOctal few octal longest] at read
      split at read
      · next small =>
        cases read
        apply @Token.octal True (letter :: digits)
        · exact List.cons_ne_nil _ _
        · exact Nat.succ_le_succ few
        · exact List.forall_mem_cons.mpr ⟨isOctal, octal⟩
        · simpa using longest
        · exact (UInt8.toNat_ofNat_of_lt' small).symm
      · cases read
    · simp only [escape, if_neg isOctal] at read
      split at read
      · next found =>
        cases read
        obtain ⟨mark, rfl, named⟩ := lookup_simpleEscapes_iff.mp found
        exact .mark named
      · split at read
        · next lead =>
          split at read
          · split at read
            · next found =>
              cases read
              exact token_of_hexPair lead found
            · cases read
          · cases read
        · cases read

/-- **One token is read exactly if the text begins with it.** -/
theorem token_eq_ok_iff {first value : UInt8} {text rest : List UInt8} :
    token first text = .ok (value, rest) ↔ Token True (first :: text) value rest := by
  constructor
  · intro read
    unfold token at read
    split at read
    · next backslash =>
      rw [backslash]
      exact token_of_escape read
    · next ordinary =>
      cases read
      exact .plain ordinary
  · intro begins
    cases begins with
    | plain ordinary => rw [token, if_neg ordinary]
    | mark named =>
      have found := lookup_simpleEscapes_iff.mpr ⟨_, rfl, named⟩
      simp only [token, if_true, escape, found]
    | @octal digits _ rest some few octal longest number =>
      obtain ⟨letter, digits, rfl⟩ := List.exists_cons_of_ne_nil some
      obtain ⟨isOctal, octal⟩ := List.forall_mem_cons.mp octal
      rw [token, if_pos rfl, List.cons_append,
        escape_of_octal isOctal (Nat.le_of_succ_le_succ few) octal (by simpa using longest), number,
        if_pos value.toNat_lt, Nat.toUInt8_eq, UInt8.ofNat_toNat]
    | hexadecimal lead firstDigit secondDigit number =>
      rw [token, if_pos rfl]
      exact escape_of_lead lead (hexPair?_eq_some_iff.mpr (.inl ⟨_, _, firstDigit, secondDigit, number⟩))
    | signed _ lead digit =>
      rw [token, if_pos rfl]
      exact escape_of_lead lead (hexPair?_eq_some_iff.mpr (.inr ⟨rfl, digit⟩))

/-! ### Rows of tokens -/

theorem decode_cons_of_ok {first value : UInt8} {text rest : List UInt8} (read : token first text = .ok (value, rest)) :
    decode (first :: text) = (decode rest).map (value :: ·) := by
  rw [decode]
  split
  · next failed =>
    rw [read] at failed
    cases failed
  · next found =>
    rw [read] at found
    cases found
    rfl

/-- A token is not empty. -/
theorem Token.exists_cons {signs : Prop} {text rest : List UInt8} {value : UInt8}
    (token : Token signs text value rest) : ∃ first tail, text = first :: tail := by
  cases token <;> exact ⟨_, _, rfl⟩

/-- **A text is read exactly if it is a row of tokens**, and as the bytes that the tokens stand for. -/
theorem decode_eq_ok_iff {text values : List UInt8} : decode text = .ok values ↔ Spells True text values := by
  constructor
  · intro read
    fun_induction decode text generalizing values with
    | case1 =>
      cases read
      exact .done
    | case2 first text fault failed => cases read
    | case3 first text value rest begins inRest =>
      cases after : decode rest with
      | error fault =>
        rw [after] at read
        cases read
      | ok values =>
        rw [after] at read
        cases read
        exact .next (token_eq_ok_iff.mp begins) (inRest after)
  · intro spelled
    induction spelled with
    | done => exact decode.eq_1
    | next token _ inRest =>
      obtain ⟨first, tail, rfl⟩ := token.exists_cons
      rw [decode_cons_of_ok (token_eq_ok_iff.mpr token), inRest]
      rfl

/-! ### Signed escapes -/

/-- No plus sign comes after the letter of a hexadecimal escape. -/
def Unsigned (text : List UInt8) : Prop :=
  ∀ letter ∈ [byte 'x', byte 'X'], ¬ [byte '\\', letter, byte '+'] <:+: text

instance (text : List UInt8) : Decidable (Unsigned text) :=
  inferInstanceAs (Decidable (∀ letter ∈ [byte 'x', byte 'X'], ¬ [byte '\\', letter, byte '+'] <:+: text))

theorem Token.suffix {signs : Prop} {text rest : List UInt8} {value : UInt8} (token : Token signs text value rest) :
    rest <:+ text := by
  cases token with
  | plain => exact ⟨[_], rfl⟩
  | mark => exact ⟨[_, _], rfl⟩
  | @octal digits => exact ⟨byte '\\' :: digits, rfl⟩
  | hexadecimal => exact ⟨[_, _, _, _], rfl⟩
  | signed => exact ⟨[_, _, _, _], rfl⟩

/-- A token that is not signed is one with signs and without. -/
theorem Token.imp {signs other : Prop} {text rest : List UInt8} {value : UInt8} (token : Token signs text value rest)
    (allowed : signs → ¬ Unsigned text → other) : Token other text value rest := by
  cases token with
  | plain ordinary => exact .plain ordinary
  | mark named => exact .mark named
  | octal some few octal longest number => exact .octal some few octal longest number
  | hexadecimal lead firstDigit secondDigit number => exact .hexadecimal lead firstDigit secondDigit number
  | signed signs lead digitValue =>
    refine .signed (allowed signs fun unsigned => ?_) lead digitValue
    exact unsigned _ (by simpa using lead) ⟨[], _, rfl⟩

theorem Spells.imp {signs other : Prop} {text values : List UInt8} (spelled : Spells signs text values)
    (allowed : signs → ¬ Unsigned text → other) : Spells other text values := by
  induction spelled with
  | done => exact .done
  | next token _ inRest =>
    refine .next (token.imp allowed) (inRest fun signs signed => allowed signs fun unsigned => signed ?_)
    exact fun letter lead inside => unsigned letter lead (inside.trans token.suffix.isInfix)

/-- **Signed escapes make a difference only where a plus sign comes after the letter of an escape.** -/
theorem spells_iff_of_unsigned {text values : List UInt8} (unsigned : Unsigned text) :
    Spells True text values ↔ Spells False text values :=
  ⟨fun spelled => spelled.imp fun _ signed => signed unsigned, fun spelled => spelled.imp fun never _ => never.elim⟩

/-- Without signed escapes no token begins with a plus sign after the letter of a hexadecimal escape. -/
theorem not_token_of_plus {letter value : UInt8} {text rest : List UInt8}
    (lead : letter = byte 'x' ∨ letter = byte 'X') :
    ¬ Token False (byte '\\' :: letter :: byte '+' :: text) value rest := by
  obtain ⟨unmarked, notOctal⟩ := unmarked_of_lead lead
  intro token
  generalize same : byte '\\' :: letter :: byte '+' :: text = whole at token
  cases token with
  | plain ordinary =>
    cases same
    exact ordinary rfl
  | mark named =>
    cases same
    rw [lookup_simpleEscapes_iff.mpr ⟨_, rfl, named⟩] at unmarked
    cases unmarked
  | octal some _ octal =>
    obtain ⟨first, digits, rfl⟩ := List.exists_cons_of_ne_nil some
    obtain ⟨rfl, -⟩ : letter = first ∧ _ := by simpa using same
    rw [octal letter List.mem_cons_self] at notOctal
    cases notOctal
  | hexadecimal _ firstDigit =>
    cases same
    exact firstDigit.ne_plus rfl
  | signed never => exact never

/-- **What is read and what is not.** A text is read exactly if it is a row of tokens, signed escapes among them, and as
the bytes that the tokens stand for. Otherwise there is a fault. Where no plus sign comes after the letter of an
escape, the grammar can do without signed escapes. -/
theorem decode_reads_tokens (text : List UInt8) :
    (∀ values, decode text = .ok values ↔ Spells True text values)
      ∧ ((∃ fault, decode text = .error fault) ↔ ¬ ∃ values, Spells True text values)
      ∧ (Unsigned text → ∀ values, decode text = .ok values ↔ Spells False text values) := by
  refine ⟨fun values => decode_eq_ok_iff, ?_, fun unsigned values => ?_⟩
  · cases read : decode text with
    | ok values => simpa using ⟨values, decode_eq_ok_iff.mp read⟩
    | error fault =>
      refine ⟨fun _ ⟨values, spelled⟩ => ?_, fun _ => ⟨fault, rfl⟩⟩
      rw [decode_eq_ok_iff.mpr spelled] at read
      cases read
  · rw [decode_eq_ok_iff, spells_iff_of_unsigned unsigned]

/-- Runs of octal digits end after three of them, and before a digit that is not octal. -/
theorem decode_reads_tokens_runs : Unsigned (utf8 "\\x41\\1012\\08")
    ∧ decode (utf8 "\\x41\\1012\\08") = .ok [0x41, 0x41, 0x32, 0x00, 0x38]
    ∧ Spells False (utf8 "\\x41\\1012\\08") [0x41, 0x41, 0x32, 0x00, 0x38] := by
  have unsigned : Unsigned (utf8 "\\x41\\1012\\08") := by decide +kernel
  have read : decode (utf8 "\\x41\\1012\\08") = .ok [0x41, 0x41, 0x32, 0x00, 0x38] := by decide +kernel
  exact ⟨unsigned, read, ((decode_reads_tokens _).2.2 unsigned _).mp read⟩

/-- **A signed escape is read**, although it is no escape with two hexadecimal digits. -/
theorem decode_signed : decode (utf8 "\\x+f") = .ok [0x0f] ∧ ¬ ∃ values, Spells False (utf8 "\\x+f") values := by
  have bytes : utf8 "\\x+f" = [byte '\\', byte 'x', byte '+', byte 'f'] := by decide
  rw [bytes]
  constructor
  · exact decode_eq_ok_iff.mpr (.next (.signed trivial (.inl rfl) (.lower (by decide) (by decide))) .done)
  · rintro ⟨values, spelled⟩
    cases spelled with
    | next token _ => exact not_token_of_plus (.inl rfl) token

end ProtoSwift.Text.CEscape
