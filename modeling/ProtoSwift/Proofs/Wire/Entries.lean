/-
**A format reads the fields that are written for it.**

A message on the wire is a row of fields, and a field may hold a message. Its tree of fields says how it is written
and how deep it goes. A format reads such a tree field by field, each whatever comes after it, so what it makes
of a row of fields follows from what it makes of each.

* `Entry`, `Entry.encode`, `Entry.nesting` — a field with its value, how it is written, and how deep it goes;
* `ReadsInRow` — bytes that a reader takes part by part, and `ReadsInRow.delimited`, which reads all of them;
* `Format.ReadsEntry`, `Format.Reads` — what a format makes of a field, and of a row of fields;
* `Format.Reads.decode` — a row of fields that is not too deep is decoded;
* `Format.ReadsEntry.number`, `.bool`, `.int32`, `.string`, `.packed`, `.message` — the kinds of fields;
* `Format.Reads.optional`, `Format.Reads.all` — fields that are set or unset, and fields that occur many times;
* `Format.Reads.string`, `.int32`, `.bool`, `.packed` — such fields of a kind.
-/

import ProtoSwift.Proofs.Wire.Numbers
import ProtoSwift.Wire.Format

namespace ProtoSwift.Wire

/-! ### Trees of fields -/

/-- **A field of a message on the wire**, with its tag and its value. -/
inductive Entry
  | number (tag value : Nat)
  | bytes (tag : Nat) (content : List UInt8)
  | message (tag : Nat) (entries : List Entry)

namespace Entry

mutual

/-- How a field is written: its key, and its number or its bytes after their number. -/
def encode : Entry → List UInt8
  | number tag value => encodeVarint (8 * tag) ++ encodeVarint value
  | bytes tag content => encodeDelimited tag content
  | message tag entries => encodeDelimited tag (encodeAll entries)

/-- Fields are written one after the other. -/
def encodeAll : List Entry → List UInt8
  | [] => []
  | entry :: rest => encode entry ++ encodeAll rest

end

mutual

/-- How many messages are inside each other in a field. -/
def nesting : Entry → Nat
  | number .. | bytes .. => 0
  | message _ entries => nestingOf entries + 1

/-- How many messages are inside each other in a row of fields. -/
def nestingOf : List Entry → Nat
  | [] => 0
  | entry :: rest => max (nesting entry) (nestingOf rest)

end

/-- A field with a text. -/
def string (tag : Nat) (text : String) : Entry :=
  .bytes tag (Text.utf8 text)

/-- A field with a number that has a sign. -/
def int32 (tag : Nat) (value : Int32) : Entry :=
  .number tag (signExtended value)

/-- A field that is true or false. -/
def bool (tag : Nat) (flag : Bool) : Entry :=
  .number tag flag.toNat

/-- Numbers without keys of their own. -/
def encodePacked (values : List Int32) : List UInt8 :=
  values.flatMap fun value => encodeVarint (signExtended value)

/-- The field for numbers without keys of their own, unless there are none. -/
def packed (tag : Nat) (values : List Int32) : List Entry :=
  if values = [] then [] else [.bytes tag (encodePacked values)]

/-- The field for a value, if it is set. -/
def optional {β : Type} (entry : β → Entry) (value? : Option β) : List Entry :=
  (value?.map entry).toList

theorem encode_ne_nil (entry : Entry) : entry.encode ≠ [] := by
  cases entry <;> simp [encode, encodeDelimited, encodeVarint_ne_nil]

theorem mem_optional_iff {β : Type} {make : β → Entry} {value? : Option β} {entry : Entry} :
    entry ∈ optional make value? ↔ ∃ value, value? = some value ∧ make value = entry := by
  simp [optional]

/-- A row of fields goes as deep as the deepest of them. -/
theorem nestingOf_le_iff {entries : List Entry} {depth : Nat} :
    nestingOf entries ≤ depth ↔ ∀ entry ∈ entries, entry.nesting ≤ depth := by
  induction entries with
  | nil => simp [nestingOf]
  | cons entry rest inRest => rw [nestingOf, Nat.max_le, inRest, List.forall_mem_cons]

theorem encodeAll_eq_flatMap (entries : List Entry) : encodeAll entries = entries.flatMap encode := by
  induction entries with
  | nil => rfl
  | cons entry rest inRest => rw [encodeAll, inRest, List.flatMap_cons]

end Entry

/-! ### Readers that are repeated -/

/-- **A reader takes bytes part by part.** It leaves what comes after a part, whatever that is. -/
inductive ReadsInRow {α : Type} (step : α → Reader α) : List UInt8 → α → α → Prop
  | done (value : α) : ReadsInRow step [] value value
  | next {part more : List UInt8} {before between after : α} (some : part ≠ [])
    (first : ∀ rest, step before (.ofList (part ++ rest)) = .ok (between, .ofList rest))
    (others : ReadsInRow step more between after) : ReadsInRow step (part ++ more) before after

namespace ReadsInRow

variable {α : Type} {step : α → Reader α} {bytes : List UInt8} {before after : α}

theorem repeatAbove (row : ReadsInRow step bytes before after) (rest : List UInt8) {bound : Nat}
    (enough : bytes.length ≤ bound) :
    repeatAbove step rest.length bound before (.ofList (bytes ++ rest)) = .ok (after, .ofList rest) := by
  induction row generalizing bound with
  | done value =>
    cases bound with
    | zero => rfl
    | succ bound => exact if_pos (Nat.le_refl rest.length)
  | @next part more before between after some first others inOthers =>
    have positive : 0 < part.length := List.length_pos_iff.mpr some
    rw [List.length_append] at enough
    obtain ⟨bound, rfl⟩ : ∃ smaller, bound = smaller + 1 := ⟨bound - 1, by omega⟩
    have above : ¬ (Input.ofList (part ++ more ++ rest)).size ≤ rest.length := by
      show ¬ (part ++ more ++ rest).length ≤ rest.length
      simp only [List.length_append]
      omega
    unfold Wire.repeatAbove
    rw [if_neg above, List.append_assoc, first]
    exact inOthers (by omega)

/-- **A part of known length is read to its end.** -/
theorem delimited (row : ReadsInRow step bytes before after) (short : bytes.length < numberBound)
    (rest : List UInt8) :
    delimited step before (.ofList (encodeVarint bytes.length ++ bytes ++ rest)) = .ok (after, .ofList rest) := by
  have size : (Input.ofList (bytes ++ rest)).size = bytes.length + rest.length := List.length_append
  have last : (Input.ofList rest).size = rest.length := rfl
  have beyond : bytes.length + rest.length - bytes.length = rest.length := Nat.add_sub_cancel_left _ _
  have there : ¬ bytes.length + rest.length < bytes.length := by omega
  have all := row.repeatAbove rest (Nat.le_add_right bytes.length rest.length)
  unfold Wire.delimited
  rw [List.append_assoc, bind_of_ok (varint_encodeVarint short _), get_bind, size, if_neg there, beyond,
    bind_of_ok all, get_bind, if_pos last]
  rfl

/-- Numbers without keys of their own are read one after the other. -/
theorem packed (put : Int32 → α → α) (values : List Int32) (before : α) :
    ReadsInRow (fun value => do return put (Int32.ofNat (← varint)) value) (Entry.encodePacked values) before
      (values.foldl (fun value number => put number value) before) := by
  induction values generalizing before with
  | nil => exact .done before
  | cons number rest inRest =>
    unfold Entry.encodePacked at inRest ⊢
    rw [List.flatMap_cons]
    refine .next (encodeVarint_ne_nil _) (fun rest => ?_) (inRest (put number before))
    rw [bind_of_ok (varint_encodeVarint (signExtended_lt number) rest), ofNat_signExtended]
    rfl

end ReadsInRow

/-! ### Formats -/

namespace Format

variable {α β : Type}

/-- **What a format makes of a field** with room for a number of messages inside each other. Nothing is asked of
a field for which there is not enough room, or which is too long. -/
def ReadsEntry (format : Format α) (depth : Nat) (entry : Entry) (before after : α) : Prop :=
  entry.nesting ≤ depth → entry.encode.length < numberBound → ∀ rest,
    format.mergeField before (.ofList (entry.encode ++ rest)) = .ok (after, .ofList rest)

/-- **What a format makes of a row of fields.** -/
inductive Reads (format : Format α) (depth : Nat) : List Entry → α → α → Prop
  | nil (value : α) : Reads format depth [] value value
  | cons {entry : Entry} {rest : List Entry} {before between after : α}
    (first : format.ReadsEntry depth entry before between) (others : Reads format depth rest between after) :
    Reads format depth (entry :: rest) before after

variable {format : Format α} {depth : Nat} {before between after : α} {entries more : List Entry}

namespace Reads

theorem append (first : format.Reads depth entries before between) (second : format.Reads depth more between after) :
    format.Reads depth (entries ++ more) before after := by
  induction first with
  | nil => exact second
  | cons head _ inOthers => exact .cons head (inOthers second)

theorem inRow (reads : format.Reads depth entries before after) (shallow : Entry.nestingOf entries ≤ depth)
    (short : (Entry.encodeAll entries).length < numberBound) :
    ReadsInRow format.mergeField (Entry.encodeAll entries) before after := by
  induction reads with
  | nil value => exact .done value
  | cons first _ inOthers =>
    unfold Entry.nestingOf at shallow
    unfold Entry.encodeAll at short ⊢
    rw [List.length_append] at short
    exact .next (Entry.encode_ne_nil _) (first (by omega) (by omega)) (inOthers (by omega) (by omega))

/-- **A row of fields that is not too deep is decoded.** -/
theorem decode (reads : format.Reads depth entries before after) (shallow : Entry.nestingOf entries ≤ depth)
    (short : (Entry.encodeAll entries).length < numberBound) :
    format.decode before (Entry.encodeAll entries) = .ok after := by
  have done := (reads.inRow shallow short).repeatAbove [] (Nat.le_refl _)
  rw [List.append_nil] at done
  unfold Format.decode
  show (repeatAbove format.mergeField 0 (Entry.encodeAll entries).length before _).map _ = _
  rw [show (0 : Nat) = ([] : List UInt8).length from rfl, done]
  rfl

/-- A field that may be unset, as it is before. -/
theorem optional (put : Option β → α → α) {entry : β → Entry} (unset : put none before = before)
    (each : ∀ value, format.ReadsEntry depth (entry value) before (put (some value) before)) {value? : Option β}
    (sets : put value? before = after) : format.Reads depth (Entry.optional entry value?) before after := by
  subst sets
  cases value? with
  | none =>
    rw [unset]
    exact .nil before
  | some value => exact .cons (each value) (.nil _)

/-- A field that may occur many times. Each time adds a value at the end. -/
theorem all (put : List β → α → α) {entry : β → Entry} {values : List β} (unset : put [] before = before)
    (each : ∀ value ∈ values, ∀ earlier,
      format.ReadsEntry depth (entry value) (put earlier before) (put (earlier ++ [value]) before))
    (sets : put values before = after) : format.Reads depth (values.map entry) before after := by
  subst sets
  suffices ∀ earlier, format.Reads depth (values.map entry) (put earlier before) (put (earlier ++ values) before) by
    have fromNone := this []
    rwa [unset] at fromNone
  induction values with
  | nil =>
    intro earlier
    rw [List.append_nil]
    exact .nil _
  | cons value rest inRest =>
    intro earlier
    have others := inRest (fun other among => each other (List.mem_cons_of_mem _ among)) (earlier ++ [value])
    rw [List.append_assoc] at others
    exact .cons (each value List.mem_cons_self earlier) others

end Reads

/-! ### Kinds of fields -/

theorem expect_self (wire : WireType) (input : Input) : FieldFormat.expect wire wire input = .ok ((), input) := by
  unfold FieldFormat.expect
  rw [if_pos rfl]
  rfl

/-- A field whose key is known is read by its own rule. -/
theorem mergeField_of_key {field : FieldFormat α} {tag number : Nat} {wire : WireType} {value : List UInt8}
    (declared : format.fields.find? (·.tag = tag) = some field) (tagged : IsTag tag) (small : number < 8)
    (assigned : WireType.ofNumber? number = some wire)
    (merged : ∀ rest, field.merge wire before (.ofList (value ++ rest)) = .ok (after, .ofList rest))
    (rest : List UInt8) :
    format.mergeField before (.ofList (encodeVarint (8 * tag + number) ++ value ++ rest))
      = .ok (after, .ofList rest) := by
  have read : inside ⟨format.name, field.name⟩ (field.merge wire before) (.ofList (value ++ rest))
      = .ok (after, .ofList rest) := by
    unfold inside
    rw [merged]
    rfl
  unfold mergeField
  rw [List.append_assoc, bind_of_ok (key_encodeVarint tagged small assigned _)]
  simp only [declared, read]

namespace ReadsEntry

variable {tag : Nat} {name : String}

theorem number {put : Nat → α → α} {value : Nat}
    (declared : format.fields.find? (·.tag = tag) = some (.number tag name put)) (tagged : IsTag tag)
    (fits : value < numberBound) (puts : put value before = after) :
    format.ReadsEntry depth (.number tag value) before after := by
  intro _ _ rest
  show format.mergeField before (.ofList (encodeVarint (8 * tag + 0) ++ encodeVarint value ++ rest)) = _
  refine mergeField_of_key declared tagged (by decide) rfl (fun rest => ?_) rest
  subst puts
  unfold FieldFormat.number
  dsimp only
  rw [bind_of_ok (expect_self .varint _), bind_of_ok (varint_encodeVarint fits rest)]
  rfl

theorem bool {put : Bool → α → α} {flag : Bool}
    (declared : format.fields.find? (·.tag = tag) = some (.bool tag name put)) (tagged : IsTag tag)
    (puts : put flag before = after) : format.ReadsEntry depth (.bool tag flag) before after := by
  refine number declared tagged ?_ ?_
  · cases flag <;> decide
  · rw [← puts]
    cases flag <;> rfl

theorem int32 {put : Int32 → α → α} {value : Int32}
    (declared : format.fields.find? (·.tag = tag) = some (.int32 tag name put)) (tagged : IsTag tag)
    (puts : put value before = after) : format.ReadsEntry depth (.int32 tag value) before after := by
  refine number declared tagged (signExtended_lt value) ?_
  rw [ofNat_signExtended, puts]

/-- The bytes of a field are not more than all of it. -/
theorem length_lt_of_encodeDelimited {content : List UInt8}
    (short : (encodeDelimited tag content).length < numberBound) : content.length < numberBound := by
  unfold encodeDelimited at short
  rw [List.length_append] at short
  omega

theorem string {put : String → α → α} {text : String}
    (declared : format.fields.find? (·.tag = tag) = some (.string tag name put)) (tagged : IsTag tag)
    (puts : put text before = after) : format.ReadsEntry depth (.string tag text) before after := by
  intro _ short
  have contentShort : (Text.utf8 text).length < numberBound := length_lt_of_encodeDelimited short
  unfold Entry.string Entry.encode encodeDelimited
  rw [List.append_assoc]
  refine mergeField_of_key declared tagged (by decide) rfl fun rest => ?_
  subst puts
  unfold FieldFormat.string
  dsimp only
  rw [bind_of_ok (expect_self .lengthDelimited _), bind_of_ok (delimitedBytes_encodeVarint contentShort rest),
    Text.ofUtf8?_utf8]
  rfl

/-- **Numbers without keys of their own** are added one after the other. -/
theorem packed {put : Int32 → α → α} {values : List Int32}
    (declared : format.fields.find? (·.tag = tag) = some (.int32s tag name put)) (tagged : IsTag tag)
    (puts : values.foldl (fun value number => put number value) before = after) :
    format.ReadsEntry depth (.bytes tag (Entry.encodePacked values)) before after := by
  intro _ short
  have contentShort : (Entry.encodePacked values).length < numberBound := length_lt_of_encodeDelimited short
  unfold Entry.encode encodeDelimited
  rw [List.append_assoc]
  refine mergeField_of_key declared tagged (by decide) rfl fun rest => ?_
  subst puts
  simp only [FieldFormat.int32s, if_true]
  exact (ReadsInRow.packed put values before).delimited contentShort rest

/-- **A message inside a message** is read with room for one message less. -/
theorem message {inner : Nat → Format β} {get : α → β} {put : β → α → α} {value : β}
    (declared : format.fields.find? (·.tag = tag) = some (.message tag name (below depth inner) get put))
    (tagged : IsTag tag) (reads : ∀ depth, (inner depth).Reads depth entries (get before) value)
    (puts : put value before = after) : format.ReadsEntry depth (.message tag entries) before after := by
  intro shallow short
  have contentShort : (Entry.encodeAll entries).length < numberBound := length_lt_of_encodeDelimited short
  unfold Entry.nesting at shallow
  obtain ⟨depth, rfl⟩ : ∃ smaller, depth = smaller + 1 := ⟨depth - 1, by omega⟩
  have row := (reads depth).inRow (by omega) contentShort
  unfold Entry.encode encodeDelimited
  rw [List.append_assoc]
  refine mergeField_of_key declared tagged (by decide) rfl fun rest => ?_
  subst puts
  unfold FieldFormat.message
  dsimp only [below]
  rw [bind_of_ok (expect_self .lengthDelimited _), bind_of_ok (row.delimited contentShort rest)]
  rfl

end ReadsEntry

/-! ### Rows of a kind -/

namespace Reads

variable {tag : Nat} {name : String}

/-- A text that may be unset. -/
theorem string (put : Option String → α → α) {value? : Option String}
    (declared : format.fields.find? (·.tag = tag) = some (.string tag name fun text => put (some text)))
    (tagged : IsTag tag) (unset : put none before = before) (sets : put value? before = after) :
    format.Reads depth (Entry.optional (.string tag) value?) before after :=
  .optional put unset (fun _ => .string declared tagged rfl) sets

/-- A number that may be unset. -/
theorem int32 (put : Option Int32 → α → α) {value? : Option Int32}
    (declared : format.fields.find? (·.tag = tag) = some (.int32 tag name fun number => put (some number)))
    (tagged : IsTag tag) (unset : put none before = before) (sets : put value? before = after) :
    format.Reads depth (Entry.optional (.int32 tag) value?) before after :=
  .optional put unset (fun _ => .int32 declared tagged rfl) sets

/-- A flag that may be unset. -/
theorem bool (put : Option Bool → α → α) {value? : Option Bool}
    (declared : format.fields.find? (·.tag = tag) = some (.bool tag name fun flag => put (some flag)))
    (tagged : IsTag tag) (unset : put none before = before) (sets : put value? before = after) :
    format.Reads depth (Entry.optional (.bool tag) value?) before after :=
  .optional put unset (fun _ => .bool declared tagged rfl) sets

/-- The field for numbers without keys of their own, which is left out if there are none. -/
theorem packed (put : List Int32 → α → α) {putNext : Int32 → α → α}
    (declared : format.fields.find? (·.tag = tag) = some (.int32s tag name putNext)) (tagged : IsTag tag)
    (unset : put [] before = before)
    (puts : ∀ earlier value, putNext value (put earlier before) = put (earlier ++ [value]) before)
    {values : List Int32} (sets : put values before = after) :
    format.Reads depth (Entry.packed tag values) before after := by
  subst sets
  have folded : ∀ earlier, values.foldl (fun value number => putNext number value) (put earlier before)
      = put (earlier ++ values) before := by
    induction values with
    | nil => simp
    | cons value rest inRest =>
      intro earlier
      rw [List.foldl_cons, puts, inRest, List.append_assoc]
      rfl
  have all := folded []
  rw [unset] at all
  unfold Entry.packed
  split
  · rename_i none
    rw [none, unset]
    exact .nil before
  · exact .cons (.packed declared tagged all) (.nil _)

end Reads

end Format

end ProtoSwift.Wire
