/-
**The elements of a file, and the comments on them.**

A path leads from a file to one of its elements, by field numbers of the schema format and positions in turn. The
positions are those of the schema, so they count what has no code as well. Comments come with the path of what they
were written on, and no two paths lead to the same element. So to look for the path of an element is to look for
the locations that lead to it.

* `Schema.Element` — the messages, fields, enumerations and values of a file, by their positions;
* `Schema.File.reach?` — the element at the end of a path;
* `Schema.File.path_of_reach?` — no two paths lead to one element;
* `Schema.File.commentOn` — the comments of the first location that leads to an element;
* `Schema.File.HasMessage`, `Schema.File.HasEnumeration` — where a path goes on inside a declaration;
* `FileNode.commentText_eq_commentOn` — what is found by the path of an element are the comments on it.
-/

import ProtoSwift.Proofs.Symbol.Place
import Mathlib

namespace ProtoSwift

namespace Schema

/-! ### Elements at the ends of paths -/

/-- An element of a file. A message is given by positions, from the messages of the file inwards, and what belongs
to a message or an enumeration by this and its own position. An enumeration outside of all messages has no scope. -/
inductive Element
  | message (trail : List Nat)
  | field (trail : List Nat) (position : Nat)
  | enumeration (scope : List Nat) (position : Nat)
  | enumValue (scope : List Nat) (enumeration position : Nat)
  deriving DecidableEq, Repr

/-- **The element at the end of a path inside an enumeration**: field 2 of an enumeration holds its values. -/
def Enumeration.reach? (enumeration : Enumeration) (scope : List Nat) (own : Nat) : Path → Option Element
  | [] => some (.enumeration scope own)
  | [step, position] =>
    if step = 2 then (elementAt? enumeration.values position).map fun _ => .enumValue scope own position.toNat
    else none
  | _ => none

/-- **The element at the end of a path inside a message**: field 2 of a message holds its fields, field 3 the
messages inside it, and field 4 the enumerations. -/
def Message.reach? (message : Message) (trail : List Nat) : Path → Option Element
  | [] => some (.message trail)
  | [_] => none
  | step :: position :: rest =>
    if step = 2 ∧ rest = [] then (elementAt? message.fields position).map fun _ => .field trail position.toNat
    else if step = 3 then
      (elementAt? message.messages position).bind fun inner => inner.reach? (trail ++ [position.toNat]) rest
    else if step = 4 then
      (elementAt? message.enumerations position).bind fun enumeration =>
        enumeration.reach? trail position.toNat rest
    else none

/-- **The element at the end of a path in a file**: field 4 of a file holds its messages, and field 5 its
enumerations. -/
def File.reach? (file : File) : Path → Option Element
  | step :: position :: rest =>
    if step = 4 then
      (elementAt? file.messages position).bind fun message => message.reach? [position.toNat] rest
    else if step = 5 then
      (elementAt? file.enumerations position).bind fun enumeration => enumeration.reach? [] position.toNat rest
    else none
  | _ => none

/-- **The comments on an element**: those of the first location whose path leads to it, and none if there is no
such location. -/
def File.commentOn (file : File) (element : Element) : String :=
  ((file.locations.find? fun location => file.reach? (location.path.map Int32.toInt) = some element).map
    fun location => (Swift.Comments.ofLocation location).render).getD ""

/-! ### One path for each element -/

end Schema

open Schema

namespace Path

/-- The path of a message. -/
def ofTrail : List Nat → Path
  | [] => []
  | first :: rest => rest.foldl nestedMessage (message first)

theorem ofTrail_append {trail : List Nat} (some : trail ≠ []) (position : Nat) :
    ofTrail (trail ++ [position]) = (ofTrail trail).nestedMessage position := by
  obtain ⟨first, rest, rfl⟩ := List.exists_cons_of_ne_nil some
  exact List.foldl_append

/-- The path of an enumeration. -/
def ofEnumeration (scope : List Nat) (position : Nat) : Path :=
  match scope with
  | [] => enumeration position
  | first :: rest => (ofTrail (first :: rest)).nestedEnumeration position

theorem ofEnumeration_of_ne_nil {scope : List Nat} (some : scope ≠ []) (position : Nat) :
    ofEnumeration scope position = (ofTrail scope).nestedEnumeration position := by
  obtain ⟨first, rest, rfl⟩ := List.exists_cons_of_ne_nil some
  rfl

end Path

namespace Schema

/-- The path of an element. -/
def Element.path : Element → Path
  | message trail => .ofTrail trail
  | field trail position => (Path.ofTrail trail).field position
  | enumeration scope position => .ofEnumeration scope position
  | enumValue scope own position => (Path.ofEnumeration scope own).enumValue position

theorem Enumeration.path_of_reach? {enumeration : Enumeration} {scope : List Nat} {own : Nat} {path : Path}
    {element : Element} (reached : enumeration.reach? scope own path = some element) :
    element.path = Path.ofEnumeration scope own ++ path ∧ path.length % 2 = 0 := by
  unfold reach? at reached
  split at reached
  · cases reached
    exact ⟨(List.append_nil _).symm, rfl⟩
  · rename_i step position
    split at reached
    · rename_i values
      obtain ⟨value, found, rfl⟩ := Option.map_eq_some_iff.mp reached
      obtain ⟨index, rfl, -⟩ := elementAt?_eq_some_iff.mp found
      rw [values]
      exact ⟨rfl, by simp⟩
    · cases reached
  · cases reached

/-- **A path inside a message is the end of the path of its element.** The induction is on the messages inside. -/
theorem Message.path_of_reach? (message : Message) : ∀ (trail : List Nat) (path : Path) (element : Element),
    trail ≠ [] → message.reach? trail path = some element →
      element.path = Path.ofTrail trail ++ path ∧ path.length % 2 = 0 := by
  induction message using Message.inductionOnNested with
  | step message below =>
    intro trail path element some reached
    unfold reach? at reached
    split at reached
    · cases reached
      exact ⟨(List.append_nil _).symm, rfl⟩
    · cases reached
    · rename_i step position rest
      split at reached
      · rename_i fields
        obtain ⟨field, found, rfl⟩ := Option.map_eq_some_iff.mp reached
        obtain ⟨index, rfl, -⟩ := elementAt?_eq_some_iff.mp found
        rw [fields.1, fields.2]
        exact ⟨rfl, by simp⟩
      · split at reached
        · rename_i messages
          obtain ⟨inner, found, inside⟩ := Option.bind_eq_some_iff.mp reached
          obtain ⟨index, rfl, found⟩ := elementAt?_eq_some_iff.mp found
          obtain ⟨extended, even⟩ := below inner (List.mem_of_getElem? found) _ rest element
            (List.concat_ne_nil _ _) inside
          rw [extended, messages, Int.toNat_natCast, Path.ofTrail_append some]
          refine ⟨List.append_assoc _ _ _, ?_⟩
          rw [List.length_cons, List.length_cons]
          omega
        · split at reached
          · rename_i enumerations
            obtain ⟨enumeration, found, inside⟩ := Option.bind_eq_some_iff.mp reached
            obtain ⟨index, rfl, found⟩ := elementAt?_eq_some_iff.mp found
            obtain ⟨extended, even⟩ := Enumeration.path_of_reach? inside
            rw [extended, enumerations, Int.toNat_natCast, Path.ofEnumeration_of_ne_nil some]
            refine ⟨List.append_assoc _ _ _, ?_⟩
            rw [List.length_cons, List.length_cons]
            omega
          · cases reached

/-- **No two paths lead to one element**, and every path that leads to one has an even number of steps. -/
theorem File.path_of_reach? {file : File} {path : Path} {element : Element}
    (reached : file.reach? path = some element) :
    element.path = path ∧ path ≠ [] ∧ path.length % 2 = 0 := by
  unfold reach? at reached
  split at reached
  · rename_i step position rest
    split at reached
    · rename_i messages
      obtain ⟨message, found, inside⟩ := Option.bind_eq_some_iff.mp reached
      obtain ⟨index, rfl, -⟩ := elementAt?_eq_some_iff.mp found
      obtain ⟨extended, even⟩ := message.path_of_reach? _ rest element (List.cons_ne_nil _ _) inside
      rw [messages]
      refine ⟨extended, List.cons_ne_nil _ _, ?_⟩
      rw [List.length_cons, List.length_cons]
      omega
    · split at reached
      · rename_i enumerations
        obtain ⟨enumeration, found, inside⟩ := Option.bind_eq_some_iff.mp reached
        obtain ⟨index, rfl, -⟩ := elementAt?_eq_some_iff.mp found
        obtain ⟨extended, even⟩ := Enumeration.path_of_reach? inside
        rw [enumerations]
        refine ⟨extended, List.cons_ne_nil _ _, ?_⟩
        rw [List.length_cons, List.length_cons]
        omega
      · cases reached
  · cases reached

/-! ### Paths that go on -/

/-- **A path leads to a message of the file**: what is behind it is walked from that message. -/
def File.HasMessage (file : File) (path : Path) (trail : List Nat) (message : Message) : Prop :=
  ∀ rest, file.reach? (path ++ rest) = message.reach? trail rest

/-- **A path leads to an enumeration of the file.** -/
def File.HasEnumeration (file : File) (path : Path) (scope : List Nat) (position : Nat)
    (enumeration : Enumeration) : Prop :=
  ∀ rest, file.reach? (path ++ rest) = enumeration.reach? scope position rest

section Positions

variable {file : File} {path : Path} {trail scope : List Nat} {own position : Nat} {message inner : Message}
  {enumeration : Enumeration} {value : EnumValue} {field : Field}

theorem File.hasMessage_message (declared : file.messages[position]? = some message) :
    file.HasMessage (.message position) [position] message := by
  intro rest
  show file.reach? (4 :: (position : Int) :: rest) = _
  rw [reach?, if_pos rfl, elementAt?_natCast, declared, Option.bind_some, Int.toNat_natCast]

theorem File.hasEnumeration_enumeration (declared : file.enumerations[position]? = some enumeration) :
    file.HasEnumeration (.enumeration position) [] position enumeration := by
  intro rest
  show file.reach? (5 :: (position : Int) :: rest) = _
  rw [reach?, if_neg (by decide), if_pos rfl, elementAt?_natCast, declared, Option.bind_some, Int.toNat_natCast]

namespace File.HasMessage

theorem nestedMessage (placed : file.HasMessage path trail message)
    (declared : message.messages[position]? = some inner) :
    file.HasMessage (path.nestedMessage position) (trail ++ [position]) inner := by
  intro rest
  rw [Path.nestedMessage, List.append_assoc, placed]
  show message.reach? trail (3 :: (position : Int) :: rest) = _
  rw [Message.reach?, if_neg (by simp), if_pos rfl, elementAt?_natCast, declared, Option.bind_some,
    Int.toNat_natCast]

theorem nestedEnumeration (placed : file.HasMessage path trail message)
    (declared : message.enumerations[position]? = some enumeration) :
    file.HasEnumeration (path.nestedEnumeration position) trail position enumeration := by
  intro rest
  rw [Path.nestedEnumeration, List.append_assoc, placed]
  show message.reach? trail (4 :: (position : Int) :: rest) = _
  rw [Message.reach?, if_neg (by simp), if_neg (by decide), if_pos rfl, elementAt?_natCast, declared,
    Option.bind_some, Int.toNat_natCast]

theorem reach? (placed : file.HasMessage path trail message) : file.reach? path = some (.message trail) := by
  have here := placed []
  rwa [List.append_nil, Message.reach?] at here

theorem reach?_field (placed : file.HasMessage path trail message)
    (declared : message.fields[position]? = some field) :
    file.reach? (path.field position) = some (.field trail position) := by
  rw [Path.field, placed, Message.reach?, if_pos ⟨rfl, rfl⟩, elementAt?_natCast, declared, Option.map_some,
    Int.toNat_natCast]

end File.HasMessage

namespace File.HasEnumeration

theorem reach? (placed : file.HasEnumeration path scope own enumeration) :
    file.reach? path = some (.enumeration scope own) := by
  have here := placed []
  rwa [List.append_nil, Enumeration.reach?] at here

theorem reach?_enumValue (placed : file.HasEnumeration path scope own enumeration)
    (declared : enumeration.values[position]? = some value) :
    file.reach? (path.enumValue position) = some (.enumValue scope own position) := by
  rw [Path.enumValue, placed, Enumeration.reach?, if_pos rfl, elementAt?_natCast, declared, Option.map_some,
    Int.toNat_natCast]

end File.HasEnumeration

end Positions

end Schema

/-- **What is found by the path of an element are the comments on it.** A location has the path exactly if it leads
to the element, and a path that leads to an element is not left out. -/
theorem FileNode.commentText_eq_commentOn {file : FileNode} {path : Path} {element : Element}
    (reached : file.schema.reach? path = some element) :
    file.commentText path = file.schema.commentOn element := by
  obtain ⟨ownPath, nonempty, even⟩ := File.path_of_reach? reached
  have same : ∀ location : Location, location.path.map Int32.toInt = path
      ↔ file.schema.reach? (location.path.map Int32.toInt) = some element := by
    intro location
    constructor
    · rintro rfl
      exact reached
    · intro leads
      rw [← (File.path_of_reach? leads).1, ownPath]
  have kept : ¬ (path.isEmpty || decide (path.length % 2 = 1)) = true := by
    simp [nonempty, even]
  unfold commentText comments? File.commentOn
  rw [if_neg kept, Option.map_map]
  simp only [same, Function.comp_def]

end ProtoSwift
