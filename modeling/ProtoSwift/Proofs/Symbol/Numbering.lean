/-
**The numbers of the listed types.**

The messages of a table are numbered in the order of registration, and so are the enumerations. An entry gives
the numbers of what is declared directly inside it, and these are given out before what has them is listed:
the number of a message is known once everything before it has been counted.

* `Listing.located` — the types of files, each with the position of its file;
* `Listing.map_messagesFrom`, `Listing.map_enumsFrom` — the entries are the types with consecutive numbers;
* `Listing.Numbers` — numbers that belong to given types;
* `Listing.numbers_of_mem_messagesFrom`, `Listing.numbers_filesFrom` — the numbers in an entry belong to the
  types directly inside it, in the order of their declaration;
* `Listing.perm_messagesFrom`, `Listing.perm_enumsFrom` — every number is in one entry, and only once there.
-/

import ProtoSwift.Symbol.Listing
import Mathlib.Data.List.Forall2

namespace ProtoSwift

open MessageNode

namespace Listing

variable {α β : Type}

/-! ### Types with their files -/

/-- What is selected from files, with the positions of the files, given the position of the first file. -/
def located (select : FileNode → List α) (first : Nat) : List FileNode → List (Nat × α)
  | [] => []
  | file :: rest => (select file).map (first, ·) ++ located select (first + 1) rest

theorem mem_located_iff {select : FileNode → List α} {first : Nat} {files : List FileNode} {place : Nat}
    {selected : α} : (place, selected) ∈ located select first files
      ↔ ∃ position file, files[position]? = some file ∧ place = first + position ∧ selected ∈ select file := by
  induction files generalizing first with
  | nil => simp [located]
  | cons file rest inRest =>
    rw [located, List.mem_append, inRest]
    constructor
    · rintro (here | ⟨position, next, found, rfl, among⟩)
      · obtain ⟨_, among, same⟩ := List.mem_map.mp here
        cases same
        exact ⟨0, file, rfl, rfl, among⟩
      · exact ⟨position + 1, next, found, by omega, among⟩
    · rintro ⟨position, next, found, rfl, among⟩
      cases position with
      | zero =>
        cases found
        exact .inl (List.mem_map.mpr ⟨selected, among, rfl⟩)
      | succ position => exact .inr ⟨position, next, found, by omega, among⟩

/-- What is selected from files in order is in order, file by file. -/
theorem located_ordered {select : FileNode → List α} {before : α → α → Prop} {files : List FileNode}
    (ordered : ∀ file ∈ files, (select file).Pairwise before) (first : Nat) :
    (located select first files).Pairwise fun one other =>
      one.1 < other.1 ∨ one.1 = other.1 ∧ before one.2 other.2 := by
  induction files generalizing first with
  | nil => exact .nil
  | cons file rest inRest =>
    refine List.pairwise_append.mpr ⟨?_, inRest (fun next among => ordered next (.tail _ among)) _, ?_⟩
    · rw [List.pairwise_map]
      exact (ordered file List.mem_cons_self).imp fun before => .inr ⟨rfl, before⟩
    · rintro one here ⟨place, selected⟩ later
      obtain ⟨_, _, rfl⟩ := List.mem_map.mp here
      obtain ⟨position, _, _, rfl, _⟩ := mem_located_iff.mp later
      exact .inl (by omega)

/-! ### Consecutive numbers -/

mutual

/-- The entries of a message are the messages inside it, numbered from the first free number on. -/
theorem map_ofMessage (file message enum : Nat) : (node : MessageNode) →
    (ofMessage file message enum node).map (fun entry => ((entry.file, entry.node), entry.index))
      = (node.allMessages.map (file, ·)).zipIdx message
  | ⟨_, _, _, _, messages, _⟩ => by
    rw [ofMessage, allMessages, List.map_cons, List.map_cons, List.zipIdx_cons,
      map_ofMessages file (message + 1) enum messages]

theorem map_ofMessages (file message enum : Nat) : (nodes : List MessageNode) →
    (ofMessages file message enum nodes).map (fun entry => ((entry.file, entry.node), entry.index))
      = ((allMessagesOf nodes).map (file, ·)).zipIdx message
  | [] => rfl
  | node :: rest => by
    rw [ofMessages, allMessagesOf, List.map_append, List.map_append, List.zipIdx_append, List.length_map,
      map_ofMessage file message enum node, map_ofMessages file _ _ rest, messageCount]

end

theorem length_ofMessages (file message enum : Nat) (nodes : List MessageNode) :
    (ofMessages file message enum nodes).length = (allMessagesOf nodes).length := by
  have lengths := congrArg List.length (map_ofMessages file message enum nodes)
  rwa [List.length_map, List.length_zipIdx, List.length_map] at lengths

theorem file_of_mem_ofMessages {file message enum : Nat} {nodes : List MessageNode} {entry : MessageEntry}
    (listed : entry ∈ ofMessages file message enum nodes) : entry.file = file := by
  have numbered := List.mem_map_of_mem (f := fun entry => ((entry.file, entry.node), entry.index)) listed
  rw [map_ofMessages] at numbered
  obtain ⟨_, _, same⟩ := List.mem_map.mp (List.fst_mem_of_mem_zipIdx numbered)
  exact (congrArg Prod.fst same).symm

/-- **The message entries are the messages of the files**, numbered from the first free number on. -/
theorem map_messagesFrom (file message enum : Nat) (files : List FileNode) :
    (messagesFrom file message enum files).map (fun entry => ((entry.file, entry.node), entry.index))
      = (located FileNode.allMessages file files).zipIdx message := by
  induction files generalizing file message enum with
  | nil => rfl
  | cons node rest inRest =>
    rw [messagesFrom, located, List.map_append, List.zipIdx_append, List.length_map, map_ofMessages, inRest]
    rfl

/-- **The enumeration entries are the enumerations of the files**, numbered from the first free number on. -/
theorem map_enumsFrom (file enum : Nat) (files : List FileNode) :
    (enumsFrom file enum files).map (fun entry => ((entry.file, entry.node), entry.index))
      = (located FileNode.allEnums file files).zipIdx enum := by
  induction files generalizing file enum with
  | nil => rfl
  | cons node rest inRest =>
    rw [enumsFrom, located, List.map_append, List.zipIdx_append, List.length_map, inRest, List.map_map,
      List.zipIdx_map]
    rfl

/-! ### The numbers in an entry -/

/-- The numbers belong to the nodes, one by one. -/
def Numbers (numbered : List (α × Nat)) (numbers : List Nat) (nodes : List α) : Prop :=
  List.Forall₂ (fun number node => (node, number) ∈ numbered) numbers nodes

namespace Numbers

variable {numbered more : List (α × Nat)} {numbers : List Nat} {nodes : List α}

theorem mono (belong : Numbers numbered numbers nodes) (kept : ∀ pair ∈ numbered, pair ∈ more) :
    Numbers more numbers nodes :=
  belong.imp fun _ _ among => kept _ among

theorem append_left (belong : Numbers numbered numbers nodes) (more : List (α × Nat)) :
    Numbers (more ++ numbered) numbers nodes :=
  belong.mono fun _ => List.mem_append_right more

theorem append_right (belong : Numbers numbered numbers nodes) (more : List (α × Nat)) :
    Numbers (numbered ++ more) numbers nodes :=
  belong.mono fun _ => List.mem_append_left more

theorem located {listed : List α} {first : Nat} (belong : Numbers (listed.zipIdx first) numbers nodes)
    (file : Nat) : Numbers ((listed.map (file, ·)).zipIdx first) numbers (nodes.map (file, ·)) := by
  rw [List.zipIdx_map]
  refine List.forall₂_map_right_iff.mpr (belong.imp fun number node among => ?_)
  exact List.mem_map.mpr ⟨_, among, rfl⟩

/-- Nodes in a row have consecutive numbers. -/
theorem range' (first : Nat) (nodes : List α) :
    Numbers (nodes.zipIdx first) (List.range' first nodes.length) nodes := by
  induction nodes generalizing first with
  | nil => exact .nil
  | cons node rest inRest =>
    rw [List.zipIdx_cons]
    refine .cons List.mem_cons_self ?_
    exact (inRest (first + 1)).mono fun _ => List.mem_cons_of_mem _

end Numbers

theorem mem_zipIdx_allMessages (first : Nat) (node : MessageNode) :
    (node, first) ∈ node.allMessages.zipIdx first := by
  cases node
  rw [allMessages, List.zipIdx_cons]
  exact List.mem_cons_self

/-- Messages in a row have the numbers that come after what is inside those before. -/
theorem numbers_messageNumbers (first : Nat) (nodes : List MessageNode) :
    Numbers ((allMessagesOf nodes).zipIdx first) (messageNumbers first nodes) nodes := by
  induction nodes generalizing first with
  | nil => exact .nil
  | cons node rest inRest =>
    rw [allMessagesOf, List.zipIdx_append]
    refine .cons (List.mem_append_left _ (mem_zipIdx_allMessages first node)) ?_
    exact (inRest _).append_left _

mutual

/-- **The numbers in the entry of a message** belong to the messages and enumerations directly inside it. -/
theorem numbers_of_mem_ofMessage (file message enum : Nat) : (node : MessageNode) →
    ∀ entry ∈ ofMessage file message enum node,
      Numbers (node.allMessages.zipIdx message) entry.messages entry.node.messages
        ∧ Numbers (node.allEnums.zipIdx enum) entry.enums entry.node.enums
  | ⟨_, _, _, _, messages, enums⟩ => by
    intro entry listed
    rw [allMessages, allEnums, List.zipIdx_cons, List.zipIdx_append]
    rcases List.mem_cons.mp listed with rfl | inside
    · exact ⟨(numbers_messageNumbers (message + 1) messages).append_left [_],
        (Numbers.range' _ enums).append_left _⟩
    · obtain ⟨nested, own⟩ := numbers_of_mem_ofMessages file (message + 1) enum messages entry inside
      exact ⟨nested.append_left [_], own.append_right _⟩

theorem numbers_of_mem_ofMessages (file message enum : Nat) : (nodes : List MessageNode) →
    ∀ entry ∈ ofMessages file message enum nodes,
      Numbers ((allMessagesOf nodes).zipIdx message) entry.messages entry.node.messages
        ∧ Numbers ((allEnumsOf nodes).zipIdx enum) entry.enums entry.node.enums
  | [] => fun _ listed => absurd listed List.not_mem_nil
  | node :: rest => by
    intro entry listed
    rw [allMessagesOf, allEnumsOf, List.zipIdx_append, List.zipIdx_append]
    rcases List.mem_append.mp listed with first | later
    · obtain ⟨nested, own⟩ := numbers_of_mem_ofMessage file message enum node entry first
      exact ⟨nested.append_right _, own.append_right _⟩
    · obtain ⟨nested, own⟩ := numbers_of_mem_ofMessages file _ _ rest entry later
      exact ⟨nested.append_left _, own.append_left _⟩

end

/-- **The numbers in a message entry** belong to the types directly inside the message, in its file. -/
theorem numbers_of_mem_messagesFrom {file message enum : Nat} {files : List FileNode} {entry : MessageEntry}
    (listed : entry ∈ messagesFrom file message enum files) :
    Numbers ((located FileNode.allMessages file files).zipIdx message) entry.messages
        (entry.node.messages.map (entry.file, ·))
      ∧ Numbers ((located FileNode.allEnums file files).zipIdx enum) entry.enums
        (entry.node.enums.map (entry.file, ·)) := by
  induction files generalizing file message enum with
  | nil => exact absurd listed List.not_mem_nil
  | cons node rest inRest =>
    rw [located, located, List.zipIdx_append, List.zipIdx_append, List.length_map, List.length_map]
    rcases List.mem_append.mp listed with first | later
    · obtain ⟨nested, own⟩ := numbers_of_mem_ofMessages file message enum node.messages entry first
      rw [file_of_mem_ofMessages first]
      have ownInFile : Numbers (node.allEnums.zipIdx enum) entry.enums entry.node.enums := by
        rw [FileNode.allEnums, List.zipIdx_append]
        exact own.append_right _
      exact ⟨(nested.located file).append_right _, (ownInFile.located file).append_right _⟩
    · obtain ⟨nested, own⟩ := inRest later
      exact ⟨nested.append_left _, own.append_left _⟩

/-- **The numbers in a file entry** belong to the types directly in the file. -/
theorem numbers_filesFrom (first : Nat) {message enum : Nat} {files : List FileNode} {position : Nat}
    {entry : FileEntry} (listed : (filesFrom message enum files)[position]? = some entry) :
    Numbers ((located FileNode.allMessages first files).zipIdx message) entry.messages
        (entry.node.messages.map (first + position, ·))
      ∧ Numbers ((located FileNode.allEnums first files).zipIdx enum) entry.enums
        (entry.node.enums.map (first + position, ·)) := by
  induction files generalizing first message enum position with
  | nil => cases listed
  | cons node rest inRest =>
    rw [located, located, List.zipIdx_append, List.zipIdx_append, List.length_map, List.length_map]
    cases position with
    | zero =>
      cases listed
      have own : Numbers (node.allEnums.zipIdx enum)
          (List.range' (enum + (allEnumsOf node.messages).length) node.enums.length) node.enums := by
        rw [FileNode.allEnums, List.zipIdx_append]
        exact (Numbers.range' _ node.enums).append_left _
      exact ⟨((numbers_messageNumbers message node.messages).located first).append_right _,
        (own.located first).append_right _⟩
    | succ position =>
      have below := inRest (first + 1) listed
      rw [Nat.add_assoc, Nat.add_comm 1 position] at below
      exact ⟨below.1.append_left _, below.2.append_left _⟩

/-! ### Every number once -/

theorem append_perm_comm (first second third fourth : List α) :
    ((first ++ second) ++ (third ++ fourth)).Perm ((first ++ third) ++ (second ++ fourth)) := by
  rw [List.append_assoc, List.append_assoc]
  exact (List.perm_append_comm_assoc second third fourth).append_left first

mutual

/-- Every number of a message inside a message is in one entry, and the first number is that of the message. -/
theorem perm_ofMessage (file message enum : Nat) : (node : MessageNode) →
    (message :: (ofMessage file message enum node).flatMap (·.messages)).Perm
      (List.range' message node.allMessages.length)
  | ⟨_, _, _, _, messages, _⟩ => by
    rw [ofMessage, allMessages, List.flatMap_cons, List.length_cons, List.range'_succ]
    exact (perm_ofMessages file (message + 1) enum messages).cons message

theorem perm_ofMessages (file message enum : Nat) : (nodes : List MessageNode) →
    (messageNumbers message nodes ++ (ofMessages file message enum nodes).flatMap (·.messages)).Perm
      (List.range' message (allMessagesOf nodes).length)
  | [] => .nil
  | node :: rest => by
    rw [ofMessages, allMessagesOf, List.flatMap_append, List.length_append, ← List.range'_append_1]
    refine (append_perm_comm [message] (messageNumbers _ rest) _ _).trans ?_
    exact (perm_ofMessage file message enum node).append (perm_ofMessages file _ _ rest)

end

mutual

theorem perm_enums_ofMessage (file message enum : Nat) : (node : MessageNode) →
    ((ofMessage file message enum node).flatMap (·.enums)).Perm (List.range' enum node.allEnums.length)
  | ⟨_, _, _, _, messages, enums⟩ => by
    rw [ofMessage, allEnums, List.flatMap_cons, List.length_append, ← List.range'_append_1]
    refine List.perm_append_comm.trans ?_
    exact (perm_enums_ofMessages file (message + 1) enum messages).append_right _

theorem perm_enums_ofMessages (file message enum : Nat) : (nodes : List MessageNode) →
    ((ofMessages file message enum nodes).flatMap (·.enums)).Perm
      (List.range' enum (allEnumsOf nodes).length)
  | [] => .nil
  | node :: rest => by
    rw [ofMessages, allEnumsOf, List.flatMap_append, List.length_append, ← List.range'_append_1]
    exact (perm_enums_ofMessage file message enum node).append (perm_enums_ofMessages file _ _ rest)

end

/-- **Every message number is in one entry**, that of a file or that of a message. -/
theorem perm_messagesFrom (file message enum : Nat) (files : List FileNode) :
    ((filesFrom message enum files).flatMap (·.messages)
        ++ (messagesFrom file message enum files).flatMap (·.messages)).Perm
      (List.range' message (messagesFrom file message enum files).length) := by
  induction files generalizing file message enum with
  | nil => exact .nil
  | cons node rest inRest =>
    rw [filesFrom, messagesFrom, List.flatMap_cons, List.flatMap_append, List.length_append,
      length_ofMessages, ← List.range'_append_1]
    refine (append_perm_comm _ _ _ _).trans ?_
    exact (perm_ofMessages file message enum node.messages).append (inRest _ _ _)

/-- **Every enumeration number is in one entry**, that of a file or that of a message. -/
theorem perm_enumsFrom (file message enum : Nat) (files : List FileNode) :
    ((filesFrom message enum files).flatMap (·.enums)
        ++ (messagesFrom file message enum files).flatMap (·.enums)).Perm
      (List.range' enum (enumsFrom file enum files).length) := by
  induction files generalizing file message enum with
  | nil => exact .nil
  | cons node rest inRest =>
    rw [filesFrom, messagesFrom, enumsFrom, List.flatMap_cons, List.flatMap_append, List.length_append,
      List.length_map, List.length_zipIdx, ← List.range'_append_1]
    refine (append_perm_comm _ _ _ _).trans (.append ?_ (inRest _ _ _))
    rw [FileNode.allEnums, List.length_append, ← List.range'_append_1]
    exact List.perm_append_comm.trans ((perm_enums_ofMessages file message enum node.messages).append_right _)

end Listing

end ProtoSwift
