/-
**What the listing of a table says about the files.**

A table is made of files alone, and its listing describes them. The place of a type is the position of its
file and its path there, and places are ordered: file by file, and in a file by the paths. So an outer message
comes before what is inside it, and the messages inside it come before its enumerations, with all that is inside
them.

* `Listing.Covers` — the entries are the types of the files, each once, numbered in the order of their places;
* `Listing.Links` — the numbers in an entry are those of the types directly inside it, in the order of their
  declaration, and every number is in one entry;
* `Listing.FindsFirst` — a name means the type of the least number;
* `Listing.Reports` — the duplicates that are reported are the types with an earlier type of their kind and
  name;
* `SymbolTable.listing_ofFiles` — all this holds of the table of any files of known eras.
-/

import ProtoSwift.Proofs.Symbol.Numbering
import ProtoSwift.Proofs.Symbol.Place
import ProtoSwift.Proofs.Symbol.Registration
import Mathlib.Data.List.Nodup

namespace ProtoSwift

open Schema Schema.Request

/-! ### Places -/

/-- The place of a type: the position of its file, and its path in the file. -/
structure Place where
  file : Nat
  path : Path

/-- Types of one file are in the order of their paths, and those of an earlier file come first. -/
def Place.Before (first second : Place) : Prop :=
  first.file < second.file ∨ first.file = second.file ∧ first.path < second.path

namespace Place

instance : DecidableRel Before :=
  fun first second =>
    inferInstanceAs (Decidable (first.file < second.file ∨ first.file = second.file ∧ first.path < second.path))

theorem not_before_of_before {first second : Place} (before : first.Before second) :
    ¬second.Before first := by
  rintro (file | ⟨file, path⟩)
  · rcases before with earlier | ⟨same, _⟩ <;> omega
  · rcases before with earlier | ⟨_, earlier⟩
    · omega
    · exact List.lt_asymm earlier path

end Place

/-- What files declare at a place. -/
def Schema.typeAt? (files : List File) (place : Place) : Option Declaration :=
  files[place.file]?.bind fun file => file.typeAt? place.path

def MessageEntry.place (entry : MessageEntry) : Place :=
  ⟨entry.file, entry.node.path⟩

def EnumEntry.place (entry : EnumEntry) : Place :=
  ⟨entry.file, entry.node.path⟩

namespace Listing

/-- The places of the messages, by number. -/
def messagePlaces (table : SymbolTable) : List Place :=
  (messages table).map (·.place)

/-- The places of the enumerations, by number. -/
def enumPlaces (table : SymbolTable) : List Place :=
  (enums table).map (·.place)

/-! ### What is said -/

/-- **The entries are the types of the files.** There is one for each place where a file declares a type, and
that is the type of the entry. The places increase, so that no type is listed twice, and the number of an entry
is its position. -/
structure Covers (files : List File) (table : SymbolTable) : Prop where
  file_order : (Listing.files table).map (·.node.schema) = files
  message : ∀ place message,
    (∃ entry ∈ messages table, entry.place = place ∧ entry.node.schema = message)
      ↔ typeAt? files place = some (.message message)
  enum : ∀ place enumeration,
    (∃ entry ∈ enums table, entry.place = place ∧ entry.node.schema = enumeration)
      ↔ typeAt? files place = some (.enumeration enumeration)
  message_order : (messagePlaces table).Pairwise Place.Before
  enum_order : (enumPlaces table).Pairwise Place.Before
  message_index : (messages table).map (·.index) = List.range (messages table).length
  enum_index : (enums table).map (·.index) = List.range (enums table).length
  message_file : ∀ entry ∈ messages table, entry.file < (Listing.files table).length
  enum_file : ∀ entry ∈ enums table, entry.file < (Listing.files table).length
  caseNames : ∀ entry ∈ enums table,
    entry.node.caseNames.length = entry.node.schema.values.length
      ∧ ∀ (position : Nat) (value : EnumValue), entry.node.schema.values[position]? = some value →
        entry.node.caseNames[position]? = some (entry.node.caseNameOf value)

/-- **The numbers in an entry are those of the types directly inside it**, in the order of their declaration, and
every number is in one entry, where it is only once. -/
structure Links (table : SymbolTable) : Prop where
  file_messages : ∀ (position : Nat) (file : FileEntry), (files table)[position]? = some file →
    file.messages.map (fun number => (messagePlaces table)[number]?)
      = (List.range file.node.schema.messages.length).map fun inner => some ⟨position, .message inner⟩
  file_enums : ∀ (position : Nat) (file : FileEntry), (files table)[position]? = some file →
    file.enums.map (fun number => (enumPlaces table)[number]?)
      = (List.range file.node.schema.enumerations.length).map fun inner => some ⟨position, .enumeration inner⟩
  nested_messages : ∀ entry ∈ messages table,
    entry.messages.map (fun number => (messagePlaces table)[number]?)
      = (List.range entry.node.schema.messages.length).map fun inner =>
        some ⟨entry.file, entry.node.path.nestedMessage inner⟩
  nested_enums : ∀ entry ∈ messages table,
    entry.enums.map (fun number => (enumPlaces table)[number]?)
      = (List.range entry.node.schema.enumerations.length).map fun inner =>
        some ⟨entry.file, entry.node.path.nestedEnumeration inner⟩
  messages_once : ((files table).flatMap (·.messages) ++ (messages table).flatMap (·.messages)).Perm
    (List.range (messages table).length)
  enums_once : ((files table).flatMap (·.enums) ++ (messages table).flatMap (·.enums)).Perm
    (List.range (enums table).length)

/-- **A name means the type of the least number** that has the name, and nothing only if no type has it. -/
structure FindsFirst (table : SymbolTable) : Prop where
  message : ∀ name entry, message? table name = some entry
    ↔ entry ∈ messages table ∧ entry.node.fullName.text = name
      ∧ ∀ other ∈ messages table, other.node.fullName.text = name → entry.index ≤ other.index
  enum : ∀ name entry, enum? table name = some entry
    ↔ entry ∈ enums table ∧ entry.node.fullName.text = name
      ∧ ∀ other ∈ enums table, other.node.fullName.text = name → entry.index ≤ other.index
  message_missing : ∀ name, message? table name = none
    ↔ ∀ entry ∈ messages table, entry.node.fullName.text ≠ name
  enum_missing : ∀ name, enum? table name = none ↔ ∀ entry ∈ enums table, entry.node.fullName.text ≠ name
  message_node : ∀ name, table.message? name = (message? table name).map (·.node)
  enum_node : ∀ name, table.enum? name = (enum? table name).map (·.node)

/-- A type of a kind and a name is listed at a place. -/
def Lists (table : SymbolTable) (place : Place) (symbol : Symbol) : Prop :=
  (∃ entry ∈ messages table, entry.place = place ∧ (.message, entry.node.fullName) = symbol)
    ∨ ∃ entry ∈ enums table, entry.place = place ∧ (.enumeration, entry.node.fullName) = symbol

/-- **The warnings are about the types that have an earlier type of their kind and name**, one for each of
them, in the order of their places. -/
def Reports (table : SymbolTable) (warnings : List Warning) : Prop :=
  ∃ registered : List (Place × Symbol),
    registered.Pairwise (fun first second => first.1.Before second.1)
      ∧ (∀ place symbol, (place, symbol) ∈ registered ↔ Lists table place symbol)
      ∧ warnings = (registered.filter fun type =>
          ∃ other ∈ registered, other.1.Before type.1 ∧ other.2 = type.2).map
        fun type => .duplicate type.2.1 type.2.2

end Listing

/-! ### Entries and types -/

/-- The table of files of known eras. -/
def SymbolTable.declared (files : List File) : SymbolTable :=
  ⟨files.map fun file => FileNode.declare (eraOf file) file⟩

namespace Listing

variable {α Entry : Type} {files : List File} {table : SymbolTable}

/-- Numbered entries, read as what they are and as their numbers. -/
theorem of_map_eq_zipIdx {entries : List Entry} {key : Entry → α} {index : Entry → Nat} {listed : List α}
    (numbered : entries.map (fun entry => (key entry, index entry)) = listed.zipIdx) :
    entries.map key = listed ∧ entries.map index = List.range entries.length := by
  have length : entries.length = listed.length := by
    have lengths := congrArg List.length numbered
    rwa [List.length_map, List.length_zipIdx] at lengths
  have keys := congrArg (List.map Prod.fst) numbered
  have indices := congrArg (List.map Prod.snd) numbered
  rw [List.map_map] at keys indices
  rw [List.zipIdx_map_fst] at keys
  rw [List.zipIdx_map_snd, ← length, ← List.range_eq_range'] at indices
  exact ⟨keys, indices⟩

/-- Something holds of what an entry is if it holds of what is listed. -/
theorem exists_mem_iff_of_map_eq {entries : List Entry} {key : Entry → α} {listed : List α}
    (keys : entries.map key = listed) (holds : α → Prop) :
    (∃ entry ∈ entries, holds (key entry)) ↔ ∃ type ∈ listed, holds type := by
  rw [← keys]
  constructor
  · rintro ⟨entry, among, holds⟩
    exact ⟨key entry, List.mem_map_of_mem among, holds⟩
  · rintro ⟨type, among, holds⟩
    obtain ⟨entry, listed, rfl⟩ := List.mem_map.mp among
    exact ⟨entry, listed, holds⟩

theorem map_located_messages (table : SymbolTable) :
    (messages table).map (fun entry => (entry.file, entry.node)) = located FileNode.allMessages 0 table.files :=
  (of_map_eq_zipIdx (map_messagesFrom 0 0 0 table.files)).1

theorem map_located_enums (table : SymbolTable) :
    (enums table).map (fun entry => (entry.file, entry.node)) = located FileNode.allEnums 0 table.files :=
  (of_map_eq_zipIdx (map_enumsFrom 0 0 table.files)).1

theorem map_index_messages (table : SymbolTable) :
    (messages table).map (·.index) = List.range (messages table).length :=
  (of_map_eq_zipIdx (map_messagesFrom 0 0 0 table.files)).2

theorem map_index_enums (table : SymbolTable) :
    (enums table).map (·.index) = List.range (enums table).length :=
  (of_map_eq_zipIdx (map_enumsFrom 0 0 table.files)).2

theorem messagePlaces_eq (table : SymbolTable) : messagePlaces table
    = (located FileNode.allMessages 0 table.files).map fun (file, node) => ⟨file, node.path⟩ := by
  rw [← map_located_messages, List.map_map]
  rfl

theorem enumPlaces_eq (table : SymbolTable) : enumPlaces table
    = (located FileNode.allEnums 0 table.files).map fun (file, node) => ⟨file, node.path⟩ := by
  rw [← map_located_enums, List.map_map]
  rfl

theorem map_node_filesFrom (message enum : Nat) (nodes : List FileNode) :
    (filesFrom message enum nodes).map (·.node) = nodes := by
  induction nodes generalizing message enum with
  | nil => rfl
  | cons node rest inRest => rw [filesFrom, List.map_cons, inRest]

theorem length_files (table : SymbolTable) : (Listing.files table).length = table.files.length := by
  rw [← List.length_map (·.node)]
  exact congrArg List.length (map_node_filesFrom 0 0 table.files)

/-! ### Coverage -/

theorem getElem?_declared (files : List File) (position : Nat) :
    (SymbolTable.declared files).files[position]?
      = files[position]?.map fun file => FileNode.declare (eraOf file) file :=
  List.getElem?_map

/-- What is selected from declared files is at the places of declarations if that is so in each file. -/
theorem exists_mem_located_declared_iff {β : Type} {select : FileNode → List α} {path : α → Path}
    {schema : α → β} {wanted : β} {place : Place} {declaration : Declaration}
    (inFile : ∀ era file, (∃ selected ∈ select (FileNode.declare era file),
      path selected = place.path ∧ schema selected = wanted) ↔ file.typeAt? place.path = some declaration) :
    (∃ type ∈ located select 0 (SymbolTable.declared files).files,
      Place.mk type.1 (path type.2) = place ∧ schema type.2 = wanted)
      ↔ typeAt? files place = some declaration := by
  unfold typeAt?
  rw [Option.bind_eq_some_iff]
  constructor
  · rintro ⟨⟨number, selected⟩, among, rfl, same⟩
    obtain ⟨position, node, found, rfl, among⟩ := mem_located_iff.mp among
    rw [getElem?_declared] at found
    obtain ⟨file, supplied, rfl⟩ := Option.map_eq_some_iff.mp found
    refine ⟨file, ?_, (inFile _ file).mp ⟨selected, among, rfl, same⟩⟩
    rw [Nat.zero_add]
    exact supplied
  · rintro ⟨file, supplied, found⟩
    obtain ⟨selected, among, placed, same⟩ := (inFile (eraOf file) file).mpr found
    refine ⟨(place.file, selected), mem_located_iff.mpr ⟨place.file, _, ?_, ?_, among⟩, ?_, same⟩
    · rw [getElem?_declared, supplied]
      rfl
    · rw [Nat.zero_add]
    · rw [placed]

theorem pairwise_places {select : FileNode → List α} {path : α → Path}
    (ordered : ∀ era file, (select (FileNode.declare era file)).Pairwise fun first second =>
      path first < path second) :
    (located select 0 (SymbolTable.declared files).files).Pairwise fun first second =>
      Place.Before ⟨first.1, path first.2⟩ ⟨second.1, path second.2⟩ := by
  have inFile : ∀ node ∈ (SymbolTable.declared files).files,
      (select node).Pairwise fun first second => path first < path second := by
    intro node among
    obtain ⟨file, _, rfl⟩ := List.mem_map.mp among
    exact ordered _ file
  exact located_ordered inFile 0

/-- What is listed is in a file. -/
theorem exists_file_of_mem {entries : List Entry} {key : Entry → Nat × α} {select : FileNode → List α}
    (keys : entries.map key = located select 0 table.files) {entry : Entry} (listed : entry ∈ entries) :
    ∃ node, table.files[(key entry).1]? = some node ∧ (key entry).2 ∈ select node := by
  have among : key entry ∈ located select 0 table.files := keys ▸ List.mem_map_of_mem listed
  obtain ⟨position, node, found, same, inside⟩ := mem_located_iff.mp among
  rw [Nat.zero_add] at same
  rw [same]
  exact ⟨node, found, inside⟩

theorem file_lt_of_mem {entries : List Entry} {key : Entry → Nat × α} {select : FileNode → List α}
    (keys : entries.map key = located select 0 table.files) {entry : Entry} (listed : entry ∈ entries) :
    (key entry).1 < (Listing.files table).length := by
  obtain ⟨node, found, _⟩ := exists_file_of_mem keys listed
  rw [length_files]
  exact (List.getElem?_eq_some_iff.mp found).1

/-- **The entries of a table are the types of its files.** -/
theorem covers_declared (files : List File) : Covers files (SymbolTable.declared files) := by
  constructor
  case file_order =>
    show List.map (FileNode.schema ∘ FileEntry.node) _ = _
    rw [← List.map_map, Listing.files, map_node_filesFrom, SymbolTable.declared, List.map_map]
    exact List.map_id _
  case message =>
    intro place message
    exact (exists_mem_iff_of_map_eq (map_located_messages _) fun (file, node) =>
      Place.mk file node.path = place ∧ node.schema = message).trans
        (exists_mem_located_declared_iff fun _ _ => FileNode.exists_mem_allMessages_declare)
  case enum =>
    intro place enumeration
    exact (exists_mem_iff_of_map_eq (map_located_enums _) fun (file, node) =>
      Place.mk file node.path = place ∧ node.schema = enumeration).trans
        (exists_mem_located_declared_iff fun _ _ => FileNode.exists_mem_allEnums_declare)
  case message_order =>
    rw [messagePlaces_eq, List.pairwise_map]
    exact pairwise_places FileNode.allMessages_ordered
  case enum_order =>
    rw [enumPlaces_eq, List.pairwise_map]
    exact pairwise_places FileNode.allEnums_ordered
  case message_index => exact map_index_messages _
  case enum_index => exact map_index_enums _
  case message_file => exact fun entry listed => file_lt_of_mem (map_located_messages _) listed
  case enum_file => exact fun entry listed => file_lt_of_mem (map_located_enums _) listed
  case caseNames =>
    intro entry _
    refine ⟨List.length_map _, fun position value found => ?_⟩
    unfold EnumNode.caseNames
    rw [List.getElem?_map, found]
    rfl

/-! ### Links -/

/-- Numbers lead to the nodes they belong to. -/
theorem Numbers.map_getElem? {β : Type} {listed nodes : List α} {numbers : List Nat}
    (belong : Numbers listed.zipIdx numbers nodes) (place : α → β) :
    numbers.map (fun number => (listed.map place)[number]?) = nodes.map fun node => some (place node) := by
  induction belong with
  | nil => rfl
  | cons among _ inRest =>
    rw [List.map_cons, List.map_cons, inRest, List.getElem?_map, List.mem_zipIdx_iff_getElem?.mp among]
    rfl

/-- Numbers of nodes in a file lead to their places. -/
theorem Numbers.map_place {listed : List (Nat × α)} {nodes : List α} {numbers : List Nat} {file : Nat}
    (belong : Numbers listed.zipIdx numbers (nodes.map (file, ·))) {path : α → Path} {count : Nat}
    {pathAt : Nat → Path} (paths : nodes.map path = (List.range count).map pathAt) :
    numbers.map (fun number => (listed.map fun (file, node) => Place.mk file (path node))[number]?)
      = (List.range count).map fun inner => some (Place.mk file (pathAt inner)) := by
  rw [belong.map_getElem?, List.map_map]
  have placed := congrArg (List.map fun path => some (Place.mk file path)) paths
  rw [List.map_map, List.map_map] at placed
  exact placed

theorem getElem?_node_of_files {position : Nat} {file : FileEntry}
    (listed : (Listing.files table)[position]? = some file) : table.files[position]? = some file.node := by
  rw [← map_node_filesFrom 0 0 table.files, List.getElem?_map]
  exact congrArg (Option.map _) listed

/-- **The numbers in the entries of a table are those of the types directly inside.** -/
theorem links_declared (files : List File) : Links (SymbolTable.declared files) := by
  have inFile : ∀ (position : Nat) (file : FileEntry),
      (Listing.files (SymbolTable.declared files))[position]? = some file →
      ∃ schema, file.node = FileNode.declare (eraOf schema) schema := by
    intro position file listed
    have found := getElem?_node_of_files listed
    rw [getElem?_declared] at found
    obtain ⟨schema, _, same⟩ := Option.map_eq_some_iff.mp found
    exact ⟨schema, same.symm⟩
  have inMessage : ∀ entry ∈ messages (SymbolTable.declared files), entry.node.ChildrenInPlace := by
    intro entry listed
    obtain ⟨node, found, inside⟩ := exists_file_of_mem (map_located_messages _) listed
    rw [getElem?_declared] at found
    obtain ⟨schema, _, rfl⟩ := Option.map_eq_some_iff.mp found
    exact FileNode.childrenInPlace_of_mem_declare inside
  constructor
  case file_messages =>
    intro position file listed
    obtain ⟨schema, same⟩ := inFile position file listed
    obtain ⟨nested, _⟩ := numbers_filesFrom 0 listed
    rw [Nat.zero_add] at nested
    rw [messagePlaces_eq]
    refine nested.map_place ?_
    rw [same]
    exact FileNode.map_path_messages_declare _ schema
  case file_enums =>
    intro position file listed
    obtain ⟨schema, same⟩ := inFile position file listed
    obtain ⟨_, own⟩ := numbers_filesFrom 0 listed
    rw [Nat.zero_add] at own
    rw [enumPlaces_eq]
    refine own.map_place ?_
    rw [same]
    exact FileNode.map_path_enums_declare _ schema
  case nested_messages =>
    intro entry listed
    rw [messagePlaces_eq]
    exact (numbers_of_mem_messagesFrom listed).1.map_place (inMessage entry listed).messages
  case nested_enums =>
    intro entry listed
    rw [enumPlaces_eq]
    exact (numbers_of_mem_messagesFrom listed).2.map_place (inMessage entry listed).enums
  case messages_once =>
    rw [List.range_eq_range']
    exact perm_messagesFrom 0 0 0 _
  case enums_once =>
    rw [List.range_eq_range']
    exact perm_enumsFrom 0 0 0 _

/-! ### Look-ups -/

/-- In a numbered list, the first entry with a property is the one of the least number. -/
theorem find?_eq_some_iff_least {entries : List Entry} {index : Entry → Nat} {wanted : Entry → Bool}
    {entry : Entry} (indices : entries.map index = List.range entries.length) :
    entries.find? wanted = some entry ↔ entry ∈ entries ∧ wanted entry = true
      ∧ ∀ other ∈ entries, wanted other = true → index entry ≤ index other := by
  have increasing : entries.Pairwise fun first second => index first < index second := by
    rw [← List.pairwise_map, indices]
    exact List.pairwise_lt_range
  have least : ∀ found, entries.find? wanted = some found →
      ∀ other ∈ entries, wanted other = true → index found ≤ index other := by
    intro found first other among holds
    obtain ⟨_, early, late, parts, unwanted⟩ := List.find?_eq_some_iff_append.mp first
    rw [parts] at among increasing
    rcases List.mem_append.mp among with before | among
    · have fails := unwanted other before
      rw [holds] at fails
      cases fails
    · rcases List.mem_cons.mp among with rfl | after
      · exact Nat.le_refl _
      · have ordered := (List.pairwise_cons.mp (List.pairwise_append.mp increasing).2.1).1
        exact Nat.le_of_lt (ordered other after)
  constructor
  · intro first
    exact ⟨List.mem_of_find?_eq_some first, List.find?_some first, least entry first⟩
  · rintro ⟨among, holds, first⟩
    obtain ⟨found, same⟩ := Option.isSome_iff_exists.mp (List.find?_isSome.mpr ⟨entry, among, holds⟩)
    have atMost := least found same entry among holds
    have atLeast := first found (List.mem_of_find?_eq_some same) (List.find?_some same)
    have distinct : (entries.map index).Nodup := indices ▸ List.nodup_range
    rw [same, List.inj_on_of_nodup_map distinct among (List.mem_of_find?_eq_some same) (by omega)]

theorem map_snd_located {select : FileNode → List α} (first : Nat) (nodes : List FileNode) :
    (located select first nodes).map Prod.snd = nodes.flatMap select := by
  induction nodes generalizing first with
  | nil => rfl
  | cons node rest inRest =>
    rw [located, List.map_append, List.map_map, inRest, List.flatMap_cons]
    exact congrArg (· ++ rest.flatMap select) (List.map_id _)

theorem messages_eq_map_node (table : SymbolTable) : table.messages = (messages table).map (·.node) := by
  rw [SymbolTable.messages, ← map_snd_located 0, ← map_located_messages, List.map_map]
  rfl

theorem enums_eq_map_node (table : SymbolTable) : table.enums = (enums table).map (·.node) := by
  rw [SymbolTable.enums, ← map_snd_located 0, ← map_located_enums, List.map_map]
  rfl

/-- **The look-ups find the first type of a name.** -/
theorem findsFirst (table : SymbolTable) : FindsFirst table := by
  constructor
  case message =>
    intro name entry
    rw [message?, find?_eq_some_iff_least (map_index_messages table)]
    simp only [decide_eq_true_eq]
  case enum =>
    intro name entry
    rw [enum?, find?_eq_some_iff_least (map_index_enums table)]
    simp only [decide_eq_true_eq]
  case message_missing =>
    intro name
    rw [message?, List.find?_eq_none]
    simp only [decide_eq_true_eq, ne_eq]
  case enum_missing =>
    intro name
    rw [enum?, List.find?_eq_none]
    simp only [decide_eq_true_eq, ne_eq]
  case message_node =>
    intro name
    rw [SymbolTable.message?, messages_eq_map_node, List.find?_map]
    rfl
  case enum_node =>
    intro name
    rw [SymbolTable.enum?, enums_eq_map_node, List.find?_map]
    rfl

/-! ### Reports -/

/-- The types of a table with their places, kinds and names, in the order of registration. -/
def registrations (table : SymbolTable) : List (Place × Symbol) :=
  (located FileNode.types 0 table.files).map fun (file, type) => (⟨file, type.path⟩, type.symbol)

theorem mem_registrations_iff {place : Place} {symbol : Symbol} :
    (place, symbol) ∈ registrations table ↔ Lists table place symbol := by
  have messages := exists_mem_iff_of_map_eq (map_located_messages table) fun (file, node) =>
    Place.mk file node.path = place ∧ (.message, node.fullName) = symbol
  have enums := exists_mem_iff_of_map_eq (map_located_enums table) fun (file, node) =>
    Place.mk file node.path = place ∧ (.enumeration, node.fullName) = symbol
  refine Iff.trans ?_ (or_congr messages enums).symm
  rw [registrations, List.mem_map]
  constructor
  · rintro ⟨⟨file, type⟩, among, same⟩
    obtain ⟨position, node, found, rfl, inside⟩ := mem_located_iff.mp among
    cases same
    cases type with
    | message message =>
      exact .inl ⟨(_, message), mem_located_iff.mpr ⟨position, node, found, rfl,
        FileNode.mem_allMessages_iff.mpr inside⟩, rfl, rfl⟩
    | enumeration enum =>
      exact .inr ⟨(_, enum), mem_located_iff.mpr ⟨position, node, found, rfl,
        FileNode.mem_allEnums_iff.mpr inside⟩, rfl, rfl⟩
  · rintro (⟨⟨file, message⟩, among, rfl, rfl⟩ | ⟨⟨file, enum⟩, among, rfl, rfl⟩)
    · obtain ⟨position, node, found, rfl, inside⟩ := mem_located_iff.mp among
      exact ⟨(_, .message message), mem_located_iff.mpr ⟨position, node, found, rfl,
        FileNode.mem_allMessages_iff.mp inside⟩, rfl⟩
    · obtain ⟨position, node, found, rfl, inside⟩ := mem_located_iff.mp among
      exact ⟨(_, .enumeration enum), mem_located_iff.mpr ⟨position, node, found, rfl,
        FileNode.mem_allEnums_iff.mp inside⟩, rfl⟩

theorem map_symbol_registrations (table : SymbolTable) :
    (registrations table).map Prod.snd = table.symbols := by
  unfold registrations SymbolTable.symbols
  rw [List.map_map]
  show List.map (TypeNode.symbol ∘ Prod.snd) _ = _
  rw [← List.map_map, map_snd_located, List.map_flatMap]
  exact congrArg (fun symbols => table.files.flatMap symbols) (funext FileNode.map_symbol_types)

/-- **The names that are declared again are reported.** -/
theorem reports_ofFiles (supported : ∀ file ∈ files, file.IsSupported) :
    Reports (SymbolTable.declared files) (SymbolTable.ofFiles files).warnings := by
  have ordered : (registrations (SymbolTable.declared files)).Pairwise fun first second =>
      first.1.Before second.1 := by
    rw [registrations, List.pairwise_map]
    exact pairwise_places FileNode.types_ordered
  have symbols : (files.flatMap fun file => (FileNode.declare (eraOf file) file).symbols)
      = (registrations (SymbolTable.declared files)).map Prod.snd := by
    rw [map_symbol_registrations, SymbolTable.symbols, SymbolTable.declared, List.flatMap_map]
  have repeats := SymbolTable.repeated_eq_filter (fun _ _ => Place.not_before_of_before)
    Prod.snd [] (registrations (SymbolTable.declared files)) ordered
  rw [List.map_nil, List.nil_append] at repeats
  refine ⟨registrations (SymbolTable.declared files), ordered, fun _ _ => mem_registrations_iff, ?_⟩
  rw [SymbolTable.warnings_ofFiles supported, symbols, repeats, List.map_map]
  rfl

end Listing

/-! ### The listing of files -/

/-- **The listing of the table of files.** Files of known eras have a table. Its entries are the types of the
files, the numbers in them are those of the types directly inside, a name means the first type that has it, and
the warnings are about the later ones. -/
theorem SymbolTable.listing_ofFiles {files : List File} (supported : ∀ file ∈ files, file.IsSupported) :
    ∃ table, (ofFiles files).result = .ok table ∧ Listing.Covers files table ∧ Listing.Links table
      ∧ Listing.FindsFirst table ∧ Listing.Reports table (ofFiles files).warnings :=
  ⟨declared files, result_ofFiles supported, Listing.covers_declared files, Listing.links_declared files,
    Listing.findsFirst (declared files), Listing.reports_ofFiles supported⟩

/-- A file with types on two levels. -/
def shelfFile : File :=
  { package? := some "shelf"
    messages := [
      { name? := some "Book"
        messages := [{ name? := some "Page" }]
        enumerations := [{ name? := some "Cover", values := [{ name? := some "COVER_HARD" }] }] },
      { name? := some "Board" }]
    enumerations := [{ name? := some "Genre" }] }

/-- The file is listed twice, with a second type for each name. -/
theorem SymbolTable.listing_ofFiles_shelves : (∀ file ∈ [shelfFile, shelfFile], file.IsSupported)
    ∧ ∃ table, (ofFiles [shelfFile, shelfFile]).result = .ok table
      ∧ Listing.Covers [shelfFile, shelfFile] table ∧ Listing.Links table ∧ Listing.FindsFirst table
      ∧ Listing.Reports table (ofFiles [shelfFile, shelfFile]).warnings := by
  have supported : ∀ file ∈ [shelfFile, shelfFile], file.IsSupported := by
    intro file among
    obtain rfl : file = shelfFile := by simpa using among
    exact .inl rfl
  exact ⟨supported, listing_ofFiles supported⟩

example : (Listing.messages (SymbolTable.declared [shelfFile, shelfFile])).map
      (fun entry => (entry.index, entry.file, entry.node.path))
    = [(0, 0, [4, 0]), (1, 0, [4, 0, 3, 0]), (2, 0, [4, 1]), (3, 1, [4, 0]), (4, 1, [4, 0, 3, 0]),
      (5, 1, [4, 1])] := by
  decide

end ProtoSwift
