/-
**Which files are registered, and what is reported about their names.**

A file of a known era is registered after those that are there. It is reported when a type has the kind and
the full name of one that is registered already, be that in the same file or in an earlier one.

* `Schema.File.IsSupported` — a file of a known era;
* `SymbolTable.result_ofFiles` — files of known eras are registered in the order in which they are supplied;
* `SymbolTable.warnings_ofFiles` — the symbols that are reported are those that repeat one before them, also
  across files;
* `SymbolTable.repeated_eq_filter` — these are the symbols of the types that have an earlier type of their
  kind and name.
-/

import ProtoSwift.Proofs.Request.Reporting

namespace ProtoSwift

open Schema Schema.Request

/-! ### Files of known eras -/

/-- A file that declares no era, or one that is known. -/
def Schema.File.IsSupported (file : File) : Prop :=
  file.era? = none ∨ file.era? = some "" ∨ file.era? = some "proto2" ∨ file.era? = some "proto3"

theorem Era.ofDeclared_of_isSupported {file : File} (supported : file.IsSupported) :
    ofDeclared file.era? = .ok (eraOf file) := by
  unfold eraOf
  rcases supported with unset | empty | second | third
  · rw [unset]
    rfl
  · rw [empty]
    rfl
  · rw [second]
    rfl
  · rw [third]
    rfl

namespace SymbolTable

/-- The warning about a symbol that is registered again. -/
def repeatedWarning (symbol : Symbol) : Warning :=
  .duplicate symbol.1 symbol.2

/-- The table with one more file of a known era. -/
def withFile (table : SymbolTable) (file : File) : SymbolTable :=
  ⟨table.files ++ [FileNode.declare (eraOf file) file]⟩

variable {files : List File}

theorem add_of_isSupported {file : File} (supported : file.IsSupported) (table : SymbolTable) :
    table.add file = ⟨(repeated table.symbols (FileNode.declare (eraOf file) file).symbols).map repeatedWarning,
      .ok (table.withFile file)⟩ := by
  unfold add
  rw [Era.ofDeclared_of_isSupported supported]
  show Run.mk ([] ++ (_ ++ [])) _ = _
  rw [List.append_nil, List.nil_append]
  rfl

/-- **Files of known eras are added** after those that are there. -/
theorem result_foldlM_add (supported : ∀ file ∈ files, file.IsSupported) (table : SymbolTable) :
    (files.foldlM add table).result
      = .ok ⟨table.files ++ files.map fun file => FileNode.declare (eraOf file) file⟩ := by
  induction files generalizing table with
  | nil =>
    rw [List.map_nil, List.append_nil]
    rfl
  | cons file rest inRest =>
    rw [List.foldlM_cons, Run.result_bind, add_of_isSupported (supported file List.mem_cons_self)]
    have added := inRest (fun next among => supported next (List.mem_cons_of_mem _ among)) (table.withFile file)
    rw [SymbolTable.withFile, List.append_assoc] at added
    exact added

theorem result_ofFiles (supported : ∀ file ∈ files, file.IsSupported) :
    (ofFiles files).result = .ok ⟨files.map fun file => FileNode.declare (eraOf file) file⟩ :=
  result_foldlM_add supported {}

/-! ### Repeated symbols -/

/-- It matters which symbols have been seen, but not when or how often. -/
theorem repeated_congr {seen other : List Symbol} (same : ∀ symbol, symbol ∈ seen ↔ symbol ∈ other)
    (symbols : List Symbol) : repeated seen symbols = repeated other symbols := by
  induction symbols generalizing seen other with
  | nil => rfl
  | cons symbol rest inRest =>
    have contained : seen.contains symbol = other.contains symbol := by
      rw [Bool.eq_iff_iff, List.contains_iff_mem, List.contains_iff_mem]
      exact same symbol
    have extended : repeated (symbol :: seen) rest = repeated (symbol :: other) rest := by
      refine inRest fun next => ?_
      rw [List.mem_cons, List.mem_cons, same]
    rw [repeated, repeated, contained, inRest same, extended]

/-- One symbol is repeated if it has been seen, and has been seen from then on. -/
theorem repeated_cons (seen : List Symbol) (symbol : Symbol) (rest : List Symbol) :
    repeated seen (symbol :: rest)
      = (if symbol ∈ seen then [symbol] else []) ++ repeated (symbol :: seen) rest := by
  rw [repeated]
  by_cases again : symbol ∈ seen
  · rw [if_pos (List.contains_iff_mem.mpr again), if_pos again]
    refine congrArg (symbol :: ·) (repeated_congr (fun next => ?_) rest)
    rw [List.mem_cons]
    exact ⟨.inr, fun either => either.elim (fun same => same ▸ again) id⟩
  · rw [if_neg (fun contained => again (List.contains_iff_mem.mp contained)), if_neg again]
    rfl

theorem repeated_append (seen first second : List Symbol) :
    repeated seen (first ++ second) = repeated seen first ++ repeated (seen ++ first) second := by
  induction first generalizing seen with
  | nil => rw [List.nil_append, List.append_nil]; rfl
  | cons symbol rest inRest =>
    rw [List.cons_append, repeated_cons, repeated_cons, inRest, List.append_assoc]
    refine congrArg (_ ++ ·) (congrArg (_ ++ ·) (repeated_congr (fun next => ?_) second))
    rw [List.cons_append, List.mem_cons, List.mem_append, List.mem_append, List.mem_cons]
    exact or_left_comm

/-- **What is reported about files** are the symbols that repeat one before them. -/
theorem warnings_foldlM_add (supported : ∀ file ∈ files, file.IsSupported) (table : SymbolTable) :
    (files.foldlM add table).warnings
      = (repeated table.symbols (files.flatMap fun file => (FileNode.declare (eraOf file) file).symbols)).map
        repeatedWarning := by
  induction files generalizing table with
  | nil => rfl
  | cons file rest inRest =>
    have added := add_of_isSupported (supported file List.mem_cons_self) table
    have symbols : (table.withFile file).symbols = table.symbols ++ (FileNode.declare (eraOf file) file).symbols := by
      unfold SymbolTable.withFile SymbolTable.symbols
      rw [List.flatMap_append, List.flatMap_singleton]
    rw [List.foldlM_cons, Run.warnings_bind_of_ok _ _ (table.withFile file) (by rw [added]), added,
      inRest (fun next among => supported next (List.mem_cons_of_mem _ among)), symbols, List.flatMap_cons,
      repeated_append, List.map_append]

theorem warnings_ofFiles (supported : ∀ file ∈ files, file.IsSupported) :
    (ofFiles files).warnings
      = (repeated [] (files.flatMap fun file => (FileNode.declare (eraOf file) file).symbols)).map
        repeatedWarning :=
  warnings_foldlM_add supported {}

/-- **A symbol is reported if an earlier type has it.** The types are in an order that tells which of two is
earlier. -/
theorem repeated_eq_filter {α : Type} {before : α → α → Prop} [DecidableRel before]
    (notAfter : ∀ first second, before first second → ¬before second first) (symbol : α → Symbol)
    (earlier later : List α) (ordered : (earlier ++ later).Pairwise before) :
    repeated (earlier.map symbol) (later.map symbol)
      = (later.filter fun type => ∃ other ∈ earlier ++ later, before other type ∧ symbol other = symbol type).map
        symbol := by
  induction later generalizing earlier with
  | nil => rfl
  | cons type rest inRest =>
    have shifted : earlier ++ type :: rest = (earlier ++ [type]) ++ rest := by
      rw [List.append_assoc, List.singleton_append]
    have below := inRest (earlier ++ [type]) (shifted ▸ ordered)
    rw [← shifted] at below
    -- What comes before the first of the later types is exactly what is earlier.
    have reported : (∃ other ∈ earlier ++ type :: rest, before other type ∧ symbol other = symbol type)
        ↔ symbol type ∈ earlier.map symbol := by
      obtain ⟨_, first, across⟩ := List.pairwise_append.mp ordered
      rw [List.mem_map]
      constructor
      · rintro ⟨other, among, precedes, same⟩
        rcases List.mem_append.mp among with early | late
        · exact ⟨other, early, same⟩
        · rcases List.mem_cons.mp late with rfl | late
          · exact absurd precedes (notAfter _ _ precedes)
          · exact absurd ((List.pairwise_cons.mp first).1 other late) (notAfter _ _ precedes)
      · rintro ⟨other, early, same⟩
        exact ⟨other, List.mem_append_left _ early, across other early type List.mem_cons_self, same⟩
    have seen : repeated (symbol type :: earlier.map symbol) (rest.map symbol)
        = repeated ((earlier ++ [type]).map symbol) (rest.map symbol) := by
      refine repeated_congr (fun next => ?_) _
      rw [List.map_append, List.mem_cons, List.mem_append, List.map_singleton, List.mem_singleton, or_comm]
    rw [List.map_cons, repeated_cons, seen, below, List.filter_cons]
    by_cases again : symbol type ∈ earlier.map symbol
    · rw [if_pos again, if_pos (decide_eq_true (reported.mpr again))]
      rfl
    · rw [if_neg again, if_neg (fun holds => again (reported.mp (of_decide_eq_true holds)))]
      rfl

end SymbolTable

end ProtoSwift
