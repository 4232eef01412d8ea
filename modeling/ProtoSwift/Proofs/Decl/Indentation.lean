/-
**Nested declarations are standalone declarations, further in.**

The code of a declaration goes in and out many times, but it is back at its level at its end, and never goes out
further. So it prints at any level what it prints alone, with the indentation of the level in front of every line
that is not empty. Printing the text that it prints alone, instead of the code, comes to the same.

* `indentLines` — a text further in;
* `Code.EndsLine` — code that ends at the end of a line;
* `Printer.layout_deepen` — the same characters at deeper levels are laid out further in;
* `Code.StandsAlone`, `Code.Balanced.standsAlone` — code that prints its own text, further in;
* `EnumDecl.balanced_code`, `StructDecl.balanced_code` — declarations keep to their levels, however they are nested;
* `StructDecl.renderedSlotsCode` — the slots of inline fields, put together by a printer of their own;
* `declarations_stand_alone` — structs, enumerations and inline slots print their own texts, further in.
-/

import ProtoSwift.Decl.Struct
import ProtoSwift.Proofs.Text.Levels
import Mathlib

namespace ProtoSwift

open Printer Text

/-! ### Texts further in -/

/-- **A text further in**: the indentation of a level is in front of every line that is not empty. -/
def indentLines (level : Nat) (text : List Char) : List Char :=
  ['\n'].intercalate ((text.splitOn '\n').map fun line => if line = [] then [] else indentation level ++ line)

theorem splitOnP_map {α β : Type} (change : α → β) (separates : β → Bool) (elements : List α) :
    (elements.map change).splitOnP separates
      = (elements.splitOnP (separates ∘ change)).map (List.map change) := by
  induction elements with
  | nil => rfl
  | cons first rest inRest =>
    rw [List.map_cons, List.splitOnP_cons_eq_if_modifyHead, List.splitOnP_cons_eq_if_modifyHead, inRest]
    by_cases separator : separates (change first) = true
    · rw [if_pos separator, if_pos (by exact separator)]
      rfl
    · rw [if_neg separator, if_neg (by exact separator)]
      cases rest.splitOnP (separates ∘ change) <;> rfl

namespace Printer

/-- A character that is printed some levels deeper. -/
def deepen (base : Nat) (character : Glyph) : Glyph :=
  (character.1, base + character.2)

theorem indentation_add (base level : Nat) : indentation (base + level) = indentation base ++ indentation level := by
  unfold indentation
  rw [List.replicate_append_replicate, Nat.mul_add]

theorem glyphs_add (base level : Nat) (text : List Char) :
    glyphs (base + level) text = (glyphs level text).map (deepen base) := by
  unfold glyphs
  rw [List.map_map]
  rfl

theorem indentedLine_deepen (base : Nat) (line : List Glyph) : indentedLine (line.map (deepen base))
    = if indentedLine line = [] then [] else indentation base ++ indentedLine line := by
  cases line with
  | nil => rfl
  | cons character rest =>
    obtain ⟨c, level⟩ := character
    have full : indentedLine ((c, level) :: rest) ≠ [] := by simp [indentedLine]
    have same : (rest.map (deepen base)).map Prod.fst = rest.map Prod.fst := by
      rw [List.map_map]
      rfl
    rw [if_neg full, List.map_cons, deepen, indentedLine, indentedLine, indentation_add, same, List.append_assoc]

theorem not_mem_indentedLine {characters line : List Glyph} (isLine : line ∈ linesOf characters) :
    '\n' ∉ indentedLine line := by
  have plain : ∀ character ∈ line, character.1 ≠ '\n' := fun character among =>
    of_decide_eq_false (mem_of_mem_splitOnP isLine among).2
  cases line with
  | nil => exact List.not_mem_nil
  | cons character rest =>
    obtain ⟨c, level⟩ := character
    show '\n' ∉ indentation level ++ ((c, level) :: rest).map Prod.fst
    rw [List.mem_append]
    rintro (inFront | inLine)
    · exact absurd (List.eq_of_mem_replicate inFront) (by decide)
    · obtain ⟨character, among, feed⟩ := List.mem_map.mp inLine
      exact plain character among feed

/-- **The same characters at deeper levels are laid out further in.** -/
theorem layout_deepen (base : Nat) (characters : List Glyph) :
    layout true (characters.map (deepen base)) = indentLines base (layout true characters) := by
  have plain : ∀ line ∈ (linesOf characters).map indentedLine, '\n' ∉ line := by
    intro line among
    obtain ⟨own, isLine, rfl⟩ := List.mem_map.mp among
    exact not_mem_indentedLine isLine
  have some : (linesOf characters).map indentedLine ≠ [] := by
    rw [Ne, List.map_eq_nil_iff]
    exact List.splitOnP_ne_nil _ _
  have lines : linesOf (characters.map (deepen base)) = (linesOf characters).map (List.map (deepen base)) :=
    splitOnP_map _ _ _
  rw [layout_eq_lines, lines, layout_eq_lines, indentLines, List.splitOn_intercalate '\n' plain some,
    List.map_map, List.map_map]
  exact congrArg _ (List.map_congr_left fun line _ => indentedLine_deepen base line)

/-- At the outermost level a text is laid out as it is. -/
theorem layout_glyphs_zero (starts : Bool) (text : List Char) : layout starts (glyphs 0 text) = text := by
  induction text generalizing starts with
  | nil => rfl
  | cons c rest inRest =>
    show (if _ then indentation 0 else []) ++ c :: layout _ (glyphs 0 rest) = c :: rest
    rw [inRest]
    split <;> rfl

theorem layout_eq_nil_iff {starts : Bool} {characters : List Glyph} :
    layout starts characters = [] ↔ characters = [] := by
  cases characters <;> simp [layout]

/-- Steps print no text if all their texts are empty. -/
theorem render_eq_empty_iff {steps : List Step} : render steps = "" ↔ ∀ step ∈ steps, textOf step = [] := by
  rw [← String.toList_eq_nil_iff, toList_render, layout_eq_nil_iff, ← List.flatMap_eq_nil_iff, ← map_fst_printed 0,
    List.map_eq_nil_iff]

/-- Indentation does not end a line. -/
theorem endsLine_layout (starts : Bool) (level : Nat) (characters : List Glyph) :
    endsLine starts (glyphs level (layout starts characters)) = endsLine starts characters := by
  induction characters generalizing starts with
  | nil => rfl
  | cons character rest inRest =>
    obtain ⟨c, own⟩ := character
    rw [layout, glyphs_append, endsLine_append]
    exact inRest (decide (c = '\n'))

end Printer

/-! ### Code that keeps to its level -/

namespace Code

/-- Code that keeps to its level prints its characters as deep as it is itself. -/
theorem Balanced.printed {code : Code} (balanced : code.Balanced) (base level : Nat) :
    Printer.printed (base + level) code = (Printer.printed level code).map (deepen base) := by
  rw [printed_eq_flatMap_texts, printed_eq_flatMap_texts, balanced.shifted, List.flatMap_map, List.map_flatMap]
  exact List.flatMap_congr fun text _ => glyphs_add base text.1 text.2.toList

/-- Code that is printed from the start of a line to the end of one. -/
def EndsLine (code : Code) : Prop :=
  ∀ level, endsLine true (Printer.printed level code) = true

/-- **Code that prints its own text, further in**: from the start of a line it leads to the start of a line at the
same level, and what it adds is the text that it prints on a new printer, with the indentation of the level. -/
def StandsAlone (code : Code) : Prop :=
  ∀ content level, Printer.run ⟨content, level, true⟩ code
    = ⟨content ++ String.ofList (indentLines level (render code).toList), level, true⟩

variable {code other : Code}

theorem EndsLine.nil : EndsLine [] :=
  fun _ => rfl

/-- A line ends its line, whatever is in front of it. -/
theorem EndsLine.append_line (code : Code) (text : String) : EndsLine (code ++ Code.line text) := by
  intro level
  have feed : (text ++ "\n").toList = text.toList ++ ['\n'] := String.toList_append
  rw [printed_append, endsLine_append, Code.line, Printer.printed, Printer.printed, List.append_nil, feed,
    endsLine_glyphs (List.append_ne_nil_of_right_ne_nil _ (List.cons_ne_nil _ _)), List.getLast?_concat]
  rfl

theorem EndsLine.append (first : code.EndsLine) (second : other.EndsLine) : EndsLine (code ++ other) := by
  intro level
  rw [printed_append, endsLine_append, first, second]

theorem EndsLine.flatMap {α : Type} {elements : List α} {make : α → Code}
    (each : ∀ element ∈ elements, (make element).EndsLine) : EndsLine (elements.flatMap make) := by
  induction elements with
  | nil => exact EndsLine.nil
  | cons first rest inRest =>
    rw [List.flatMap_cons]
    exact (each first List.mem_cons_self).append
      (inRest fun element among => each element (List.mem_cons_of_mem _ among))

/-- **Code that keeps to its level and ends its line prints its own text, further in.** -/
theorem Balanced.standsAlone (balanced : code.Balanced) (ends : code.EndsLine) : code.StandsAlone := by
  intro content level
  have deeper : Printer.printed level code = (Printer.printed 0 code).map (deepen level) := balanced.printed level 0
  rw [run_eq, advance]
  simp only [balanced.levelAfter, ends level]
  rw [deeper, layout_deepen, toList_render]

/-- Printing the text of code that stands alone is printing the code. -/
theorem StandsAlone.run_lines (alone : code.StandsAlone) (ends : code.EndsLine) (content : String) (level : Nat) :
    Printer.run ⟨content, level, true⟩ (Code.lines (render code)) = Printer.run ⟨content, level, true⟩ code := by
  have text : Printer.printed level (Code.lines (render code))
      = (glyphs 0 (render code).toList).map (deepen level) := by
    rw [Code.lines, Printer.printed, Printer.printed, List.append_nil, ← glyphs_add]
    rfl
  have behind : endsLine true (Printer.printed level (Code.lines (render code))) = true := by
    rw [Code.lines, Printer.printed, Printer.printed, List.append_nil, toList_render, endsLine_layout, ends]
  rw [alone, run_eq, advance]
  simp only [behind]
  rw [text, layout_deepen, layout_glyphs_zero]
  rfl

end Code

/-! ### Declarations keep to their levels -/

theorem Interface.balanced_propertyCode (interface : Interface) : interface.propertyCode.Balanced := by
  unfold propertyCode
  cases interface.body with
  | stored initial => exact .line _
  | computed read fallback? write => exact ((Code.Balanced.line _).append (.line _)).block _ _

theorem PresenceMembers.balanced_code (members : PresenceMembers) : members.code.Balanced :=
  (((Code.Balanced.line _).append (.line _)).append (.line _)).append (.line _)

/-- The members for a field keep to their level. -/
theorem Interface.balanced_code (interface : Interface) : interface.code.Balanced :=
  ((Code.Balanced.blank.append (.lines _)).append interface.balanced_propertyCode).append
    (.getD PresenceMembers.balanced_code)

theorem ValueCheck.balanced_code (check : ValueCheck) : check.code.Balanced :=
  .ite (.line _) (.line _)

namespace EnumDecl

variable (decl : EnumDecl)

theorem balanced_casesCode : decl.casesCode.Balanced :=
  (Code.Balanced.flatMap fun _ _ => (Code.Balanced.lines _).append (.line _)).append (.ite (.line _) .nil)

theorem balanced_initCode : decl.initCode.Balanced := by
  unfold initCode
  cases decl.initialCase? with
  | none => exact .nil
  | some value => exact Code.Balanced.blank.append ((Code.Balanced.line _).block _ _)

theorem balanced_ofNumberCode : decl.ofNumberCode.Balanced :=
  Code.Balanced.blank.append (((((Code.Balanced.line _).append (.flatMap fun _ _ => .line _)).append
    (.line _)).append (.line _)).block _ _)

theorem balanced_numberCode : decl.numberCode.Balanced :=
  Code.Balanced.blank.append (((((Code.Balanced.line _).append (.flatMap fun _ _ => .line _)).append
    (.ite (.line _) .nil)).append (.line _)).block _ _)

theorem balanced_aliasesCode : decl.aliasesCode.Balanced :=
  .ite .nil (Code.Balanced.blank.append (.flatMap fun _ _ => .line _))

/-- What is inside an enumeration keeps to its level. -/
theorem balanced_inside : Code.Balanced (Code.line (decl.modifier ++ "typealias RawValue = Int")
    ++ decl.casesCode ++ decl.initCode ++ decl.ofNumberCode ++ decl.numberCode ++ decl.aliasesCode) :=
  (((((Code.Balanced.line _).append decl.balanced_casesCode).append decl.balanced_initCode).append
    decl.balanced_ofNumberCode).append decl.balanced_numberCode).append decl.balanced_aliasesCode

/-- **An enumeration keeps to its level.** -/
theorem balanced_code : decl.code.Balanced :=
  (Code.Balanced.lines _).append (decl.balanced_inside.block _ _)

end EnumDecl

namespace StructDecl

variable (decl : StructDecl)

theorem balanced_withStorage {call : String} {body : Code} (inside : body.Balanced) :
    (decl.withStorage call body).Balanced :=
  .ite (inside.block _ _) inside

theorem balanced_slotsCode : decl.slotsCode.Balanced :=
  .flatMap fun _ _ => .getD fun _ => .line _

theorem balanced_inlineSlotsCode : decl.inlineSlotsCode.Balanced :=
  .ite .nil (Code.Balanced.blank.append decl.balanced_slotsCode)

theorem balanced_membersCode : decl.membersCode.Balanced := by
  have members : Code.Balanced (decl.fields.flatMap fun field => field.interface.code) :=
    .flatMap fun field _ => field.interface.balanced_code
  exact ((((Code.Balanced.line _).append decl.balanced_inlineSlotsCode).append members).append .blank).append
    (.line _)

/-- The checks of the required fields keep to their level. -/
theorem balanced_checks : Code.Balanced
    (decl.fields.flatMap (fun field => (field.required?.map RequiredCheck.code).getD [])
      ++ decl.fields.flatMap (fun field => (field.initialized?.map ValueCheck.code).getD [])
      ++ Code.line "return true") := by
  have required :
      Code.Balanced (decl.fields.flatMap fun field => (field.required?.map RequiredCheck.code).getD []) :=
    .flatMap fun _ _ => .getD fun _ => .line _
  have values :
      Code.Balanced (decl.fields.flatMap fun field => (field.initialized?.map ValueCheck.code).getD []) :=
    .flatMap fun _ _ => .getD ValueCheck.balanced_code
  exact (required.append values).append (.line _)

theorem isBlock_isInitializedCode :
    Code.IsBlock (decl.modifier ++ "var isInitialized: Bool \x7b") decl.isInitializedCode :=
  ⟨decl.balanced_withStorage decl.balanced_checks⟩

theorem isBlock_decodeMessageCode : Code.IsBlock (decl.modifier
    ++ "mutating func decodeMessage<D: SwiftProtobuf.Decoder>(decoder: inout D) throws \x7b") decl.decodeMessageCode := by
  have loop : Code.Balanced (Code.line "switch fieldNumber \x7b"
      ++ decl.fieldsByNumber.flatMap (fun field => field.decode.code)
      ++ Code.line "default: break" ++ Code.line "\x7d") :=
    (((Code.Balanced.line _).append (.flatMap fun _ _ => .line _)).append (.line _)).append (.line _)
  exact ⟨Code.Balanced.append (.ite (.line _) .nil) (decl.balanced_withStorage (loop.block _ _))⟩

theorem isBlock_traverseCode : Code.IsBlock (decl.modifier
    ++ "func traverse<V: SwiftProtobuf.Visitor>(visitor: inout V) throws \x7b") decl.traverseCode := by
  have visits : Code.Balanced (decl.fieldsByNumber.flatMap fun field => field.visit.code) :=
    .flatMap fun _ _ => (Code.Balanced.line _).block _ _
  exact ⟨(decl.balanced_withStorage visits).append (.line _)⟩

theorem isBlock_equalityCode : Code.IsBlock (decl.modifier ++ "func _protobuf_generated_isEqualTo(other: "
    ++ decl.swiftName ++ ") -> Bool \x7b") decl.equalityCode := by
  have comparisons : decl.comparisonsCode.Balanced := .flatMap fun _ _ => .line _
  have storages : decl.storageComparisonCode.Balanced :=
    (Code.Balanced.append ((Code.Balanced.append (((Code.Balanced.line _).append (.line _)).append comparisons)
      (.line _)).block _ _) (.line _)).block _ _
  exact ⟨((Code.Balanced.ite storages comparisons).append (.line _)).append (.line _)⟩

/-- The class of the shared object, the method that copies it, and the reference to it. -/
theorem storageClassCode_eq : ∃ storageClass unique, Code.IsBlock "fileprivate class _StorageClass \x7b" storageClass
    ∧ Code.IsBlock "fileprivate mutating func _uniqueStorage() -> _StorageClass \x7b" unique
    ∧ decl.storageClassCode = storageClass ++ Code.blank ++ unique ++ Code.blank
      ++ Code.line "fileprivate var _storage = _StorageClass()" := by
  have clones : Code.Balanced (decl.fields.flatMap fun field => field.clone.code) := .flatMap fun _ _ => .line _
  have members := (((decl.balanced_slotsCode.append .blank).append (.line "init() \x7b\x7d")).append .blank).append
    (clones.block "init(copying source: _StorageClass) \x7b" "\x7d")
  have copy := ((Code.Balanced.line "_storage = _StorageClass(copying: _storage)").block
    "if !isKnownUniquelyReferenced(&_storage) \x7b" "\x7d").append (.line "return _storage")
  exact ⟨_, _, ⟨members⟩, ⟨copy⟩, rfl⟩

theorem balanced_storageClassCode : decl.storageClassCode.Balanced := by
  obtain ⟨storageClass, unique, isClass, isUnique, whole⟩ := decl.storageClassCode_eq
  rw [whole]
  exact (((isClass.balanced.append .blank).append isUnique.balanced).append .blank).append (.line _)

theorem balanced_conformanceCode : decl.conformanceCode.Balanced := by
  have required : Code.Balanced (if decl.checksRequired then Code.blank ++ decl.isInitializedCode else []) :=
    .ite (Code.Balanced.blank.append decl.isBlock_isInitializedCode.balanced) .nil
  have storage : Code.Balanced (if decl.heap then Code.blank ++ decl.storageClassCode else []) :=
    .ite (Code.Balanced.blank.append decl.balanced_storageClassCode) .nil
  exact (((((((((Code.Balanced.blank.append (.line _)).append required).append .blank).append
    decl.isBlock_decodeMessageCode.balanced).append .blank).append decl.isBlock_traverseCode.balanced).append
      .blank).append decl.isBlock_equalityCode.balanced).append storage)

theorem balanced_enums : Code.Balanced (decl.enums.flatMap fun nested => Code.blank ++ nested.code) :=
  .flatMap fun nested _ => Code.Balanced.blank.append nested.balanced_code

theorem balanced_of_nested {decl : StructDecl} (nested : (codes decl.structs).Balanced) : decl.code.Balanced := by
  have inside := ((decl.balanced_membersCode.append decl.balanced_enums).append nested).append
    decl.balanced_conformanceCode
  rw [code_eq]
  exact (Code.Balanced.lines _).append (inside.block _ _)

mutual

/-- **A struct keeps to its level**, with all the structs and enumerations inside it. -/
theorem balanced_code : (decl : StructDecl) → decl.code.Balanced
  | ⟨_, _, _, _, _, _, _, _, _, structs⟩ => balanced_of_nested (balanced_codes structs)

theorem balanced_codes : (decls : List StructDecl) → (codes decls).Balanced
  | [] => .nil
  | decl :: rest => (Code.Balanced.blank.append (balanced_code decl)).append (balanced_codes rest)

end

/-- What is inside a struct keeps to its level. -/
theorem balanced_inside : Code.Balanced (decl.membersCode
    ++ decl.enums.flatMap (fun nested => Code.blank ++ nested.code) ++ codes decl.structs ++ decl.conformanceCode) :=
  ((decl.balanced_membersCode.append decl.balanced_enums).append (balanced_codes decl.structs)).append
    decl.balanced_conformanceCode

/-! ### Slots through a printer of their own -/

/-- **The slots of inline fields, put together by a printer of their own**, whose text is printed behind an empty
line unless it is empty. -/
def renderedSlotsCode : Code :=
  let slots := Printer.render decl.slotsCode
  if decl.heap || slots = "" then [] else Code.blank ++ Code.lines slots

theorem endsLine_slotsCode : decl.slotsCode.EndsLine := by
  refine .flatMap fun field _ => ?_
  cases field.storage? with
  | none => exact .nil
  | some slot => exact .append_line [] _

theorem render_slotsCode_eq_empty_iff :
    Printer.render decl.slotsCode = "" ↔ decl.fields.all (·.storage?.isNone) = true := by
  rw [render_eq_empty_iff, slotsCode, List.forall_mem_flatMap, List.all_eq_true]
  refine forall₂_congr fun field _ => ?_
  cases field.storage? with
  | none => simp
  | some slot => simp [SlotDeclaration.code, Code.line, textOf]

/-- **Slots may be put together by a printer of their own**: what is printed is the same. -/
theorem run_renderedSlotsCode (content : String) (level : Nat) :
    Printer.run ⟨content, level, true⟩ decl.renderedSlotsCode
      = Printer.run ⟨content, level, true⟩ decl.inlineSlotsCode := by
  have slots : decl.slotsCode.StandsAlone := decl.balanced_slotsCode.standsAlone decl.endsLine_slotsCode
  have same : (decl.heap || decide (Printer.render decl.slotsCode = ""))
      = (decl.heap || decl.fields.all (·.storage?.isNone)) := by
    simp only [decl.render_slotsCode_eq_empty_iff, Bool.decide_eq_true]
  unfold renderedSlotsCode inlineSlotsCode
  simp only [same]
  split
  · rfl
  · have blank : Printer.run ⟨content, level, true⟩ Code.blank = ⟨content ++ "\n", level, true⟩ := rfl
    rw [run_append, run_append, blank, slots.run_lines decl.endsLine_slotsCode]

theorem endsLine_inlineSlotsCode : decl.inlineSlotsCode.EndsLine := by
  unfold inlineSlotsCode
  split
  · exact .nil
  · exact Code.EndsLine.append (.append_line [] "") decl.endsLine_slotsCode

end StructDecl

/-- **Declarations print their own texts, further in.** From the start of a line the code of a struct, with all that
is nested in it, or of an enumeration leads to the start of a line at the same level, and adds the text that it prints
on a new printer with the indentation of the level in front of every line that is not empty. So do the slots of inline
fields, and they print the same whether a printer of their own puts them together or not. -/
theorem declarations_stand_alone :
    (∀ decl : StructDecl, decl.code.StandsAlone)
      ∧ (∀ decl : EnumDecl, decl.code.StandsAlone)
      ∧ ∀ decl : StructDecl, decl.renderedSlotsCode.StandsAlone
        ∧ ∀ (content : String) (level : Nat), Printer.run ⟨content, level, true⟩ decl.renderedSlotsCode
          = Printer.run ⟨content, level, true⟩ decl.inlineSlotsCode := by
  refine ⟨fun decl => ?_, fun decl => ?_, fun decl => ⟨fun content level => ?_, decl.run_renderedSlotsCode⟩⟩
  · refine decl.balanced_code.standsAlone ?_
    rw [decl.code_eq, Code.block, ← List.append_assoc]
    exact .append_line _ _
  · refine decl.balanced_code.standsAlone ?_
    rw [EnumDecl.code, Code.block, ← List.append_assoc]
    exact .append_line _ _
  · have text : Printer.render decl.renderedSlotsCode = Printer.render decl.inlineSlotsCode :=
      congrArg Printer.content (decl.run_renderedSlotsCode "" 0)
    rw [decl.run_renderedSlotsCode, text]
    exact decl.balanced_inlineSlotsCode.standsAlone decl.endsLine_inlineSlotsCode content level

end ProtoSwift
