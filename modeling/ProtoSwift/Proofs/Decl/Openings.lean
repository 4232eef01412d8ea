/-
**Reading the types that code declares.**

A struct or an enumeration is declared by a block, whose first line names it. A reader walks through code, keeps
track of the blocks around it, and lists every block that starts like the declaration of a type. So the list has
everything that is declared, and where. Code that declares no type is told apart by the words that its blocks
start with.

* `TypeHead.read?` — the type that is declared by a block that starts with a line;
* `TypeHead.read?_eq_none`, `TypeHead.read?_struct`, `TypeHead.read?_enumeration` — how lines are read;
* `Code.declared` — the types that code declares, each with the blocks around it;
* `Declares`, `DeclaresNone` — what code declares, wherever it stands, and how that follows from its parts.
-/

import ProtoSwift.Options
import ProtoSwift.Printer
import Mathlib

namespace ProtoSwift

/-! ### First lines of declarations -/

/-- A type as the first line of its declaration names it. -/
inductive TypeHead
  | struct (name : String)
  | enumeration (name : String)
  deriving DecidableEq, Repr

def TypeHead.name : TypeHead → String
  | struct name | enumeration name => name

/-- What stands between two texts. -/
def between? (opening closing : String) (text : List Char) : Option String :=
  ((opening.toList.isPrefixOf? text).bind (closing.toList.isSuffixOf? ·)).map String.ofList

namespace TypeHead

/-- A line without the modifier that lets everybody use what it declares. -/
def withoutModifier (line : String) : List Char :=
  ("public ".toList.isPrefixOf? line.toList).getD line.toList

/-- What follows the name of a struct on the first line of its declaration. -/
def structEnd : String :=
  ": SwiftProtobuf.Message, SwiftProtobuf._MessageImplementationBase \x7b\n"

/-- What follows the name of an enumeration on the first line of its declaration. -/
def enumEnd : String :=
  ": SwiftProtobuf.Enum \x7b\n"

/-- **The type that is declared by a block that starts with a line.** -/
def read? (line : String) : Option TypeHead :=
  match between? "struct " structEnd (withoutModifier line) with
  | some name => some (.struct name)
  | none => (between? "enum " enumEnd (withoutModifier line)).map .enumeration

end TypeHead

theorem between?_append (opening closing name : String) :
    between? opening closing (opening ++ name ++ closing).toList = some name := by
  have rest : opening.toList.isPrefixOf? (opening ++ name ++ closing).toList
      = some (name.toList ++ closing.toList) := by
    rw [List.isPrefixOf?_eq_some_iff_append_eq, String.toList_append, String.toList_append, List.append_assoc]
  have whole : closing.toList.isSuffixOf? (name.toList ++ closing.toList) = some name.toList :=
    List.isSuffixOf?_eq_some_iff_append_eq.mpr rfl
  unfold between?
  rw [rest, Option.bind_some, whole, Option.map_some, String.ofList_toList]

/-- A text does not start like a declaration if its first character is another one. -/
theorem between?_of_ne {opening closing : String} {text : List Char} {first other : Char} {rest : List Char}
    (spelt : opening.toList = first :: rest) (starts : text.head? = some other) (different : first ≠ other) :
    between? opening closing text = none := by
  cases text with
  | nil => cases starts
  | cons head tail =>
    cases starts
    have none : List.isPrefixOf? (first :: rest) (other :: tail) = none := by
      simp [List.isPrefixOf?, different]
    unfold between?
    rw [spelt, none]
    rfl

/-- The modifiers that lines of code start with. -/
def IsModifier (modifier : String) : Prop :=
  modifier = "" ∨ modifier = "public " ∨ modifier = "private "

theorem AccessLevel.isModifier_modifier (level : AccessLevel) : IsModifier level.modifier := by
  cases level
  · exact Or.inl rfl
  · exact Or.inr (Or.inl rfl)
  · exact Or.inr (Or.inr rfl)

theorem AccessLevel.isModifier_typeModifier (level : AccessLevel) : IsModifier level.typeModifier := by
  cases level
  · exact Or.inl rfl
  · exact Or.inr (Or.inl rfl)
  · exact Or.inl rfl

/-- A text that starts neither like a declaration of a type nor like a modifier. -/
def StartsOther (text : String) : Prop :=
  ∃ first, text.toList.head? = some first ∧ first ≠ 's' ∧ first ≠ 'e' ∧ first ≠ 'p'

theorem StartsOther.append {text : String} (other : StartsOther text) (more : String) :
    StartsOther (text ++ more) := by
  obtain ⟨first, starts, different⟩ := other
  refine ⟨first, ?_, different⟩
  rw [String.toList_append, List.head?_append, starts]
  rfl

namespace TypeHead

theorem withoutModifier_public (text : String) : withoutModifier ("public " ++ text) = text.toList := by
  have rest : "public ".toList.isPrefixOf? ("public " ++ text).toList = some text.toList := by
    rw [List.isPrefixOf?_eq_some_iff_append_eq, String.toList_append]
  unfold withoutModifier
  rw [rest]
  rfl

theorem withoutModifier_of_ne {text : String} {first : Char} (starts : text.toList.head? = some first)
    (different : first ≠ 'p') : withoutModifier text = text.toList := by
  have none : "public ".toList.isPrefixOf? text.toList = none := by
    cases spelt : text.toList with
    | nil => rfl
    | cons head rest =>
      rw [spelt] at starts
      cases starts
      show List.isPrefixOf? ('p' :: _) _ = _
      simp [List.isPrefixOf?, different.symm]
  unfold withoutModifier
  rw [none]
  rfl

theorem withoutModifier_private (text : String) :
    (withoutModifier ("private " ++ text)).head? = some 'p' := by
  have spelt : ("private " ++ text).toList = 'p' :: 'r' :: ("ivate ".toList ++ text.toList) := by
    rw [String.toList_append]
    rfl
  have none : "public ".toList.isPrefixOf? ("private " ++ text).toList = none := by
    rw [spelt]
    show List.isPrefixOf? ('p' :: 'u' :: _) _ = _
    simp [List.isPrefixOf?]
  unfold withoutModifier
  rw [none, spelt]
  rfl

/-- **A block that starts with another word declares no type.** -/
theorem read?_eq_none {modifier text : String} (known : IsModifier modifier) (other : StartsOther text) :
    read? (modifier ++ text) = none := by
  have none : ∀ line : List Char, (∃ first, line.head? = some first ∧ first ≠ 's' ∧ first ≠ 'e') →
      between? "struct " structEnd line = none ∧ between? "enum " enumEnd line = none := by
    rintro line ⟨first, starts, noStruct, noEnum⟩
    exact ⟨between?_of_ne rfl starts noStruct.symm, between?_of_ne rfl starts noEnum.symm⟩
  obtain ⟨first, starts, noStruct, noEnum, noModifier⟩ := other
  have line : ∃ first, (withoutModifier (modifier ++ text)).head? = some first ∧ first ≠ 's' ∧ first ≠ 'e' := by
    rcases known with rfl | rfl | rfl
    · refine ⟨first, ?_, noStruct, noEnum⟩
      rw [String.empty_append, withoutModifier_of_ne starts noModifier]
      exact starts
    · refine ⟨first, ?_, noStruct, noEnum⟩
      rw [withoutModifier_public]
      exact starts
    · exact ⟨'p', withoutModifier_private text, by decide, by decide⟩
  unfold read?
  rw [(none _ line).1, (none _ line).2]
  rfl

end TypeHead

/-- A line that starts like no declaration of a type, after a modifier or none. -/
def NamesNoType (line : String) : Prop :=
  ∃ modifier text, IsModifier modifier ∧ StartsOther text ∧ line = modifier ++ text

namespace NamesNoType

theorem ofModifier {modifier text : String} (known : IsModifier modifier) (other : StartsOther text) :
    NamesNoType (modifier ++ text) :=
  ⟨modifier, text, known, other, rfl⟩

theorem ofText {text : String} (other : StartsOther text) : NamesNoType text :=
  ⟨"", text, Or.inl rfl, other, String.empty_append.symm⟩

theorem append {line : String} (names : NamesNoType line) (more : String) : NamesNoType (line ++ more) := by
  obtain ⟨modifier, text, known, other, rfl⟩ := names
  exact ⟨modifier, text ++ more, known, other.append more, String.append_assoc⟩

theorem read?_eq_none {line : String} (names : NamesNoType line) : TypeHead.read? line = none := by
  obtain ⟨modifier, text, known, other, rfl⟩ := names
  exact TypeHead.read?_eq_none known other

end NamesNoType

namespace TypeHead

theorem withoutModifier_typeModifier (level : AccessLevel) {text : String} {first : Char}
    (starts : text.toList.head? = some first) (different : first ≠ 'p') :
    withoutModifier (level.typeModifier ++ text) = text.toList := by
  cases level
  · exact (congrArg withoutModifier String.empty_append).trans (withoutModifier_of_ne starts different)
  · exact withoutModifier_public text
  · exact (congrArg withoutModifier String.empty_append).trans (withoutModifier_of_ne starts different)

theorem head?_toList_append {text more : String} {first : Char} (starts : text.toList.head? = some first) :
    (text ++ more).toList.head? = some first := by
  rw [String.toList_append, List.head?_append, starts]
  rfl

/-- The first line of a struct names the struct. -/
theorem read?_struct (level : AccessLevel) (name : String) :
    read? (level.typeModifier ++ ("struct " ++ name ++ structEnd)) = some (.struct name) := by
  have starts : ("struct " ++ name ++ structEnd).toList.head? = some 's' :=
    head?_toList_append (head?_toList_append rfl)
  unfold read?
  rw [withoutModifier_typeModifier level starts (by decide), between?_append]

/-- The first line of an enumeration names the enumeration. -/
theorem read?_enumeration (level : AccessLevel) (name : String) :
    read? (level.typeModifier ++ ("enum " ++ name ++ enumEnd)) = some (.enumeration name) := by
  have starts : ("enum " ++ name ++ enumEnd).toList.head? = some 'e' :=
    head?_toList_append (head?_toList_append rfl)
  unfold read?
  rw [withoutModifier_typeModifier level starts (by decide), between?_of_ne rfl starts (by decide),
    between?_append]
  rfl

end TypeHead

/-! ### Reading declarations -/

/-- A declared type with the blocks around its declaration, the outermost first. A block that declares no type
has no head. -/
structure DeclaredType where
  around : List (Option TypeHead)
  head : TypeHead
  deriving DecidableEq, Repr

/-- The path that leads to a declaration: the names of the types that the blocks around it declare, and its
own. -/
def DeclaredType.path (declared : DeclaredType) : String :=
  ".".intercalate (declared.around.filterMap (·.map TypeHead.name) ++ [declared.head.name])

/-- **The types that code declares**, in the order in which it declares them, inside some blocks. -/
def Code.declared (around : List (Option TypeHead)) : Code → List DeclaredType
  | [] => []
  | .print line :: .indent :: rest =>
    (TypeHead.read? line).toList.map (⟨around, ·⟩) ++ declared (around ++ [TypeHead.read? line]) rest
  | .print _ :: rest => declared around rest
  | .indent :: rest => declared (around ++ [none]) rest
  | .outdent :: rest => declared around.dropLast rest

/-- **What code declares, wherever it stands.** The code does not go on from a line before it, and leaves the
blocks around it as they are. -/
structure Declares (code : Code) (types : List (Option TypeHead) → List DeclaredType) : Prop where
  start : code.head? ≠ some .indent
  declared_append : ∀ around rest, rest.head? ≠ some .indent →
    Code.declared around (code ++ rest) = types around ++ Code.declared around rest

/-- Whether code has lines only, and no blocks. -/
def Code.isStraight (code : Code) : Bool :=
  code.all fun
    | .print _ => true
    | .indent | .outdent => false

/-- Code that declares no type. -/
def DeclaresNone (code : Code) : Prop :=
  Declares code fun _ => []

theorem Code.declared_print (around : List (Option TypeHead)) (text : String) {rest : Code}
    (ends : rest.head? ≠ some .indent) : declared around (.print text :: rest) = declared around rest := by
  cases rest with
  | nil => rfl
  | cons step rest =>
    cases step with
    | print _ => rfl
    | indent => exact absurd rfl ends
    | outdent => rfl

namespace Declares

variable {code other : Code} {types more : List (Option TypeHead) → List DeclaredType}

theorem declared_eq (declares : Declares code types) (around : List (Option TypeHead)) :
    Code.declared around code = types around := by
  have alone := declares.declared_append around [] (by simp)
  rwa [List.append_nil, Code.declared, List.append_nil] at alone

theorem nil : Declares [] fun _ => [] :=
  ⟨by simp, fun _ _ _ => rfl⟩

theorem head?_append_ne (declares : Declares code types) {rest : Code} (ends : rest.head? ≠ some .indent) :
    (code ++ rest).head? ≠ some .indent := by
  rw [List.head?_append]
  intro first
  rcases Option.or_eq_some_iff.mp first with here | ⟨_, later⟩
  · exact declares.start here
  · exact ends later

theorem append (first : Declares code types) (second : Declares other more) :
    Declares (code ++ other) fun around => types around ++ more around := by
  refine ⟨first.head?_append_ne second.start, fun around rest ends => ?_⟩
  rw [List.append_assoc, first.declared_append around _ (second.head?_append_ne ends),
    second.declared_append around rest ends, List.append_assoc]

theorem flatMap {α : Type} {elements : List α} {make : α → Code}
    {typesOf : α → List (Option TypeHead) → List DeclaredType}
    (each : ∀ element ∈ elements, Declares (make element) (typesOf element)) :
    Declares (elements.flatMap make) fun around => elements.flatMap (typesOf · around) := by
  induction elements with
  | nil => exact nil
  | cons first rest inRest =>
    have here := each first List.mem_cons_self
    have later := inRest fun element among => each element (List.mem_cons_of_mem _ among)
    exact here.append later

/-- A block declares what its first line declares, and inside it what its body declares. -/
theorem block (inside : Declares code types) (opening closing : String) :
    Declares (Code.block opening code closing) fun around =>
      (TypeHead.read? (opening ++ "\n")).toList.map (⟨around, ·⟩)
        ++ types (around ++ [TypeHead.read? (opening ++ "\n")]) := by
  refine ⟨by simp [Code.block, Code.line], fun around rest ends => ?_⟩
  have whole : Code.block opening code closing ++ rest
      = .print (opening ++ "\n") :: .indent :: (code ++ (.outdent :: .print (closing ++ "\n") :: rest)) := by
    simp [Code.block, Code.line, Code.indented]
  rw [whole, Code.declared, inside.declared_append _ _ (by simp), Code.declared, List.dropLast_concat,
    Code.declared_print _ _ ends, List.append_assoc]

end Declares

namespace Declares

variable {code other : Code} {types : List (Option TypeHead) → List DeclaredType}

/-- Code may come first that declares no type. -/
theorem after (first : DeclaresNone code) (declares : Declares other types) : Declares (code ++ other) types :=
  Declares.append first declares

/-- Code may come last that declares no type. -/
theorem before (declares : Declares code types) (last : DeclaresNone other) :
    Declares (code ++ other) types := by
  have both := Declares.append declares last
  simp only [List.append_nil] at both
  exact both

end Declares

namespace DeclaresNone

variable {code other : Code}

theorem nil : DeclaresNone [] :=
  Declares.nil

theorem lines (text : String) : DeclaresNone (Code.lines text) :=
  ⟨by simp [Code.lines], fun around _ ends => Code.declared_print around text ends⟩

/-- Lines alone declare no type. -/
theorem straight (only : code.isStraight = true) : DeclaresNone code := by
  induction code with
  | nil => exact nil
  | cons step rest inRest =>
    obtain ⟨here, later⟩ := Bool.and_eq_true_iff.mp only
    cases step with
    | print text => exact Declares.append (lines text) (inRest later)
    | indent | outdent => cases here

theorem line (text : String) : DeclaresNone (Code.line text) :=
  lines (text ++ "\n")

theorem blank : DeclaresNone Code.blank :=
  lines "\n"

theorem append (first : DeclaresNone code) (second : DeclaresNone other) : DeclaresNone (code ++ other) :=
  Declares.append first second

theorem flatMap {α : Type} {elements : List α} {make : α → Code}
    (each : ∀ element ∈ elements, DeclaresNone (make element)) : DeclaresNone (elements.flatMap make) := by
  have all := Declares.flatMap each
  have none : (fun _ : List (Option TypeHead) => elements.flatMap fun _ => ([] : List DeclaredType))
      = fun _ => [] := by
    funext _
    exact List.flatMap_eq_nil_iff.mpr fun _ _ => rfl
  rw [none] at all
  exact all

theorem getD {code? : Option Code} (each : ∀ code, code? = some code → DeclaresNone code) :
    DeclaresNone (code?.getD []) := by
  cases code? with
  | none => exact nil
  | some code => exact each code rfl

theorem ite {condition : Prop} [Decidable condition] (holds : condition → DeclaresNone code)
    (fails : ¬ condition → DeclaresNone other) : DeclaresNone (if condition then code else other) := by
  by_cases here : condition
  · rw [if_pos here]
    exact holds here
  · rw [if_neg here]
    exact fails here

/-- A block whose first line declares no type. -/
theorem block {opening : String} (inside : DeclaresNone code) (first : NamesNoType opening) (closing : String) :
    DeclaresNone (Code.block opening code closing) := by
  have whole := Declares.block inside opening closing
  simp only [(first.append "\n").read?_eq_none, Option.toList_none, List.map_nil, List.append_nil] at whole
  exact whole

end DeclaresNone

end ProtoSwift
