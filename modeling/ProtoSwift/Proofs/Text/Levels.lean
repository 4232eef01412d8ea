/-
**Code read by its indentation.**

Code prints texts at levels of indentation. A declaration has a first line, and what belongs to it is one level further
in. So a reader that knows the levels only finds the members of a declaration, and what stands in the braces of a
member, without knowing how the code was put together.

* `Code.texts` — the texts that code prints, each with its level;
* `Code.Balanced` — code that comes back to its level and does not go out further;
* `Code.outer`, `Code.MadeOf` — the texts of code that are not further in than the code itself;
* `Code.members`, `Code.memberBody?` — the members of a declaration, and what is indented under one of them;
* `Code.members_declaration`, `Code.memberBody?_declaration` — what is read in a declaration.
-/

import ProtoSwift.Proofs.Text.Printing
import Mathlib

namespace ProtoSwift

open Printer

namespace Code

/-! ### Texts with their levels -/

/-- **The texts that code prints**, each with the level of indentation that it is printed at. -/
def texts (level : Nat) : Code → List (Nat × String)
  | [] => []
  | .print text :: rest => (level, text) :: texts level rest
  | .indent :: rest => texts (level + 1) rest
  | .outdent :: rest => texts (level - 1) rest

/-- A text some levels further in. -/
def shift (base : Nat) (text : Nat × String) : Nat × String :=
  (base + text.1, text.2)

theorem texts_append (level : Nat) (first second : Code) :
    texts level (first ++ second) = texts level first ++ texts (levelAfter level first) second := by
  induction first generalizing level with
  | nil => rfl
  | cons step rest inRest =>
    cases step with
    | print text => exact congrArg ((level, text) :: ·) (inRest level)
    | indent => exact inRest (level + 1)
    | outdent => exact inRest (level - 1)

/-- The characters of code are those of its texts. -/
theorem printed_eq_flatMap_texts (level : Nat) (code : Code) :
    printed level code = (texts level code).flatMap fun text => glyphs text.1 text.2.toList := by
  induction code generalizing level with
  | nil => rfl
  | cons step rest inRest =>
    cases step with
    | print text => exact congrArg (glyphs level text.toList ++ ·) (inRest level)
    | indent => exact inRest (level + 1)
    | outdent => exact inRest (level - 1)

/-- The text that a step prints. -/
def stepText? : Step → Option String
  | .print text => some text
  | .indent | .outdent => none

/-- Without their levels, the texts are those that the steps print. -/
theorem map_snd_texts (level : Nat) (code : Code) : (texts level code).map (·.2) = code.filterMap stepText? := by
  induction code generalizing level with
  | nil => rfl
  | cons step rest inRest =>
    cases step with
    | print text => exact congrArg (text :: ·) (inRest level)
    | indent => exact inRest (level + 1)
    | outdent => exact inRest (level - 1)

/-! ### Code that keeps to its level -/

/-- **Code that comes back to its level** and does not go out further on the way: its texts are as deep as it is
itself. -/
structure Balanced (code : Code) : Prop where
  levelAfter : ∀ level, levelAfter level code = level
  shifted : ∀ base level, texts (base + level) code = (texts level code).map (shift base)

namespace Balanced

variable {code other : Code}

theorem nil : Balanced [] :=
  ⟨fun _ => rfl, fun _ _ => rfl⟩

theorem lines (text : String) : (Code.lines text).Balanced :=
  ⟨fun _ => rfl, fun _ _ => rfl⟩

theorem line (text : String) : (Code.line text).Balanced :=
  lines (text ++ "\n")

theorem blank : Code.blank.Balanced :=
  lines "\n"

theorem append (first : code.Balanced) (second : other.Balanced) : Balanced (code ++ other) := by
  refine ⟨fun level => ?_, fun base level => ?_⟩
  · rw [levelAfter_append, first.levelAfter, second.levelAfter]
  · rw [texts_append, texts_append, first.levelAfter, first.levelAfter, first.shifted, second.shifted,
      List.map_append]

theorem indented (inside : code.Balanced) : (Code.indented code).Balanced := by
  refine ⟨fun level => ?_, fun base level => ?_⟩
  · show Printer.levelAfter (level + 1) (code ++ [Step.outdent]) = level
    rw [levelAfter_append, inside.levelAfter]
    rfl
  · show texts (base + (level + 1)) (code ++ [Step.outdent]) = (texts (level + 1) (code ++ [Step.outdent])).map (shift base)
    rw [texts_append, texts_append, inside.shifted, List.map_append]
    rfl

theorem block (inside : code.Balanced) (opening closing : String) : (Code.block opening code closing).Balanced :=
  ((line opening).append inside.indented).append (line closing)

theorem flatMap {α : Type} {elements : List α} {make : α → Code}
    (each : ∀ element ∈ elements, (make element).Balanced) : Balanced (elements.flatMap make) := by
  induction elements with
  | nil => exact nil
  | cons first rest inRest =>
    rw [List.flatMap_cons]
    exact (each first List.mem_cons_self).append
      (inRest fun element among => each element (List.mem_cons_of_mem _ among))

theorem ite {condition : Prop} [Decidable condition] (holds : code.Balanced) (fails : other.Balanced) :
    Balanced (if condition then code else other) := by
  split
  · exact holds
  · exact fails

theorem getD {α : Type} {part? : Option α} {make : α → Code} (each : ∀ part, (make part).Balanced) :
    Balanced ((part?.map make).getD []) := by
  cases part? with
  | none => exact nil
  | some part => exact each part

end Balanced

/-- **A block with a first line**, and code inside that keeps to its level. -/
inductive IsBlock (opening : String) : Code → Prop
  | intro {inside : Code} (balanced : inside.Balanced) : IsBlock opening (Code.block opening inside "\x7d")

theorem IsBlock.balanced {opening : String} {code : Code} (isBlock : IsBlock opening code) : code.Balanced := by
  obtain ⟨inside⟩ := isBlock
  exact inside.block _ _

section Parts

variable {code other body : Code} {level : Nat} {text : Nat × String}

theorem mem_texts_append_left (among : text ∈ texts level code) (other : Code) : text ∈ texts level (code ++ other) := by
  rw [texts_append]
  exact List.mem_append_left _ among

theorem mem_texts_append_right (first : code.Balanced) (among : text ∈ texts level other) :
    text ∈ texts level (code ++ other) := by
  rw [texts_append, first.levelAfter]
  exact List.mem_append_right _ among

theorem mem_texts_flatMap {α : Type} {elements : List α} {make : α → Code}
    (each : ∀ element ∈ elements, (make element).Balanced) {element : α} (isElement : element ∈ elements)
    (among : text ∈ texts level (make element)) : text ∈ texts level (elements.flatMap make) := by
  induction elements with
  | nil => cases isElement
  | cons first rest inRest =>
    rw [List.forall_mem_cons] at each
    rw [List.flatMap_cons]
    rcases List.mem_cons.mp isElement with rfl | later
    · exact mem_texts_append_left among _
    · exact mem_texts_append_right each.1 (inRest each.2 later)

/-- What is inside a block is one level further in. -/
theorem mem_texts_block (among : text ∈ texts (level + 1) body) (opening closing : String) :
    text ∈ texts level (Code.block opening body closing) := by
  have inside : text ∈ texts level (Code.indented body) := by
    show text ∈ texts (level + 1) (body ++ [Step.outdent])
    exact mem_texts_append_left among _
  unfold Code.block
  exact mem_texts_append_left (mem_texts_append_right (.line opening) inside) _

end Parts

/-! ### Texts that are not further in -/

/-- **The texts of code that are not further in** than the code itself. -/
def outer (code : Code) : List String :=
  ((texts 0 code).filter (·.1 = 0)).map (·.2)

section Outer

variable {code other : Code}

@[simp] theorem outer_lines (text : String) : outer (Code.lines text) = [text] := rfl

@[simp] theorem outer_line (text : String) : outer (Code.line text) = [text ++ "\n"] := rfl

@[simp] theorem outer_blank : outer Code.blank = ["\n"] := rfl

theorem outer_append (first : code.Balanced) (other : Code) : outer (code ++ other) = outer code ++ outer other := by
  unfold outer
  rw [texts_append, first.levelAfter, List.filter_append, List.map_append]

theorem mem_outer_append_left (first : code.Balanced) {text : String} (among : text ∈ outer code) (other : Code) :
    text ∈ outer (code ++ other) := by
  rw [outer_append first]
  exact List.mem_append_left _ among

theorem mem_outer_append_right (first : code.Balanced) {text : String} (among : text ∈ outer other) :
    text ∈ outer (code ++ other) := by
  rw [outer_append first]
  exact List.mem_append_right _ among

theorem outer_indented (inside : code.Balanced) : outer (Code.indented code) = [] := by
  have further : texts 0 (Code.indented code) = (texts 0 code).map (shift 1) := by
    show texts (1 + 0) (code ++ [Step.outdent]) = _
    rw [texts_append, inside.shifted]
    exact List.append_nil _
  unfold outer
  rw [further, List.filter_eq_nil_iff.mpr, List.map_nil]
  intro text among
  obtain ⟨own, _, rfl⟩ := List.mem_map.mp among
  simp [shift]

/-- A block has its first and its last line outside. -/
theorem outer_block (inside : code.Balanced) (opening closing : String) :
    outer (Code.block opening code closing) = [opening ++ "\n", closing ++ "\n"] := by
  unfold Code.block
  rw [outer_append ((Balanced.line opening).append inside.indented), outer_append (Balanced.line opening),
    outer_indented inside]
  rfl

theorem outer_flatMap {α : Type} {elements : List α} {make : α → Code}
    (each : ∀ element ∈ elements, (make element).Balanced) :
    outer (elements.flatMap make) = elements.flatMap fun element => outer (make element) := by
  induction elements with
  | nil => rfl
  | cons first rest inRest =>
    rw [List.flatMap_cons, List.flatMap_cons, outer_append (each first List.mem_cons_self),
      inRest fun element among => each element (List.mem_cons_of_mem _ among)]

end Outer

/-- **Code that is made of texts with a property**, as far as they are not further in. -/
structure MadeOf (holds : String → Prop) (code : Code) : Prop where
  balanced : code.Balanced
  outer : ∀ text ∈ code.outer, holds text

namespace MadeOf

variable {holds : String → Prop} {code other : Code}

theorem imp {weaker : String → Prop} (made : MadeOf holds code) (follows : ∀ text, holds text → weaker text) :
    MadeOf weaker code :=
  ⟨made.balanced, fun text among => follows text (made.outer text among)⟩

theorem nil : MadeOf holds [] :=
  ⟨.nil, fun _ among => absurd among List.not_mem_nil⟩

theorem lines {text : String} (own : holds text) : MadeOf holds (Code.lines text) :=
  ⟨.lines text, fun _ among => List.mem_singleton.mp among ▸ own⟩

theorem line {text : String} (own : holds (text ++ "\n")) : MadeOf holds (Code.line text) :=
  lines own

theorem append (first : MadeOf holds code) (second : MadeOf holds other) : MadeOf holds (code ++ other) := by
  refine ⟨first.balanced.append second.balanced, fun text among => ?_⟩
  rw [outer_append first.balanced] at among
  rcases List.mem_append.mp among with inFirst | inSecond
  · exact first.outer text inFirst
  · exact second.outer text inSecond

theorem block {opening : String} (isBlock : IsBlock opening code) (first : holds (opening ++ "\n"))
    (last : holds "\x7d\n") : MadeOf holds code := by
  refine ⟨isBlock.balanced, fun text among => ?_⟩
  obtain ⟨inside⟩ := isBlock
  rw [outer_block inside] at among
  rcases List.mem_cons.mp among with rfl | isLast
  · exact first
  · exact List.mem_singleton.mp isLast ▸ last

theorem flatMap {α : Type} {elements : List α} {make : α → Code}
    (each : ∀ element ∈ elements, MadeOf holds (make element)) : MadeOf holds (elements.flatMap make) := by
  have balanced : ∀ element ∈ elements, (make element).Balanced := fun element among => (each element among).balanced
  refine ⟨.flatMap balanced, fun text among => ?_⟩
  rw [outer_flatMap balanced] at among
  obtain ⟨element, isElement, inElement⟩ := List.mem_flatMap.mp among
  exact (each element isElement).outer text inElement

theorem ite {condition : Prop} [Decidable condition] (whenHolds : condition → MadeOf holds code)
    (whenFails : ¬ condition → MadeOf holds other) : MadeOf holds (if condition then code else other) := by
  split
  · exact whenHolds ‹_›
  · exact whenFails ‹_›

theorem getD {α : Type} {part? : Option α} {make : α → Code} (each : ∀ part, part? = some part → MadeOf holds (make part)) :
    MadeOf holds ((part?.map make).getD []) := by
  cases part? with
  | none => exact nil
  | some part => exact each part rfl

end MadeOf

/-! ### Members of a declaration -/

/-- **The members of a declaration**: the texts one level further in. -/
def members (code : Code) : List String :=
  ((texts 0 code).filter (·.1 = 1)).map (·.2)

/-- **What is indented under a member of a declaration**, the first that has the head that is asked for. -/
def memberBody? (isHead : String → Bool) (code : Code) : Option (List (Nat × String)) :=
  match (texts 0 code).dropWhile fun text => !(text.1 = 1 && isHead text.2) with
  | [] => none
  | _ :: behind => some (behind.takeWhile (1 < ·.1))

section Declaration

variable {inside front body back : Code}

/-- The texts of a declaration: its comments, its first line, the texts inside it, and its last line. -/
theorem texts_declaration (balanced : inside.Balanced) (comments opening closing : String) :
    texts 0 (Code.lines comments ++ Code.block opening inside closing)
      = [(0, comments), (0, opening ++ "\n")] ++ (texts 0 inside).map (shift 1) ++ [(0, closing ++ "\n")] := by
  have whole : Code.lines comments ++ Code.block opening inside closing
      = [Step.print comments, Step.print (opening ++ "\n"), Step.indent]
        ++ (inside ++ [Step.outdent, Step.print (closing ++ "\n")]) := by
    simp only [Code.lines, Code.block, Code.line, Code.indented, List.cons_append, List.nil_append, List.append_assoc]
  rw [whole, texts_append, texts_append, balanced.levelAfter, ← balanced.shifted]
  simp [texts, levelAfter]

/-- **The members of a declaration** are the texts inside it that are not further in. -/
theorem members_declaration (balanced : inside.Balanced) (comments opening closing : String) :
    members (Code.lines comments ++ Code.block opening inside closing) = outer inside := by
  have same : (fun text : Nat × String => decide (text.1 = 1)) ∘ shift 1 = fun text => decide (text.1 = 0) := by
    funext text
    simp [shift]
  unfold members outer
  rw [texts_declaration balanced, List.filter_append, List.filter_append, List.filter_map, same]
  simp [shift, Function.comp_def]

/-- The texts of a block: its first line, what is further in, and its last line. -/
theorem texts_block (balanced : body.Balanced) (opening closing : String) :
    texts 0 (Code.block opening body closing) = (0, opening ++ "\n") :: (texts 1 body ++ [(0, closing ++ "\n")]) := by
  have whole : Code.block opening body closing
      = [Step.print (opening ++ "\n"), Step.indent] ++ (body ++ [Step.outdent, Step.print (closing ++ "\n")]) := by
    simp only [Code.block, Code.line, Code.indented, List.cons_append, List.nil_append, List.append_assoc]
  rw [whole, texts_append, texts_append, balanced.levelAfter]
  simp [texts, levelAfter]

/-- What is inside a block is deeper than the block. -/
theorem lt_level_of_mem_texts (balanced : body.Balanced) {base : Nat} {text : Nat × String}
    (among : text ∈ texts (base + 1) body) : base < text.1 := by
  rw [show base + 1 = base + 1 + 0 from rfl, balanced.shifted] at among
  obtain ⟨own, _, rfl⟩ := List.mem_map.mp among
  show base < base + 1 + own.1
  omega

/-- The first lines of a declaration and members that are no heads are passed over. -/
theorem passes_over {isHead : String → Bool} (others : ∀ text ∈ outer front, isHead text = false)
    (comments opening : String) : ∀ text ∈ [(0, comments), (0, opening)] ++ (texts 0 front).map (shift 1),
      (!(text.1 = 1 && isHead text.2)) = true := by
  intro text among
  rcases List.mem_append.mp among with isFirst | isInside
  · rcases List.mem_cons.mp isFirst with rfl | isOpening
    · rfl
    · obtain rfl := List.mem_singleton.mp isOpening
      rfl
  · obtain ⟨own, isOwn, rfl⟩ := List.mem_map.mp isInside
    by_cases level : own.1 = 0
    · have outside : own.2 ∈ outer front :=
        List.mem_map.mpr ⟨own, List.mem_filter.mpr ⟨isOwn, decide_eq_true level⟩, rfl⟩
      simp [shift, others own.2 outside]
    · simp [shift, level]

/-- A declaration without a member with the head has nothing under it. -/
theorem memberBody?_eq_none (balanced : inside.Balanced) {isHead : String → Bool}
    (others : ∀ text ∈ outer inside, isHead text = false) (comments opening closing : String) :
    memberBody? isHead (Code.lines comments ++ Code.block opening inside closing) = none := by
  have all : ∀ text ∈ texts 0 (Code.lines comments ++ Code.block opening inside closing),
      (!(text.1 = 1 && isHead text.2)) = true := by
    rw [texts_declaration balanced]
    intro text among
    rcases List.mem_append.mp among with inFront | isLast
    · exact passes_over others _ _ text inFront
    · obtain rfl := List.mem_singleton.mp isLast
      rfl
  unfold memberBody?
  rw [List.dropWhile_eq_nil_iff.mpr all]

/-- **What is indented under a member** are the texts of its block, if no member in front of it has the head. -/
theorem memberBody?_declaration (frontBalanced : front.Balanced) (bodyBalanced : body.Balanced)
    (backBalanced : back.Balanced) {isHead : String → Bool} (others : ∀ text ∈ outer front, isHead text = false)
    {head : String} (found : isHead (head ++ "\n") = true) (last comments opening closing : String) :
    memberBody? isHead (Code.lines comments
      ++ Code.block opening (front ++ Code.block head body last ++ back) closing) = some (texts 2 body) := by
  have member := frontBalanced.append (bodyBalanced.block head last)
  have deeper : (texts 1 body).map (shift 1) = texts 2 body := (bodyBalanced.shifted 1 1).symm
  have spelt : texts 0 (Code.lines comments
      ++ Code.block opening (front ++ Code.block head body last ++ back) closing)
      = ([(0, comments), (0, opening ++ "\n")] ++ (texts 0 front).map (shift 1)) ++ (1, head ++ "\n")
        :: (texts 2 body ++ (1, last ++ "\n") :: ((texts 0 back).map (shift 1) ++ [(0, closing ++ "\n")])) := by
    rw [texts_declaration (member.append backBalanced), texts_append, texts_append, frontBalanced.levelAfter,
      member.levelAfter, texts_block bodyBalanced, List.map_append, List.map_append, List.map_cons,
      List.map_append, deeper]
    simp [shift]
  have under : ∀ text ∈ texts 2 body, decide (1 < text.1) = true :=
    fun _ among => decide_eq_true (lt_level_of_mem_texts bodyBalanced among)
  unfold memberBody?
  rw [spelt, List.dropWhile_append_of_pos (passes_over others _ _), List.dropWhile_cons_of_neg (by simp [found])]
  dsimp only
  rw [List.takeWhile_append_of_pos under, List.takeWhile_cons_of_neg (by simp), List.append_nil]

end Declaration

end Code

end ProtoSwift
