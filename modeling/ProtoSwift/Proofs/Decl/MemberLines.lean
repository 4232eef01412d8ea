/-
**Members read line by line.**

A line declares a member behind a modifier or none, and the first word behind the modifier tells what is declared. A
variable is named behind `var`. If it is not stored there are braces behind that, on the same line or further in. So a
line tells what it declares, whatever has put it together.

* `bareLine`, `bareLine_append` — a line without the modifier in front of it;
* `IsApart`, `isApart_of_starts` — lines that do not start with a word;
* `VariableHead.read?` — the variable that a line declares;
* `VariableHead.read?_var`, `VariableHead.read?_eq_none` — which lines declare one;
* `IsCommentText`, `FileNode.isCommentText_commentText` — texts of comments, which declare nothing;
* `Code.StoresNothing` — code that declares no stored variable.
-/

import ProtoSwift.Options
import ProtoSwift.Proofs.Text.Levels
import ProtoSwift.Symbol.Node
import Mathlib

namespace ProtoSwift

/-! ### Lines without their modifiers -/

/-- The modifiers that a member can have, each with the space after it. -/
def accessModifiers : List String :=
  ["public ", "private ", "fileprivate "]

/-- A line without the modifier in front of it. -/
def bareLine (line : String) : List Char :=
  (accessModifiers.findSome? (·.toList.isPrefixOf? line.toList)).getD line.toList

/-- A modifier that a member can have, or none. -/
def IsAccess (modifier : String) : Prop :=
  modifier = "" ∨ modifier ∈ accessModifiers

theorem AccessLevel.isAccess_modifier (level : AccessLevel) : IsAccess level.modifier := by
  cases level
  · exact .inl rfl
  · exact .inr (by decide)
  · exact .inr (by decide)

theorem AccessLevel.isAccess_typeModifier (level : AccessLevel) : IsAccess level.typeModifier := by
  cases level
  · exact .inl rfl
  · exact .inr (by decide)
  · exact .inl rfl

/-- The first two characters of a text. -/
def StartsWith (first second : Char) (text : String) : Prop :=
  ∃ rest, text.toList = first :: second :: rest

theorem StartsWith.append {first second : Char} {text : String} (starts : StartsWith first second text)
    (more : String) : StartsWith first second (text ++ more) := by
  obtain ⟨rest, spelt⟩ := starts
  refine ⟨rest ++ more.toList, ?_⟩
  rw [String.toList_append, spelt]
  rfl

/-- The pairs of characters that modifiers start with. -/
def modifierStarts : List (Char × Char) :=
  [('p', 'u'), ('p', 'r'), ('f', 'i')]

/-- A text that starts with other characters has no modifier in front of it. -/
theorem findSome?_eq_none_of_starts {text : String} {first second : Char} (starts : StartsWith first second text)
    (other : (first, second) ∉ modifierStarts) :
    accessModifiers.findSome? (·.toList.isPrefixOf? text.toList) = none := by
  obtain ⟨rest, spelt⟩ := starts
  have apart : ∀ modifier ∈ accessModifiers, modifier.toList.isPrefixOf? text.toList = none := by
    intro modifier among
    obtain ⟨head, next, tail, known, isStart⟩ : ∃ head next tail, modifier.toList = head :: next :: tail
        ∧ (head, next) ∈ modifierStarts := by
      simp only [accessModifiers, List.mem_cons, List.not_mem_nil, or_false] at among
      rcases among with rfl | rfl | rfl
      · exact ⟨_, _, _, rfl, by decide⟩
      · exact ⟨_, _, _, rfl, by decide⟩
      · exact ⟨_, _, _, rfl, by decide⟩
    rw [known, spelt]
    by_cases sameFirst : head = first
    · have differ : next ≠ second := by
        rintro rfl
        exact other (sameFirst ▸ isStart)
      simp [List.isPrefixOf?, differ]
    · simp [List.isPrefixOf?, sameFirst]
  exact List.findSome?_eq_none_iff.mpr apart

/-- **The modifier in front of a line is left out.** -/
theorem bareLine_append {modifier text : String} (known : IsAccess modifier) {first second : Char}
    (starts : StartsWith first second text) (other : (first, second) ∉ modifierStarts) :
    bareLine (modifier ++ text) = text.toList := by
  have own : ∀ front : String, front.toList.isPrefixOf? (front ++ text).toList = some text.toList := by
    intro front
    rw [List.isPrefixOf?_eq_some_iff_append_eq, String.toList_append]
  have differ : ∀ front another : String, (∃ head next tail, front.toList = head :: next :: tail
      ∧ ∃ head' next' tail', another.toList = head' :: next' :: tail' ∧ (head, next) ≠ (head', next')) →
      another.toList.isPrefixOf? (front ++ text).toList = none := by
    rintro front another ⟨head, next, tail, spelt, head', next', tail', spelt', apart⟩
    rw [String.toList_append, spelt, spelt']
    by_cases sameHead : head' = head
    · have nextApart : next' ≠ next := by
        rintro rfl
        exact apart (by rw [sameHead])
      simp [List.isPrefixOf?, nextApart]
    · simp [List.isPrefixOf?, sameHead]
  unfold bareLine
  rcases known with rfl | among
  · rw [String.empty_append, findSome?_eq_none_of_starts starts other, Option.getD_none]
  · simp only [accessModifiers, List.mem_cons, List.not_mem_nil, or_false] at among ⊢
    rcases among with rfl | rfl | rfl
    · rw [List.findSome?_cons, own]
      rfl
    · rw [List.findSome?_cons, differ _ _ ⟨_, _, _, rfl, _, _, _, rfl, by decide⟩, List.findSome?_cons, own]
      rfl
    · rw [List.findSome?_cons, differ _ _ ⟨_, _, _, rfl, _, _, _, rfl, by decide⟩, List.findSome?_cons,
        differ _ _ ⟨_, _, _, rfl, _, _, _, rfl, by decide⟩, List.findSome?_cons, own]
      rfl

/-- **A line that does not start with a word**, behind its modifier. -/
def IsApart (word line : String) : Prop :=
  word.toList.isPrefixOf? (bareLine line) = none

/-- A line is apart from a word if it starts with other characters behind its modifier. -/
theorem isApart_of_starts {modifier text word : String} (known : IsAccess modifier) {first second own next : Char}
    (spelt : StartsWith own next word) (starts : StartsWith first second text)
    (other : (first, second) ∉ (own, next) :: modifierStarts) : IsApart word (modifier ++ text) := by
  rw [List.mem_cons, not_or] at other
  unfold IsApart
  rw [bareLine_append known starts other.2]
  obtain ⟨rest, isText⟩ := starts
  obtain ⟨tail, isWord⟩ := spelt
  rw [isText, isWord]
  by_cases sameFirst : own = first
  · have differ : next ≠ second := by
      rintro rfl
      exact other.1 (by rw [sameFirst])
    simp [List.isPrefixOf?, differ]
  · simp [List.isPrefixOf?, sameFirst]

/-! ### Variables -/

/-- A variable as the line that declares it shows it. -/
structure VariableHead where
  name : String
  /-- Whether the variable is stored. One that is not has braces behind it. -/
  stored : Bool
  deriving DecidableEq, Repr

/-- Whether a line ends in a brace. -/
def endsInBrace (line : String) : Bool :=
  "\x7b\n".toList.isSuffixOf line.toList || "\x7d\n".toList.isSuffixOf line.toList

namespace VariableHead

/-- What is in front of the first colon or space. -/
def nameOf (text : List Char) : String :=
  String.ofList (text.takeWhile fun c => c ≠ ':' && c ≠ ' ')

/-- **The variable that a line declares**, if it declares one. -/
def read? (line : String) : Option VariableHead :=
  ("var ".toList.isPrefixOf? (bareLine line)).map fun rest => ⟨nameOf rest, !endsInBrace line⟩

/-- A line that has `var` behind its modifier declares a variable. -/
theorem read?_var {modifier : String} (known : IsAccess modifier) (rest : String) :
    read? (modifier ++ ("var " ++ rest))
      = some ⟨nameOf rest.toList, !endsInBrace (modifier ++ ("var " ++ rest))⟩ := by
  have starts : StartsWith 'v' 'a' ("var " ++ rest) := StartsWith.append ⟨_, rfl⟩ rest
  have behind : "var ".toList.isPrefixOf? ("var " ++ rest).toList = some rest.toList := by
    rw [List.isPrefixOf?_eq_some_iff_append_eq, String.toList_append]
  unfold read?
  rw [bareLine_append known starts (by decide), behind, Option.map_some]

/-- A line that has another word behind its modifier declares no variable. -/
theorem read?_eq_none {modifier text : String} (known : IsAccess modifier) {first second : Char}
    (starts : StartsWith first second text) (other : (first, second) ∉ ('v', 'a') :: modifierStarts) :
    read? (modifier ++ text) = none := by
  have apart : IsApart "var " (modifier ++ text) := isApart_of_starts known ⟨_, rfl⟩ starts other
  unfold read?
  rw [apart, Option.map_none]

/-- A line without a modifier that starts with another word declares no variable. -/
theorem read?_eq_none_of_starts {text : String} {first second : Char} (starts : StartsWith first second text)
    (other : (first, second) ∉ ('v', 'a') :: modifierStarts) : read? text = none := by
  rw [← String.empty_append (s := text)]
  exact read?_eq_none (.inl rfl) starts other

/-- The name of a variable is what is in front of the colon, if nothing in it parts it from the rest. -/
theorem nameOf_append {name : String} (whole : ':' ∉ name.toList ∧ ' ' ∉ name.toList) (rest : String) :
    nameOf (name ++ (": " ++ rest)).toList = name := by
  have inside : ∀ c ∈ name.toList, (c ≠ ':' && c ≠ ' ') = true := by
    intro c among
    rw [Bool.and_eq_true, decide_eq_true_eq, decide_eq_true_eq]
    refine ⟨?_, ?_⟩
    · rintro rfl
      exact whole.1 among
    · rintro rfl
      exact whole.2 among
  have colon : (": " ++ rest).toList = ':' :: (" " ++ rest).toList := by
    simp only [String.toList_append]
    rfl
  unfold nameOf
  rw [String.toList_append, List.takeWhile_append_of_pos inside, colon, List.takeWhile_cons_of_neg (by simp),
    List.append_nil, String.ofList_toList]

end VariableHead

theorem endsInBrace_closed (text : String) : endsInBrace (text ++ "\x7d\n") = true := by
  have suffix : "\x7d\n".toList.isSuffixOf (text ++ "\x7d\n").toList = true := by
    rw [List.isSuffixOf_iff_suffix, String.toList_append]
    exact List.suffix_append _ _
  unfold endsInBrace
  rw [suffix, Bool.or_true]

theorem endsInBrace_open (text : String) : endsInBrace (text ++ "\x7b\n") = true := by
  have suffix : "\x7b\n".toList.isSuffixOf (text ++ "\x7b\n").toList = true := by
    rw [List.isSuffixOf_iff_suffix, String.toList_append]
    exact List.suffix_append _ _
  unfold endsInBrace
  rw [suffix, Bool.true_or]

/-- Texts with different ends of the same length differ. -/
theorem append_ne_append {first second : String} (differ : first ≠ second)
    (length : first.toList.length = second.toList.length) (front back : String) : front ++ first ≠ back ++ second := by
  intro same
  have spelt := congrArg String.toList same
  rw [String.toList_append, String.toList_append] at spelt
  exact differ (String.toList_inj.mp (List.append_inj_right' spelt length))

/-- A line that ends in another character than a brace. -/
theorem endsInBrace_eq_false {text last : String} (length : last.toList.length = 2) (noOpening : last ≠ "\x7b\n")
    (noClosing : last ≠ "\x7d\n") : endsInBrace (text ++ last) = false := by
  have noSuffix : ∀ brace : String, brace.toList.length = 2 → last ≠ brace →
      brace.toList.isSuffixOf (text ++ last).toList = false := by
    intro brace two differ
    rw [Bool.eq_false_iff, ne_eq, List.isSuffixOf_iff_suffix]
    rintro ⟨front, same⟩
    refine append_ne_append differ (length.trans two.symm) text (String.ofList front) ?_
    rw [← String.toList_inj, ← same, String.toList_append, String.toList_ofList]
  unfold endsInBrace
  rw [noSuffix _ rfl noOpening, noSuffix _ rfl noClosing]
  rfl

/-- A variable whose line ends in a brace is not stored. -/
theorem VariableHead.stored_of_endsInBrace {line : String} {head : VariableHead} (found : read? line = some head)
    (braces : endsInBrace line = true) : head.stored = false := by
  obtain ⟨rest, _, rfl⟩ := Option.map_eq_some_iff.mp found
  rw [braces]
  rfl

/-! ### Comments -/

/-- A text that starts like comments or an empty line, or is empty. -/
def IsCommentText (text : String) : Prop :=
  ∀ first, text.toList.head? = some first → first = '/' ∨ first = '\n'

/-- A text of comments is read as it is. -/
theorem IsCommentText.bareLine_eq {text : String} (comment : IsCommentText text) : bareLine text = text.toList := by
  have none : accessModifiers.findSome? (·.toList.isPrefixOf? text.toList) = none := by
    refine List.findSome?_eq_none_iff.mpr fun modifier among => ?_
    simp only [accessModifiers, List.mem_cons, List.not_mem_nil, or_false] at among
    cases spelt : text.toList with
    | nil => rcases among with rfl | rfl | rfl <;> rfl
    | cons first rest =>
      rcases comment first (by rw [spelt]; rfl) with rfl | rfl
        <;> rcases among with rfl | rfl | rfl <;> rfl
  unfold bareLine
  rw [none, Option.getD_none]

/-- A text of comments is apart from every word. -/
theorem IsCommentText.isApart {text word : String} (comment : IsCommentText text) {first : Char}
    (starts : word.toList.head? = some first) (letter : first ≠ '/' ∧ first ≠ '\n') : IsApart word text := by
  unfold IsApart
  rw [comment.bareLine_eq]
  cases isWord : word.toList with
  | nil =>
    rw [isWord] at starts
    cases starts
  | cons head tail =>
    rw [isWord] at starts
    cases starts
    cases spelt : text.toList with
    | nil => rfl
    | cons own rest =>
      have differ : first ≠ own := by
        rintro rfl
        rcases comment first (by rw [spelt]; rfl) with slash | feed
        · exact letter.1 slash
        · exact letter.2 feed
      simp [List.isPrefixOf?, differ]

theorem VariableHead.read?_comment {text : String} (comment : IsCommentText text) : read? text = none := by
  have apart : IsApart "var " text := comment.isApart rfl (by decide)
  unfold read?
  rw [apart, Option.map_none]

theorem head?_of_append {front back : List Char} {first : Char} (starts : (front ++ back).head? = some first) :
    front.head? = some first ∨ back.head? = some first := by
  rw [List.head?_append, Option.or_eq_some_iff] at starts
  exact starts.imp_right And.right

theorem head?_of_flatMap {α : Type} {make : α → List Char} {elements : List α} {first : Char}
    (starts : (elements.flatMap make).head? = some first) : ∃ element, (make element).head? = some first := by
  induction elements with
  | nil => cases starts
  | cons element rest inRest =>
    rw [List.flatMap_cons] at starts
    rcases head?_of_append starts with here | later
    · exact ⟨element, here⟩
    · exact inRest later

namespace Swift.Comments

theorem head?_commentLines {marker : String} (slashes : marker.toList.head? = some '/') {text : String} {first : Char}
    (starts : (commentLines marker text).head? = some first) : first = '/' := by
  obtain ⟨line, inLine⟩ := head?_of_flatMap starts
  simp only [commentLine, List.append_assoc, List.head?_append, slashes, Option.some_or, Option.some.injEq] at inLine
  exact inLine.symm

/-- **Comments start with slashes**, if there are any. -/
theorem isCommentText_render (comments : Comments) : IsCommentText comments.render := by
  intro first starts
  unfold render at starts
  rw [String.toList_ofList] at starts
  rcases head?_of_append starts with rest | trailing
  · rcases head?_of_append rest with rest | between
    · rcases head?_of_append rest with detached | leading
      · obtain ⟨block, inBlock⟩ := head?_of_flatMap detached
        rcases head?_of_append inBlock with line | feed
        · exact .inl (head?_commentLines rfl line)
        · exact .inr (Option.some.inj feed).symm
      · exact .inl (head?_commentLines rfl leading)
    · unfold separator at between
      split at between
      · exact .inl (Option.some.inj between).symm
      · cases between
  · exact .inl (head?_commentLines rfl trailing)

end Swift.Comments

/-- What is printed in front of a declaration is a text of comments. -/
theorem FileNode.isCommentText_commentText (file : FileNode) (path : Path) : IsCommentText (file.commentText path) := by
  unfold commentText
  cases file.comments? path with
  | none => exact fun first starts => by cases starts
  | some comments => exact comments.isCommentText_render

/-! ### Code that stores nothing -/

/-- Code that declares no stored variable. -/
def Code.StoresNothing (code : Code) : Prop :=
  ∀ text ∈ code.outer, ∀ head, VariableHead.read? text = some head → head.stored = false

end ProtoSwift
