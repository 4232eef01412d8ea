/-
**What the code of an enumeration declares.**

The members of an enumeration are its cases, the constants that stand for cases, and the blocks of two initializers and
a property. A reader finds the cases and the constants by the words in front of their names, and the blocks by their
first lines. So what an enumeration is can be told from the lines in it, and nothing that does not start like a case is
one.

* `CaseHead.read?`, `ConstantHead.read?` — the case or the constant that a line declares;
* `EnumDecl.caseHeads`, `EnumDecl.constants`, `EnumDecl.body?` — what is read in the code of an enumeration;
* `IsCaseName`, `EnumDecl.Readable` — names and comments that do not get in the way of reading;
* `EnumDecl.caseHeads_eq`, `EnumDecl.constants_eq` — the cases and constants that are written;
* `EnumDecl.body?_init`, `EnumDecl.body?_ofNumber`, `EnumDecl.body?_number` — the lines of the blocks.
-/

import ProtoSwift.Proofs.Decl.Indentation
import ProtoSwift.Proofs.Decl.MemberLines
import ProtoSwift.Proofs.Decl.MemberNames
import ProtoSwift.Proofs.Decl.Openings
import ProtoSwift.Proofs.Swift.CaseNames
import Mathlib

namespace ProtoSwift

open Swift Text

/-! ### Cases and constants -/

/-- A case as the line that declares it shows it. -/
structure CaseHead where
  name : String
  /-- The type of what the case holds, if it holds anything. -/
  payload? : Option String
  /-- The number in the comment behind the case. -/
  number? : Option Int
  deriving DecidableEq, Repr

namespace CaseHead

/-- What can be in a name. -/
def inName (c : Char) : Bool :=
  c ≠ ' ' && c ≠ '(' && c ≠ '\n'

/-- **The case that a line declares**, if it declares one. -/
def read? (line : String) : Option CaseHead :=
  ("case ".toList.isPrefixOf? (bareLine line)).map fun rest =>
    { name := String.ofList (rest.takeWhile inName)
      payload? := between? "(" ")\n" (rest.dropWhile inName)
      number? := (between? " // = " "\n" (rest.dropWhile inName)).bind String.toInt? }

end CaseHead

/-- A constant as the line that declares it shows it. -/
structure ConstantHead where
  name : String
  /-- The case that the constant is, if it is one of the type. -/
  target? : Option String
  deriving DecidableEq, Repr

/-- **The constant that a line declares**, if it declares one. -/
def ConstantHead.read? (type line : String) : Option ConstantHead :=
  ("static let ".toList.isPrefixOf? (bareLine line)).map fun rest =>
    { name := String.ofList (rest.takeWhile (· ≠ ':'))
      target? := between? (": " ++ type ++ " = .") "\n" (rest.dropWhile (· ≠ ':')) }

namespace EnumDecl

/-- **The cases that the code of an enumeration declares.** -/
def caseHeads (decl : EnumDecl) : List CaseHead :=
  decl.code.members.filterMap CaseHead.read?

/-- **The constants that the code of an enumeration declares.** -/
def constants (decl : EnumDecl) : List ConstantHead :=
  decl.code.members.filterMap (ConstantHead.read? decl.name)

/-- **The lines of the block with a head**, read in the code of an enumeration, if there is one. -/
def body? (decl : EnumDecl) (head : String) : Option (List String) :=
  (decl.code.memberBody? fun line => bareLine line = (head ++ "\n").toList).map (·.map (·.2))

end EnumDecl

/-! ### Names of cases in code -/

/-- A name that a case can have. -/
def IsCaseName (name : String) : Prop :=
  ∃ enumeration value, caseName enumeration value = name

namespace IsCaseName

variable {name : String}

/-- A name of a case has no other ASCII character than letters, digits, underscores and backquotes. -/
theorem not_mem (named : IsCaseName name) {c : Char} (separator : ¬ IsWordCharacter c) (noQuote : c ≠ '\x60')
    (noUnderscore : c ≠ '_') : c ∉ name.toList := by
  obtain ⟨enumeration, value, rfl⟩ := named
  intro among
  rcases mem_caseName among with quote | underscore | inWord
  · exact noQuote quote
  · exact noUnderscore underscore
  · exact separator inWord

/-- A name of a case does not go on from a capital. -/
theorem ne_append (named : IsCaseName name) {c : Char} (capital : c.isUpper = true) (rest : List Char) :
    name.toList ≠ c :: rest := by
  obtain ⟨enumeration, value, rfl⟩ := named
  intro same
  have small : c.isUpper = false := isUpper_head_caseName (by rw [same]; rfl)
  rw [capital] at small
  cases small

/-- Nothing in a name of a case ends it. -/
theorem inName_of_mem (named : IsCaseName name) : ∀ c ∈ name.toList, CaseHead.inName c = true := by
  have apart : ∀ stop : Char, ¬ IsWordCharacter stop → stop ≠ '\x60' → stop ≠ '_' → ∀ c ∈ name.toList,
      decide (c ≠ stop) = true := by
    intro stop separator noQuote noUnderscore c among
    refine decide_eq_true ?_
    rintro rfl
    exact named.not_mem separator noQuote noUnderscore among
  intro c among
  unfold CaseHead.inName
  rw [apart ' ' (by decide) (by decide) (by decide) c among, apart '(' (by decide) (by decide) (by decide) c among,
    apart '\n' (by decide) (by decide) (by decide) c among]
  rfl

end IsCaseName

theorem toInt?_numberText (number : Int32) : (numberText number).toInt? = some number.toInt := by
  unfold numberText
  rw [Int.toString_eq_repr]
  simp

/-- A name is read up to the first character that is in none. -/
theorem takeWhile_name {inName : Char → Bool} {name : List Char} (whole : ∀ c ∈ name, inName c = true) {stop : Char}
    (stops : inName stop = false) (rest : List Char) : (name ++ stop :: rest).takeWhile inName = name
      ∧ (name ++ stop :: rest).dropWhile inName = stop :: rest := by
  have noName : ¬ inName stop = true := by
    rw [stops]
    exact Bool.false_ne_true
  constructor
  · rw [List.takeWhile_append_of_pos whole, List.takeWhile_cons_of_neg noName, List.append_nil]
  · rw [List.dropWhile_append_of_pos whole, List.dropWhile_cons_of_neg noName]

namespace CaseHead

variable {name : String}

/-- What is read behind the word `case`. -/
theorem read?_case (named : ∀ c ∈ name.toList, inName c = true) {stop : Char} (stops : inName stop = false)
    {behind : String} {rest : List Char} (spelt : behind.toList = stop :: rest) :
    read? ("case " ++ name ++ behind)
      = some ⟨name, between? "(" ")\n" behind.toList, (between? " // = " "\n" behind.toList).bind String.toInt?⟩ := by
  have starts : StartsWith 'c' 'a' ("case " ++ (name ++ behind)) := StartsWith.append ⟨_, rfl⟩ _
  have bare : bareLine ("case " ++ name ++ behind) = ("case " ++ (name ++ behind)).toList := by
    have known := bareLine_append (.inl rfl) starts (by decide)
    rwa [String.empty_append, ← String.append_assoc] at known
  have word : "case ".toList.isPrefixOf? ("case " ++ (name ++ behind)).toList
      = some (name.toList ++ stop :: rest) := by
    rw [List.isPrefixOf?_eq_some_iff_append_eq, String.toList_append, String.toList_append, spelt]
  obtain ⟨front, back⟩ := takeWhile_name named stops rest
  unfold read?
  rw [bare, word, Option.map_some, front, back, spelt, String.ofList_toList]

/-- **A case with its number behind it.** -/
theorem read?_numbered (named : IsCaseName name) (number : Int32) :
    read? ("case " ++ name ++ " // = " ++ numberText number ++ "\n") = some ⟨name, none, some number.toInt⟩ := by
  have line : "case " ++ name ++ " // = " ++ numberText number ++ "\n"
      = "case " ++ name ++ (" // = " ++ numberText number ++ "\n") := by
    simp only [String.append_assoc]
  have spelt : (" // = " ++ numberText number ++ "\n").toList = ' ' :: ("// = " ++ numberText number ++ "\n").toList := by
    simp only [String.toList_append]
    rfl
  have space : (" // = " ++ numberText number ++ "\n").toList.head? = some ' ' := by
    rw [spelt, List.head?_cons]
  have noPayload : between? "(" ")\n" (" // = " ++ numberText number ++ "\n").toList = none :=
    between?_of_ne rfl space (by decide)
  rw [line, read?_case named.inName_of_mem (by decide) spelt, noPayload, between?_append, Option.bind_some,
    toInt?_numberText]

/-- The case that holds numbers without a declared value. -/
theorem read?_unrecognized : read? "case UNRECOGNIZED(Int)\n" = some ⟨"UNRECOGNIZED", some "Int", none⟩ := by
  decide

/-- A line that is apart from the word `case` declares no case. -/
theorem read?_eq_none {line : String} (apart : IsApart "case " line) : read? line = none := by
  unfold read?
  rw [apart, Option.map_none]

end CaseHead

namespace ConstantHead

/-- **A constant that stands for a case.** -/
theorem read?_constant {modifier name : String} (known : IsAccess modifier) (whole : ':' ∉ name.toList)
    (type target : String) : read? type (modifier ++ "static let " ++ name ++ ": " ++ type ++ " = ." ++ target ++ "\n")
      = some ⟨name, some target⟩ := by
  have line : modifier ++ "static let " ++ name ++ ": " ++ type ++ " = ." ++ target ++ "\n"
      = modifier ++ ("static let " ++ (name ++ (": " ++ type ++ " = ." ++ target ++ "\n"))) := by
    simp only [String.append_assoc]
  have starts : StartsWith 's' 't' ("static let " ++ (name ++ (": " ++ type ++ " = ." ++ target ++ "\n"))) :=
    StartsWith.append ⟨_, rfl⟩ _
  have spelt : (": " ++ type ++ " = ." ++ target ++ "\n").toList
      = ':' :: (" " ++ type ++ " = ." ++ target ++ "\n").toList := by
    simp only [String.toList_append]
    rfl
  have word : "static let ".toList.isPrefixOf?
      ("static let " ++ (name ++ (": " ++ type ++ " = ." ++ target ++ "\n"))).toList
      = some (name.toList ++ (": " ++ type ++ " = ." ++ target ++ "\n").toList) := by
    rw [List.isPrefixOf?_eq_some_iff_append_eq]
    simp only [String.toList_append]
  have named : ∀ c ∈ name.toList, decide (c ≠ ':') = true := by
    intro c among
    refine decide_eq_true ?_
    rintro rfl
    exact whole among
  have stops : decide (':' ≠ ':') = false := rfl
  obtain ⟨front, back⟩ := takeWhile_name named stops
    (" " ++ type ++ " = ." ++ target ++ "\n").toList
  unfold read?
  rw [line, bareLine_append known starts (by decide), word, spelt, Option.map_some, front, back, ← spelt, between?_append,
    String.ofList_toList]

/-- A line that is apart from the words `static let` declares no constant. -/
theorem read?_eq_none {type line : String} (apart : IsApart "static let " line) : read? type line = none := by
  unfold read?
  rw [apart, Option.map_none]

end ConstantHead

/-! ### Members line by line -/

/-- The words that members start with. -/
def memberWords : List String :=
  ["typealias ", "case ", "init() \x7b\n", "init?(rawValue: Int) \x7b\n", "var rawValue: Int \x7b\n", "static let "]

/-- Whether two words differ before one of them ends. -/
def wordsDiffer (word other : String) : Bool :=
  (word.toList.zip other.toList).any fun pair => pair.1 ≠ pair.2

/-- **A line that starts with one of some words** behind its modifier, with comments, or with the end of a block. -/
inductive MemberLine (words : List String) : String → Prop
  | comments {text : String} (comment : IsCommentText text) : MemberLine words text
  | word {modifier word : String} (known : IsAccess modifier) (among : word ∈ words) (rest : String) :
    MemberLine words (modifier ++ (word ++ rest))
  | closing : MemberLine words "\x7d\n"

theorem isPrefixOf?_of_differ {word other rest : List Char} (differ : (word.zip other).any fun pair => pair.1 ≠ pair.2) :
    word.isPrefixOf? (other ++ rest) = none := by
  induction word generalizing other with
  | nil => cases differ
  | cons first word inWord =>
    cases other with
    | nil => cases differ
    | cons second other =>
      by_cases same : first = second
      · rw [List.zip_cons_cons, List.any_cons, decide_eq_false (not_not.mpr same), Bool.false_or] at differ
        rw [List.cons_append, List.isPrefixOf?, if_pos (beq_iff_eq.mpr same)]
        exact inWord differ
      · simp [List.isPrefixOf?, same]

section Words

variable {word : String}

theorem exists_startsWith_of_mem (among : word ∈ memberWords) :
    ∃ first second, StartsWith first second word ∧ (first, second) ∉ modifierStarts := by
  simp only [memberWords, List.mem_cons, List.not_mem_nil, or_false] at among
  rcases among with rfl | rfl | rfl | rfl | rfl | rfl
  all_goals exact ⟨_, _, ⟨_, rfl⟩, by decide⟩

/-- A line with a word behind its modifier, without the modifier. -/
theorem bareLine_word {modifier : String} (known : IsAccess modifier) (among : word ∈ memberWords) (rest : String) :
    bareLine (modifier ++ (word ++ rest)) = (word ++ rest).toList := by
  obtain ⟨first, second, starts, other⟩ := exists_startsWith_of_mem among
  exact bareLine_append known (starts.append rest) other

/-- Lines with other words are apart from a word. -/
theorem MemberLine.isApart {words : List String} {line : String} (own : MemberLine words line)
    (among : word ∈ memberWords) (others : ∀ other ∈ words, other ∈ memberWords ∧ wordsDiffer word other = true) :
    IsApart word line := by
  cases own with
  | comments comment =>
    simp only [memberWords, List.mem_cons, List.not_mem_nil, or_false] at among
    rcases among with rfl | rfl | rfl | rfl | rfl | rfl
    all_goals exact comment.isApart rfl (by decide)
  | @word modifier other known isOther rest =>
    obtain ⟨isWord, differ⟩ := others other isOther
    unfold IsApart
    rw [bareLine_word known isWord, String.toList_append]
    exact isPrefixOf?_of_differ differ
  | closing =>
    have bare : bareLine "\x7d\n" = ['\x7d', '\n'] := by decide
    unfold IsApart
    rw [bare]
    simp only [memberWords, List.mem_cons, List.not_mem_nil, or_false] at among
    rcases among with rfl | rfl | rfl | rfl | rfl | rfl
    all_goals rfl

end Words

theorem MemberLine.blank (words : List String) : MemberLine words "\n" :=
  .comments fun _ same => .inr (Option.some.inj same).symm

/-- Nothing that starts with a word is read in code that is made of lines with other words. -/
theorem Code.MadeOf.filterMap_eq_nil {α : Type} {words : List String} {word : String} {read? : String → Option α}
    {code : Code} (made : code.MadeOf (MemberLine words)) (among : word ∈ memberWords)
    (others : ∀ other ∈ words, other ∈ memberWords ∧ wordsDiffer word other = true)
    (nothing : ∀ line, IsApart word line → read? line = none) : code.outer.filterMap read? = [] :=
  List.filterMap_eq_nil_iff.mpr fun line isLine => nothing line ((made.outer line isLine).isApart among others)

namespace EnumDecl

/-- **An enumeration whose members are told apart by how they start.** -/
structure Readable (decl : EnumDecl) : Prop where
  access : IsAccess decl.modifier
  comments : ∀ case ∈ decl.cases, IsCommentText case.comments
  named : ∀ case ∈ decl.cases, IsCaseName case.name
  constants : ∀ constant ∈ decl.aliases, IsCaseName constant.name

/-- The member in front of the cases. -/
def numberTypeCode (decl : EnumDecl) : Code :=
  Code.line (decl.modifier ++ "typealias RawValue = Int")

variable {decl : EnumDecl}

/-- The members of an enumeration, section by section. -/
theorem members_eq (decl : EnumDecl) : decl.code.members = decl.numberTypeCode.outer ++ decl.casesCode.outer
    ++ decl.initCode.outer ++ decl.ofNumberCode.outer ++ decl.numberCode.outer ++ decl.aliasesCode.outer := by
  have type : decl.numberTypeCode.Balanced := .line _
  have cases := type.append decl.balanced_casesCode
  have init := cases.append decl.balanced_initCode
  have ofNumber := init.append decl.balanced_ofNumberCode
  have number := ofNumber.append decl.balanced_numberCode
  unfold EnumDecl.code
  rw [Code.members_declaration decl.balanced_inside]
  exact (Code.outer_append number _).trans (by
    rw [Code.outer_append ofNumber, Code.outer_append init, Code.outer_append cases, Code.outer_append type])

/-! ### Sections -/

theorem madeOf_numberTypeCode (readable : decl.Readable) :
    decl.numberTypeCode.MadeOf (MemberLine ["typealias "]) := by
  have own : MemberLine ["typealias "] (decl.modifier ++ ("typealias " ++ "RawValue = Int\n")) :=
    .word readable.access List.mem_cons_self _
  refine .line ?_
  rwa [String.append_assoc]

theorem madeOf_casesCode (readable : decl.Readable) : decl.casesCode.MadeOf (MemberLine ["case "]) := by
  have word (rest : String) : MemberLine ["case "] ("" ++ ("case " ++ rest)) :=
    .word (.inl rfl) List.mem_cons_self rest
  refine .append (.flatMap fun case among => ?_) (.ite (fun _ => .line ?_) fun _ => .nil)
  · refine (Code.MadeOf.lines (.comments (readable.comments case among))).append (.line ?_)
    have own := word (case.name ++ " // = " ++ numberText case.number ++ "\n")
    simpa only [String.empty_append, String.append_assoc] using own
  · exact word "UNRECOGNIZED(Int)\n"

/-- A block behind an empty line. -/
theorem madeOf_block (readable : decl.Readable) (head : String) {inside : Code} (balanced : inside.Balanced) :
    (Code.blank ++ Code.block (decl.modifier ++ head) inside "\x7d").MadeOf (MemberLine [head ++ "\n"]) := by
  have own : MemberLine [head ++ "\n"] (decl.modifier ++ (head ++ "\n" ++ "")) :=
    .word readable.access List.mem_cons_self ""
  rw [String.append_empty, ← String.append_assoc] at own
  exact (Code.MadeOf.lines (.blank _)).append (.block ⟨balanced⟩ own .closing)

theorem madeOf_initCode (readable : decl.Readable) : decl.initCode.MadeOf (MemberLine ["init() \x7b\n"]) := by
  unfold initCode
  cases decl.initialCase? with
  | none => exact .nil
  | some initial => exact madeOf_block readable "init() \x7b" (.line _)

theorem madeOf_ofNumberCode (readable : decl.Readable) :
    decl.ofNumberCode.MadeOf (MemberLine ["init?(rawValue: Int) \x7b\n"]) :=
  madeOf_block readable "init?(rawValue: Int) \x7b" ((((Code.Balanced.line _).append
    (.flatMap fun _ _ => .line _)).append (.line _)).append (.line _))

theorem madeOf_numberCode (readable : decl.Readable) :
    decl.numberCode.MadeOf (MemberLine ["var rawValue: Int \x7b\n"]) :=
  madeOf_block readable "var rawValue: Int \x7b" ((((Code.Balanced.line _).append
    (.flatMap fun _ _ => .line _)).append (.ite (.line _) .nil)).append (.line _))

theorem madeOf_aliasesCode (readable : decl.Readable) : decl.aliasesCode.MadeOf (MemberLine ["static let "]) := by
  refine .ite (fun _ => .nil) fun _ => (Code.MadeOf.lines (.blank _)).append (.flatMap fun constant _ => .line ?_)
  have own : MemberLine ["static let "] (decl.modifier ++ ("static let "
      ++ (constant.name ++ ": " ++ decl.name ++ " = ." ++ constant.target ++ "\n"))) :=
    .word readable.access List.mem_cons_self _
  simpa only [String.append_assoc] using own

/-! ### What is read -/

/-- The lines of the cases declare the cases. -/
theorem filterMap_casesCode (readable : decl.Readable) : decl.casesCode.outer.filterMap CaseHead.read?
    = decl.cases.map (fun case => ⟨case.name, none, some case.number.toInt⟩)
      ++ if decl.openEnded then [⟨"UNRECOGNIZED", some "Int", none⟩] else [] := by
  have lines : ∀ case ∈ decl.cases, Code.Balanced (Code.lines case.comments
      ++ Code.line ("case " ++ case.name ++ " // = " ++ numberText case.number)) :=
    fun _ _ => (Code.Balanced.lines _).append (.line _)
  have each : ∀ case ∈ decl.cases, (Code.lines case.comments
      ++ Code.line ("case " ++ case.name ++ " // = " ++ numberText case.number)).outer.filterMap CaseHead.read?
        = [⟨case.name, none, some case.number.toInt⟩] := by
    intro case among
    have comments : CaseHead.read? case.comments = none :=
      CaseHead.read?_eq_none ((readable.comments case among).isApart rfl (by decide))
    rw [Code.outer_append (.lines _), Code.outer_lines, Code.outer_line, List.singleton_append,
      List.filterMap_cons_none comments, List.filterMap_cons_some (CaseHead.read?_numbered (readable.named case among) _)]
    rfl
  unfold casesCode
  rw [Code.outer_append (.flatMap lines), Code.outer_flatMap lines, List.filterMap_append, List.filterMap_flatMap,
    List.flatMap_congr each, ← List.map_eq_flatMap]
  cases decl.openEnded
  · rfl
  · exact congrArg _ (List.filterMap_cons_some CaseHead.read?_unrecognized)

/-- **The cases that are written.** -/
theorem caseHeads_eq (readable : decl.Readable) : decl.caseHeads
    = decl.cases.map (fun case => ⟨case.name, none, some case.number.toInt⟩)
      ++ if decl.openEnded then [⟨"UNRECOGNIZED", some "Int", none⟩] else [] := by
  have nothing {code : Code} {words : List String} (made : code.MadeOf (MemberLine words))
      (others : ∀ other ∈ words, other ∈ memberWords ∧ wordsDiffer "case " other = true) :
      code.outer.filterMap CaseHead.read? = [] :=
    made.filterMap_eq_nil (by decide) others fun _ => CaseHead.read?_eq_none
  unfold caseHeads
  simp only [members_eq, List.filterMap_append]
  rw [nothing (madeOf_numberTypeCode readable) (by decide), filterMap_casesCode readable,
    nothing (madeOf_initCode readable) (by decide), nothing (madeOf_ofNumberCode readable) (by decide),
    nothing (madeOf_numberCode readable) (by decide), nothing (madeOf_aliasesCode readable) (by decide)]
  simp only [List.nil_append, List.append_nil]

/-- A case that is written without anything in it is one of those of the declaration. -/
theorem mem_caseHeads_iff (readable : decl.Readable) {head : CaseHead} : head ∈ decl.caseHeads ∧ head.payload? = none
    ↔ ∃ case ∈ decl.cases, head = ⟨case.name, none, some case.number.toInt⟩ := by
  rw [caseHeads_eq readable, List.mem_append, List.mem_map]
  constructor
  · rintro ⟨⟨case, among, rfl⟩ | other, empty⟩
    · exact ⟨case, among, rfl⟩
    · split at other
      · obtain rfl := List.mem_singleton.mp other
        cases empty
      · cases other
  · rintro ⟨case, among, rfl⟩
    exact ⟨.inl ⟨case, among, rfl⟩, rfl⟩

/-- The lines of the constants declare the constants. -/
theorem filterMap_aliasesCode (readable : decl.Readable) :
    decl.aliasesCode.outer.filterMap (ConstantHead.read? decl.name)
      = decl.aliases.map fun constant => ⟨constant.name, some constant.target⟩ := by
  have each : ∀ constant ∈ decl.aliases, (Code.line (decl.modifier ++ "static let " ++ constant.name ++ ": "
      ++ decl.name ++ " = ." ++ constant.target)).outer.filterMap (ConstantHead.read? decl.name)
        = [⟨constant.name, some constant.target⟩] := by
    intro constant among
    have whole : ':' ∉ constant.name.toList :=
      (readable.constants constant among).not_mem (by decide) (by decide) (by decide)
    rw [Code.outer_line, List.filterMap_cons_some (ConstantHead.read?_constant readable.access whole _ _)]
    rfl
  have blank : ConstantHead.read? decl.name "\n" = none :=
    ConstantHead.read?_eq_none ((MemberLine.blank []).isApart (by decide) (by decide))
  unfold aliasesCode
  split
  next none =>
    rw [List.isEmpty_iff.mp none]
    rfl
  next =>
    rw [Code.outer_append .blank, Code.outer_blank, Code.outer_flatMap fun _ _ => .line _, List.singleton_append,
      List.filterMap_cons_none blank, List.filterMap_flatMap, List.flatMap_congr each, ← List.map_eq_flatMap]

/-- **The constants that are written.** -/
theorem constants_eq (readable : decl.Readable) : decl.constants
    = decl.aliases.map fun constant => ⟨constant.name, some constant.target⟩ := by
  have nothing {code : Code} {words : List String} (made : code.MadeOf (MemberLine words))
      (others : ∀ other ∈ words, other ∈ memberWords ∧ wordsDiffer "static let " other = true) :
      code.outer.filterMap (ConstantHead.read? decl.name) = [] :=
    made.filterMap_eq_nil (by decide) others fun _ => ConstantHead.read?_eq_none
  unfold constants
  simp only [members_eq, List.filterMap_append]
  rw [nothing (madeOf_numberTypeCode readable) (by decide), nothing (madeOf_casesCode readable) (by decide),
    nothing (madeOf_initCode readable) (by decide), nothing (madeOf_ofNumberCode readable) (by decide),
    nothing (madeOf_numberCode readable) (by decide), filterMap_aliasesCode readable]
  simp only [List.nil_append]

/-- The first constant with a name is the first of those of the declaration. -/
theorem find?_constants (readable : decl.Readable) (name : String) : decl.constants.find? (·.name = name)
    = (decl.aliases.find? (·.name = name)).map fun constant => ⟨constant.name, some constant.target⟩ := by
  rw [constants_eq readable, List.find?_map]
  rfl

/-- The lines of a block behind an empty line and members with other words. -/
theorem body?_of_code (readable : decl.Readable) {head : String} (among : head ++ "\n" ∈ memberWords)
    {front body back : Code} (made : front.MadeOf (IsApart (head ++ "\n"))) (balanced : body.Balanced)
    (backBalanced : back.Balanced) (whole : decl.code = Code.lines decl.comments
      ++ Code.block (decl.modifier ++ "enum " ++ decl.name ++ ": SwiftProtobuf.Enum \x7b")
        (front ++ (Code.blank ++ Code.block (decl.modifier ++ head) body "\x7d") ++ back) "\x7d") :
    decl.body? head = some (body.filterMap Code.stepText?) := by
  have before : Code.MadeOf (IsApart (head ++ "\n")) (front ++ Code.blank) :=
    made.append (.lines ((MemberLine.blank []).isApart among fun _ none => absurd none List.not_mem_nil))
  have isHead : bareLine (decl.modifier ++ head ++ "\n") = (head ++ "\n").toList := by
    have bare := bareLine_word readable.access among ""
    rwa [String.append_empty, ← String.append_assoc] at bare
  have others : ∀ line ∈ (front ++ Code.blank).outer, decide (bareLine line = (head ++ "\n").toList) = false := by
    intro line isLine
    refine decide_eq_false fun same => ?_
    have apart := before.outer line isLine
    rw [IsApart, same, List.isPrefixOf?_eq_some_iff_append_eq.mpr (List.append_nil _)] at apart
    cases apart
  unfold body?
  rw [whole, ← List.append_assoc, Code.memberBody?_declaration before.balanced balanced backBalanced others
    (decide_eq_true isHead), Option.map_some, Code.map_snd_texts]

/-- What is in front of the blocks is apart from their heads. -/
theorem madeOf_front (readable : decl.Readable) {word : String} (among : word ∈ memberWords)
    (type : wordsDiffer word "typealias " = true) (case : wordsDiffer word "case " = true) :
    Code.MadeOf (IsApart word) (decl.numberTypeCode ++ decl.casesCode) := by
  refine ((madeOf_numberTypeCode readable).imp fun _ own => own.isApart among ?_).append
    ((madeOf_casesCode readable).imp fun _ own => own.isApart among ?_)
  · exact List.forall_mem_singleton.mpr ⟨by decide, type⟩
  · exact List.forall_mem_singleton.mpr ⟨by decide, case⟩

/-- **The block of the initializer without arguments.** -/
theorem body?_init (readable : decl.Readable) {initial : String} (given : decl.initialCase? = some initial) :
    decl.body? "init() \x7b" = some ["self = " ++ initial ++ "\n"] := by
  refine body?_of_code readable (by decide) (madeOf_front readable (by decide) (by decide) (by decide))
    (.line ("self = " ++ initial))
    ((decl.balanced_ofNumberCode.append decl.balanced_numberCode).append decl.balanced_aliasesCode) ?_
  unfold EnumDecl.code initCode
  rw [given]
  simp only [numberTypeCode, List.append_assoc]

/-- The lines of the initializer from a number. -/
def numberSwitch (decl : EnumDecl) : Code :=
  Code.line "switch rawValue \x7b"
    ++ decl.cases.flatMap (fun case => Code.line ("case " ++ numberText case.number ++ ": self = ." ++ case.name))
    ++ Code.line (if decl.openEnded then "default: self = .UNRECOGNIZED(rawValue)" else "default: return nil")
    ++ Code.line "\x7d"

/-- The lines of the property that gives the number. -/
def valueSwitch (decl : EnumDecl) : Code :=
  Code.line "switch self \x7b"
    ++ decl.cases.flatMap (fun case => Code.line ("case ." ++ case.name ++ ": return " ++ numberText case.number))
    ++ (if decl.openEnded then Code.line "case .UNRECOGNIZED(let i): return i" else [])
    ++ Code.line "\x7d"

/-- **The block of the initializer from a number.** -/
theorem body?_ofNumber (readable : decl.Readable) :
    decl.body? "init?(rawValue: Int) \x7b" = some (decl.numberSwitch.filterMap Code.stepText?) := by
  have front : Code.MadeOf (IsApart ("init?(rawValue: Int) \x7b" ++ "\n"))
      (decl.numberTypeCode ++ decl.casesCode ++ decl.initCode) :=
    (madeOf_front readable (by decide) (by decide) (by decide)).append
      ((madeOf_initCode readable).imp fun _ own => own.isApart (by decide) (by decide))
  have balanced : decl.numberSwitch.Balanced :=
    (((Code.Balanced.line _).append (.flatMap fun _ _ => .line _)).append (.line _)).append (.line _)
  refine body?_of_code readable (by decide) front balanced
    (decl.balanced_numberCode.append decl.balanced_aliasesCode) ?_
  simp only [EnumDecl.code, ofNumberCode, numberTypeCode, numberSwitch, List.append_assoc]

/-- **The block of the property that gives the number.** -/
theorem body?_number (readable : decl.Readable) :
    decl.body? "var rawValue: Int \x7b" = some (decl.valueSwitch.filterMap Code.stepText?) := by
  have front : Code.MadeOf (IsApart ("var rawValue: Int \x7b" ++ "\n"))
      (decl.numberTypeCode ++ decl.casesCode ++ decl.initCode ++ decl.ofNumberCode) :=
    ((madeOf_front readable (by decide) (by decide) (by decide)).append
      ((madeOf_initCode readable).imp fun _ own => own.isApart (by decide) (by decide))).append
      ((madeOf_ofNumberCode readable).imp fun _ own => own.isApart (by decide) (by decide))
  have balanced : decl.valueSwitch.Balanced :=
    (((Code.Balanced.line _).append (.flatMap fun _ _ => .line _)).append (.ite (.line _) .nil)).append (.line _)
  refine body?_of_code readable (by decide) front balanced decl.balanced_aliasesCode ?_
  simp only [EnumDecl.code, numberCode, numberTypeCode, valueSwitch, List.append_assoc]

end EnumDecl

end ProtoSwift
