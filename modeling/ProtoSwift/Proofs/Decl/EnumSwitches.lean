/-
**What the switches of a generated enumeration do.**

A value of an enumeration is made from a number by one switch, and gives its number by another. A reader takes the
arms of a switch from the lines of its block: what is in front of the first colon is the pattern, what is behind it the
statement. The first arm applies whose pattern fits, or that has none. So the code of an enumeration maps numbers to
values and values to numbers, by what it says and not by what it is made from. A block with any other line in it is no
switch, and gives no answer.

* `switchArms?` — the arms of a switch, from its lines;
* `EnumDecl.ofNumber?`, `EnumDecl.number?`, `EnumDecl.initial?` — what the two initializers and the property give;
* `EnumDecl.numberArms?_eq`, `EnumDecl.valueArms?_eq` — the arms that are written;
* `EnumDecl.Sound` — a declaration whose cases are apart, by name and by number;
* `EnumDecl.Sound.ofNumber?_of_mem`, `EnumDecl.Sound.number?_of_mem` — its cases go to their numbers and back.
-/

import ProtoSwift.Decl.Enumeration
import ProtoSwift.Proofs.Decl.EnumMembers
import Mathlib

namespace ProtoSwift

open Swift Text

/-! ### Arms -/

/-- An arm of a switch. The arm for everything else has no pattern. -/
structure SwitchArm where
  pattern? : Option String
  statement : String
  deriving DecidableEq, Repr

namespace SwitchArm

/-- The arm on a line of code. -/
def ofLine? (line : String) : Option SwitchArm :=
  match "case ".toList.isPrefixOf? line.toList with
  | some rest =>
    (between? ": " "\n" (rest.dropWhile (· ≠ ':'))).map fun statement =>
      ⟨some (String.ofList (rest.takeWhile (· ≠ ':'))), statement⟩
  | none => (between? "default: " "\n" line.toList).map (⟨none, ·⟩)

/-- Whether an arm applies to what some patterns fit. -/
def applies (fits : String → Bool) (arm : SwitchArm) : Bool :=
  match arm.pattern? with
  | some pattern => fits pattern
  | none => true

end SwitchArm

/-- The line that opens a switch. -/
def switchLine (subject : String) : String :=
  "switch " ++ subject ++ " \x7b\n"

/-- **The arms of the switch over a subject**, if its lines are these: one that opens it, one for each arm, and one that
closes it. -/
def switchArms? (subject : String) (lines : List String) : Option (List SwitchArm) :=
  match lines with
  | [] => none
  | first :: rest =>
    if first = switchLine subject ∧ rest.getLast? = some "\x7d\n" then rest.dropLast.mapM SwitchArm.ofLine? else none

/-- The statement of the first arm that applies. -/
def chosen? (fits : String → Bool) (arms : List SwitchArm) : Option String :=
  (arms.find? (·.applies fits)).map SwitchArm.statement

namespace SwitchArm

theorem ofLine?_case (pattern statement : String) (plain : ':' ∉ pattern.toList) :
    ofLine? ("case " ++ pattern ++ ": " ++ statement ++ "\n") = some ⟨some pattern, statement⟩ := by
  have rest : "case ".toList.isPrefixOf? ("case " ++ pattern ++ ": " ++ statement ++ "\n").toList
      = some (pattern.toList ++ (": " ++ statement ++ "\n").toList) := by
    rw [List.isPrefixOf?_eq_some_iff_append_eq]
    simp only [String.toList_append, List.append_assoc]
  have other : ∀ c ∈ pattern.toList, decide (c ≠ ':') = true := by
    intro c among
    rw [decide_eq_true_iff]
    rintro rfl
    exact plain among
  have colon : (": " ++ statement ++ "\n").toList = ':' :: (" " ++ statement ++ "\n").toList := by
    simp only [String.toList_append]
    rfl
  have front : (pattern.toList ++ (": " ++ statement ++ "\n").toList).takeWhile (fun c => decide (c ≠ ':'))
      = pattern.toList := by
    rw [List.takeWhile_append_of_pos other, colon, List.takeWhile_cons_of_neg (by simp), List.append_nil]
  have back : (pattern.toList ++ (": " ++ statement ++ "\n").toList).dropWhile (fun c => decide (c ≠ ':'))
      = (": " ++ statement ++ "\n").toList := by
    rw [List.dropWhile_append_of_pos other, colon, List.dropWhile_cons_of_neg (by simp)]
  unfold ofLine?
  rw [rest]
  show Option.map _ (between? _ _ (List.dropWhile _ _)) = _
  rw [back, front, between?_append, Option.map_some, String.ofList_toList]

theorem ofLine?_default (statement : String) :
    ofLine? ("default: " ++ statement ++ "\n") = some ⟨none, statement⟩ := by
  have none : "case ".toList.isPrefixOf? ("default: " ++ statement ++ "\n").toList = none := by
    simp only [String.toList_append]
    rfl
  unfold ofLine?
  rw [none]
  show Option.map _ (between? _ _ _) = _
  rw [between?_append, Option.map_some]

end SwitchArm

/-- Lines that hold an arm each hold these arms. -/
theorem mapM_ofLine?_map {α : Type} {elements : List α} {line : α → String} {arm : α → SwitchArm}
    (each : ∀ element ∈ elements, SwitchArm.ofLine? (line element) = some (arm element)) :
    (elements.map line).mapM SwitchArm.ofLine? = some (elements.map arm) := by
  induction elements with
  | nil => rfl
  | cons first rest inRest =>
    rw [List.forall_mem_cons] at each
    rw [List.map_cons, List.mapM_cons, each.1, inRest each.2]
    rfl

/-- A switch has the arms that are written between its first and its last line. -/
theorem switchArms?_lines {subject : String} {cases rest : List String} {arms last : List SwitchArm}
    (inCases : cases.mapM SwitchArm.ofLine? = some arms) (inRest : rest.mapM SwitchArm.ofLine? = some last) :
    switchArms? subject ([switchLine subject] ++ cases ++ rest ++ ["\x7d\n"]) = some (arms ++ last) := by
  have inside : (cases ++ rest).mapM SwitchArm.ofLine? = some (arms ++ last) := by
    rw [List.mapM_append, inCases, inRest]
    rfl
  have whole : [switchLine subject] ++ cases ++ rest ++ ["\x7d\n"]
      = switchLine subject :: (cases ++ rest ++ ["\x7d\n"]) := by
    simp only [List.nil_append, List.cons_append, List.append_assoc]
  rw [whole, switchArms?, List.getLast?_concat, if_pos ⟨rfl, rfl⟩, List.dropLast_concat, inside]

/-! ### Values -/

/-- A value of a generated enumeration. -/
inductive EnumInstance
  | case (name : String)
  /-- A number without a declared value. -/
  | unrecognized (number : Int)
  deriving DecidableEq, Repr

namespace EnumInstance

/-- The value that a statement assigns, where the raw value may be in scope. -/
def assigned? (rawValue? : Option Int) (statement : String) : Option EnumInstance :=
  match between? "self = .UNRECOGNIZED(" ")" statement.toList with
  | some argument => (if argument = "rawValue" then rawValue? else argument.toInt?).map unrecognized
  | none => (between? "self = ." "" statement.toList).map case

/-- Whether a pattern fits a value. -/
def fits : EnumInstance → String → Bool
  | case name, pattern => pattern = "." ++ name
  | unrecognized _, pattern => pattern = ".UNRECOGNIZED" || pattern = ".UNRECOGNIZED(let i)"

/-- The number that a statement returns, where `i` is the number without a declared value, if it is one. -/
def returned? (value : EnumInstance) (statement : String) : Option Int :=
  (between? "return " "" statement.toList).bind fun result =>
    match value with
    | unrecognized number => if result = "i" then some number else result.toInt?
    | case _ => result.toInt?

end EnumInstance

namespace EnumDecl

/-- The arms of the switch over the raw value, read in the code of an enumeration. -/
def numberArms? (decl : EnumDecl) : Option (List SwitchArm) :=
  (decl.body? "init?(rawValue: Int) \x7b").bind (switchArms? "rawValue")

/-- The arms of the switch over the value, read in the code of an enumeration. -/
def valueArms? (decl : EnumDecl) : Option (List SwitchArm) :=
  (decl.body? "var rawValue: Int \x7b").bind (switchArms? "self")

/-- **What the initializer makes of a number**: a value, or nothing. There is no answer if the switch says
something else. -/
def ofNumber? (decl : EnumDecl) (number : Int) : Option (Option EnumInstance) :=
  (decl.numberArms?.bind (chosen? fun label => label.toInt? = some number)).bind fun statement =>
    if statement = "return nil" then some none else (EnumInstance.assigned? (some number) statement).map some

/-- **The number that the property gives for a value.** -/
def number? (decl : EnumDecl) (value : EnumInstance) : Option Int :=
  (decl.valueArms?.bind (chosen? value.fits)).bind value.returned?

/-- **The value that the initializer without arguments makes**, by its only line, where no raw value is in scope. -/
def initial? (decl : EnumDecl) : Option EnumInstance :=
  match decl.body? "init() \x7b" with
  | some [line] => (between? "" "\n" line.toList).bind (EnumInstance.assigned? none)
  | _ => none

end EnumDecl

namespace EnumInstance

/-- The name of a case is read off the statement that assigns it. -/
theorem assigned?_case {name : String} (named : IsCaseName name) (rawValue? : Option Int) :
    assigned? rawValue? ("self = ." ++ name) = some (.case name) := by
  have none : between? "self = .UNRECOGNIZED(" ")" ("self = ." ++ name).toList = none := by
    have noPrefix : "self = .UNRECOGNIZED(".toList.isPrefixOf? ("self = ." ++ name).toList = none := by
      rw [Option.eq_none_iff_forall_ne_some]
      intro rest found
      rw [List.isPrefixOf?_eq_some_iff_append_eq, String.toList_append] at found
      have same : "self = .".toList ++ ("UNRECOGNIZED(".toList ++ rest) = "self = .".toList ++ name.toList := found
      exact named.ne_append (c := 'U') rfl _ (List.append_cancel_left same).symm
    unfold between?
    rw [noPrefix]
    rfl
  have spelt : ("self = ." ++ name).toList = ("self = ." ++ name ++ "").toList := by
    rw [String.append_empty]
  unfold assigned?
  rw [none, spelt, between?_append]
  rfl

theorem assigned?_unrecognized (number : Int) :
    assigned? (some number) "self = .UNRECOGNIZED(rawValue)" = some (.unrecognized number) := by
  have argument : between? "self = .UNRECOGNIZED(" ")" "self = .UNRECOGNIZED(rawValue)".toList = some "rawValue" :=
    between?_append "self = .UNRECOGNIZED(" ")" "rawValue"
  unfold assigned?
  rw [argument]
  rfl

/-- The number of a case is read off the statement that returns it. -/
theorem returned?_number (name : String) (number : Int32) :
    returned? (.case name) ("return " ++ numberText number) = some number.toInt := by
  have spelt : ("return " ++ numberText number).toList = ("return " ++ numberText number ++ "").toList := by
    rw [String.append_empty]
  unfold returned?
  rw [spelt, between?_append, Option.bind_some]
  exact toInt?_numberText number

theorem returned?_unrecognized (number : Int) : returned? (.unrecognized number) "return i" = some number := by
  have result : between? "return " "" "return i".toList = some "i" := between?_append "return " "" "i"
  unfold returned?
  rw [result]
  rfl

end EnumInstance

/-! ### The arms that are written -/

namespace EnumDecl

/-- The arm that makes a case from its number. -/
def numberArm (case : EnumCase) : SwitchArm :=
  ⟨some (numberText case.number), "self = ." ++ case.name⟩

/-- The arm for numbers without a declared value. -/
def otherwiseArm (decl : EnumDecl) : SwitchArm :=
  ⟨none, if decl.openEnded then "self = .UNRECOGNIZED(rawValue)" else "return nil"⟩

/-- The arm that gives the number of a case. -/
def valueArm (case : EnumCase) : SwitchArm :=
  ⟨some ("." ++ case.name), "return " ++ numberText case.number⟩

/-- The arm that gives a number without a declared value. -/
def unrecognizedArm : SwitchArm :=
  ⟨some ".UNRECOGNIZED(let i)", "return i"⟩

/-- **A declaration whose cases are apart**, by name and by number. -/
structure Sound (decl : EnumDecl) : Prop extends Readable decl where
  names : (decl.cases.map EnumCase.name).Nodup
  numbers : (decl.cases.map EnumCase.number).Nodup

variable {decl : EnumDecl}

theorem ofLine?_numberArm (case : EnumCase) :
    SwitchArm.ofLine? ("case " ++ numberText case.number ++ ": self = ." ++ case.name ++ "\n")
      = some (numberArm case) := by
  have line : "case " ++ numberText case.number ++ ": self = ." ++ case.name ++ "\n"
      = "case " ++ numberText case.number ++ ": " ++ ("self = ." ++ case.name) ++ "\n" := by
    have statement : ": self = ." = ": " ++ "self = ." := rfl
    rw [statement]
    simp only [String.append_assoc]
  rw [line]
  exact SwitchArm.ofLine?_case _ _ ((isDecimal_numberText case.number).not_mem (by decide) rfl)

theorem ofLine?_valueArm {case : EnumCase} (named : IsCaseName case.name) :
    SwitchArm.ofLine? ("case ." ++ case.name ++ ": return " ++ numberText case.number ++ "\n")
      = some (valueArm case) := by
  have line : "case ." ++ case.name ++ ": return " ++ numberText case.number ++ "\n"
      = "case " ++ ("." ++ case.name) ++ ": " ++ ("return " ++ numberText case.number) ++ "\n" := by
    have pattern : "case ." = "case " ++ "." := rfl
    have statement : ": return " = ": " ++ "return " := rfl
    rw [pattern, statement]
    simp only [String.append_assoc]
  have plain : ':' ∉ ("." ++ case.name).toList := by
    rw [String.toList_append]
    intro among
    rcases List.mem_append.mp among with dot | inName
    · exact absurd dot (by decide)
    · exact named.not_mem (by decide) (by decide) (by decide) inName
  rw [line]
  exact SwitchArm.ofLine?_case _ _ plain

/-- Lines of code for each element of a list print one text each. -/
theorem filterMap_stepText?_flatMap_line {α : Type} (elements : List α) (text : α → String) :
    (elements.flatMap fun element => Code.line (text element)).filterMap Code.stepText?
      = elements.map fun element => text element ++ "\n" := by
  rw [List.filterMap_flatMap, List.map_eq_flatMap]
  rfl

/-- The arms of the switch over the raw value: one for each case, and the one for everything else. -/
theorem numberArms?_eq (readable : decl.Readable) :
    decl.numberArms? = some (decl.cases.map numberArm ++ [decl.otherwiseArm]) := by
  have last : [if decl.openEnded then "default: self = .UNRECOGNIZED(rawValue)\n" else "default: return nil\n"].mapM
      SwitchArm.ofLine? = some [decl.otherwiseArm] := by
    unfold otherwiseArm
    cases decl.openEnded
    · exact congrArg (Option.map ([·])) (SwitchArm.ofLine?_default "return nil")
    · exact congrArg (Option.map ([·])) (SwitchArm.ofLine?_default "self = .UNRECOGNIZED(rawValue)")
  have lines : decl.numberSwitch.filterMap Code.stepText? = [switchLine "rawValue"]
      ++ decl.cases.map (fun case => "case " ++ numberText case.number ++ ": self = ." ++ case.name ++ "\n")
      ++ [if decl.openEnded then "default: self = .UNRECOGNIZED(rawValue)\n" else "default: return nil\n"]
      ++ ["\x7d\n"] := by
    unfold numberSwitch
    rw [List.filterMap_append, List.filterMap_append, List.filterMap_append, filterMap_stepText?_flatMap_line]
    cases decl.openEnded <;> rfl
  unfold numberArms?
  rw [body?_ofNumber readable, Option.bind_some, lines,
    switchArms?_lines (mapM_ofLine?_map fun case _ => ofLine?_numberArm case) last]

/-- The arms of the switch over the value: one for each case, and one for other numbers if there are such. -/
theorem valueArms?_eq (readable : decl.Readable) :
    decl.valueArms? = some (decl.cases.map valueArm ++ if decl.openEnded then [unrecognizedArm] else []) := by
  have last : (if decl.openEnded then ["case .UNRECOGNIZED(let i): return i\n"] else []).mapM SwitchArm.ofLine?
      = some (if decl.openEnded then [unrecognizedArm] else []) := by
    cases decl.openEnded
    · rfl
    · exact congrArg (Option.map ([·])) (SwitchArm.ofLine?_case ".UNRECOGNIZED(let i)" "return i" (by decide))
  have lines : decl.valueSwitch.filterMap Code.stepText? = [switchLine "self"]
      ++ decl.cases.map (fun case => "case ." ++ case.name ++ ": return " ++ numberText case.number ++ "\n")
      ++ (if decl.openEnded then ["case .UNRECOGNIZED(let i): return i\n"] else []) ++ ["\x7d\n"] := by
    unfold valueSwitch
    rw [List.filterMap_append, List.filterMap_append, List.filterMap_append, filterMap_stepText?_flatMap_line]
    cases decl.openEnded <;> rfl
  unfold valueArms?
  rw [body?_number readable, Option.bind_some, lines,
    switchArms?_lines (mapM_ofLine?_map fun case among => ofLine?_valueArm (readable.named case among)) last]

/-! ### Numbers to cases and back -/

/-- The first element with the key of an element is that element, if no key occurs twice. -/
theorem find?_key_of_mem {α β : Type} [DecidableEq β] {key : α → β} {elements : List α}
    (distinct : (elements.map key).Nodup) {element : α} (among : element ∈ elements) :
    elements.find? (fun other => decide (key other = key element)) = some element := by
  have found : (elements.find? fun other => decide (key other = key element)).isSome :=
    List.find?_isSome.mpr ⟨element, among, decide_eq_true rfl⟩
  obtain ⟨other, isOther⟩ := Option.isSome_iff_exists.mp found
  have same : key other = key element := by simpa using List.find?_some isOther
  rw [isOther, List.inj_on_of_nodup_map distinct (List.mem_of_find?_eq_some isOther) among same]

/-- The arms of cases come before the others: the first case that is wanted decides, if there is one. -/
theorem chosen?_map_append {cases : List EnumCase} {arm : EnumCase → SwitchArm} {fits : String → Bool}
    {wanted : EnumCase → Bool} (each : ∀ case ∈ cases, (arm case).applies fits = wanted case)
    (rest : List SwitchArm) : chosen? fits (cases.map arm ++ rest)
      = ((cases.find? wanted).map fun case => (arm case).statement).or (chosen? fits rest) := by
  have same : (cases.map arm).find? (·.applies fits) = (cases.find? wanted).map arm := by
    rw [List.find?_map]
    congr 1
    exact List.find?_congr each
  unfold chosen?
  rw [List.find?_append, same]
  cases cases.find? wanted <;> rfl

theorem applies_numberArm (number : Int) (case : EnumCase) :
    (numberArm case).applies (fun label => label.toInt? = some number) = decide (case.number.toInt = number) := by
  show decide ((numberText case.number).toInt? = some number) = _
  rw [decide_eq_decide, toInt?_numberText, Option.some.injEq]

theorem applies_valueArm (name : String) (case : EnumCase) :
    (valueArm case).applies (EnumInstance.case name).fits = decide (case.name = name) := by
  show decide ("." ++ case.name = "." ++ name) = _
  rw [decide_eq_decide, String.append_right_inj]

/-- No arm of a case fits a number without a declared value. -/
theorem applies_unrecognized {case : EnumCase} (named : IsCaseName case.name) (number : Int) :
    (valueArm case).applies (EnumInstance.unrecognized number).fits = false := by
  have apart : ∀ rest : List Char, ("." ++ case.name).toList ≠ '.' :: 'U' :: rest := by
    intro rest same
    rw [String.toList_append] at same
    exact named.ne_append (c := 'U') rfl rest (List.cons.inj same).2
  have noPlain : "." ++ case.name ≠ ".UNRECOGNIZED" := fun same => apart _ (congrArg String.toList same)
  have noBound : "." ++ case.name ≠ ".UNRECOGNIZED(let i)" := fun same => apart _ (congrArg String.toList same)
  show (decide ("." ++ case.name = ".UNRECOGNIZED") || decide ("." ++ case.name = ".UNRECOGNIZED(let i)")) = _
  rw [decide_eq_false noPlain, decide_eq_false noBound]
  rfl

namespace Sound

/-- **A number that a case has gives the case.** -/
theorem ofNumber?_of_mem (sound : decl.Sound) {case : EnumCase} (among : case ∈ decl.cases) :
    decl.ofNumber? case.number.toInt = some (some (.case case.name)) := by
  have each : ∀ other ∈ decl.cases, (numberArm other).applies (fun label => label.toInt? = some case.number.toInt)
      = decide (other.number = case.number) := by
    intro other _
    rw [applies_numberArm, decide_eq_decide, Int32.toInt_inj]
  have noReturn : "self = ." ++ case.name ≠ "return nil" := by
    intro same
    have first := congrArg (·.toList.head?) same
    simp only [String.toList_append] at first
    cases first
  unfold ofNumber?
  rw [numberArms?_eq sound.toReadable, Option.bind_some, chosen?_map_append each, find?_key_of_mem sound.numbers among]
  show (if "self = ." ++ case.name = "return nil" then some none
    else Option.map some (EnumInstance.assigned? (some case.number.toInt) ("self = ." ++ case.name))) = _
  rw [if_neg noReturn, EnumInstance.assigned?_case (sound.named case among), Option.map_some]

/-- **A number that no case has gives a value of its own, or nothing.** -/
theorem ofNumber?_of_forall_ne (sound : decl.Sound) {number : Int}
    (other : ∀ case ∈ decl.cases, case.number.toInt ≠ number) :
    decl.ofNumber? number = some (if decl.openEnded then some (.unrecognized number) else none) := by
  have each : ∀ case ∈ decl.cases, (numberArm case).applies (fun label => label.toInt? = some number) = false := by
    intro case among
    rw [applies_numberArm]
    exact decide_eq_false (other case among)
  unfold ofNumber?
  rw [numberArms?_eq sound.toReadable, Option.bind_some, chosen?_map_append each, List.find?_eq_none.mpr (by simp)]
  show (if decl.otherwiseArm.statement = "return nil" then _ else _) = _
  unfold otherwiseArm
  cases decl.openEnded
  · rfl
  · show Option.map some (EnumInstance.assigned? (some number) "self = .UNRECOGNIZED(rawValue)") = _
    rw [EnumInstance.assigned?_unrecognized]
    rfl

/-- **A case gives its number.** -/
theorem number?_of_mem (sound : decl.Sound) {case : EnumCase} (among : case ∈ decl.cases) :
    decl.number? (.case case.name) = some case.number.toInt := by
  unfold number?
  rw [valueArms?_eq sound.toReadable, Option.bind_some, chosen?_map_append fun other _ => applies_valueArm case.name other,
    find?_key_of_mem sound.names among]
  exact EnumInstance.returned?_number case.name case.number

/-- **A number without a declared value is kept.** -/
theorem number?_unrecognized (sound : decl.Sound) (isOpen : decl.openEnded = true) (number : Int) :
    decl.number? (.unrecognized number) = some number := by
  unfold number?
  rw [valueArms?_eq sound.toReadable, Option.bind_some,
    chosen?_map_append fun case among => applies_unrecognized (sound.named case among) number,
    List.find?_eq_none.mpr (by simp), isOpen]
  exact EnumInstance.returned?_unrecognized number

/-- **The initializer without arguments makes the first case.** -/
theorem initial?_of_head? (sound : decl.Sound) {case : EnumCase} (first : decl.cases.head? = some case) :
    decl.initial? = some (.case case.name) := by
  have given : decl.initialCase? = some ("." ++ case.name) := by
    unfold initialCase?
    rw [first]
  have line : "self = " ++ ("." ++ case.name) ++ "\n" = "" ++ ("self = ." ++ case.name) ++ "\n" := by
    rw [String.empty_append, ← String.append_assoc]
    rfl
  unfold initial?
  rw [body?_init sound.toReadable given]
  show (between? "" "\n" _).bind _ = _
  rw [line, between?_append, Option.bind_some,
    EnumInstance.assigned?_case (sound.named case (List.mem_of_mem_head? first))]

end Sound

end EnumDecl

end ProtoSwift
