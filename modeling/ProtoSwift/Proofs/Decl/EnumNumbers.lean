/-
**A generated enumeration has the numbers of its values.**

The values of an enumeration are divided into cases and constants one after the other: the first value with a number
leads the others, and becomes the case that they stand for. One step of the division keeps that the cases are those
of the leading values, so the whole division does. The rest follows from what the switches do with cases that are
apart: numbers go to cases and back, whatever the numbers are and however the constants stand between the cases.

* `EnumNode.leads`, `EnumNode.aliasOf` — the values that become cases, and what the others become;
* `EnumDecl.divides_divide` — how values are divided;
* `EnumDecl.sound_ofNode` — the cases of a generated enumeration are apart if their names are;
* `EnumDecl.Faithful` — what a declaration has to do with the numbers of the values;
* `EnumDecl.faithful_ofNode` — every declaration does it whose cases have names of their own.
-/

import ProtoSwift.Proofs.Decl.EnumSwitches
import ProtoSwift.Proofs.Decl.Layout
import ProtoSwift.Symbol.Table
import Mathlib

namespace ProtoSwift

open Swift

/-! ### Values that lead -/

namespace EnumNode

variable {node : EnumNode}

/-- The value that leads those with a number: the first of them. -/
def leader? (node : EnumNode) (number : Int32) : Option Schema.EnumValue :=
  node.schema.values.find? (·.number = number)

/-- **Whether a value is the first with its number.** -/
def leads (node : EnumNode) (value : Schema.EnumValue) : Bool :=
  node.leader? value.number = some value

/-- What a case has of its value. -/
def keyOf (node : EnumNode) (value : Schema.EnumValue) : String × Int32 :=
  (node.caseNameOf value, value.number)

/-- The case that a value becomes if it leads. -/
def caseOf (node : EnumNode) (comments : Path → String) (position : Nat) (value : Schema.EnumValue) : EnumCase :=
  { name := node.caseNameOf value
    number := value.number
    comments := comments (node.path.enumValue position) }

/-- The constant that a value becomes behind the one that leads it. -/
def aliasOf (node : EnumNode) (value : Schema.EnumValue) : EnumAlias :=
  { name := node.caseNameOf value
    target := ((node.leader? value.number).map node.caseNameOf).getD "" }

/-- Every value has one that leads it. -/
theorem exists_leader {value : Schema.EnumValue} (among : value ∈ node.schema.values) :
    ∃ leader, node.leader? value.number = some leader ∧ node.leads leader = true
      ∧ leader.number = value.number := by
  have found : (node.leader? value.number).isSome :=
    List.find?_isSome.mpr ⟨value, among, decide_eq_true rfl⟩
  obtain ⟨leader, isLeader⟩ := Option.isSome_iff_exists.mp found
  have same : leader.number = value.number := by simpa using List.find?_some isLeader
  refine ⟨leader, isLeader, decide_eq_true ?_, same⟩
  rw [same]
  exact isLeader

/-- Values that lead the same number are the same. -/
theorem eq_of_leads {first second : Schema.EnumValue} (firstLeads : node.leads first = true)
    (secondLeads : node.leads second = true) (same : first.number = second.number) : first = second := by
  have ofFirst : node.leader? first.number = some first := of_decide_eq_true firstLeads
  have ofSecond : node.leader? second.number = some second := of_decide_eq_true secondLeads
  rw [same, ofSecond] at ofFirst
  exact (Option.some.inj ofFirst).symm

end EnumNode

/-! ### Dividing the values -/

/-- What a case has of its value. -/
def EnumCase.key (case : EnumCase) : String × Int32 :=
  (case.name, case.number)

theorem EnumNode.key_caseOf (node : EnumNode) (comments : Path → String) (position : Nat)
    (value : Schema.EnumValue) : (node.caseOf comments position value).key = node.keyOf value := by
  simp only [EnumCase.key, caseOf, keyOf]

theorem EnumNode.name_aliasOf (node : EnumNode) (value : Schema.EnumValue) :
    (node.aliasOf value).name = node.caseNameOf value := by
  simp only [aliasOf]

/-- A value behind the one that leads it stands for the case of that one. -/
theorem EnumNode.aliasOf_eq {node : EnumNode} {value leader : Schema.EnumValue}
    (isLeader : node.leader? value.number = some leader) :
    node.aliasOf value = ⟨node.caseNameOf value, node.caseNameOf leader⟩ := by
  unfold aliasOf
  rw [isLeader, Option.map_some, Option.getD_some]

namespace EnumDecl

variable {node : EnumNode}

section Step

variable {comments : Path → String} {before : List EnumCase} {position : Nat} {value : Schema.EnumValue}

/-- A value becomes a case if no case has its number. -/
theorem divide_cons_of_new (rest : List Schema.EnumValue)
    (new : before.find? (·.number = value.number) = none) :
    divide node comments before position (value :: rest)
      = divide node comments (before ++ [node.caseOf comments position value]) (position + 1) rest := by
  rw [divide, new]
  rfl

/-- A value becomes a constant if a case has its number. -/
theorem divide_cons_of_known (rest : List Schema.EnumValue) {first : EnumCase}
    (known : before.find? (·.number = value.number) = some first) :
    divide node comments before position (value :: rest)
      = ((divide node comments before (position + 1) rest).1,
        ⟨node.caseNameOf value, first.name⟩ :: (divide node comments before (position + 1) rest).2) := by
  rw [divide, known]

end Step

/-- **How values are divided behind some cases**: those that lead become cases, the others constants. -/
structure Divides (node : EnumNode) (before : List EnumCase) (values : List Schema.EnumValue)
    (divided : List EnumCase × List EnumAlias) : Prop where
  cases : divided.1.map EnumCase.key = before.map EnumCase.key ++ (values.filter node.leads).map node.keyOf
  aliases : divided.2 = (values.filter (!node.leads ·)).map node.aliasOf

section Division

variable {done rest : List Schema.EnumValue} {value : Schema.EnumValue} {before : List EnumCase}

/-- A case that comes from the values before belongs to one of them that leads. -/
theorem exists_value_of_mem (mirrors : before.map EnumCase.key = (done.filter node.leads).map node.keyOf)
    {case : EnumCase} (among : case ∈ before) : ∃ earlier ∈ done, node.leads earlier = true
      ∧ node.caseNameOf earlier = case.name ∧ earlier.number = case.number := by
  have inKeys : case.key ∈ (done.filter node.leads).map node.keyOf := by
    rw [← mirrors]
    exact List.mem_map_of_mem among
  obtain ⟨earlier, isEarlier, same⟩ := List.mem_map.mp inKeys
  obtain ⟨isDone, leads⟩ := List.mem_filter.mp isEarlier
  obtain ⟨name, number⟩ := Prod.mk.inj same
  exact ⟨earlier, isDone, leads, name, number⟩

/-- No case has the number of a value that leads. -/
theorem find?_case_of_leads (mirrors : before.map EnumCase.key = (done.filter node.leads).map node.keyOf)
    (notDone : value ∉ done) (leads : node.leads value = true) :
    before.find? (·.number = value.number) = none := by
  rw [List.find?_eq_none]
  intro case among
  rw [decide_eq_true_iff]
  intro same
  obtain ⟨earlier, isDone, leads', -, number⟩ := exists_value_of_mem mirrors among
  rw [EnumNode.eq_of_leads leads' leads (number.trans same)] at isDone
  exact notDone isDone

/-- A value that does not lead finds the case of the value that leads it. -/
theorem find?_case_of_not_leads (whole : node.schema.values = done ++ value :: rest)
    (mirrors : before.map EnumCase.key = (done.filter node.leads).map node.keyOf)
    (follows : node.leads value = false) :
    ∃ first, before.find? (·.number = value.number) = some first
      ∧ ⟨node.caseNameOf value, first.name⟩ = node.aliasOf value := by
  have among : value ∈ node.schema.values := by
    rw [whole]
    exact List.mem_append_right _ List.mem_cons_self
  obtain ⟨leader, isLeader, leads, sameNumber⟩ := EnumNode.exists_leader among
  have inDone : leader ∈ done := by
    have found := isLeader
    unfold EnumNode.leader? at found
    rw [whole, List.find?_append, List.find?_cons_of_pos (by simp)] at found
    rcases Option.or_eq_some_iff.mp found with earlier | ⟨_, here⟩
    · exact List.mem_of_find?_eq_some earlier
    · rw [← Option.some.inj here, follows] at leads
      cases leads
  have inKeys : node.keyOf leader ∈ before.map EnumCase.key := by
    rw [mirrors]
    exact List.mem_map_of_mem (List.mem_filter.mpr ⟨inDone, leads⟩)
  obtain ⟨case, isCase, key⟩ := List.mem_map.mp inKeys
  have caseNumber : case.number = leader.number := congrArg Prod.snd key
  have found : (before.find? (·.number = value.number)).isSome :=
    List.find?_isSome.mpr ⟨case, isCase, decide_eq_true (caseNumber.trans sameNumber)⟩
  obtain ⟨first, isFirst⟩ := Option.isSome_iff_exists.mp found
  have firstNumber : first.number = value.number := by simpa using List.find?_some isFirst
  obtain ⟨earlier, -, leads', name, number⟩ := exists_value_of_mem mirrors (List.mem_of_find?_eq_some isFirst)
  have same : earlier = leader :=
    EnumNode.eq_of_leads leads' leads (number.trans (firstNumber.trans sameNumber.symm))
  refine ⟨first, isFirst, ?_⟩
  rw [EnumNode.aliasOf_eq isLeader, ← same, name]

end Division

/-- **Values are divided into those that lead and the others**, if the cases before are those of the values before
that lead. The induction is on the values that are left. -/
theorem divides_divide (comments : Path → String) (done : List Schema.EnumValue) {rest : List Schema.EnumValue}
    {before : List EnumCase} (position : Nat) (whole : node.schema.values = done ++ rest)
    (distinct : node.schema.values.Nodup)
    (mirrors : before.map EnumCase.key = (done.filter node.leads).map node.keyOf) :
    Divides node before rest (divide node comments before position rest) := by
  induction rest generalizing done before position with
  | nil => exact ⟨(List.append_nil _).symm, rfl⟩
  | cons value rest inRest =>
    have next : node.schema.values = (done ++ [value]) ++ rest := by
      rw [whole, List.append_assoc]
      rfl
    cases leads : node.leads value with
    | true =>
      have notDone : value ∉ done := by
        rw [whole] at distinct
        exact fun among => (List.nodup_append.mp distinct).2.2 value among value List.mem_cons_self rfl
      have mirrors' : (before ++ [node.caseOf comments position value]).map EnumCase.key
          = ((done ++ [value]).filter node.leads).map node.keyOf := by
        rw [List.map_append, mirrors, List.filter_append, List.map_append, List.filter_cons_of_pos leads,
          List.filter_nil, List.map_singleton, List.map_singleton, EnumNode.key_caseOf]
      have divides := inRest _ (position + 1) next mirrors'
      rw [divide_cons_of_new rest (find?_case_of_leads mirrors notDone leads)]
      constructor
      · rw [divides.cases, List.filter_cons_of_pos leads, List.map_append, List.append_assoc,
          List.map_singleton, EnumNode.key_caseOf, List.singleton_append, List.map_cons]
      · rw [divides.aliases, List.filter_cons_of_neg (by simpa using leads)]
    | false =>
      obtain ⟨first, found, same⟩ := find?_case_of_not_leads whole mirrors leads
      have noCase : ¬ node.leads value = true := by simpa using leads
      have mirrors' : before.map EnumCase.key = ((done ++ [value]).filter node.leads).map node.keyOf := by
        rw [mirrors, List.filter_append, List.filter_cons_of_neg noCase, List.filter_nil, List.append_nil]
      have divides := inRest _ (position + 1) next mirrors'
      rw [divide_cons_of_known rest found, same]
      constructor
      · rw [List.filter_cons_of_neg noCase]
        exact divides.cases
      · rw [List.filter_cons_of_pos (by simpa using leads), List.map_cons, ← divides.aliases]

/-- A case that values give has the comments at some path. -/
theorem exists_comments_of_mem_divide {comments : Path → String} {before : List EnumCase} {position : Nat}
    {values : List Schema.EnumValue} {case : EnumCase} (among : case ∈ (divide node comments before position values).1) :
    case ∈ before ∨ ∃ path, case.comments = comments path := by
  induction values generalizing before position with
  | nil => exact .inl among
  | cons value rest inRest =>
    cases found : before.find? (·.number = value.number) with
    | none =>
      rw [divide_cons_of_new rest found] at among
      rcases inRest among with known | commented
      · rcases List.mem_append.mp known with earlier | own
        · exact .inl earlier
        · rw [List.mem_singleton.mp own]
          exact .inr ⟨_, rfl⟩
      · exact .inr commented
    | some first =>
      rw [divide_cons_of_known rest found] at among
      exact inRest among

/-! ### The cases of a declaration -/

theorem openEnded_ofNode (access : AccessLevel) (file : FileNode) (node : EnumNode) :
    (ofNode access file node).openEnded = decide (file.era = .proto3) :=
  rfl

theorem divides_ofNode (access : AccessLevel) (file : FileNode) (distinct : node.schema.values.Nodup) :
    Divides node [] node.schema.values ((ofNode access file node).cases, (ofNode access file node).aliases) :=
  divides_divide file.commentText [] 0 rfl distinct rfl

/-- Values with names of their own are different values. -/
theorem nodup_values (distinct : node.caseNames.Nodup) : node.schema.values.Nodup :=
  List.Nodup.of_map _ distinct

/-- The cases of a declaration are those of the values that lead. -/
theorem map_key_ofNode (access : AccessLevel) (file : FileNode) (distinct : node.caseNames.Nodup) :
    (ofNode access file node).cases.map EnumCase.key = (node.schema.values.filter node.leads).map node.keyOf :=
  (divides_ofNode access file (nodup_values distinct)).cases

theorem map_name_ofNode (access : AccessLevel) (file : FileNode) (distinct : node.caseNames.Nodup) :
    (ofNode access file node).cases.map EnumCase.name
      = (node.schema.values.filter node.leads).map node.caseNameOf := by
  have ofCases : (Prod.fst ∘ EnumCase.key) = EnumCase.name := by
    funext case
    rfl
  have ofValues : (Prod.fst ∘ node.keyOf) = node.caseNameOf := by
    funext value
    simp only [Function.comp_apply, EnumNode.keyOf]
  have keys := congrArg (List.map Prod.fst) (map_key_ofNode access file distinct)
  rwa [List.map_map, List.map_map, ofCases, ofValues] at keys

theorem map_number_ofNode (access : AccessLevel) (file : FileNode) (distinct : node.caseNames.Nodup) :
    (ofNode access file node).cases.map EnumCase.number
      = (node.schema.values.filter node.leads).map Schema.EnumValue.number := by
  have ofCases : (Prod.snd ∘ EnumCase.key) = EnumCase.number := by
    funext case
    rfl
  have ofValues : (Prod.snd ∘ node.keyOf) = Schema.EnumValue.number := by
    funext value
    rfl
  have keys := congrArg (List.map Prod.snd) (map_key_ofNode access file distinct)
  rwa [List.map_map, List.map_map, ofCases, ofValues] at keys

/-- The constants of a declaration are those of the values that do not lead. -/
theorem aliases_ofNode (access : AccessLevel) (file : FileNode) (distinct : node.caseNames.Nodup) :
    (ofNode access file node).aliases = (node.schema.values.filter (!node.leads ·)).map node.aliasOf :=
  (divides_ofNode access file (nodup_values distinct)).aliases

theorem nodup_map_name_aliases (access : AccessLevel) (file : FileNode) (distinct : node.caseNames.Nodup) :
    ((ofNode access file node).aliases.map EnumAlias.name).Nodup := by
  have ofValues : (EnumAlias.name ∘ node.aliasOf) = node.caseNameOf := by
    funext value
    exact node.name_aliasOf value
  rw [aliases_ofNode access file distinct, List.map_map, ofValues]
  exact distinct.sublist (List.filter_sublist.map _)

/-- **The members of a declaration are told apart**, if the names that values have as cases are. -/
theorem readable_ofNode (access : AccessLevel) (file : FileNode) (distinct : node.caseNames.Nodup) :
    (ofNode access file node).Readable := by
  constructor
  case access => exact access.isAccess_typeModifier
  case comments =>
    intro case among
    rcases exists_comments_of_mem_divide among with none | ⟨path, commented⟩
    · exact absurd none List.not_mem_nil
    · rw [commented]
      exact file.isCommentText_commentText path
  case named =>
    intro case among
    obtain ⟨value, -, -, name, -⟩ := exists_value_of_mem (map_key_ofNode access file distinct) among
    exact ⟨node.schema.name, value.name, name⟩
  case constants =>
    intro constant among
    rw [aliases_ofNode access file distinct] at among
    obtain ⟨value, -, rfl⟩ := List.mem_map.mp among
    exact ⟨node.schema.name, value.name, (node.name_aliasOf value).symm⟩

/-- **The cases of a declaration are apart** if the names that values have as cases are. -/
theorem sound_ofNode (access : AccessLevel) (file : FileNode) (distinct : node.caseNames.Nodup) :
    (ofNode access file node).Sound := by
  refine ⟨readable_ofNode access file distinct, ?_, ?_⟩
  · rw [map_name_ofNode access file distinct]
    exact distinct.sublist (List.filter_sublist.map _)
  · rw [map_number_ofNode access file distinct]
    refine List.Nodup.map_on ?_ ((nodup_values distinct).filter _)
    intro first isFirst second isSecond same
    exact EnumNode.eq_of_leads (List.mem_filter.mp isFirst).2 (List.mem_filter.mp isSecond).2 same

/-- There is a case for every value: that of the value that leads it. -/
theorem exists_case_of_mem (access : AccessLevel) (file : FileNode) (distinct : node.caseNames.Nodup)
    {value : Schema.EnumValue} (among : value ∈ node.schema.values) :
    ∃ leader, node.leader? value.number = some leader ∧ ∃ case ∈ (ofNode access file node).cases,
      case.name = node.caseNameOf leader ∧ case.number = value.number := by
  obtain ⟨leader, isLeader, leads, sameNumber⟩ := EnumNode.exists_leader among
  have inKeys : node.keyOf leader ∈ (ofNode access file node).cases.map EnumCase.key := by
    rw [map_key_ofNode access file distinct]
    exact List.mem_map_of_mem (List.mem_filter.mpr ⟨List.mem_of_find?_eq_some isLeader, leads⟩)
  obtain ⟨case, isCase, key⟩ := List.mem_map.mp inKeys
  obtain ⟨name, number⟩ := Prod.mk.inj key
  exact ⟨leader, isLeader, case, isCase, name, number.trans sameNumber⟩

/-! ### References to values -/

/-- What a name stands for inside the type: a case without anything in it, or what a constant stands for. -/
def meaning? (decl : EnumDecl) (name : String) : Option EnumInstance :=
  if decl.caseHeads.any (fun case => case.name = name && case.payload? = none) then some (.case name)
  else (decl.constants.find? (·.name = name)).bind fun constant => constant.target?.map .case

/-- **The number that a reference denotes**, which has a dot in front of the name. -/
def denoted? (decl : EnumDecl) (reference : String) : Option Int :=
  (between? "." "" reference.toList).bind fun name => (decl.meaning? name).bind decl.number?

/-- Values that share the name of a case are the same. -/
theorem eq_of_caseNameOf_eq (distinct : node.caseNames.Nodup) {first second : Schema.EnumValue}
    (isFirst : first ∈ node.schema.values) (isSecond : second ∈ node.schema.values)
    (same : node.caseNameOf first = node.caseNameOf second) : first = second :=
  List.inj_on_of_nodup_map distinct isFirst isSecond same

/-- **The name of a value stands for the case with its number**, whether as a case or as a constant. -/
theorem meaning?_caseNameOf (access : AccessLevel) (file : FileNode) (distinct : node.caseNames.Nodup)
    {value : Schema.EnumValue} (among : value ∈ node.schema.values) : ∃ case ∈ (ofNode access file node).cases,
      case.number = value.number
        ∧ (ofNode access file node).meaning? (node.caseNameOf value) = some (.case case.name) := by
  obtain ⟨leader, isLeader, case, isCase, name, number⟩ := exists_case_of_mem access file distinct among
  have readable := readable_ofNode access file distinct
  refine ⟨case, isCase, number, ?_⟩
  unfold meaning?
  cases leads : node.leads value with
  | true =>
    have same : leader = value := by
      have own : node.leader? value.number = some value := of_decide_eq_true leads
      rw [isLeader] at own
      exact Option.some.inj own
    have isHead := (mem_caseHeads_iff readable).mpr ⟨case, isCase, rfl⟩
    rw [same] at name
    rw [if_pos (List.any_eq_true.mpr ⟨_, isHead.1, by simp [name]⟩), name]
  | false =>
    have noName : ¬ (ofNode access file node).caseHeads.any (fun case => case.name = node.caseNameOf value
        && case.payload? = none) = true := by
      rw [List.any_eq_true]
      rintro ⟨head, isHead, sameName⟩
      rw [Bool.and_eq_true, decide_eq_true_eq, decide_eq_true_eq] at sameName
      obtain ⟨other, isOther, rfl⟩ := (mem_caseHeads_iff readable).mp ⟨isHead, sameName.2⟩
      obtain ⟨value', isValue, leads', name', -⟩ :=
        exists_value_of_mem (map_key_ofNode access file distinct) isOther
      have same : value' = value := eq_of_caseNameOf_eq distinct isValue among (name'.trans sameName.1)
      rw [same, leads] at leads'
      cases leads'
    have isAlias : node.aliasOf value ∈ (ofNode access file node).aliases := by
      rw [aliases_ofNode access file distinct]
      exact List.mem_map_of_mem (List.mem_filter.mpr ⟨among, by simpa using leads⟩)
    have found := find?_key_of_mem (nodup_map_name_aliases access file distinct) isAlias
    rw [EnumNode.aliasOf_eq isLeader] at found
    have written : (ofNode access file node).constants.find? (·.name = node.caseNameOf value)
        = some ⟨node.caseNameOf value, some (node.caseNameOf leader)⟩ := by
      rw [find?_constants readable, found, Option.map_some]
    rw [if_neg noName, written, Option.bind_some, Option.map_some, name]

/-- **A reference to a value denotes its number.** -/
theorem denoted?_caseNameOf (access : AccessLevel) (file : FileNode) (distinct : node.caseNames.Nodup)
    {value : Schema.EnumValue} (among : value ∈ node.schema.values) :
    (ofNode access file node).denoted? (Value.enumCase (node.caseNameOf value)).text
      = some value.number.toInt := by
  obtain ⟨case, isCase, number, meaning⟩ := meaning?_caseNameOf access file distinct among
  have name : between? "." "" (Value.enumCase (node.caseNameOf value)).text.toList
      = some (node.caseNameOf value) := by
    show between? "." "" ("." ++ node.caseNameOf value).toList = _
    rw [← between?_append "." "" (node.caseNameOf value), String.append_empty]
  unfold denoted?
  rw [name, Option.bind_some, meaning, Option.bind_some,
    (sound_ofNode access file distinct).number?_of_mem isCase, number]

/-- The name of a value is found under the full name of its enumeration, if that is declared once. -/
theorem resolveCase_of_enumsNamed {table : SymbolTable} (once : table.enumsNamed node.fullName.text = [node])
    (distinct : (node.schema.values.map Schema.EnumValue.name).Nodup) {value : Schema.EnumValue}
    (among : value ∈ node.schema.values) :
    table.resolveCase node.fullName.text value.name = .ok (node.caseNameOf value) := by
  have found : node.caseName? value.name = some (node.caseNameOf value) := by
    unfold EnumNode.caseName?
    rw [find?_key_of_mem distinct among, Option.map_some]
  unfold SymbolTable.resolveCase
  rw [once, List.findSome?_cons, found]

/-! ### Faithful declarations -/

/-- **What the code of a declaration has to do with the numbers of the values.** Everything is read in the code.

* the cases are those of the values that are the first with their number, in the order of the values, with one more for
  other numbers in the third era, and every other value is a constant that names the case with its number;
* no two arms of the switch over the raw value have the same label;
* a number that is declared gives a case, which gives that number; one that is not gives a value of its own in the
  third era, which gives the number too, and nothing in the second; and every case comes back from its number, which is
  the one written behind it;
* the reference to a value denotes its number, if the full name of the enumeration is declared once and its values
  have names of their own;
* the case that fields start with is the one that a new value is. -/
structure Faithful (decl : EnumDecl) (file : FileNode) (node : EnumNode) : Prop where
  cases : decl.caseHeads = (node.schema.values.filter node.leads).map (fun value =>
      { name := node.caseNameOf value, payload? := none, number? := some value.number.toInt })
    ++ if file.era = .proto3 then [{ name := "UNRECOGNIZED", payload? := some "Int", number? := none }] else []
  aliases : List.Forall₂ (fun constant value => constant.name = node.caseNameOf value
      ∧ ∃ case ∈ decl.caseHeads, constant.target? = some case.name ∧ case.payload? = none
        ∧ case.number? = some value.number.toInt)
    decl.constants (node.schema.values.filter (!node.leads ·))
  labels : ∃ arms, decl.numberArms? = some arms ∧ (arms.filterMap SwitchArm.pattern?).Nodup
  declared : ∀ value ∈ node.schema.values, ∃ case ∈ decl.caseHeads, case.payload? = none
    ∧ decl.ofNumber? value.number.toInt = some (some (.case case.name))
    ∧ decl.number? (.case case.name) = some value.number.toInt
  undeclared : ∀ number, (∀ value ∈ node.schema.values, value.number.toInt ≠ number) →
    match file.era with
    | .proto3 => decl.ofNumber? number = some (some (.unrecognized number))
      ∧ decl.number? (.unrecognized number) = some number
    | .proto2 => decl.ofNumber? number = some none
  recovered : ∀ case ∈ decl.caseHeads, case.payload? = none → ∃ number, case.number? = some number
    ∧ decl.number? (.case case.name) = some number ∧ decl.ofNumber? number = some (some (.case case.name))
  references : ∀ table : SymbolTable, table.enumsNamed node.fullName.text = [node] →
    (node.schema.values.map Schema.EnumValue.name).Nodup → ∀ value ∈ node.schema.values,
      ∃ name, table.resolveCase node.fullName.text value.name = .ok name
        ∧ decl.denoted? (Value.enumCase name).text = some value.number.toInt
  initial : node.schema.values ≠ [] →
    ∃ name, node.firstCase? = some name ∧ decl.initial? = some (.case name)

/-- The cases that are written are those of the values that lead, and the one for other numbers. -/
theorem caseHeads_ofNode (access : AccessLevel) (file : FileNode) (distinct : node.caseNames.Nodup) :
    (ofNode access file node).caseHeads = (node.schema.values.filter node.leads).map (fun value =>
        { name := node.caseNameOf value, payload? := none, number? := some value.number.toInt })
      ++ if file.era = .proto3 then [{ name := "UNRECOGNIZED", payload? := some "Int", number? := none }] else [] := by
  let head : String × Int32 → CaseHead := fun key => ⟨key.1, none, some key.2.toInt⟩
  have ofCases : head ∘ EnumCase.key = fun case => ⟨case.name, none, some case.number.toInt⟩ := by
    funext case
    rfl
  have ofValues : head ∘ node.keyOf = fun value => ⟨node.caseNameOf value, none, some value.number.toInt⟩ := by
    funext value
    simp only [Function.comp_apply, EnumNode.keyOf, head]
  have heads := congrArg (List.map head) (map_key_ofNode access file distinct)
  rw [List.map_map, List.map_map, ofCases, ofValues] at heads
  rw [caseHeads_eq (readable_ofNode access file distinct), openEnded_ofNode, heads]
  simp only [decide_eq_true_eq]

/-- The labels of the switch over the raw value are the numbers of the cases. -/
theorem labels_ofNode (access : AccessLevel) (file : FileNode) (distinct : node.caseNames.Nodup) :
    ∃ arms, (ofNode access file node).numberArms? = some arms ∧ (arms.filterMap SwitchArm.pattern?).Nodup := by
  have sound := sound_ofNode access file distinct
  have ofCases : SwitchArm.pattern? ∘ numberArm = some ∘ (numberText ∘ EnumCase.number) := by
    funext case
    rfl
  refine ⟨_, numberArms?_eq sound.toReadable, ?_⟩
  rw [List.filterMap_append, List.filterMap_map, ofCases, List.filterMap_eq_map, ← List.map_map]
  show List.Nodup (_ ++ [])
  rw [List.append_nil]
  exact sound.numbers.map numberText_injective

/-- The constants of a declaration name the cases with the numbers of their values. -/
theorem forall₂_aliases_ofNode (access : AccessLevel) (file : FileNode) (distinct : node.caseNames.Nodup) :
    List.Forall₂ (fun constant value => constant.name = node.caseNameOf value
        ∧ ∃ case ∈ (ofNode access file node).cases, case.name = constant.target ∧ case.number = value.number)
      (ofNode access file node).aliases (node.schema.values.filter (!node.leads ·)) := by
  rw [aliases_ofNode access file distinct, List.forall₂_map_left_iff, List.forall₂_same]
  intro value among
  obtain ⟨leader, isLeader, case, isCase, name, number⟩ :=
    exists_case_of_mem access file distinct (List.mem_filter.mp among).1
  refine ⟨node.name_aliasOf value, case, isCase, ?_, number⟩
  rw [name, EnumNode.aliasOf_eq isLeader]

/-- So do the constants that are written. -/
theorem forall₂_constants_ofNode (access : AccessLevel) (file : FileNode) (distinct : node.caseNames.Nodup) :
    List.Forall₂ (fun constant value => constant.name = node.caseNameOf value
        ∧ ∃ case ∈ (ofNode access file node).caseHeads, constant.target? = some case.name ∧ case.payload? = none
          ∧ case.number? = some value.number.toInt)
      (ofNode access file node).constants (node.schema.values.filter (!node.leads ·)) := by
  have readable := readable_ofNode access file distinct
  rw [constants_eq readable, List.forall₂_map_left_iff]
  refine (forall₂_aliases_ofNode access file distinct).imp fun constant value found => ?_
  obtain ⟨name, case, isCase, target, number⟩ := found
  have isHead := (mem_caseHeads_iff readable).mpr ⟨case, isCase, rfl⟩
  refine ⟨name, _, isHead.1, ?_, isHead.2, ?_⟩
  · rw [target]
  · rw [number]

/-- The first value leads, so the first case is its case. -/
theorem head?_cases_ofNode (access : AccessLevel) (file : FileNode) (distinct : node.caseNames.Nodup)
    {first : Schema.EnumValue} (isFirst : node.schema.values.head? = some first) :
    ∃ case, (ofNode access file node).cases.head? = some case ∧ case.name = node.caseNameOf first := by
  obtain ⟨rest, shape⟩ : ∃ rest, node.schema.values = first :: rest := List.head?_eq_some_iff.mp isFirst
  have leads : node.leads first = true := by
    refine decide_eq_true ?_
    unfold EnumNode.leader?
    rw [shape, List.find?_cons_of_pos (by simp)]
  have keys := map_key_ofNode access file distinct
  rw [shape, List.filter_cons_of_pos leads, List.map_cons] at keys
  obtain ⟨case, cases, same, key, -⟩ := List.map_eq_cons_iff.mp keys
  exact ⟨case, by rw [same, List.head?_cons], (Prod.mk.inj key).1⟩

/-- **The case that fields start with is the one that a new value is.** -/
theorem initial?_ofNode (access : AccessLevel) (file : FileNode) (distinct : node.caseNames.Nodup)
    (filled : node.schema.values ≠ []) :
    ∃ name, node.firstCase? = some name ∧ (ofNode access file node).initial? = some (.case name) := by
  obtain ⟨first, rest, shape⟩ := List.exists_cons_of_ne_nil filled
  have isFirst : node.schema.values.head? = some first := by
    rw [shape, List.head?_cons]
  obtain ⟨case, isCase, name⟩ := head?_cases_ofNode access file distinct isFirst
  refine ⟨node.caseNameOf first, ?_, ?_⟩
  · unfold EnumNode.firstCase? EnumNode.caseNames
    rw [List.head?_map, isFirst, Option.map_some]
  · rw [(sound_ofNode access file distinct).initial?_of_head? isCase, name]

/-- **A generated enumeration has the numbers of its values**, if the names of the cases are pairwise distinct. -/
theorem faithful_ofNode (access : AccessLevel) (file : FileNode) (distinct : node.caseNames.Nodup) :
    (ofNode access file node).Faithful file node := by
  have sound := sound_ofNode access file distinct
  constructor
  case cases => exact caseHeads_ofNode access file distinct
  case aliases => exact forall₂_constants_ofNode access file distinct
  case labels => exact labels_ofNode access file distinct
  case declared =>
    intro value among
    obtain ⟨leader, -, case, isCase, -, number⟩ := exists_case_of_mem access file distinct among
    have isHead := (mem_caseHeads_iff sound.toReadable).mpr ⟨case, isCase, rfl⟩
    refine ⟨_, isHead.1, isHead.2, ?_, ?_⟩
    · rw [← number]
      exact sound.ofNumber?_of_mem isCase
    · rw [← number]
      exact sound.number?_of_mem isCase
  case undeclared =>
    intro number other
    have noCase : ∀ case ∈ (ofNode access file node).cases, case.number.toInt ≠ number := by
      intro case isCase
      obtain ⟨value, isValue, -, -, same⟩ := exists_value_of_mem (map_key_ofNode access file distinct) isCase
      rw [← same]
      exact other value isValue
    have given := sound.ofNumber?_of_forall_ne noCase
    rw [openEnded_ofNode] at given
    cases era : file.era with
    | proto3 =>
      have isOpen : (ofNode access file node).openEnded = true := by
        rw [openEnded_ofNode, era]
        rfl
      rw [era] at given
      exact ⟨given, sound.number?_unrecognized isOpen number⟩
    | proto2 =>
      rw [era] at given
      exact given
  case recovered =>
    intro head isHead empty
    obtain ⟨case, isCase, rfl⟩ := (mem_caseHeads_iff sound.toReadable).mp ⟨isHead, empty⟩
    exact ⟨case.number.toInt, rfl, sound.number?_of_mem isCase, sound.ofNumber?_of_mem isCase⟩
  case references =>
    intro table once names value among
    exact ⟨node.caseNameOf value, resolveCase_of_enumsNamed once names among,
      denoted?_caseNameOf access file distinct among⟩
  case initial => exact initial?_ofNode access file distinct

/-- A file with an enumeration, two values of which have the same number. -/
def doorFile : FileNode :=
  FileNode.declare .proto3
    { name? := "door.proto"
      enumerations :=
        [{ name? := "Door"
           values := [{ name? := "DOOR_OPEN", number? := some 0 }, { name? := "DOOR_CLOSED", number? := some 1 },
             { name? := "SHUT", number? := some 1 }, { name? := "DOOR_LOCKED", number? := some (-1) }] }] }

theorem faithful_ofNode_door : ∃ node ∈ doorFile.enums, node.caseNames.Nodup
    ∧ node.caseNames = ["\x60open\x60", "closed", "shut", "locked"]
    ∧ ({ files := [doorFile] } : SymbolTable).enumsNamed node.fullName.text = [node]
    ∧ (ofNode .publicAccess doorFile node).Faithful doorFile node :=
  ⟨_, List.mem_cons_self, by decide +kernel, by decide +kernel, rfl,
    faithful_ofNode .publicAccess doorFile (by decide +kernel)⟩

end EnumDecl

end ProtoSwift
