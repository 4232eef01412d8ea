/-
**Where the property of a field meets the query or the reset of another field.**

The names of a field are made fresh against the properties of other fields only. The query and the reset of a
field are not among the names that are used, so a property can be called like one of them: a message with the
fields `card` and `has_card` declares `hasCard` twice. In ASCII this takes a field whose name begins with the word
`has` or `clear`, as only the first word of a property is written in small letters.

* `firstWord_of_property_eq` — a property that is called like a member of another field begins with its verb;
* `StructDecl.presence_members_apart` — what the name of a field begins with that meets another one;
* `StructDecl.clash_client` — a message that declares a member twice.
-/

import ProtoSwift.Proofs.Decl.MemberNames
import ProtoSwift.Proofs.Field.Presence
import Mathlib

namespace ProtoSwift

open Swift Text

/-! ### How base names begin -/

theorem head?_legalStart {word : List Char} {c : Char} (first : (legalStart word).head? = some c) :
    c.isDigit = false ∧ (c = '_' ∨ c ∈ word) := by
  cases word with
  | nil =>
    cases first
    exact ⟨rfl, Or.inl rfl⟩
  | cons head rest =>
    unfold legalStart at first
    by_cases digit : head.isDigit = true
    · simp only [digit, if_true] at first
      cases first
      exact ⟨rfl, Or.inl rfl⟩
    · simp only [digit] at first
      cases first
      exact ⟨by simpa using digit, Or.inr List.mem_cons_self⟩

/-- A fresh base name is a name in camel case, with nothing or an underscore behind it. -/
theorem exists_freshBase_eq_append (used : List String) (field : Schema.Field) : ∃ behind,
    (freshBase used field).toList = legalStart (lowerCamel field.name.toList) ++ behind
      ∧ (behind = [] ∨ behind.head? = some '_') := by
  obtain ⟨camel, spelt, shape⟩ := FieldNames.baseName_cases field.name
  have plain : ∃ behind, (FieldNames.baseName field.name).toList = camel.toList ++ behind
      ∧ (behind = [] ∨ behind.head? = some '_') := by
    rcases shape with ⟨_, same⟩ | ⟨_, same⟩
    · exact ⟨[], by rw [same, List.append_nil], Or.inl rfl⟩
    · exact ⟨['_', 'p'], by rw [same, String.toList_append]; rfl, Or.inr rfl⟩
  obtain ⟨behind, base, start⟩ := plain
  rw [← spelt]
  unfold freshBase
  split
  · refine ⟨behind ++ '_' :: (numberText field.number).toList, ?_, Or.inr ?_⟩
    · rw [toList_numbered, base, List.append_assoc]
    · rcases start with rfl | start
      · rfl
      · rw [List.head?_append, start]
        rfl
  · exact ⟨behind, base, start⟩

/-- A base name does not begin with a digit, and not with a small letter once it is capitalized. -/
theorem exists_capitalizeFirst_freshBase (used : List String) {field : Schema.Field}
    (ascii : IsAscii field.name.toList) : ∃ c rest, capitalizeFirst (freshBase used field).toList = c :: rest
      ∧ c.isLower = false ∧ c.isDigit = false := by
  obtain ⟨behind, base, _⟩ := exists_freshBase_eq_append used field
  cases shape : legalStart (lowerCamel field.name.toList) with
  | nil => exact absurd shape (baseShape_legalStart (not_mem_lowerCamel (by decide))).ne_nil
  | cons first rest =>
    obtain ⟨noDigit, origin⟩ := head?_legalStart (c := first) (by rw [shape]; rfl)
    have small : first.toNat < 128 := by
      rcases origin with rfl | inCamel
      · decide
      · exact ascii.lowerCamel first inCamel
    rw [base, shape, List.cons_append, capitalizeFirst, Unicode.toUppercase_of_lt first small]
    exact ⟨first.toUpper, rest ++ behind, rfl, Char.isLower_toUpper_eq_false _, (isDigit_toUpper _).trans noDigit⟩

/-! ### Names behind a verb -/

/-- A verb, which is written in small letters. -/
def IsVerb (verb : List Char) : Prop :=
  verb ≠ [] ∧ ∀ c ∈ verb, c.isLower = true

theorem IsVerb.isLower_head {verb rest : List Char} (isVerb : IsVerb verb) {c : Char}
    (first : (verb ++ rest).head? = some c) : c.isLower = true := by
  cases verb with
  | nil => exact absurd rfl isVerb.1
  | cons head others =>
    cases first
    exact isVerb.2 _ List.mem_cons_self

theorem isVerb_has : IsVerb "has".toList :=
  ⟨by decide, List.all_eq_true.mp rfl⟩

theorem isVerb_clear : IsVerb "clear".toList :=
  ⟨by decide, List.all_eq_true.mp rfl⟩

/-- Two texts that start alike start with the same part if neither part can go on. -/
theorem left_eq_of_append_eq {α : Type} {inFirst inSecond : α → Prop} {first second before after : List α}
    (firstOnly : ∀ c ∈ first, inFirst c) (secondOnly : ∀ c ∈ second, inSecond c)
    (firstEnds : ∀ c, before.head? = some c → ¬ inSecond c) (secondEnds : ∀ c, after.head? = some c → ¬ inFirst c)
    (same : first ++ before = second ++ after) : first = second := by
  rcases List.append_eq_append_iff.mp same with ⟨between, longer, rest⟩ | ⟨between, longer, rest⟩
  · cases between with
    | nil => rw [longer, List.append_nil]
    | cons c more =>
      have among : c ∈ second := by
        rw [longer]
        exact List.mem_append_right _ List.mem_cons_self
      exact absurd (secondOnly c among) (firstEnds c (by rw [rest]; rfl))
  · cases between with
    | nil => rw [longer, List.append_nil]
    | cons c more =>
      have among : c ∈ first := by
        rw [longer]
        exact List.mem_append_right _ List.mem_cons_self
      exact absurd (firstOnly c among) (secondEnds c (by rw [rest]; rfl))

/-- **Only the first word of a base name is written in small letters.** So a base name that consists of a verb and
a capitalized name begins with the verb. -/
theorem firstWord_eq_of_freshBase_eq {verb name : List Char} {used : List String} {field : Schema.Field}
    (isVerb : IsVerb verb) (ascii : IsAscii field.name.toList)
    (capitalized : ∃ c rest, name = c :: rest ∧ c.isLower = false ∧ c.isDigit = false)
    (same : (freshBase used field).toList = verb ++ name) : firstWord field.name.toList = verb := by
  obtain ⟨initial, rest, rfl, noLower, noDigit⟩ := capitalized
  obtain ⟨behind, base, start⟩ := exists_freshBase_eq_append used field
  obtain ⟨others, camel, later⟩ := exists_lowerCamel_eq_append ascii
  -- no underscore is in front, as that is no small letter
  have unmarked : legalStart (lowerCamel field.name.toList) = lowerCamel field.name.toList := by
    rcases legalStart_eq_or (lowerCamel field.name.toList) with unmarked | marked
    · exact unmarked
    · have first : (verb ++ initial :: rest).head? = some '_' := by
        rw [← same, base, List.head?_append, marked]
        rfl
      have letter := isVerb.isLower_head first
      cases letter
  have whole : firstWord field.name.toList ++ (others ++ behind) = verb ++ initial :: rest := by
    rw [← List.append_assoc, ← camel, ← unmarked, ← base, same]
  have noSmall : ∀ c, (others ++ behind).head? = some c → c.isLower = false := by
    intro c first
    rw [List.head?_append] at first
    rcases Option.or_eq_some_iff.mp first with inOthers | ⟨_, inBehind⟩
    · exact later c inOthers
    · rcases start with rfl | start
      · cases inBehind
      · rw [start] at inBehind
        cases inBehind
        decide
  -- the word may have digits in it and the verb has none, so the two end for different reasons
  refine left_eq_of_append_eq (fun _ => isLower_or_isDigit_of_mem_firstWord ascii) isVerb.2 (fun c first => ?_)
    (fun c first => ?_) whole
  · rw [noSmall c first]
    exact Bool.false_ne_true
  · cases first
    rw [noLower, noDigit]
    simp

/-- A property that does not begin with a backquote is the base name itself. -/
theorem property_ofBase_of_unquoted {base : String}
    (unquoted : (FieldNames.ofBase base).property.toList.head? ≠ some '\x60') :
    (FieldNames.ofBase base).property = base := by
  show escapeKeyword base = base
  by_cases keyword : keywords.contains base = true
  · refine absurd ?_ unquoted
    show (escapeKeyword base).toList.head? = _
    unfold escapeKeyword
    rw [if_pos keyword, String.toList_append, String.toList_append]
    rfl
  · unfold escapeKeyword
    rw [if_neg keyword]

/-- **A property that is called like a member of another field begins with the verb of that member.** -/
theorem firstWord_of_property_eq {verb : String} {used seen : List String} {first second : Schema.Field}
    (isVerb : IsVerb verb.toList) (firstAscii : IsAscii first.name.toList)
    (secondAscii : IsAscii second.name.toList)
    (same : (freshNames used first).property
      = verb ++ String.ofList (capitalizeFirst (freshBase seen second).toList)) :
    firstWord first.name.toList = verb.toList := by
  rw [freshNames_eq] at same
  have spelt := congrArg String.toList same
  rw [String.toList_append, String.toList_ofList] at spelt
  have unquoted : (FieldNames.ofBase (freshBase used first)).property.toList.head? ≠ some '\x60' := by
    rw [spelt]
    intro quote
    have letter := isVerb.isLower_head quote
    cases letter
  rw [property_ofBase_of_unquoted unquoted] at spelt
  exact firstWord_eq_of_freshBase_eq isVerb firstAscii (exists_capitalizeFirst_freshBase seen secondAscii) spelt

/-! ### Members of a struct -/

theorem names_of_presence {plan : FieldPlan} {members : PresenceMembers}
    (tracked : plan.code.interface.presence? = some members) :
    members.query = plan.names.query ∧ members.reset = plan.names.reset := by
  have isSome : plan.presence? = some members := tracked
  unfold FieldPlan.presence? at isSome
  split at isSome
  · cases isSome
    exact ⟨rfl, rfl⟩
  · cases isSome

namespace StructDecl

variable {unit : CompilationUnit} {file : FileNode} {node : MessageNode} {decl : StructDecl}

/-- **A property meets the query or the reset of a field only if its own field is called so.** If the fields of a
message have names in ASCII, and the property of one of them is the query of one of them, the name of the former
begins with the word `has`. If it is the reset, the name begins with the word `clear`. -/
theorem presence_members_apart (made : (ofNode unit file node).result = .ok decl)
    (ascii : ∀ field ∈ node.schema.keptFields, IsAscii field.name.toList) :
    ∃ plans : List FieldPlan, decl.fields = plans.map FieldPlan.code
      ∧ plans.map (·.field.schema) = node.schema.keptFields
      ∧ ∀ first ∈ plans, ∀ second ∈ plans, ∀ members, second.code.interface.presence? = some members →
        (first.code.interface.name = members.query →
            firstWord first.field.schema.name.toList = "has".toList)
          ∧ (first.code.interface.name = members.reset →
            firstWord first.field.schema.name.toList = "clear".toList) := by
  obtain ⟨plans, planned, fields, _⟩ := of_ofNode made
  have schemas := map_schema_of_fieldPlans planned
  refine ⟨plans, fields, schemas, fun first firstAmong second secondAmong members tracked => ?_⟩
  have asciiOf : ∀ plan ∈ plans, IsAscii plan.field.schema.name.toList := by
    intro plan among
    refine ascii _ ?_
    rw [← schemas]
    exact List.mem_map_of_mem among
  have namesOf : ∀ plan ∈ plans, ∃ seen, plan.names = freshNames seen plan.field.schema := by
    intro plan among
    have named : (plan.field.schema, plan.names) ∈ node.keptNames := by
      rw [← node.map_names_of_fieldPlans planned]
      exact List.mem_map_of_mem among
    obtain ⟨seen, _, fresh⟩ := exists_seen_of_mem_namesFrom named
    exact ⟨seen, fresh⟩
  obtain ⟨used, firstNames⟩ := namesOf first firstAmong
  obtain ⟨seen, secondNames⟩ := namesOf second secondAmong
  obtain ⟨query, reset⟩ := names_of_presence tracked
  rw [secondNames, freshNames_eq] at query reset
  have property : first.code.interface.name = (freshNames used first.field.schema).property := by
    rw [← firstNames]
    rfl
  rw [property]
  constructor
  · intro same
    exact firstWord_of_property_eq isVerb_has (asciiOf _ firstAmong) (asciiOf _ secondAmong) (same.trans query)
  · intro same
    exact firstWord_of_property_eq isVerb_clear (asciiOf _ firstAmong) (asciiOf _ secondAmong) (same.trans reset)

/-! ### A client with a card -/

end StructDecl

/-- The card of a client. -/
def cardSchema : Schema.Field :=
  { name? := some "card", number? := some 1, label? := some 1, type? := some 3 }

/-- Whether a client has been given a card. -/
def hasCardSchema : Schema.Field :=
  { name? := some "has_card", number? := some 2, label? := some 1, type? := some 8 }

def clientNode : MessageNode :=
  MessageNode.declare (.ofPackage "bank") (.file (Swift.typePrefix "bank" none)) [4, 2]
    { name? := some "Client", fields := [cardSchema, hasCardSchema] }

/-- The plans for the two fields of a client. -/
def clientPlans (file : FileNode) : List FieldPlan :=
  [.ofDecisions ledgerUnit (.ofBase "card") (file.commentText (clientNode.path.field 0)) false
      ⟨cardSchema, file.era, .scalar .int64⟩ none,
    .ofDecisions ledgerUnit (.ofBase "hasCard") (file.commentText (clientNode.path.field 1)) false
      ⟨hasCardSchema, file.era, .scalar .bool⟩ none]

theorem fieldPlans_client (file : FileNode) :
    (fieldPlans ledgerUnit file clientNode).result = .ok (clientPlans file) := by
  have number : cardSchema.kind = .scalar .int64 := rfl
  have truth : hasCardSchema.kind = .scalar .bool := rfl
  have named : members clientNode
      = [.kept 0 cardSchema (.ofBase "card"), .kept 1 hasCardSchema (.ofBase "hasCard")] := by
    decide +kernel
  refine fieldPlans_eq_ok.mpr ⟨(clientPlans file).map some, ?_, rfl⟩
  rw [named]
  refine Run.result_mapM_cons_eq_ok.mpr ⟨_, _, ?_, Run.result_mapM_cons_eq_ok.mpr ⟨_, _, ?_, rfl, rfl⟩, rfl⟩
  · rw [Member.result_plan_kept, FieldPlan.make_of_scalar _ number rfl]
    rfl
  · rw [Member.result_plan_kept, FieldPlan.make_of_scalar _ truth rfl]
    rfl

theorem isAscii_client : ∀ field ∈ clientNode.schema.keptFields, IsAscii field.name.toList := by
  have small : ∀ field ∈ clientNode.schema.keptFields,
      field.name.toList.all (fun c => c.toNat < 128) = true := by decide +kernel
  exact fun field kept c among => of_decide_eq_true (List.all_eq_true.mp (small field kept) c among)

theorem exists_ofNode_client (file : FileNode) : ∃ decl,
    (StructDecl.ofNode ledgerUnit file clientNode).result = .ok decl
      ∧ decl.fields = (clientPlans file).map FieldPlan.code := by
  have planned := fieldPlans_client file
  unfold clientNode MessageNode.declare at planned ⊢
  unfold StructDecl.ofNode
  rw [Run.result_bind, planned]
  exact ⟨_, rfl, rfl⟩

namespace StructDecl

/-- **The struct of a client declares `hasCard` twice**: as the query for its card, and as a property. The numbers
of its fields differ, and their names are in ASCII. -/
theorem clash_client : ∃ decl card hasCard,
    (ofNode ledgerUnit (.declare .proto2 ledgerFile) clientNode).result = .ok decl
      ∧ (clientNode.schema.keptFields.map (·.number)).Nodup
      ∧ (∀ field ∈ clientNode.schema.keptFields, IsAscii field.name.toList)
      ∧ decl.fields = [card, hasCard]
      ∧ card.interface.presence?.map (·.query) = some "hasCard"
      ∧ hasCard.interface.name = "hasCard" := by
  obtain ⟨decl, made, fields⟩ := exists_ofNode_client (.declare .proto2 ledgerFile)
  exact ⟨decl, _, _, made, by decide, isAscii_client, fields, by decide +kernel, by decide +kernel⟩

/-- It can do so as the name of the second field begins with the word `has`. -/
theorem presence_members_apart_client : ∃ decl, ∃ plans : List FieldPlan,
    (ofNode ledgerUnit (.declare .proto2 ledgerFile) clientNode).result = .ok decl
      ∧ (∀ field ∈ clientNode.schema.keptFields, IsAscii field.name.toList)
      ∧ decl.fields = plans.map FieldPlan.code
      ∧ ∀ first ∈ plans, ∀ second ∈ plans, ∀ members, second.code.interface.presence? = some members →
        first.code.interface.name = members.query → firstWord first.field.schema.name.toList = "has".toList := by
  obtain ⟨decl, made, _⟩ := exists_ofNode_client (.declare .proto2 ledgerFile)
  obtain ⟨plans, fields, _, apart⟩ := presence_members_apart made isAscii_client
  exact ⟨decl, plans, made, isAscii_client, fields, fun first firstAmong second secondAmong members tracked =>
    (apart first firstAmong second secondAmong members tracked).1⟩

end StructDecl

end ProtoSwift
