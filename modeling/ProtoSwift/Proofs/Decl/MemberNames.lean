/-
**Fields of a message share no property and no slot.**

The names of a field are made fresh against the properties of the fields before it. A name with the number of its
field as a suffix is not compared with the others again. It need not be, as only a name with the same number
behind it could look like it, and the numbers of the fields differ.

* `freshNames_ne` — the step: a field gets other names than a field before it with another number;
* `pairwise_keptNames` — the run: so do all fields of a message;
* `MessageNode.distinct_names` — no two fields of a message share a property or a slot, and no property is one
  of the members that every message declares.
-/

import ProtoSwift.Proofs.Decl.Layout
import ProtoSwift.Proofs.Swift.FieldNames
import Mathlib

namespace ProtoSwift

open Swift

/-! ### The names of a single field -/

theorem isDecimal_repr (number : Nat) : IsDecimal number.repr.toList := by
  have some : number.repr.toList ≠ [] := by
    rw [Nat.toList_repr]
    exact Nat.toDigits_ne_nil
  exact ⟨some, fun c among => Or.inr (isDigit_of_mem_repr among)⟩

theorem isDecimal_numberText (number : Int32) : IsDecimal (numberText number).toList := by
  unfold numberText
  rw [Int.toString_eq_repr, Int.repr_eq_if]
  by_cases positive : 0 ≤ number.toInt
  · rw [if_pos positive]
    exact isDecimal_repr _
  · rw [if_neg positive, String.toList_append]
    refine ⟨List.append_ne_nil_of_left_ne_nil (by decide) _, fun c among => ?_⟩
    rcases List.mem_append.mp among with sign | digit
    · exact Or.inl (List.mem_singleton.mp sign)
    · exact (isDecimal_repr _).2 c digit

/-- The base name of a field after the used properties. -/
def freshBase (used : List String) (field : Schema.Field) : String :=
  if (FieldNames.ofField field.name).property ∈ used then
    FieldNames.baseName field.name ++ "_" ++ numberText field.number
  else FieldNames.baseName field.name

theorem freshNames_eq (used : List String) (field : Schema.Field) :
    freshNames used field = FieldNames.ofBase (freshBase used field) := by
  unfold freshNames freshBase
  by_cases taken : (FieldNames.ofField field.name).property ∈ used
  · simp only [List.contains_iff_mem.mpr taken, if_pos taken, if_true]
    exact FieldNames.suffixed_ofField _ _
  · simp only [if_neg taken, mt List.contains_iff_mem.mp taken]
    rfl

theorem toList_numbered (stem : String) (number : Int32) :
    (stem ++ "_" ++ numberText number).toList = stem.toList ++ '_' :: (numberText number).toList :=
  FieldNames.toList_append_suffix _ _

/-- **A fresh base name is made of word characters and underscores**, unless a number is behind it. -/
theorem not_mem_freshBase (used : List String) (field : Schema.Field) {c : Char} (separator : ¬ Text.IsWordCharacter c)
    (noUnderscore : c ≠ '_') (noSign : c ≠ '-') : c ∉ (freshBase used field).toList := by
  have inBase := FieldNames.not_mem_baseName field.name separator noUnderscore
  unfold freshBase
  split
  · have noDigit : c.isDigit = false := by
      refine Bool.eq_false_iff.mpr fun digit => separator (Text.isWordCharacter_of_isAlphanum ?_)
      rw [Char.isAlphanum, digit, Bool.or_true]
    rw [toList_numbered, List.mem_append, List.mem_cons]
    rintro (inStem | underscore | inNumber)
    · exact inBase inStem
    · exact noUnderscore underscore
    · exact (isDecimal_numberText _).not_mem noSign noDigit inNumber
  · exact inBase

theorem unquoted_freshBase (used : List String) (field : Schema.Field) : Unquoted (freshBase used field) :=
  not_mem_freshBase used field (by decide) (by decide) (by decide)

/-- A property has nothing in it that could part it from what is behind it. -/
theorem not_mem_property_freshNames (used : List String) (field : Schema.Field) {c : Char}
    (separator : ¬ Text.IsWordCharacter c) (other : c ∉ ['_', '-', '\x60']) :
    c ∉ (freshNames used field).property.toList := by
  simp only [List.mem_cons, List.not_mem_nil, or_false, not_or] at other
  rw [freshNames_eq]
  intro among
  rcases mem_escapeKeyword among with quote | inside
  · exact other.2.2 quote
  · exact not_mem_freshBase used field separator other.1 other.2.1 inside

/-- A fresh base name is no member of every message either. -/
theorem freshBase_not_mem_messageMembers (used : List String) (field : Schema.Field) :
    freshBase used field ∉ messageMembers := by
  unfold freshBase
  split
  · exact FieldNames.append_suffix_not_mem_messageMembers _ _
  · exact FieldNames.baseName_not_mem_messageMembers _

theorem baseName_ne_numbered (first second : String) (number : Int32) :
    FieldNames.baseName first ≠ FieldNames.baseName second ++ "_" ++ numberText number := by
  intro same
  have spelt := congrArg String.toList same
  rw [toList_numbered] at spelt
  exact (FieldNames.baseShape_baseName first).ne_numbered (FieldNames.baseShape_baseName second).ne_nil
    (isDecimal_numberText number) spelt

/-- Only names with the same number behind them are equal. -/
theorem number_eq_of_numbered_eq {first second : String} {firstNumber secondNumber : Int32}
    (same : first ++ "_" ++ numberText firstNumber = second ++ "_" ++ numberText secondNumber) :
    firstNumber = secondNumber := by
  have spelt := congrArg String.toList same
  rw [toList_numbered, toList_numbered] at spelt
  have noUnderscore : ∀ number, '_' ∉ (numberText number).toList :=
    fun number => (isDecimal_numberText number).not_mem (by decide) (by decide)
  exact numberText_injective
    (String.toList_inj.mp (last_of_append_eq (noUnderscore firstNumber) (noUnderscore secondNumber) spelt))

/-- **A field gets another base name than a field before it**, unless the two have the same number. -/
theorem freshBase_ne {used seen : List String} {first second : Schema.Field}
    (different : first.number ≠ second.number) (recorded : (freshNames used first).property ∈ seen) :
    freshBase used first ≠ freshBase seen second := by
  rw [freshNames_eq] at recorded
  unfold freshBase at recorded ⊢
  -- a base name never looks like one with a number, so both names have a number or none has
  by_cases firstTaken : (FieldNames.ofField first.name).property ∈ used
    <;> by_cases secondTaken : (FieldNames.ofField second.name).property ∈ seen
  · rw [if_pos firstTaken, if_pos secondTaken]
    exact fun same => different (number_eq_of_numbered_eq same)
  · rw [if_pos firstTaken, if_neg secondTaken]
    exact (baseName_ne_numbered _ _ _).symm
  · rw [if_neg firstTaken, if_pos secondTaken]
    exact baseName_ne_numbered _ _ _
  · rw [if_neg firstTaken] at recorded
    rw [if_neg firstTaken, if_neg secondTaken]
    intro same
    rw [same] at recorded
    exact secondTaken recorded

/-! ### The names of all fields -/

/-- The field and the names of a member that is kept. -/
def Member.named? : Member → Option (Schema.Field × FieldNames)
  | .skipped _ => none
  | .kept _ field names => some (field, names)

/-- The fields and the names of the members that are kept. -/
def namesFrom (used : List String) (start : Nat) (fields : List Schema.Field) :
    List (Schema.Field × FieldNames) :=
  (membersFrom used start fields).filterMap Member.named?

/-- **The fields of a message that are kept, with their names**, in the order of the declaration. -/
def MessageNode.keptNames (node : MessageNode) : List (Schema.Field × FieldNames) :=
  (members node).filterMap Member.named?

variable {used : List String} {start : Nat} {field : Schema.Field} {rest : List Schema.Field}

theorem namesFrom_cons_of_skipped (skipped : field.isOneofMember = true) :
    namesFrom used start (field :: rest) = namesFrom used (start + 1) rest := by
  unfold namesFrom
  rw [membersFrom, if_pos skipped]
  rfl

theorem namesFrom_cons_of_kept (kept : ¬ field.isOneofMember = true) :
    namesFrom used start (field :: rest) = (field, freshNames used field)
      :: namesFrom ((freshNames used field).property :: used) (start + 1) rest := by
  unfold namesFrom
  rw [membersFrom, if_neg kept]
  rfl

/-- The fields with names are those that are kept. -/
theorem map_fst_namesFrom (used : List String) (start : Nat) (fields : List Schema.Field) :
    (namesFrom used start fields).map (·.1) = fields.filter (!·.isOneofMember) := by
  induction fields generalizing used start with
  | nil => rfl
  | cons field rest inRest =>
    by_cases member : field.isOneofMember = true
    · rw [namesFrom_cons_of_skipped member, inRest, List.filter_cons_of_neg (by simp [member])]
    · rw [namesFrom_cons_of_kept member, List.map_cons, inRest, List.filter_cons_of_pos (by simp [member])]

/-- The names of a field are fresh against all names used before it. -/
theorem exists_seen_of_mem_namesFrom {fields : List Schema.Field} {named : Schema.Field × FieldNames}
    (among : named ∈ namesFrom used start fields) :
    ∃ seen, used ⊆ seen ∧ named.2 = freshNames seen named.1 := by
  induction fields generalizing used start with
  | nil => cases among
  | cons field rest inRest =>
    by_cases member : field.isOneofMember = true
    · rw [namesFrom_cons_of_skipped member] at among
      exact inRest among
    · rw [namesFrom_cons_of_kept member] at among
      rcases List.mem_cons.mp among with rfl | later
      · exact ⟨used, List.Subset.refl used, rfl⟩
      · obtain ⟨seen, more, fresh⟩ := inRest later
        exact ⟨seen, fun name known => more (List.mem_cons_of_mem _ known), fresh⟩

/-- **The names of two fields differ**, unless the fields have the same number. -/
theorem pairwise_namesFrom (used : List String) (start : Nat) (fields : List Schema.Field) :
    (namesFrom used start fields).Pairwise fun first second => first.1.number ≠ second.1.number →
      first.2.property ≠ second.2.property ∧ first.2.slot ≠ second.2.slot := by
  induction fields generalizing used start with
  | nil => exact List.Pairwise.nil
  | cons field rest inRest =>
    by_cases member : field.isOneofMember = true
    · rw [namesFrom_cons_of_skipped member]
      exact inRest used (start + 1)
    · rw [namesFrom_cons_of_kept member]
      refine List.Pairwise.cons ?_ (inRest _ _)
      intro later among different
      obtain ⟨seen, more, fresh⟩ := exists_seen_of_mem_namesFrom among
      have otherBase := freshBase_ne different (more List.mem_cons_self)
      rw [fresh, freshNames_eq used field, freshNames_eq seen later.1]
      constructor
      · exact mt (FieldNames.property_ofBase_inj (unquoted_freshBase _ _) (unquoted_freshBase _ _)).mp otherBase
      · exact mt FieldNames.slot_ofBase_inj.mp otherBase

/-- The names in the plans of a message are the names of its fields. -/
theorem map_names_of_membersFrom {unit : CompilationUnit} {file : FileNode} {node : MessageNode}
    {fields : List Schema.Field} {planned : List (Option FieldPlan)}
    (done : ((membersFrom used start fields).mapM (Member.plan unit file node)).result = .ok planned) :
    (planned.filterMap id).map (fun plan => (plan.field.schema, plan.names)) = namesFrom used start fields := by
  induction fields generalizing used start planned with
  | nil =>
    cases done
    rfl
  | cons field rest inRest =>
    unfold membersFrom at done
    by_cases member : field.isOneofMember = true
    · rw [if_pos member] at done
      obtain ⟨first, others, firstDone, othersDone, rfl⟩ := Run.result_mapM_cons_eq_ok.mp done
      cases firstDone
      rw [namesFrom_cons_of_skipped member, ← inRest othersDone]
      rfl
    · rw [if_neg member] at done
      obtain ⟨first, others, firstDone, othersDone, rfl⟩ := Run.result_mapM_cons_eq_ok.mp done
      rw [Member.result_plan_kept] at firstDone
      obtain ⟨plan, planMade, rfl⟩ := map_eq_ok.mp firstDone
      have decided := FieldPlan.planned_of_make planMade
      rw [namesFrom_cons_of_kept member, ← inRest othersDone, ← decided.names_eq, ← decided.resolved.schema_eq]
      rfl

namespace MessageNode

variable (node : MessageNode)

/-- The members of a message get code under the names that are chosen for them. -/
theorem map_names_of_fieldPlans {unit : CompilationUnit} {file : FileNode} {plans : List FieldPlan}
    (planned : (fieldPlans unit file node).result = .ok plans) :
    plans.map (fun plan => (plan.field.schema, plan.names)) = node.keptNames := by
  obtain ⟨all, done, rfl⟩ := fieldPlans_eq_ok.mp planned
  exact map_names_of_membersFrom done

/-- **Fields of a message share no property and no slot.** If the numbers of the fields that are kept differ, so
do their properties and their slots, whatever the fields are called. No property is one of the members that
every message declares. The fields with names are all that are kept, and their code has these names. -/
theorem distinct_names (numbers : (node.schema.keptFields.map (·.number)).Nodup) :
    (node.keptNames.map (·.2.property)).Nodup
      ∧ (node.keptNames.map (·.2.slot)).Nodup
      ∧ (∀ named ∈ node.keptNames, named.2.property ∉ messageMembers)
      ∧ node.keptNames.map (·.1) = node.schema.keptFields
      ∧ ∀ unit file plans, (fieldPlans unit file node).result = .ok plans →
        plans.map (fun plan => (plan.field.schema, plan.names)) = node.keptNames := by
  have fields : node.keptNames.map (·.1) = node.schema.keptFields := map_fst_namesFrom [] 0 node.fields
  have differ : node.keptNames.Pairwise fun first second => first.1.number ≠ second.1.number := by
    rw [← fields, List.map_map] at numbers
    exact List.pairwise_map.mp numbers
  have apart : node.keptNames.Pairwise fun first second =>
      first.2.property ≠ second.2.property ∧ first.2.slot ≠ second.2.slot :=
    ((pairwise_namesFrom [] 0 node.fields).and differ).imp fun both => both.1 both.2
  refine ⟨?_, ?_, ?_, fields, fun unit file plans planned => node.map_names_of_fieldPlans planned⟩
  · exact List.pairwise_map.mpr (apart.imp fun both => both.1)
  · exact List.pairwise_map.mpr (apart.imp fun both => both.2)
  · intro named among
    obtain ⟨seen, _, fresh⟩ := exists_seen_of_mem_namesFrom among
    rw [fresh, freshNames_eq]
    exact FieldNames.property_ofBase_not_mem_messageMembers (freshBase_not_mem_messageMembers _ _)

/-- A listing, with fields that camel case makes equal, a keyword, and a member of every message. -/
def listingNode : MessageNode :=
  MessageNode.declare (.ofPackage "shop") (.file (Swift.typePrefix "shop" none)) [4, 0]
    { name? := some "Listing"
      fields := [
        { name? := some "page_count", number? := some 1, label? := some 1, type? := some 5 },
        { name? := some "pageCount", number? := some 2, label? := some 1, type? := some 5 },
        { name? := some "class", number? := some 3, label? := some 1, type? := some 9 },
        { name? := some "description", number? := some 4, label? := some 1, type? := some 9 }] }

/-- All names of the listing differ. -/
theorem distinct_names_listing :
    (listingNode.schema.keptFields.map (·.number)).Nodup
      ∧ listingNode.keptNames.map (·.2.property)
        = ["pageCount", "pageCount_2", "\x60class\x60", "description_p"]
      ∧ (listingNode.keptNames.map (·.2.property)).Nodup
      ∧ (listingNode.keptNames.map (·.2.slot)).Nodup
      ∧ ∀ named ∈ listingNode.keptNames, named.2.property ∉ messageMembers := by
  have numbers : (listingNode.schema.keptFields.map (·.number)).Nodup := by decide
  obtain ⟨properties, slots, members, _⟩ := listingNode.distinct_names numbers
  exact ⟨numbers, by decide +kernel, properties, slots, members⟩

end MessageNode

end ProtoSwift
