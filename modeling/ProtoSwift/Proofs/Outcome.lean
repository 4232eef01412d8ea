/-
**Computations that end in a value or in an error.**

A computation of several steps ends with the error of the first step that fails. If every step is paired with
what it checks, the checks of the whole are those of the steps in a row, and the first violated one decides.

* `bind_eq_ok`, `map_eq_ok`, `Run.result_bind_eq_ok`, `Run.result_mapM_cons_eq_ok` — a computation ends in a value if each of its steps
  does;
* `Run.warnings_mapM_of_ok` — and then it gives the warnings of all of them;
* `FirstViolation` — the error of the first violated check of a list;
* `Reports` — a computation reports the first violation, and ends in a value if there is none;
* `Run.reports_bind`, `Run.reports_mapM` — the checks of computations in a row;
* `Matches` — a computation ends as another one does, at least if that ends in a value;
* `Run.matches_bind`, `Run.matches_mapM` — computations that match step by step.
-/

import ProtoSwift.Run

namespace ProtoSwift

variable {α β γ Check : Type}

/-! ### Values -/

theorem bind_eq_ok {first : Except Error α} {next : α → Except Error β} {result : β} :
    (first >>= next) = .ok result ↔ ∃ value, first = .ok value ∧ next value = .ok result := by
  cases first <;> simp [bind, Except.bind]

theorem map_eq_ok {first : Except Error α} {change : α → β} {result : β} :
    first.map change = .ok result ↔ ∃ value, first = .ok value ∧ change value = result := by
  cases first <;> simp [Except.map]

theorem exists_eq_ok_of_isSome {outcome : Except Error α} (done : outcome.toOption.isSome = true) :
    ∃ value, outcome = .ok value := by
  cases outcome with
  | ok value => exact ⟨value, rfl⟩
  | error _ => cases done

namespace Run

/-- A computation that goes on with another one ends in a value if both do. -/
theorem result_bind_eq_ok {first : Run α} {next : α → Run β} {result : β} : (first >>= next).result = .ok result
    ↔ ∃ value, first.result = .ok value ∧ (next value).result = .ok result := by
  rw [result_bind]
  exact bind_eq_ok

variable {step : α → Run β} {elements : List α} {values : List β}

/-- Steps in a row end in a value if the first one does, and then the others. -/
theorem result_mapM_cons_eq_ok {element : α} :
    ((element :: elements).mapM step).result = .ok values ↔ ∃ first others,
      (step element).result = .ok first ∧ (elements.mapM step).result = .ok others
        ∧ values = first :: others := by
  rw [List.mapM_cons, result_bind]
  constructor
  · intro done
    obtain ⟨first, firstDone, done⟩ := bind_eq_ok.mp done
    rw [result_bind] at done
    obtain ⟨others, othersDone, done⟩ := bind_eq_ok.mp done
    cases done
    exact ⟨first, others, firstDone, othersDone, rfl⟩
  · rintro ⟨first, others, firstDone, othersDone, rfl⟩
    refine bind_eq_ok.mpr ⟨first, firstDone, ?_⟩
    rw [result_bind]
    exact bind_eq_ok.mpr ⟨others, othersDone, rfl⟩

/-- Every value of a list of computations is the value of one of them. -/
theorem exists_of_mem_mapM {value : β} (done : (elements.mapM step).result = .ok values)
    (among : value ∈ values) : ∃ element ∈ elements, (step element).result = .ok value := by
  induction elements generalizing values with
  | nil =>
    cases done
    exact absurd among List.not_mem_nil
  | cons element rest inRest =>
    obtain ⟨first, others, firstDone, othersDone, rfl⟩ := result_mapM_cons_eq_ok.mp done
    rcases List.mem_cons.mp among with rfl | among
    · exact ⟨element, List.mem_cons_self, firstDone⟩
    · obtain ⟨other, otherAmong, otherDone⟩ := inRest othersDone among
      exact ⟨other, List.mem_cons_of_mem _ otherAmong, otherDone⟩

/-- Every step in a row that ends in a value has one of its own. -/
theorem exists_result_of_mem {element : α} (done : (elements.mapM step).result = .ok values)
    (among : element ∈ elements) : ∃ value ∈ values, (step element).result = .ok value := by
  induction elements generalizing values with
  | nil => exact absurd among List.not_mem_nil
  | cons first rest inRest =>
    obtain ⟨value, others, firstDone, othersDone, rfl⟩ := result_mapM_cons_eq_ok.mp done
    rcases List.mem_cons.mp among with rfl | among
    · exact ⟨value, List.mem_cons_self, firstDone⟩
    · obtain ⟨other, otherAmong, otherDone⟩ := inRest othersDone among
      exact ⟨other, List.mem_cons_of_mem _ otherAmong, otherDone⟩

/-- Steps that each end in a value do so in a row. -/
theorem exists_result_mapM (each : ∀ element ∈ elements, ∃ value, (step element).result = .ok value) :
    ∃ values, (elements.mapM step).result = .ok values := by
  induction elements with
  | nil => exact ⟨[], rfl⟩
  | cons element rest inRest =>
    obtain ⟨first, firstDone⟩ := each element List.mem_cons_self
    obtain ⟨others, othersDone⟩ := inRest fun other among => each other (List.mem_cons_of_mem _ among)
    exact ⟨first :: others, result_mapM_cons_eq_ok.mpr ⟨first, others, firstDone, othersDone, rfl⟩⟩

/-- Steps that all end in a value give the warnings of each of them. -/
theorem warnings_mapM_of_ok (done : (elements.mapM step).result = .ok values) :
    (elements.mapM step).warnings = elements.flatMap fun element => (step element).warnings := by
  induction elements generalizing values with
  | nil => rfl
  | cons element rest inRest =>
    obtain ⟨first, others, firstDone, othersDone, _⟩ := result_mapM_cons_eq_ok.mp done
    rw [List.mapM_cons, warnings_bind_of_ok _ _ first firstDone, warnings_bind_of_ok _ _ others othersDone,
      inRest othersDone, List.flatMap_cons]
    exact congrArg (_ ++ ·) (List.append_nil _)

end Run

/-! ### Checks in a row -/

/-- **The error of the first violated check.** No check before it is violated. -/
def FirstViolation (violates : Check → Error → Prop) (checks : List Check) (cause : Error) : Prop :=
  ∃ before check after, checks = before ++ check :: after
    ∧ (∀ earlier ∈ before, ∀ other, ¬ violates earlier other) ∧ violates check cause

variable {violates : Check → Error → Prop} {check : Check} {checks more : List Check} {cause : Error}

theorem firstViolation_nil : ¬ FirstViolation violates [] cause := by
  rintro ⟨before, check, after, parts, _⟩
  exact absurd parts (by simp)

theorem firstViolation_cons : FirstViolation violates (check :: checks) cause
    ↔ violates check cause ∨ (∀ other, ¬ violates check other) ∧ FirstViolation violates checks cause := by
  constructor
  · rintro ⟨before, violated, after, parts, kept, broken⟩
    cases before with
    | nil =>
      cases parts
      exact .inl broken
    | cons first before =>
      cases parts
      refine .inr ⟨kept _ List.mem_cons_self, before, violated, after, rfl, ?_, broken⟩
      intro earlier member
      exact kept earlier (List.mem_cons_of_mem _ member)
  · rintro (broken | ⟨unbroken, before, violated, after, rfl, kept, broken⟩)
    · exact ⟨[], check, checks, rfl, fun _ member => absurd member List.not_mem_nil, broken⟩
    · refine ⟨check :: before, violated, after, rfl, ?_, broken⟩
      intro earlier member
      rcases List.mem_cons.mp member with rfl | member
      · exact unbroken
      · exact kept earlier member

/-- The first violation is in the first part, or else in the second. -/
theorem firstViolation_append : FirstViolation violates (checks ++ more) cause
    ↔ FirstViolation violates checks cause
      ∨ (∀ check ∈ checks, ∀ other, ¬ violates check other) ∧ FirstViolation violates more cause := by
  induction checks with
  | nil => simp [firstViolation_nil]
  | cons check checks inFirst =>
    rw [List.cons_append, firstViolation_cons, firstViolation_cons, inFirst]
    simp only [List.forall_mem_cons, and_or_left, or_assoc, and_assoc]

/-- If a check is violated, there is a first violation. -/
theorem exists_firstViolation_iff : (∃ cause, FirstViolation violates checks cause)
    ↔ ∃ check ∈ checks, ∃ cause, violates check cause := by
  induction checks with
  | nil => simp [firstViolation_nil]
  | cons check checks inRest =>
    simp only [firstViolation_cons, exists_or, exists_and_left, inRest]
    by_cases broken : ∃ cause, violates check cause
    · simp [broken]
    · have kept : ∀ other, ¬ violates check other := not_exists.mp broken
      simp [kept]

/-! ### Computations that check -/

/-- **A computation reports the first violation** of the checks, and only that. -/
def Reports (violates : Check → Error → Prop) (result : Except Error α) (checks : List Check) : Prop :=
  ∀ cause, result = .error cause ↔ FirstViolation violates checks cause

/-- **It ends in a value exactly if no check is violated.** -/
theorem Reports.succeeds_iff {result : Except Error α} (reports : Reports violates result checks) :
    (∃ value, result = .ok value) ↔ ∀ check ∈ checks, ∀ cause, ¬ violates check cause := by
  have failed : (∃ cause, FirstViolation violates checks cause)
      ↔ ∃ check ∈ checks, ∃ cause, violates check cause := exists_firstViolation_iff
  cases outcome : result with
  | ok value =>
    have none : ¬ ∃ cause, FirstViolation violates checks cause := by
      rintro ⟨cause, first⟩
      have := (reports cause).mpr first
      rw [outcome] at this
      cases this
    rw [failed] at none
    refine ⟨fun _ check member cause broken => none ⟨check, member, cause, broken⟩, fun _ => ⟨value, rfl⟩⟩
  | error cause =>
    obtain ⟨check, member, other, broken⟩ := failed.mp ⟨cause, (reports cause).mp outcome⟩
    refine ⟨fun same => ?_, fun kept => absurd broken (kept check member other)⟩
    obtain ⟨value, same⟩ := same
    cases same

theorem reports_ok (value : α) : Reports violates (.ok value : Except Error α) [] := by
  intro cause
  refine ⟨fun same => ?_, fun first => absurd first firstViolation_nil⟩
  cases same

theorem Reports.singleton {result : Except Error α}
    (decides : ∀ cause, result = .error cause ↔ violates check cause) :
    Reports violates result [check] := by
  intro cause
  rw [decides, firstViolation_cons]
  simp [firstViolation_nil]

/-- A check that cannot fail may stand before the others. -/
theorem Reports.cons_of_kept {result : Except Error α} (reports : Reports violates result checks)
    (kept : ∀ cause, ¬ violates check cause) : Reports violates result (check :: checks) := by
  intro cause
  rw [reports cause, firstViolation_cons]
  simp [kept]

/-- **The checks of two computations in a row.** -/
theorem Reports.bind {first : Except Error α} {next : α → Except Error β}
    (checked : Reports violates first checks)
    (checkedNext : ∀ value, first = .ok value → Reports violates (next value) more) :
    Reports violates (first >>= next) (checks ++ more) := by
  intro cause
  rw [firstViolation_append]
  have succeeds := checked.succeeds_iff
  cases outcome : first with
  | error other =>
    have stopped : ¬ ∀ check ∈ checks, ∀ other, ¬ violates check other := by
      rw [← succeeds, outcome]
      rintro ⟨_, same⟩
      cases same
    rw [← checked cause, outcome]
    simp only [stopped, false_and, or_false]
    show Except.error other = .error cause ↔ _
    simp only [Except.error.injEq]
  | ok value =>
    have passed := succeeds.mp ⟨value, outcome⟩
    have unfailed : ¬ FirstViolation violates checks cause := by
      rw [← checked cause, outcome]
      intro same
      cases same
    simp only [unfailed, false_or, and_iff_right passed]
    exact checkedNext value outcome cause

/-- A computation that only changes the value of another checks nothing more. -/
theorem Reports.bind_pure {first : Except Error α} {change : α → β}
    (checked : Reports violates first checks) :
    Reports violates (first >>= fun value => pure (change value)) checks := by
  have appended : Reports violates (first >>= fun value => pure (change value)) (checks ++ []) :=
    checked.bind fun value _ => reports_ok (change value)
  rwa [List.append_nil] at appended

namespace Run

theorem reports_bind {first : Run α} {next : α → Run β}
    (checked : Reports violates first.result checks)
    (checkedNext : ∀ value, first.result = .ok value → Reports violates (next value).result more) :
    Reports violates (first >>= next).result (checks ++ more) := by
  rw [result_bind]
  exact checked.bind checkedNext

theorem reports_bind_pure {first : Run α} {change : α → β}
    (checked : Reports violates first.result checks) :
    Reports violates (first >>= fun value => pure (change value)).result checks := by
  rw [result_bind]
  exact checked.bind_pure

/-- **The checks of a computation for every element of a list.** -/
theorem reports_mapM {step : α → Run β} {checksOf : α → List Check}
    (checked : ∀ element, Reports violates (step element).result (checksOf element)) (elements : List α) :
    Reports violates (elements.mapM step).result (elements.flatMap checksOf) := by
  induction elements with
  | nil => exact reports_ok []
  | cons element rest inRest =>
    rw [List.mapM_cons, List.flatMap_cons]
    refine reports_bind (checked element) fun value _ => ?_
    exact reports_bind_pure inRest

/-- The elements may be made from others, and from their positions. -/
theorem reports_mapM_mapIdx {step : α → Run β} {checksOf : γ → List Check} {make : Nat → γ → α}
    (checked : ∀ position element,
      Reports violates (step (make position element)).result (checksOf element))
    (elements : List γ) :
    Reports violates ((elements.mapIdx make).mapM step).result (elements.flatMap checksOf) := by
  induction elements generalizing make with
  | nil => exact reports_ok []
  | cons element rest inRest =>
    rw [List.mapIdx_cons, List.mapM_cons, List.flatMap_cons]
    refine reports_bind (checked 0 element) fun value _ => ?_
    exact reports_bind_pure (inRest fun position other => checked (position + 1) other)

end Run

/-! ### Two computations -/

/-- **The second computation ends as the first one does**: in the same value, and if failures count, too, in
the same error. -/
structure Matches (failures : Prop) (first second : Except Error α) : Prop where
  value : ∀ result, first = .ok result → second = .ok result
  failure : failures → second = first

variable {failures : Prop}

theorem Matches.refl (result : Except Error α) : Matches failures result result :=
  ⟨fun _ same => same, fun _ => rfl⟩

/-- **Computations that match step by step match.** The second steps are compared on the value of the first
step only, which is the same in both. -/
theorem Matches.bind {first second : Except Error α} {next after : α → Except Error β}
    (same : Matches failures first second)
    (sameNext : ∀ value, first = .ok value → Matches failures (next value) (after value)) :
    Matches failures (first >>= next) (second >>= after) := by
  constructor
  · intro result done
    obtain ⟨value, firstDone, nextDone⟩ := bind_eq_ok.mp done
    rw [same.value value firstDone]
    exact (sameNext value firstDone).value result nextDone
  · intro counted
    rw [same.failure counted]
    cases outcome : first with
    | error cause => rfl
    | ok value => exact (sameNext value outcome).failure counted

theorem Matches.map {first second : Except Error α} (change : α → β)
    (same : Matches failures first second) : Matches failures (first.map change) (second.map change) := by
  constructor
  · intro result done
    obtain ⟨value, firstDone, rfl⟩ := map_eq_ok.mp done
    rw [same.value value firstDone]
    rfl
  · intro counted
    rw [same.failure counted]

namespace Run

theorem matches_bind {first second : Run α} {next after : α → Run β}
    (same : Matches failures first.result second.result)
    (sameNext : ∀ value, first.result = .ok value →
      Matches failures (next value).result (after value).result) :
    Matches failures (first >>= next).result (second >>= after).result := by
  rw [result_bind, result_bind]
  exact same.bind sameNext

/-- A change of the value does not tell two computations apart. -/
theorem matches_bind_pure {first second : Run α} {change : α → β}
    (same : Matches failures first.result second.result) :
    Matches failures (first >>= fun value => pure (change value)).result
      (second >>= fun value => pure (change value)).result :=
  matches_bind same fun _ _ => .refl _

theorem matches_mapM {step other : α → Run β} {elements : List α}
    (same : ∀ element ∈ elements, Matches failures (step element).result (other element).result) :
    Matches failures (elements.mapM step).result (elements.mapM other).result := by
  induction elements with
  | nil => exact .refl _
  | cons element rest inRest =>
    rw [List.mapM_cons, List.mapM_cons]
    refine matches_bind (same element List.mem_cons_self) fun _ _ => ?_
    exact matches_bind_pure (inRest fun next among => same next (List.mem_cons_of_mem _ among))

end Run

end ProtoSwift
