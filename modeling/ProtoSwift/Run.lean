/-
**Computations that warn and may fail.**

A run keeps the warnings given before its end, whether it ends in a value or in an error.

* `Run` — the warnings, in order, and the result;
* `Run.warnings_bind_of_ok` — the warnings of two runs in a row;
* `Run.result_bind` — the result of two runs in a row does not depend on warnings.
-/

import ProtoSwift.Warning

namespace ProtoSwift

/-- A computation's warnings, in order, and its result. -/
structure Run (α : Type) where
  warnings : List Warning
  result : Except Error α

namespace Run

variable {α β : Type}

/-- The second run starts where the first one ends with a value. -/
protected def bind (first : Run α) (next : α → Run β) : Run β :=
  match first.result with
  | .ok value => ⟨first.warnings ++ (next value).warnings, (next value).result⟩
  | .error cause => ⟨first.warnings, .error cause⟩

instance : Monad Run where
  pure value := ⟨[], .ok value⟩
  bind := Run.bind

instance : MonadExceptOf Error Run where
  throw cause := ⟨[], .error cause⟩
  tryCatch run handler :=
    match run.result with
    | .ok _ => run
    | .error cause => ⟨run.warnings ++ (handler cause).warnings, (handler cause).result⟩

/-- A result without warnings. -/
def ofExcept (result : Except Error α) : Run α :=
  ⟨[], result⟩

instance : MonadLift (Except Error) Run where
  monadLift := ofExcept

/-- Warnings, after which the run goes on. -/
def warn (warnings : List Warning) : Run Unit :=
  ⟨warnings, .ok ()⟩

theorem warnings_bind_of_ok (first : Run α) (next : α → Run β) (value : α)
    (success : first.result = .ok value) :
    (first >>= next).warnings = first.warnings ++ (next value).warnings := by
  simp [bind, Run.bind, success]

theorem result_bind (first : Run α) (next : α → Run β) :
    (first >>= next).result = first.result.bind fun value => (next value).result := by
  cases outcome : first.result <;> simp [bind, Run.bind, Except.bind, outcome]

instance : LawfulMonad Run := LawfulMonad.mk' Run
  (by
    intro _ run
    cases run with
    | mk warnings result => cases result <;> simp [Functor.map, Run.bind])
  (by intros; simp [bind, pure, Run.bind])
  (by
    intro _ _ _ run _ _
    cases run with
    | mk warnings result =>
      cases result with
      | error cause => simp [bind, Run.bind]
      | ok value =>
        simp only [bind, Run.bind]
        split <;> simp_all)

end Run

end ProtoSwift
