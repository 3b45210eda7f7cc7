import Mathlib.Logic.Basic

/-!
# Total correctness of computations that may fail

`Yields outcome post` says that a computation in `Except` returns, and that what it
returns satisfies `post`. Sequences are reasoned about with `Yields.bind`, and a success
that is already known is taken apart with `bind_eq_ok`. `Faults outcome allowed` bounds the
reasons for which a computation may fail, and `Ends outcome post allowed` says both what it
may return and for which reasons it may fail. `Alike` compares two computations.
-/
namespace Starry.Foundation

variable {ε α β : Type}

@[simp] theorem ok_bind (value : α) (next : α → Except ε β) :
    ((.ok value : Except ε α) >>= next) = next value := rfl

@[simp] theorem error_bind (reason : ε) (next : α → Except ε β) :
    ((.error reason : Except ε α) >>= next) = .error reason := rfl

@[simp] theorem pure_eq_ok (value : α) : (pure value : Except ε α) = .ok value := rfl

/-- A sequence that succeeds has a successful first part. -/
theorem bind_eq_ok {first : Except ε α} {next : α → Except ε β} {result : β}
    (success : (first >>= next) = .ok result) :
    ∃ value, first = .ok value ∧ next value = .ok result := by
  cases first with
  | error reason => cases success
  | ok value => exact ⟨value, rfl, success⟩

def Yields (outcome : Except ε α) (post : α → Prop) : Prop :=
  ∃ value, outcome = .ok value ∧ post value

namespace Yields

theorem ok {value : α} {post : α → Prop} (holds : post value) :
    Yields (.ok value : Except ε α) post :=
  ⟨value, rfl, holds⟩

/-- Two functions one after the other. -/
theorem bind {first : Except ε α} {next : α → Except ε β} {middle : α → Prop} {post : β → Prop}
    (before : Yields first middle) (after : ∀ value, middle value → Yields (next value) post) :
    Yields (first >>= next) post := by
  obtain ⟨value, returned, holds⟩ := before
  rw [returned]
  exact after value holds

theorem imp {outcome : Except ε α} {post weaker : α → Prop} (holds : Yields outcome post)
    (implies : ∀ value, post value → weaker value) : Yields outcome weaker := by
  obtain ⟨value, returned, strong⟩ := holds
  exact ⟨value, returned, implies value strong⟩

/-- The postcondition holds of any value known to be returned. -/
theorem of_ok {outcome : Except ε α} {post : α → Prop} {value : α} (holds : Yields outcome post)
    (returned : outcome = .ok value) : post value := by
  obtain ⟨actual, success, strong⟩ := holds
  rw [returned] at success
  cases success
  exact strong

/-- A further property of every value that may be returned. -/
theorem and_of_ok {outcome : Except ε α} {post extra : α → Prop} (holds : Yields outcome post)
    (further : ∀ value, outcome = .ok value → extra value) :
    Yields outcome fun value => post value ∧ extra value := by
  obtain ⟨value, returned, strong⟩ := holds
  exact ⟨value, returned, strong, further value returned⟩

end Yields

/-- A computation fails, if at all, for an allowed reason. -/
def Faults (outcome : Except ε α) (allowed : ε → Prop) : Prop :=
  ∀ reason, outcome = .error reason → allowed reason

namespace Faults

theorem ok {value : α} {allowed : ε → Prop} : Faults (.ok value : Except ε α) allowed := by
  intro reason failed
  cases failed

theorem error {reason : ε} {allowed : ε → Prop} (permitted : allowed reason) :
    Faults (.error reason : Except ε α) allowed := by
  intro other failed
  cases failed
  exact permitted

theorem bind {first : Except ε α} {next : α → Except ε β} {allowed : ε → Prop}
    (before : Faults first allowed)
    (after : ∀ value, first = .ok value → Faults (next value) allowed) :
    Faults (first >>= next) allowed := by
  cases first with
  | error reason => exact .error (before reason rfl)
  | ok value => exact after value rfl

theorem imp {outcome : Except ε α} {allowed weaker : ε → Prop} (holds : Faults outcome allowed)
    (implies : ∀ reason, allowed reason → weaker reason) : Faults outcome weaker :=
  fun reason failed => implies reason (holds reason failed)

/-- What returns does not fail. -/
theorem of_yields {outcome : Except ε α} {post : α → Prop} {allowed : ε → Prop}
    (holds : Yields outcome post) : Faults outcome allowed := by
  obtain ⟨value, returned, _⟩ := holds
  rw [returned]
  exact .ok

end Faults

/-- A computation returns what satisfies `post`, or fails for an allowed reason. -/
def Ends (outcome : Except ε α) (post : α → Prop) (allowed : ε → Prop) : Prop :=
  match outcome with
  | .ok value => post value
  | .error reason => allowed reason

namespace Ends

variable {post : α → Prop} {allowed : ε → Prop}

/-- What is returned and how it fails may be shown apart. -/
theorem of_faults {outcome : Except ε α} (returns : ∀ value, outcome = .ok value → post value)
    (faults : Faults outcome allowed) : Ends outcome post allowed := by
  cases outcome with
  | ok value => exact returns value rfl
  | error reason => exact faults reason rfl

theorem of_ok {outcome : Except ε α} {value : α} (ends : Ends outcome post allowed)
    (returned : outcome = .ok value) : post value := by
  rw [returned] at ends
  exact ends

theorem faults {outcome : Except ε α} (ends : Ends outcome post allowed) : Faults outcome allowed := by
  intro reason failed
  rw [failed] at ends
  exact ends

theorem bind {first : Except ε α} {next : α → Except ε β} {after : β → Prop}
    (before : Ends first post allowed)
    (later : ∀ value, first = .ok value → post value → Ends (next value) after allowed) :
    Ends (first >>= next) after allowed := by
  cases first with
  | ok value => exact later value rfl before
  | error reason => exact before

theorem imp {outcome : Except ε α} {weaker : α → Prop} (ends : Ends outcome post allowed)
    (implies : ∀ value, post value → weaker value) : Ends outcome weaker allowed := by
  cases outcome with
  | ok value => exact implies value ends
  | error reason => exact ends

end Ends

/-- Two computations return related values, or fail for the same reason. -/
def Alike (related : α → β → Prop) (first : Except ε α) (second : Except ε β) : Prop :=
  match first, second with
  | .ok a, .ok b => related a b
  | .error reason, .error other => reason = other
  | _, _ => False

namespace Alike

theorem refl (outcome : Except ε α) : Alike Eq outcome outcome := by
  cases outcome <;> exact rfl

variable {α' β' : Type} {related : α → β → Prop} {first : Except ε α} {second : Except ε β}

theorem bind {later : α' → β' → Prop} {next : α → Except ε α'} {next' : β → Except ε β'}
    (alike : Alike related first second)
    (after : ∀ a b, related a b → Alike later (next a) (next' b)) :
    Alike later (first >>= next) (second >>= next') := by
  cases first with
  | ok a =>
    cases second with
    | ok b => exact after a b alike
    | error reason => exact alike.elim
  | error reason =>
    cases second with
    | ok b => exact alike.elim
    | error other => exact alike

/-- What the first computation returns, the second one matches. -/
theorem of_ok {a : α} (alike : Alike related first second) (returned : first = .ok a) :
    ∃ b, second = .ok b ∧ related a b := by
  subst returned
  cases second with
  | ok b => exact ⟨b, rfl, alike⟩
  | error reason => exact alike.elim

end Alike

/-- A decidable test for one way to fail. -/
def failsWith [DecidableEq ε] (outcome : Except ε α) (reason : ε) : Bool :=
  match outcome with
  | .error actual => decide (actual = reason)
  | .ok _ => false

/-- The test by which a concrete failure is evaluated. -/
theorem eq_error_of_failsWith [DecidableEq ε] {outcome : Except ε α} {reason : ε}
    (fails : failsWith outcome reason = true) : outcome = .error reason := by
  cases outcome with
  | error actual => simpa [failsWith] using fails
  | ok value => cases fails

end Starry.Foundation
