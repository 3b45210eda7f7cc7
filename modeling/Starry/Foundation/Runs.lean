import Mathlib.Logic.Basic

/-!
# Runs of a machine with faults

A machine takes labelled steps. A step that is not enabled is not taken; an enabled
step either yields a next state or a fault that ends the run. `Run s actions t` holds
when every action was enabled where it was taken and none of them faulted.

Invariants are established by `Run.invariant`, by `Run.history` when the property also
speaks of the actions taken so far, or by `Run.observing` when it speaks of what those
actions did on the way. `Run.simulated` carries a run over to another machine.

`restrict` keeps only the steps that meet a condition on the state before them, so a result
for every run whose steps meet the condition is a result about the restricted machine.
`ensuring` keeps only the steps that end as a postcondition says; `restrict_iff_ensuring` is
for a condition that is exact for it, and `restrict_iff_ensuring_within` for one that is
exact in the runs within a bound. Where enabledness is decidable, `exec` evaluates a given
list of actions.
-/
namespace Starry.Foundation

structure Machine (State Act Fault : Type) where
  enabled : State → Act → Prop
  step : State → Act → Except Fault State

namespace Machine

variable {State Act Fault : Type} (M : Machine State Act Fault)

inductive Run : State → List Act → State → Prop
  | done (s : State) : Run s [] s
  | next {s t u : State} {a : Act} {rest : List Act}
      (allowed : M.enabled s a) (stepped : M.step s a = .ok t) (later : Run t rest u) :
      Run s (a :: rest) u

/-- The machine that only takes the steps meeting `condition` in the state before them. -/
def restrict (condition : State → Act → Prop) : Machine State Act Fault where
  enabled s a := M.enabled s a ∧ condition s a
  step := M.step

variable {M}

/-- A run goes on with one more enabled step. -/
theorem Run.snoc {s t u : State} {actions : List Act} {a : Act} (run : M.Run s actions t)
    (allowed : M.enabled t a) (stepped : M.step t a = .ok u) : M.Run s (actions ++ [a]) u := by
  induction run with
  | done s => exact .next allowed stepped (.done u)
  | next before first _ ih => exact .next before first (ih allowed stepped)

theorem Run.append {s t u : State} {actions later : List Act} (run : M.Run s actions t)
    (next : M.Run t later u) : M.Run s (actions ++ later) u := by
  induction run with
  | done => exact next
  | next allowed stepped _ ih => exact .next allowed stepped (ih next)

theorem Run.unrestrict {condition : State → Act → Prop} {s t : State} {actions : List Act}
    (run : (M.restrict condition).Run s actions t) : M.Run s actions t := by
  induction run with
  | done s => exact .done s
  | next allowed stepped _ ih => exact .next allowed.1 stepped ih

/-- A relation between the actions taken so far and the state is kept by a run when
each enabled step keeps it. -/
theorem Run.history {related : List Act → State → Prop} {s t : State} {past actions : List Act}
    (keep : ∀ past s a t, related past s → M.enabled s a → M.step s a = .ok t →
      related (past ++ [a]) t)
    (start : related past s) (run : M.Run s actions t) : related (past ++ actions) t := by
  induction run generalizing past with
  | done s => simpa using start
  | @next s t u a rest allowed stepped _ ih =>
    have after := ih (keep past s a t start allowed stepped)
    simpa using after

theorem Run.invariant {good : State → Prop} {s t : State} {actions : List Act}
    (keep : ∀ s a t, good s → M.enabled s a → M.step s a = .ok t → good t)
    (start : good s) (run : M.Run s actions t) : good t := by
  induction run with
  | done => exact start
  | next allowed stepped _ ih => exact ih (keep _ _ _ start allowed stepped)

/-- When each step of `M` is matched by a run of `N`, so is each run of `M`. -/
theorem Run.simulated {State' Act' Fault' : Type} {N : Machine State' Act' Fault'}
    {related : State → State' → Prop} {s t : State} {s' : State'} {actions : List Act}
    (match_step : ∀ s a t s', related s s' → M.enabled s a → M.step s a = .ok t →
      ∃ answers t', N.Run s' answers t' ∧ related t t')
    (start : related s s') (run : M.Run s actions t) :
    ∃ answers t', N.Run s' answers t' ∧ related t t' := by
  induction run generalizing s' with
  | done s => exact ⟨[], s', .done s', start⟩
  | next allowed stepped _ ih =>
    obtain ⟨answers, t', matched, between⟩ := match_step _ _ _ _ start allowed stepped
    obtain ⟨later, u', rest, last⟩ := ih between
    exact ⟨answers ++ later, u', matched.append rest, last⟩

theorem Run.one {s t : State} {a : Act} (allowed : M.enabled s a) (stepped : M.step s a = .ok t) :
    M.Run s [a] t := .next allowed stepped (.done t)

/-! ## Observations -/

variable (M) in
/-- What is observed along a list of actions, when `observe` says what each step shows. -/
def observed {Event : Type} (observe : State → Act → List Event) : State → List Act → List Event
  | _, [] => []
  | s, a :: rest =>
    observe s a ++ match M.step s a with
      | .ok t => observed observe t rest
      | .error _ => []

/-- A relation between what was observed so far and the state is kept by a run when each
enabled step keeps it. -/
theorem Run.observing {Event : Type} {observe : State → Act → List Event}
    {related : List Event → State → Prop} {s t : State} {past : List Event} {actions : List Act}
    (keep : ∀ past s a t, related past s → M.enabled s a → M.step s a = .ok t →
      related (past ++ observe s a) t)
    (start : related past s) (run : M.Run s actions t) :
    related (past ++ M.observed observe s actions) t := by
  induction run generalizing past with
  | done s => simpa [observed] using start
  | @next s t u a rest allowed stepped _ ih =>
    have after := ih (keep past s a t start allowed stepped)
    simpa [observed, stepped] using after

/-! ## Exact conditions -/

variable (M) in
/-- The machine that only takes the steps that end as `post` says. -/
def ensuring (post : State → Act → State → Prop) : Machine State Act Fault :=
  M.restrict fun s a => ∀ t, M.step s a = .ok t → post s a t

/-- What holds at the end of a run and cannot begin to hold held from the start. -/
theorem Run.before {within : State → Prop} {s t : State} {actions : List Act}
    (back : ∀ s a t, M.enabled s a → M.step s a = .ok t → within t → within s)
    (last : within t) (run : M.Run s actions t) : within s := by
  induction run with
  | done => exact last
  | next allowed stepped _ ih => exact back _ _ _ allowed stepped (ih last)

/-- When a condition is met by exactly the steps that end as `post` says, in every state that
such steps lead to within a bound, then the runs within the bound whose steps all meet it are
the runs whose steps all end so. -/
theorem restrict_iff_ensuring_within {condition : State → Act → Prop}
    {post : State → Act → State → Prop} {good within : State → Prop} {s t : State}
    {actions : List Act}
    (back : ∀ s a t, M.enabled s a → M.step s a = .ok t → within t → within s)
    (sharp : ∀ s a t, good s → within t → M.enabled s a → M.step s a = .ok t →
      (condition s a ↔ post s a t))
    (keep : ∀ s a t, good s → within t → M.enabled s a → condition s a → M.step s a = .ok t →
      good t)
    (last : within t) (start : within s → good s) :
    (M.restrict condition).Run s actions t ↔ (M.ensuring post).Run s actions t := by
  have bounded {condition : State → Act → Prop} {s : State} {actions : List Act}
      (run : (M.restrict condition).Run s actions t) : within s :=
    @Run.before _ _ _ (M.restrict condition) within _ _ _ (fun s a t allowed => back s a t allowed.1)
      last run
  constructor
  · intro run
    have good := start (bounded run)
    clear start
    induction run with
    | done s => exact .done s
    | @next s t u a rest allowed stepped later ih =>
      obtain ⟨enabled, met⟩ := allowed
      have bound := bounded later
      refine .next ⟨enabled, fun t' stepped' => ?_⟩ stepped
        (ih last bounded (keep s a t good bound enabled met stepped))
      cases stepped.symm.trans stepped'
      exact (sharp s a t good bound enabled stepped).mp met
  · intro run
    have good := start (bounded run)
    clear start
    induction run with
    | done s => exact .done s
    | @next s t u a rest allowed stepped later ih =>
      obtain ⟨enabled, ends⟩ := allowed
      have bound := bounded later
      have met := (sharp s a t good bound enabled stepped).mpr (ends t stepped)
      exact .next ⟨enabled, met⟩ stepped
        (ih last bounded (keep s a t good bound enabled met stepped))

/-- The same with no bound. -/
theorem restrict_iff_ensuring {condition : State → Act → Prop} {post : State → Act → State → Prop}
    {good : State → Prop} {s t : State} {actions : List Act}
    (sharp : ∀ s a t, good s → M.enabled s a → M.step s a = .ok t → (condition s a ↔ post s a t))
    (keep : ∀ s a t, good s → M.enabled s a → condition s a → M.step s a = .ok t → good t)
    (start : good s) :
    (M.restrict condition).Run s actions t ↔ (M.ensuring post).Run s actions t :=
  @restrict_iff_ensuring_within _ _ _ M _ _ good (fun _ => True) _ _ _ (fun _ _ _ _ _ _ => trivial)
    (fun s a t good _ => sharp s a t good) (fun s a t good _ => keep s a t good) trivial
    (fun _ => start)

/-! ## Evaluation -/

variable (M) [∀ s a, Decidable (M.enabled s a)]

instance (condition : State → Act → Prop) [∀ s a, Decidable (condition s a)] (s : State) (a : Act) :
    Decidable ((M.restrict condition).enabled s a) :=
  inferInstanceAs (Decidable (M.enabled s a ∧ condition s a))

/-- The state that a list of actions leads to, if they make a run. -/
def exec (s : State) : List Act → Option State
  | [] => some s
  | a :: rest =>
    if M.enabled s a then
      match M.step s a with
      | .ok t => exec t rest
      | .error _ => none
    else none

variable {M}

theorem run_of_exec {s t : State} {actions : List Act} (executed : M.exec s actions = some t) :
    M.Run s actions t := by
  induction actions generalizing s with
  | nil =>
    cases executed
    exact .done _
  | cons a rest ih =>
    unfold exec at executed
    split at executed
    next allowed =>
      split at executed
      next u stepped => exact .next allowed stepped (ih executed)
      next => cases executed
    next => cases executed

theorem exists_run_of_exec (s : State) (actions : List Act) (test : State → Bool)
    (passes : (M.exec s actions).any test = true) :
    ∃ t, M.Run s actions t ∧ test t = true := by
  obtain ⟨t, executed, holds⟩ := (Option.any_eq_true _ _).mp passes
  exact ⟨t, run_of_exec executed, holds⟩

end Machine

end Starry.Foundation
