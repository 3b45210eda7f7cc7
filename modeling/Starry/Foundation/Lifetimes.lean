import Mathlib.Data.List.Duplicate
import Starry.Foundation.Traces

/-!
# Lifetimes of objects in a trace

A trace lists what a program does with objects it constructs, uses and deletes, each known by
an identity that is never given out again. `Account trace live` says that the objects in
`live` are those constructed and not yet deleted, and that nothing is done with an object
after its deletion. The rules say how the account goes on with one more event.
-/
namespace Starry.Foundation

inductive Use (Operation Object : Type) where
  | constructed (x : Object)
  | used (operation : Operation) (x : Object)
  | deleted (x : Object)
  deriving DecidableEq, Repr

namespace Use

variable {Operation Object : Type}

def object : Use Operation Object → Object
  | constructed x => x
  | used _ x => x
  | deleted x => x

structure Account (trace : List (Use Operation Object)) (live : Object → Prop) : Prop where
  /-- No deletion is followed by anything about the same object, a second deletion included. -/
  orderly : ∀ event : Use Operation Object, ¬ [deleted event.object, event].Sublist trace
  /-- The deleted objects are those that were constructed and are not live. -/
  deletions : ∀ x, deleted x ∈ trace ↔ constructed x ∈ trace ∧ ¬ live x
  live_constructed : ∀ x, live x → constructed x ∈ trace
  constructions : ∀ event ∈ trace, constructed event.object ∈ trace

namespace Account

variable {trace : List (Use Operation Object)} {live live' : Object → Prop} {x : Object}

/-- Without events nothing is live. -/
theorem nil (none : ∀ x, ¬ live x) : Account ([] : List (Use Operation Object)) live := by
  refine ⟨?_, ?_, ?_, ?_⟩
  · intro event later
    exact absurd (later.subset List.mem_cons_self) List.not_mem_nil
  · simp
  · intro x alive
    exact absurd alive (none x)
  · simp

theorem congr (account : Account trace live) (same : ∀ x, live' x ↔ live x) :
    Account trace live' := by
  have equal : live' = live := funext fun x => propext (same x)
  rw [equal]
  exact account

/-- What is live has not been deleted. -/
theorem not_deleted (account : Account trace live) (alive : live x) : deleted x ∉ trace := by
  intro gone
  exact ((account.deletions x).mp gone).2 alive

theorem deleted_once [DecidableEq Operation] [DecidableEq Object] (account : Account trace live)
    (x : Object) : trace.count (deleted x) ≤ 1 := by
  by_contra twice
  have duplicate : List.Duplicate (deleted x) trace := by
    rw [List.duplicate_iff_two_le_count]
    omega
  exact account.orderly (deleted x) (List.duplicate_iff_sublist.mp duplicate)

/-- An event that may come next. -/
theorem orderly_snoc (account : Account trace live) {event : Use Operation Object}
    (before : deleted event.object ∉ trace) (later : Use Operation Object) :
    ¬ [deleted later.object, later].Sublist (trace ++ [event]) := by
  intro after
  rcases pair_sublist.mp after with earlier | ⟨rfl, gone⟩
  · exact account.orderly later earlier
  · exact before gone

theorem constructions_snoc (account : Account trace live) {event : Use Operation Object}
    (built : constructed event.object ∈ trace) :
    ∀ later ∈ trace ++ [event], constructed later.object ∈ trace ++ [event] := by
  intro later member
  refine List.mem_append_left _ ?_
  rcases List.mem_append.mp member with old | new
  · exact account.constructions later old
  · cases List.mem_singleton.mp new
    exact built

theorem use (account : Account trace live) (operation : Operation) (alive : live x) :
    Account (trace ++ [used operation x]) live := by
  refine ⟨account.orderly_snoc (account.not_deleted alive), ?_, ?_, ?_⟩
  · intro y
    simpa using account.deletions y
  · intro y alive'
    exact List.mem_append_left _ (account.live_constructed y alive')
  · exact account.constructions_snoc (account.live_constructed x alive)

theorem useAll (account : Account trace live) (operations : List Operation) (alive : live x) :
    Account (trace ++ operations.map fun operation => used operation x) live := by
  induction operations generalizing trace with
  | nil => simpa using account
  | cons operation rest ih =>
    have later := ih (account.use operation alive)
    rwa [List.append_assoc] at later

/-- A live object may be deleted, and then is no longer live. -/
theorem delete (account : Account trace live) (alive : live x) :
    Account (trace ++ [deleted x]) fun y => live y ∧ y ≠ x := by
  refine ⟨account.orderly_snoc (account.not_deleted alive), ?_, ?_, ?_⟩
  · intro y
    simp only [List.mem_append, List.mem_singleton, account.deletions y, deleted.injEq,
      reduceCtorEq, or_false]
    constructor
    · rintro (⟨constructed, dead⟩ | rfl)
      · exact ⟨constructed, fun both => dead both.1⟩
      · exact ⟨account.live_constructed y alive, fun both => both.2 rfl⟩
    · rintro ⟨constructed, dead⟩
      by_cases same : y = x
      · exact .inr same
      · exact .inl ⟨constructed, fun alive' => dead ⟨alive', same⟩⟩
  · intro y both
    exact List.mem_append_left _ (account.live_constructed y both.1)
  · exact account.constructions_snoc (account.live_constructed x alive)

/-- An object that was never constructed may be, and then is live. -/
theorem construct (account : Account trace live) (fresh : constructed x ∉ trace) :
    Account (trace ++ [constructed x]) fun y => live y ∨ y = x := by
  have unused : deleted x ∉ trace := fun gone => fresh ((account.deletions x).mp gone).1
  refine ⟨account.orderly_snoc unused, ?_, ?_, ?_⟩
  · intro y
    simp only [List.mem_append, List.mem_singleton, account.deletions y, constructed.injEq,
      reduceCtorEq, or_false]
    constructor
    · rintro ⟨before, dead⟩
      refine ⟨.inl before, ?_⟩
      rintro (alive | rfl)
      · exact dead alive
      · exact fresh before
    · rintro ⟨before | rfl, dead⟩
      · exact ⟨before, fun alive => dead (.inl alive)⟩
      · exact absurd (.inr rfl) dead
  · rintro y (alive | rfl)
    · exact List.mem_append_left _ (account.live_constructed y alive)
    · exact List.mem_append_right _ List.mem_cons_self
  · intro event member
    rcases List.mem_append.mp member with old | new
    · exact List.mem_append_left _ (account.constructions event old)
    · cases List.mem_singleton.mp new
      exact List.mem_append_right _ List.mem_cons_self

end Account

end Use

end Starry.Foundation
