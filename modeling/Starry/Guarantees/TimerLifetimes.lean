import Starry.Foundation.Lifetimes
import Starry.Source.TimerQueueSpec

/-!
# The two sets of timers, and the life of a timer

`timers_` and `activeTimers_` hold the same live timers, each under its current expiration,
and no step trips over an assertion. `uses` lists what a step does with `Timer` objects, in
the order of the code; an object is known by its sequence number, since its address may be
used again. Over a whole run nothing is done with a timer after its deletion.

A pointer that is held is the pointer of a live timer in every state (`Lifetimes.held`), so a
timer that is constructed at a used address is not reached through a pointer to the old one.
The ids in `cancelingTimers_` and those that user code keeps are compared, never followed.
-/
namespace Starry.Guarantees.TimerLifetimes

open Starry.Foundation
open Starry.Source
open Starry.Source.TimerQueue

/-! ## What a step does with timers -/

inductive Operation where
  /-- `sequence()` is read. -/
  | identified
  /-- `expiration()` is read. -/
  | compared
  | inserted
  | ran
  | restarted
  deriving DecidableEq, Repr

abbrev TimerUse := Use Operation Nat

def usedAt (q : TimerQueue) (timer : Nat) (operations : List Operation) : List TimerUse :=
  operations.map fun operation => .used operation (q.sequenceAt timer)

/-- The operations of `insert`. -/
def insertion : List Operation := [.compared, .inserted, .identified]

def addUses (q : TimerQueue) (timer : Nat) : List TimerUse :=
  match q.heap timer with
  | none => []
  | some object =>
    usedAt q timer (insertion ++ if q.earliest object.expiration then [.compared] else [])

/-- One turn of the loop of `reset`. -/
def resetOneUses (q : TimerQueue) (e : Entry) : List TimerUse :=
  match q.heap e.timer with
  | none => []
  | some object =>
    usedAt q e.timer [.identified] ++
      if q.Kept e.timer object then usedAt q e.timer (.restarted :: insertion)
      else [.deleted object.sequence]

def resetUses (q : TimerQueue) (now : Timestamp) : List Entry → List TimerUse
  | [] =>
    match q.timers.first? with
    | none => []
    | some first => usedAt q first.timer [.compared]
  | e :: rest =>
    resetOneUses q e ++ match q.resetOne now e with
      | .ok next => resetUses next now rest
      | .error _ => []

def uses (q : TimerQueue) : Act → List TimerUse
  | .newTimer _ _ _ _ => [.constructed (q.numCreated + 1)]
  | .addTimerInLoop timer => addUses q timer
  | .cancelInLoop timer sequence =>
    if ActiveTimer.of timer sequence ∈ q.activeTimers then
      usedAt q timer [.compared] ++ [.deleted (q.sequenceAt timer)]
    else []
  | .fdFires => []
  | .beginRead now => (q.due now).flatMap fun e => usedAt q e.timer [.identified]
  | .runNext =>
    match q.batch with
    | none => []
    | some b =>
      match b.expired[b.ran]? with
      | none => []
      | some e => usedAt q e.timer [.ran]
  | .endRead =>
    match q.batch with
    | none => []
    | some b => resetUses { q with callingExpiredTimers := false } b.now b.expired

/-- A timer with this sequence number is in the heap. -/
def Live (q : TimerQueue) (sequence : Nat) : Prop :=
  ∃ timer object, q.heap timer = some object ∧ object.sequence = sequence

structure Lifetimes (trace : List TimerUse) (q : TimerQueue) : Prop where
  /-- The two sets hold the same timers. -/
  same : ∀ timer, (∃ time, Entry.of time timer ∈ q.timers) ↔
    ∃ sequence, ActiveTimer.of timer sequence ∈ q.activeTimers
  /-- An entry of `timers_` carries the expiration of its timer. -/
  current : ∀ e ∈ q.timers, ∃ object, q.heap e.timer = some object ∧ object.expiration = e.time
  /-- A pair of `activeTimers_` carries the sequence number of its timer. -/
  genuine : ∀ timer sequence, ActiveTimer.of timer sequence ∈ q.activeTimers →
    ∃ object, q.heap timer = some object ∧ object.sequence = sequence
  /-- The timers that wait to be added, and those of the batch, are live. -/
  held : ∀ timer, timer ∈ q.unadded ∨ timer ∈ q.inFlight.map Entry.timer →
    ∃ object, q.heap timer = some object
  /-- No assertion fails, and no pointer to a deleted timer is followed. -/
  proceeds : ∀ a, q.Enabled a → ∃ q', q.step a = .ok q'
  /-- Nothing is done with a timer after its deletion. -/
  orderly : ∀ event : TimerUse, ¬ [.deleted event.object, event].Sublist trace
  /-- The deletions of the trace are what removes timers from the heap. -/
  deletions : ∀ sequence, .deleted sequence ∈ trace ↔
    0 < sequence ∧ sequence ≤ q.numCreated ∧ ¬ Live q sequence

/-! ## The account of the timers -/

variable {q q' : TimerQueue} {trace : List TimerUse}

/-- The trace accounts for the timers in the heap, and knows all the sequence numbers. -/
structure Books (trace : List TimerUse) (q : TimerQueue) : Prop where
  account : Use.Account trace (Live q)
  numbers : ∀ sequence, .constructed sequence ∈ trace ↔ 0 < sequence ∧ sequence ≤ q.numCreated

theorem books_empty : Books [] empty := by
  refine ⟨.nil ?_, ?_⟩
  · rintro sequence ⟨timer, object, live, -⟩
    cases live
  · intro sequence
    simp only [List.not_mem_nil, empty, false_iff]
    omega

/-- The timer at a live address is live under its number. -/
theorem live_sequenceAt {timer : Nat} {object : Timer} (live : q.heap timer = some object) :
    Live q (q.sequenceAt timer) := ⟨timer, object, live, (sequenceAt_live live).symm⟩

theorem account_usedAt (account : Use.Account trace (Live q)) {timer : Nat} {object : Timer}
    (live : q.heap timer = some object) (operations : List Operation) :
    Use.Account (trace ++ usedAt q timer operations) (Live q) :=
  account.useAll operations (live_sequenceAt live)

theorem account_flatMap (account : Use.Account trace (Live q)) {entries : List Entry}
    (live : ∀ e ∈ entries, ∃ object, q.heap e.timer = some object) (operations : List Operation) :
    Use.Account (trace ++ entries.flatMap fun e => usedAt q e.timer operations) (Live q) := by
  induction entries generalizing trace with
  | nil => simpa using account
  | cons e rest ih =>
    obtain ⟨object, stored⟩ := live e List.mem_cons_self
    have first := account_usedAt account stored operations
    have later := ih first fun e' member => live e' (List.mem_cons_of_mem _ member)
    rwa [List.append_assoc] at later

/-- The timer at one address is gone, and everything else is as before. -/
theorem live_deleted {expired : List Entry} (consistent : Consistent q expired) {timer : Nat} {object : Timer}
    (live : q.heap timer = some object) (gone : q'.heap timer = none)
    (others : ∀ p, p ≠ timer → q'.heap p = q.heap p) (sequence : Nat) :
    Live q' sequence ↔ Live q sequence ∧ sequence ≠ object.sequence := by
  constructor
  · rintro ⟨p, found, stored, rfl⟩
    have different : p ≠ timer := by
      rintro rfl
      rw [gone] at stored
      cases stored
    rw [others p different] at stored
    exact ⟨⟨p, found, stored, rfl⟩, fun equal => different (consistent.distinct stored live equal)⟩
  · rintro ⟨⟨p, found, stored, rfl⟩, other⟩
    have different : p ≠ timer := by
      rintro rfl
      rw [live] at stored
      cases stored
      exact other rfl
    exact ⟨p, found, (others p different).trans stored, rfl⟩

theorem live_restarted {timer : Nat} {object : Timer} {now : Timestamp}
    (live : q.heap timer = some object) (kept : q'.heap timer = some (object.restart now))
    (others : ∀ p, p ≠ timer → q'.heap p = q.heap p) (sequence : Nat) :
    Live q' sequence ↔ Live q sequence := by
  constructor
  · rintro ⟨p, found, stored, rfl⟩
    by_cases same : p = timer
    · subst same
      rw [kept] at stored
      cases stored
      exact ⟨p, object, live, rfl⟩
    · exact ⟨p, found, (others p same) ▸ stored, rfl⟩
  · rintro ⟨p, found, stored, rfl⟩
    by_cases same : p = timer
    · subst same
      rw [live] at stored
      cases stored
      exact ⟨p, _, kept, rfl⟩
    · exact ⟨p, found, (others p same).trans stored, rfl⟩

/-- A timer of the batch is restarted, or deleted after its last use. -/
theorem account_resetOne (account : Use.Account trace (Live q)) {e : Entry} {rest : List Entry}
    (consistent : Consistent q (e :: rest)) {now : Timestamp}
    (spec : q.Settled now [e] q') : Use.Account (trace ++ resetOneUses q e) (Live q') := by
  obtain ⟨object, live, -⟩ := consistent.running e List.mem_cons_self
  have identified := account_usedAt account live [.identified]
  have others : ∀ p, p ≠ e.timer → q'.heap p = q.heap p := by
    intro p different
    exact spec.others p (by simpa using different)
  simp only [resetOneUses, live]
  by_cases kept : q.Kept e.timer object
  · rw [if_pos kept, ← List.append_assoc]
    have stored := (spec.restarted e List.mem_cons_self object live kept).1
    exact (account_usedAt identified live _).congr (live_restarted live stored others)
  · rw [if_neg kept, ← List.append_assoc]
    have gone := spec.deleted e List.mem_cons_self object live kept
    exact (identified.delete ⟨_, _, live, rfl⟩).congr (live_deleted consistent live gone others)

/-- The loop of `reset`, and the look at the first timer after it. -/
theorem account_resetUses {expired : List Entry} (account : Use.Account trace (Live q))
    (consistent : Consistent q expired) {now : Timestamp}
    (looped : q.resetAll now expired = .ok q') :
    Use.Account (trace ++ resetUses q now expired) (Live q') := by
  induction expired generalizing q trace with
  | nil =>
    obtain rfl : q = q' := Except.ok.inj looped
    unfold resetUses
    cases first : q.timers.first? with
    | none => simpa using account
    | some e =>
      obtain ⟨object, live, -⟩ := consistent.of_entry (OrderedSet.first?_eq_some first).1
      exact account_usedAt account live _
  | cons e rest ih =>
    obtain ⟨next, turned, left, spec⟩ := resetOne_ok consistent now
    simp only [resetAll, turned, ok_bind] at looped
    have later := ih (account_resetOne account consistent spec) left looped
    simpa only [resetUses, turned, List.append_assoc] using later

/-! ## One step -/

@[simp] theorem not_constructed_usedAt (timer sequence : Nat) (operations : List Operation) :
    .constructed sequence ∉ usedAt q timer operations := by
  simp [usedAt]

theorem not_constructed_resetUses (expired : List Entry) (now : Timestamp) (sequence : Nat) :
    .constructed sequence ∉ resetUses q now expired := by
  induction expired generalizing q with
  | nil =>
    unfold resetUses
    split <;> simp
  | cons e rest ih =>
    unfold resetUses resetOneUses
    rw [List.mem_append, not_or]
    constructor
    · split
      · simp
      · split <;> simp
    · split
      next next _ => exact @ih next
      next => simp

namespace Books

/-- The number of a new timer was never used. -/
theorem newTimer (books : Books trace q) {timer : Nat} {time : Timestamp} {interval : Int}
    {repeats : Bool} (free : q.heap timer = none) :
    Books (trace ++ [.constructed (q.numCreated + 1)])
      (q.newTimer timer time interval repeats) := by
  constructor
  · refine (books.account.construct ?_).congr ?_
    · intro known
      have bound := ((books.numbers _).mp known).2
      omega
    · intro sequence
      constructor
      · rintro ⟨p, found, stored, rfl⟩
        rcases newTimer_heap stored with ⟨_, rfl⟩ | old
        · exact .inr rfl
        · exact .inl ⟨p, found, old, rfl⟩
      · rintro (⟨p, found, stored, rfl⟩ | rfl)
        · exact ⟨p, found, newTimer_keeps free stored, rfl⟩
        · exact ⟨timer, _, Function.update_self _ _ _, rfl⟩
  · intro sequence
    rw [List.mem_append, books.numbers, List.mem_singleton, Use.constructed.injEq]
    simp only [TimerQueue.newTimer]
    omega

/-- A step that constructs nothing. -/
theorem extend (books : Books trace q) {more : List TimerUse}
    (account : Use.Account (trace ++ more) (Live q')) (count : q'.numCreated = q.numCreated)
    (none : ∀ sequence, .constructed sequence ∉ more) : Books (trace ++ more) q' := by
  refine ⟨account, ?_⟩
  intro sequence
  rw [List.mem_append, books.numbers, count]
  constructor
  · rintro (known | new)
    · exact known
    · exact absurd new (none sequence)
  · exact .inl

theorem added (books : Books trace q) {timer : Nat} {object : Timer}
    (live : q.heap timer = some object) (same : q'.heap = q.heap)
    (count : q'.numCreated = q.numCreated) : Books (trace ++ addUses q timer) q' := by
  have account : Use.Account (trace ++ addUses q timer) (Live q) := by
    simp only [addUses, live]
    exact account_usedAt books.account live _
  refine books.extend (account.congr ?_) count ?_
  · intro sequence
    simp only [Live, same]
  · simp [addUses, live]

/-- Every step uses live timers only, and accounts for those it makes and deletes. -/
theorem effect {a : Act} (books : Books trace q) (sound : Sound q)
    (stepped : q.step a = .ok q') (effect : Effect q a q') : Books (trace ++ uses q a) q' := by
  have consistent := sound.consistent
  cases effect with
  | created free => exact books.newTimer free
  | added live => exact books.added live rfl rfl
  | armed live => exact books.added live rfl rfl
  | @cancelled timer object live active =>
    simp only [uses, if_pos active, sequenceAt_live live]
    refine books.extend ?_ rfl (by simp)
    rw [← List.append_assoc]
    have compared := account_usedAt books.account live [.compared]
    refine (compared.delete ⟨timer, object, live, rfl⟩).congr ?_
    -- no other live timer has the sequence number
    refine live_deleted consistent live (Function.update_self _ _ _) ?_
    intro p different
    exact Function.update_of_ne different _ _
  | deferred inactive =>
    simp only [uses, if_neg inactive, List.append_nil]
    exact ⟨books.account, books.numbers⟩
  | ignored inactive =>
    simp only [uses, if_neg inactive, List.append_nil]
    exact books
  | fired =>
    simp only [uses, List.append_nil]
    exact ⟨books.account, books.numbers⟩
  | begun idle =>
    refine books.extend (account_flatMap books.account ?_ _) rfl (by simp [uses])
    intro e member
    obtain ⟨object, live, -⟩ := due_active consistent member
    exact ⟨object, live⟩
  | @ran b e object running next live =>
    simp only [uses, running, next]
    exact books.extend (account_usedAt books.account live _) rfl (by simp)
  | @ended b settled running complete spec =>
    rw [inFlight_running running] at consistent
    obtain ⟨left, looped, -, -, returned⟩ := endRead_ok running consistent
    have same : settled.finished = left.finished := Except.ok.inj (stepped.symm.trans returned)
    have count : settled.finished.numCreated = q.numCreated := by
      rw [finished_numCreated, spec.frame]
    have idle : Consistent { q with callingExpiredTimers := false } b.expired := consistent.frame
    have before : Use.Account trace (Live { q with callingExpiredTimers := false }) := books.account
    have account := account_resetUses before idle looped
    simp only [uses, running] at account ⊢
    refine books.extend (account.congr ?_) count (not_constructed_resetUses _ _)
    intro sequence
    simp only [Live, same, finished_heap]

end Books

/-! ## Every run -/

theorem step_books (trace : List TimerUse) (q : TimerQueue) (a : Act) (q' : TimerQueue)
    (before : Sound q ∧ Books trace q) (allowed : machine.enabled q a)
    (stepped : machine.step q a = .ok q') : Sound q' ∧ Books (trace ++ uses q a) q' := by
  obtain ⟨sound, books⟩ := before
  obtain ⟨sound', effect⟩ := effect_of_ok sound allowed stepped
  exact ⟨sound', books.effect sound stepped effect⟩

/-- In every state that the timer queue reaches, the two sets agree with the heap, and nothing
was ever done with a timer after its deletion. -/
theorem lifetimes {actions : List Act} (run : machine.Run empty actions q) :
    Lifetimes (machine.observed uses empty actions) q := by
  obtain ⟨sound, books⟩ := @Machine.Run.observing _ _ _ _ _ uses
    (fun trace q => Sound q ∧ Books trace q) _ _ [] _ step_books ⟨sound_empty, books_empty⟩ run
  have consistent := sound.consistent
  rw [List.nil_append] at books
  refine ⟨?_, ?_, ?_, ?_, ?_, books.account.orderly, ?_⟩
  · intro timer
    constructor
    · rintro ⟨time, member⟩
      obtain ⟨object, -, -, active⟩ := consistent.queued member
      exact ⟨_, active⟩
    · rintro ⟨sequence, member⟩
      obtain ⟨object, -, -, entry⟩ := consistent.active member
      exact ⟨_, entry⟩
  · intro e member
    obtain ⟨object, live, time, -⟩ := consistent.of_entry member
    exact ⟨object, live, time⟩
  · intro timer sequence member
    obtain ⟨object, live, equal, -⟩ := consistent.active member
    exact ⟨object, live, equal⟩
  · rintro timer (waiting | running)
    · obtain ⟨-, object, live, -⟩ := consistent.unadded timer waiting
      exact ⟨object, live⟩
    · obtain ⟨e, listed, rfl⟩ := List.mem_map.mp running
      obtain ⟨object, live, -⟩ := consistent.running e listed
      exact ⟨object, live⟩
  · intro a allowed
    obtain ⟨q', returned, -⟩ := step_effect sound allowed
    exact ⟨q', returned⟩
  · intro sequence
    rw [books.account.deletions, books.numbers, and_assoc]

/-- A repeating timer is restarted and then cancelled by the callback of another one, which is
deleted after its batch; its address is used again. -/
def reusedAddress : List Act :=
  [.newTimer 8 5 1 true, .addTimerInLoop 8, .fdFires, .beginRead 10, .runNext, .endRead,
    .newTimer 16 20 0 false, .addTimerInLoop 16, .beginRead 30, .runNext, .cancelInLoop 8 1,
    .endRead, .newTimer 16 40 0 false, .addTimerInLoop 16]

/-- The third timer is put where the first was. -/
theorem lifetimes_reused_address : ∃ q, machine.Run empty reusedAddress q ∧
    [.deleted 1, .deleted 2, .constructed 3, .used .inserted 3].Sublist
      (machine.observed uses empty reusedAddress) ∧
    Lifetimes (machine.observed uses empty reusedAddress) q := by
  obtain ⟨q, run, -⟩ := Machine.exists_run_of_exec (M := machine) empty reusedAddress
    (fun _ => true) (by decide +kernel)
  exact ⟨q, run, by decide +kernel, lifetimes run⟩

end Starry.Guarantees.TimerLifetimes
