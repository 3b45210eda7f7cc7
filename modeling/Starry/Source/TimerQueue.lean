import Mathlib.Data.Prod.Lex
import Mathlib.Logic.Function.Basic
import Starry.Foundation.OrderedSet
import Starry.Foundation.Runs
import Starry.Source.Abort

/-!
# `starry::TimerQueue`

`net/include/timer.h`, `net/src/timer.cpp` and `net/src/timer_queue.cpp`. Time points are
integers (nanoseconds since the epoch, without the bounds of 64 bits), pointers to timers
are numbers below `UINTPTR_MAX`, and the heap says which of them is a live `Timer`; an
access to another one is undefined behaviour. An address that was freed may be handed out
again.

`handleRead` is cut at the callbacks: `beginRead` ends before the first one, `runNext`
invokes the next one, and `endRead` starts after the last one has returned. While a
callback runs, and outside `handleRead`, user code of the loop thread may add and cancel
timers. `resetTimerfd` is taken to arm the timerfd for the time it is given. `history`
records what happened, for the results only.
-/
namespace Starry.Source

open Starry.Foundation

abbrev Timestamp := Int

/-- `Timestamp::min()`. -/
def Timestamp.min : Timestamp := -(2 ^ 63)

/-- A default-constructed `Timestamp`. -/
def Timestamp.epoch : Timestamp := 0

structure Timer where
  expiration : Timestamp
  /-- `interval_`, the seconds of the constructor's argument times 1000. -/
  interval : Int
  /-- `repeat_` -/
  repeats : Bool
  sequence : Nat
  deriving DecidableEq, Repr

/-- `interval_` counts microseconds here. -/
def Timer.restart (timer : Timer) (now : Timestamp) : Timer :=
  { timer with
    expiration := if timer.repeats then now + timer.interval * 1000 else Timestamp.min }

/-- `std::pair<Timestamp, Timer*>` -/
abbrev Entry := Timestamp ×ₗ Nat

/-- `std::pair<Timer*, int64_t>` -/
abbrev ActiveTimer := Nat ×ₗ Nat

def Entry.of (time : Timestamp) (timer : Nat) : Entry := toLex (time, timer)
def Entry.time (e : Entry) : Timestamp := (ofLex e).1
def Entry.timer (e : Entry) : Nat := (ofLex e).2
def ActiveTimer.of (timer sequence : Nat) : ActiveTimer := toLex (timer, sequence)

def UINTPTR_MAX : Nat := 2 ^ 64 - 1

structure Batch where
  now : Timestamp
  expired : List Entry
  /-- How many of the callbacks have been invoked. -/
  ran : Nat
  deriving DecidableEq

inductive TimerEvent where
  | created (sequence : Nat) (repeats : Bool)
  /-- `getExpired` runs at `now`; `queued` holds the expiration and the sequence number of
  every timer in `timers_`, in the order of the set. -/
  | batch (now : Timestamp) (queued : List (Timestamp × Nat))
  | ran (sequence : Nat)
  | batchEnd
  /-- `cancelInLoop` found the id in `activeTimers_`. -/
  | cancelled (sequence : Nat)
  /-- `cancelInLoop` was given the id of a timer of the batch being run. -/
  | condemned (sequence : Nat)
  /-- `resetTimerfd`; `queued` holds the expirations in `timers_`. -/
  | armed (time : Timestamp) (queued : List Timestamp)
  deriving DecidableEq

structure TimerQueue where
  heap : Nat → Option Timer
  /-- `Timer::s_numCreated_` -/
  numCreated : Nat
  /-- Timers whose `addTimerInLoop` has not run yet. -/
  unadded : List Nat
  timers : OrderedSet Entry
  activeTimers : OrderedSet ActiveTimer
  callingExpiredTimers : Bool
  cancelingTimers : OrderedSet ActiveTimer
  batch : Option Batch
  /-- The time given to the last `resetTimerfd`. -/
  lastArmed : Option Timestamp
  /-- The timerfd is armed and has not fired yet. -/
  pending : Bool
  /-- The timerfd has fired and has not been read since. -/
  readable : Bool
  history : List TimerEvent

namespace TimerQueue

def empty : TimerQueue where
  heap := fun _ => none
  numCreated := 0
  unadded := []
  timers := .empty
  activeTimers := .empty
  callingExpiredTimers := false
  cancelingTimers := .empty
  batch := none
  lastArmed := none
  pending := false
  readable := false
  history := []

def record (q : TimerQueue) (event : TimerEvent) : TimerQueue :=
  { q with history := q.history ++ [event] }

def deref (q : TimerQueue) (timer line : Nat) : Except Abort Timer :=
  match q.heap timer with
  | some object => .ok object
  | none => .error (.undefinedBehaviour .timerQueueCpp line)

def delete (q : TimerQueue) (timer : Nat) : TimerQueue :=
  { q with heap := Function.update q.heap timer none }

def resetTimerfd (q : TimerQueue) (expiration : Timestamp) : TimerQueue :=
  { q with
    lastArmed := some expiration
    pending := true
    readable := false
    history := q.history ++ [.armed expiration (q.timers.elements.map Entry.time)] }

/-- `new Timer(cb, when, interval)` at an address that is free. -/
def newTimer (q : TimerQueue) (timer : Nat) (time : Timestamp) (interval : Int) (repeats : Bool) :
    TimerQueue :=
  { q with
    heap := Function.update q.heap timer (some ⟨time, interval, repeats, q.numCreated + 1⟩)
    numCreated := q.numCreated + 1
    unadded := q.unadded ++ [timer]
    history := q.history ++ [.created (q.numCreated + 1) repeats] }

def sameSize (q : TimerQueue) (line : Nat) : Except Abort Unit :=
  cassert (q.timers.size = q.activeTimers.size) .timerQueueCpp line

/-- Whether a timer that expires at `time` would be the first of `timers_`. -/
def earliest (q : TimerQueue) (time : Timestamp) : Bool :=
  match q.timers.first? with
  | none => true
  | some first => time < first.time

/-- `timers_` and `activeTimers_` with one more timer. -/
def queued (q : TimerQueue) (timer : Nat) (object : Timer) : TimerQueue :=
  { q with
    timers := q.timers.insert (.of object.expiration timer)
    activeTimers := q.activeTimers.insert (.of timer object.sequence) }

def insert (q : TimerQueue) (timer : Nat) : Except Abort (TimerQueue × Bool) := do
  q.sameSize 208
  let object ← q.deref timer 212
  let earliestChanged := q.earliest object.expiration
  cassert (Entry.of object.expiration timer ∉ q.timers) .timerQueueCpp 221
  cassert (ActiveTimer.of timer object.sequence ∉ q.activeTimers) .timerQueueCpp 228
  (q.queued timer object).sameSize 232
  return (q.queued timer object, earliestChanged)

def addTimerInLoop (q : TimerQueue) (timer : Nat) : Except Abort TimerQueue := do
  let (inserted, earliestChanged) ← q.insert timer
  let added := { inserted with unadded := inserted.unadded.erase timer }
  if earliestChanged then
    let object ← added.deref timer 120
    return added.resetTimerfd object.expiration
  else return added

/-- The id is that of a timer in the batch being run. -/
def inBatch (q : TimerQueue) (timer sequence : Nat) : Bool :=
  match q.batch with
  | none => false
  | some b => b.expired.any fun e => e.timer = timer &&
      (match q.heap timer with
        | some object => object.sequence = sequence
        | none => false)

def cancelInLoop (q : TimerQueue) (timer sequence : Nat) : Except Abort TimerQueue := do
  q.sameSize 128
  if ActiveTimer.of timer sequence ∈ q.activeTimers then
    let object ← q.deref timer 132
    cassert (Entry.of object.expiration timer ∈ q.timers) .timerQueueCpp 133
    let erased := { q with
      timers := q.timers.erase (.of object.expiration timer)
      activeTimers := q.activeTimers.erase (.of timer sequence) }
    erased.sameSize 140
    return (erased.delete timer).record (.cancelled sequence)
  else if q.callingExpiredTimers then
    let deferred := { q with
      cancelingTimers := q.cancelingTimers.insert (.of timer sequence) }
    return if q.inBatch timer sequence then deferred.record (.condemned sequence) else deferred
  else return q

/-! ## `handleRead` -/

/-- The loop of `getExpired` over `activeTimers_`. -/
def eraseActive (heap : Nat → Option Timer) (active : OrderedSet ActiveTimer) :
    List Entry → Except Abort (OrderedSet ActiveTimer)
  | [] => .ok active
  | e :: rest =>
    match heap e.timer with
    | none => .error (.undefinedBehaviour .timerQueueCpp 171)
    | some object => do
      cassert (ActiveTimer.of e.timer object.sequence ∈ active) .timerQueueCpp 173
      eraseActive heap (active.erase (.of e.timer object.sequence)) rest

/-- The expired entries and the queue without them. -/
def getExpired (q : TimerQueue) (now : Timestamp) : Except Abort (List Entry × TimerQueue) := do
  q.sameSize 162
  let sentry := Entry.of now UINTPTR_MAX
  let rest := q.timers.above sentry
  cassert (rest.first? = none ∨ ∃ e, rest.first? = some e ∧ now < e.time) .timerQueueCpp 166
  let active ← eraseActive q.heap q.activeTimers (q.timers.below sentry)
  let left := { q with timers := rest, activeTimers := active }
  left.sameSize 177
  return (q.timers.below sentry, left)

/-- The expiration and the sequence number of every timer in `timers_`. -/
def snapshot (q : TimerQueue) : List (Timestamp × Nat) :=
  q.timers.elements.map fun e =>
    (e.time, match q.heap e.timer with
      | some object => object.sequence
      | none => 0)

def beginRead (q : TimerQueue) (now : Timestamp) : Except Abort TimerQueue := do
  let read := { q with readable := false }
  let (expired, left) ← read.getExpired now
  return { left with
    callingExpiredTimers := true
    cancelingTimers := .empty
    batch := some ⟨now, expired, 0⟩
    history := q.history ++ [.batch now q.snapshot] }

def runNext (q : TimerQueue) : Except Abort TimerQueue :=
  match q.batch with
  | none => .ok q
  | some b =>
    match b.expired[b.ran]? with
    | none => .ok q
    | some e => do
      let object ← q.deref e.timer 154
      return { q with
        batch := some { b with ran := b.ran + 1 }
        history := q.history ++ [.ran object.sequence] }

/-- One turn of the loop of `reset`. -/
def resetOne (q : TimerQueue) (now : Timestamp) (e : Entry) : Except Abort TimerQueue := do
  let object ← q.deref e.timer 186
  if object.repeats = true ∧ ActiveTimer.of e.timer object.sequence ∉ q.cancelingTimers then
    let restarted :=
      { q with heap := Function.update q.heap e.timer (some (object.restart now)) }
    let (inserted, _) ← restarted.insert e.timer
    return inserted
  else return q.delete e.timer

def resetAll (q : TimerQueue) (now : Timestamp) : List Entry → Except Abort TimerQueue
  | [] => .ok q
  | e :: rest => do
    let next ← q.resetOne now e
    next.resetAll now rest

/-- `nextExpire` starts as the epoch and is compared with `Timestamp::min()`. -/
def reset (q : TimerQueue) (expired : List Entry) (now : Timestamp) : Except Abort TimerQueue := do
  let settled ← q.resetAll now expired
  let nextExpire ← (match settled.timers.first? with
    | none => .ok Timestamp.epoch
    | some first => do
      let object ← settled.deref first.timer 197
      return object.expiration)
  if nextExpire ≠ Timestamp.min then return settled.resetTimerfd nextExpire
  else return settled

def endRead (q : TimerQueue) : Except Abort TimerQueue :=
  match q.batch with
  | none => .ok q
  | some b => do
    let done ← { q with callingExpiredTimers := false }.reset b.expired b.now
    return { done with batch := none, history := done.history ++ [.batchEnd] }

/-! ## Steps -/

inductive Act where
  | newTimer (timer : Nat) (time : Timestamp) (interval : Int) (repeats : Bool)
  | addTimerInLoop (timer : Nat)
  | cancelInLoop (timer sequence : Nat)
  | fdFires
  | beginRead (now : Timestamp)
  | runNext
  | endRead

def step (q : TimerQueue) : Act → Except Abort TimerQueue
  | .newTimer timer time interval repeats => .ok (q.newTimer timer time interval repeats)
  | .addTimerInLoop timer => q.addTimerInLoop timer
  | .cancelInLoop timer sequence => q.cancelInLoop timer sequence
  | .fdFires => .ok { q with pending := false, readable := true }
  | .beginRead now => q.beginRead now
  | .runNext => q.runNext
  | .endRead => q.endRead

/-- The loop thread is not in the code of `handleRead` itself. -/
def UserTurn (q : TimerQueue) : Prop := ∀ b ∈ q.batch, 0 < b.ran

def Enabled (q : TimerQueue) : Act → Prop
  | .newTimer timer _ interval repeats =>
    q.heap timer = none ∧ timer < UINTPTR_MAX ∧ (repeats = true → 0 ≤ interval)
  | .addTimerInLoop timer => timer ∈ q.unadded ∧ q.UserTurn
  | .cancelInLoop _ _ => q.UserTurn
  | .fdFires => q.pending = true
  | .beginRead _ => q.batch = none
  | .runNext => ∃ b ∈ q.batch, b.ran < b.expired.length
  | .endRead => ∃ b ∈ q.batch, b.ran = b.expired.length

instance (q : TimerQueue) : Decidable q.UserTurn :=
  inferInstanceAs (Decidable (∀ b ∈ q.batch, 0 < b.ran))

instance (q : TimerQueue) (a : Act) : Decidable (q.Enabled a) :=
  match a with
  | .newTimer _ _ _ _ => inferInstanceAs (Decidable (_ ∧ _ ∧ _))
  | .addTimerInLoop timer => inferInstanceAs (Decidable (timer ∈ q.unadded ∧ q.UserTurn))
  | .cancelInLoop _ _ => inferInstanceAs (Decidable q.UserTurn)
  | .fdFires => inferInstanceAs (Decidable (q.pending = true))
  | .beginRead _ => inferInstanceAs (Decidable (q.batch = none))
  | .runNext => inferInstanceAs (Decidable (∃ b ∈ q.batch, b.ran < b.expired.length))
  | .endRead => inferInstanceAs (Decidable (∃ b ∈ q.batch, b.ran = b.expired.length))

def machine : Machine TimerQueue Act Abort where
  enabled := Enabled
  step := step

instance (q : TimerQueue) (a : Act) : Decidable (machine.enabled q a) :=
  inferInstanceAs (Decidable (q.Enabled a))

end TimerQueue

end Starry.Source
