import Mathlib.Logic.Function.Basic
import Mathlib.Data.List.Basic
import Starry.Foundation.Runs
import Starry.Source.Abort

/-!
# The functor queue of `starry::EventLoop`

`net/src/eventloop.cpp`: `queueInLoop`, `wakeup`, `handleRead`, `doPendingFunctors` and the
phases of `loop`. What runs under `mutex_` is one step, and so is every system call, so the
steps of the threads interleave as the program's do. Any number of threads may be between
the push and the write of their `queueInLoop`. The loop thread is in one phase of `loop()`;
its own `queueInLoop` is called by a channel's callback or by a functor.

`epoll_wait` may return for a timeout, for other channels, or without reporting everything
that is ready; it reports the wake-up channel only while the eventfd's counter is not zero.
Functors that throw or never return are left out. `pushed` and `executed` record what
happened, for the results only.
-/
namespace Starry.Source

open Starry.Foundation

inductive ActiveChannel where
  | wakeupChannel
  | other
  deriving DecidableEq, Repr

inductive LoopPhase where
  /-- `loop()` has not been called, or has returned. -/
  | outside
  /-- In `epollPoller_->poll`. -/
  | polling
  /-- In `handleEvent` of the first of these, with the others still to come. -/
  | handling (active : List ActiveChannel)
  /-- In `doPendingFunctors`, before the swap. -/
  | swapping
  /-- In `doPendingFunctors` after the swap, possibly inside a functor. -/
  | calling (inFunctor : Bool)
  deriving DecidableEq, Repr

structure EventLoop (Thread Functor : Type) where
  phase : LoopPhase
  pendingFunctors : List Functor
  /-- The functors of `doPendingFunctors` that have not been invoked yet. -/
  functors : List Functor
  callingPendingFunctors : Bool
  quit : Bool
  iteration : Nat
  /-- The counter of the eventfd `wakeupFd_`. -/
  counter : Nat
  /-- Threads between the push and the write of their `queueInLoop`. -/
  writing : Thread → Bool
  /-- The loop thread itself is there. -/
  loopWriting : Bool
  pushed : List Functor
  executed : List Functor

namespace EventLoop

variable {Thread Functor : Type} [DecidableEq Thread]

def new : EventLoop Thread Functor where
  phase := .outside
  pendingFunctors := []
  functors := []
  callingPendingFunctors := false
  quit := false
  iteration := 0
  counter := 0
  writing := fun _ => false
  loopWriting := false
  pushed := []
  executed := []

/-- The largest value of an eventfd's counter. -/
def counterMax : Nat := 2 ^ 64 - 2

/-- A write that would overflow the counter fails with `EAGAIN`, and is only logged. -/
def wakeup (l : EventLoop Thread Functor) : EventLoop Thread Functor :=
  if l.counter < counterMax then { l with counter := l.counter + 1 } else l

/-- `read` takes the whole counter; on a zero counter it fails, and is only logged. -/
def handleRead (l : EventLoop Thread Functor) : EventLoop Thread Functor :=
  { l with counter := 0 }

/-- The part of `queueInLoop` under the lock. -/
def push (l : EventLoop Thread Functor) (cb : Functor) : EventLoop Thread Functor :=
  { l with pendingFunctors := l.pendingFunctors ++ [cb], pushed := l.pushed ++ [cb] }

def swap (l : EventLoop Thread Functor) : EventLoop Thread Functor :=
  { l with
    functors := l.pendingFunctors
    pendingFunctors := l.functors
    phase := .calling false }

inductive Act (Thread Functor : Type) where
  /-- Another thread in `queueInLoop`, up to the end of the lock. -/
  | push (thread : Thread) (cb : Functor)
  /-- The `wakeup` of that `queueInLoop`. -/
  | write (thread : Thread)
  /-- `quit_ = true` -/
  | setQuit
  /-- A `wakeup` that belongs to no `queueInLoop`. -/
  | wakeup
  | enter
  | pollReturns (active : List ActiveChannel)
  | handleEvent
  | doPendingFunctors
  | swap
  | invoke
  | finish
  /-- The loop thread in `queueInLoop`. -/
  | queueInLoop (cb : Functor)
  | loopWrite

def next (l : EventLoop Thread Functor) : Act Thread Functor → EventLoop Thread Functor
  | .push thread cb => { l.push cb with writing := Function.update l.writing thread true }
  | .write thread => { l.wakeup with writing := Function.update l.writing thread false }
  | .setQuit => { l with quit := true }
  | .wakeup => l.wakeup
  | .enter => { l with quit := false, phase := .polling }
  | .pollReturns active => { l with iteration := l.iteration + 1, phase := .handling active }
  | .handleEvent =>
    match l.phase with
    | .handling (.wakeupChannel :: rest) => { l.handleRead with phase := .handling rest }
    | .handling (.other :: rest) => { l with phase := .handling rest }
    | _ => l
  | .doPendingFunctors => { l with callingPendingFunctors := true, phase := .swapping }
  | .swap => l.swap
  | .invoke =>
    match l.functors with
    | [] => l
    | functor :: rest =>
      { l with functors := rest, executed := l.executed ++ [functor], phase := .calling true }
  | .finish =>
    { l with
      callingPendingFunctors := false
      phase := if l.quit then .outside else .polling }
  | .queueInLoop cb => { l.push cb with loopWriting := l.callingPendingFunctors }
  | .loopWrite => { l.wakeup with loopWriting := false }

/-- `handleEvent` of a channel is running. -/
def inEvent (l : EventLoop Thread Functor) : Bool :=
  match l.phase with
  | .handling (_ :: _) => true
  | _ => false

/-- Code of a callback or of a functor runs in the loop thread. -/
def inUserCode (l : EventLoop Thread Functor) : Bool :=
  match l.phase with
  | .handling (.other :: _) => true
  | .calling true => true
  | _ => false

def inCalling (l : EventLoop Thread Functor) : Bool :=
  match l.phase with
  | .calling _ => true
  | _ => false

def Enabled (l : EventLoop Thread Functor) : Act Thread Functor → Prop
  | .push thread _ => l.writing thread = false
  | .write thread => l.writing thread = true
  | .setQuit => True
  | .wakeup => True
  | .enter => l.phase = .outside
  | .pollReturns active => l.phase = .polling ∧ (.wakeupChannel ∈ active → 0 < l.counter)
  | .handleEvent => l.inEvent = true ∧ l.loopWriting = false
  | .doPendingFunctors => l.phase = .handling []
  | .swap => l.phase = .swapping
  | .invoke => l.inCalling = true ∧ l.loopWriting = false ∧ l.functors.isEmpty = false
  | .finish => l.inCalling = true ∧ l.loopWriting = false ∧ l.functors.isEmpty = true
  | .queueInLoop _ => l.inUserCode = true ∧ l.loopWriting = false
  | .loopWrite => l.loopWriting = true

def machine (Thread Functor : Type) [DecidableEq Thread] :
    Machine (EventLoop Thread Functor) (Act Thread Functor) Abort where
  enabled := Enabled
  step l a := .ok (l.next a)

instance (l : EventLoop Thread Functor) (a : Act Thread Functor) : Decidable (l.Enabled a) :=
  match a with
  | .push _ _ | .write _ | .enter | .doPendingFunctors | .swap | .loopWrite =>
    inferInstanceAs (Decidable (_ = _))
  | .pollReturns active =>
    inferInstanceAs (Decidable (l.phase = .polling ∧ (.wakeupChannel ∈ active → 0 < l.counter)))
  | .handleEvent | .queueInLoop _ => inferInstanceAs (Decidable (_ = _ ∧ _ = _))
  | .invoke | .finish => inferInstanceAs (Decidable (_ = _ ∧ _ = _ ∧ _ = _))
  | .setQuit | .wakeup => isTrue trivial

instance (l : EventLoop Thread Functor) (a : Act Thread Functor) :
    Decidable ((machine Thread Functor).enabled l a) :=
  inferInstanceAs (Decidable (l.Enabled a))

end EventLoop

end Starry.Source
