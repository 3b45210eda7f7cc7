import Starry.Foundation.Runs
import Starry.Source.Abort

/-!
# `starry::EventLoopThread`

`net/src/eventloop_thread.cpp` with the parts of `EventLoop::loop` and `EventLoop::quit` that
concern `quit_`. The owner calls `startLoop` and later the destructor; the thread it starts
runs `threadFunc`; callbacks of the loop may call `quit`, and so may any other threads once
`startLoop` has returned the loop to them.

The steps of all of these interleave. A step is one access to `loop_` or to `quit_`, one
deletion or one test. The destructor does not take `mutex_`, so what `threadFunc` does under
it is still cut into steps; `startLoop` reads `loop_` under it, in one step. `poll` may return
at any time. Whoever uses the loop before its construction or after its deletion has undefined
behaviour, and so has a call through a null `loop_`.
-/
namespace Starry.Source

open Starry.Foundation

inductive OwnerStage where
  /-- `startLoop` has not been called. -/
  | constructed
  /-- In `cond_.wait` of `startLoop`. -/
  | waiting
  /-- `startLoop` has returned. -/
  | started
  /-- In the destructor, before `if (loop_)`. -/
  | testing
  /-- Before the store in `loop_->quit()`. -/
  | quitting
  /-- In that call of `quit`, after the store. -/
  | waking
  | joining
  /-- The body of the destructor has finished. -/
  | finished
  deriving DecidableEq, Repr

inductive ThreadStage where
  | unstarted
  | constructing
  /-- In `callback_(loop)`. -/
  | initializing
  | publishing
  | notifying
  /-- In `loop()`, before `quit_ = false`. -/
  | entering
  /-- Before `!quit_`. -/
  | testing
  | polling
  /-- In the callbacks and functors of one iteration. -/
  | handling
  /-- `loop()` has returned. -/
  | clearing
  | deleting
  | returned
  deriving DecidableEq, Repr

structure EventLoopThread where
  owner : OwnerStage
  thread : ThreadStage
  /-- `loop_` is not null. -/
  loop : Bool
  exiting : Bool
  /-- `thread_.joinable()` -/
  joinable : Bool
  /-- `quit_` of the loop, from its construction to its deletion. -/
  quit : Option Bool
  /-- How many calls of `quit` by other threads are between the store and the write. -/
  quitting : Nat
  /-- How many calls of `quit` by other threads and by the destructor have returned. -/
  quitReturned : Nat
  deriving DecidableEq, Repr

namespace EventLoopThread

def new : EventLoopThread where
  owner := .constructed
  thread := .unstarted
  loop := false
  exiting := false
  joinable := false
  quit := none
  quitting := 0
  quitReturned := 0

/-- `quit_ = true` in `EventLoop::quit`. -/
def storeQuit (t : EventLoopThread) : Except Abort EventLoopThread :=
  match t.quit with
  | none => .error (.undefinedBehaviour .eventloopCpp 103)
  | some _ => .ok { t with quit := some true }

/-- The rest of `EventLoop::quit` in another thread than the loop's. -/
def wakeup (t : EventLoopThread) : Except Abort EventLoopThread :=
  match t.quit with
  | none => .error (.undefinedBehaviour .eventloopCpp 105)
  | some _ => .ok { t with quitReturned := t.quitReturned + 1 }

inductive Act where
  | startLoop
  | startLoopReturns
  /-- `exiting_ = true` in the destructor. -/
  | destruct
  | testLoop
  | destructorStores
  | destructorWakes
  | join
  | construct
  | callbackReturns
  | publish
  | notify
  | enter
  | testQuit
  | pollReturns
  | handle
  | clearLoop
  | deleteLoop
  /-- A callback calls `quit`. -/
  | callbackQuits
  | otherStores
  | otherWakes
  deriving DecidableEq, Repr

def step (t : EventLoopThread) : Act → Except Abort EventLoopThread
  | .startLoop => .ok { t with owner := .waiting, joinable := true, thread := .constructing }
  | .startLoopReturns => .ok { t with owner := .started }
  | .destruct => .ok { t with owner := .testing, exiting := true }
  | .testLoop => .ok { t with owner := if t.loop then .quitting else .finished }
  | .destructorStores =>
    if t.loop then do
      let t ← t.storeQuit
      return { t with owner := .waking }
    else .error (.undefinedBehaviour .eventloopThreadCpp 16)
  | .destructorWakes => do
    let t ← t.wakeup
    return { t with owner := .joining }
  | .join => .ok { t with owner := .finished, joinable := false }
  | .construct => .ok { t with thread := .initializing, quit := some false }
  | .callbackReturns => .ok { t with thread := .publishing }
  | .publish => .ok { t with thread := .notifying, loop := true }
  | .notify => .ok { t with thread := .entering }
  | .enter => .ok { t with thread := .testing, quit := some false }
  | .testQuit =>
    .ok { t with thread := if t.quit = some true then .clearing else .polling }
  | .pollReturns => .ok { t with thread := .handling }
  | .handle => .ok { t with thread := .testing }
  | .clearLoop => .ok { t with thread := .deleting, loop := false }
  | .deleteLoop => .ok { t with thread := .returned, quit := none }
  | .callbackQuits => t.storeQuit
  | .otherStores => do
    let t ← t.storeQuit
    return { t with quitting := t.quitting + 1 }
  | .otherWakes => do
    let t ← t.wakeup
    return { t with quitting := t.quitting - 1 }

/-- `startLoop` has returned the loop. -/
def handedOut (t : EventLoopThread) : Bool :=
  t.thread ≠ .unstarted ∧ t.owner ≠ .waiting

def Enabled (t : EventLoopThread) : Act → Prop
  | .startLoop => t.owner = .constructed
  | .startLoopReturns => t.owner = .waiting ∧ (t.loop = true ∨ t.exiting = true)
  | .destruct => t.owner = .constructed ∨ t.owner = .started
  | .testLoop => t.owner = .testing
  | .destructorStores => t.owner = .quitting
  | .destructorWakes => t.owner = .waking
  | .join => t.owner = .joining ∧ (t.joinable = true → t.thread = .returned)
  | .construct => t.thread = .constructing
  | .callbackReturns => t.thread = .initializing
  | .publish => t.thread = .publishing
  | .notify => t.thread = .notifying
  | .enter => t.thread = .entering
  | .testQuit => t.thread = .testing
  | .pollReturns => t.thread = .polling
  | .handle => t.thread = .handling
  | .clearLoop => t.thread = .clearing
  | .deleteLoop => t.thread = .deleting
  | .callbackQuits => t.thread = .initializing ∨ t.thread = .handling
  | .otherStores => t.handedOut = true
  | .otherWakes => 0 < t.quitting

instance (t : EventLoopThread) (a : Act) : Decidable (t.Enabled a) :=
  match a with
  | .startLoop | .testLoop | .destructorStores | .destructorWakes =>
    inferInstanceAs (Decidable (t.owner = _))
  | .startLoopReturns | .join => inferInstanceAs (Decidable (_ ∧ _))
  | .destruct | .callbackQuits => inferInstanceAs (Decidable (_ ∨ _))
  | .construct | .callbackReturns | .publish | .notify | .enter | .testQuit | .pollReturns
  | .handle | .clearLoop | .deleteLoop => inferInstanceAs (Decidable (t.thread = _))
  | .otherStores => inferInstanceAs (Decidable (t.handedOut = true))
  | .otherWakes => inferInstanceAs (Decidable (0 < t.quitting))

def machine : Machine EventLoopThread Act Abort where
  enabled := Enabled
  step := step

instance (t : EventLoopThread) (a : Act) : Decidable (machine.enabled t a) :=
  inferInstanceAs (Decidable (t.Enabled a))

end EventLoopThread

end Starry.Source
