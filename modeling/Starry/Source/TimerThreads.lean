import Starry.Source.TimerQueue

/-!
# `addTimer` and `cancel` from any thread

`TimerQueue::addTimer` and `TimerQueue::cancel` of `net/src/timer_queue.cpp` with the part of
`EventLoop::runInLoop` that they reach. In the loop thread they act at once. In another thread
`addTimer` is three steps of that thread: the construction of the timer, `queueInLoop` of
`addTimerInLoop`, and the read of `timer->sequence()` for the id that it returns; `cancel`
queues `cancelInLoop`. Only ids that `addTimer` has returned are cancelled.

`pendingFunctors` holds the functors of the timer queue among those of the loop. The others
show as calls of the loop thread, which it makes whenever it runs user code.
-/
namespace Starry.Source

open Starry.Foundation

inductive TimerFunctor where
  | addTimerInLoop (timer : Nat)
  | cancelInLoop (timer sequence : Nat)
  deriving DecidableEq, Repr

/-- An `addTimer` of another thread that has constructed its timer. -/
structure Adding where
  timer : Nat
  /-- The sequence number that the timer was given. -/
  sequence : Nat
  queued : Bool
  deriving DecidableEq, Repr

structure TimerLoop where
  queue : TimerQueue
  pendingFunctors : List TimerFunctor
  /-- The functors of `doPendingFunctors` that have not been called yet. -/
  functors : List TimerFunctor
  adding : List Adding
  /-- The ids that were returned. -/
  ids : List (Nat × Nat)

namespace TimerLoop

def start : TimerLoop := ⟨.empty, [], [], [], []⟩

inductive Act where
  /-- `addTimer` in the loop thread. -/
  | addTimer (timer : Nat) (time : Timestamp) (interval : Int) (repeats : Bool)
  /-- The three steps of `addTimer` in another thread. -/
  | newTimer (timer : Nat) (time : Timestamp) (interval : Int) (repeats : Bool)
  | queueAdd (index : Nat)
  | returnId (index : Nat)
  | cancel (inLoopThread : Bool) (timer sequence : Nat)
  | doPendingFunctors
  | runFunctor
  | fdFires
  | beginRead (now : Timestamp)
  | runNext
  | endRead

/-- The step of the timer queue itself. -/
def onQueue (s : TimerLoop) (a : TimerQueue.Act) : Except Abort TimerLoop := do
  let queue ← s.queue.step a
  return { s with queue := queue }

def runFunctor (s : TimerLoop) : TimerFunctor → Except Abort TimerLoop
  | .addTimerInLoop timer => s.onQueue (.addTimerInLoop timer)
  | .cancelInLoop timer sequence => s.onQueue (.cancelInLoop timer sequence)

def addTimer (s : TimerLoop) (timer : Nat) (time : Timestamp) (interval : Int) (repeats : Bool) :
    Except Abort TimerLoop := do
  let constructed ← s.onQueue (.newTimer timer time interval repeats)
  let added ← constructed.onQueue (.addTimerInLoop timer)
  return { added with ids := s.ids ++ [(timer, s.queue.numCreated + 1)] }

/-- `loop_->runInLoop` has returned, and `timer->sequence()` is read. -/
def returnId (s : TimerLoop) (index : Nat) (call : Adding) : Except Abort TimerLoop := do
  let object ← s.queue.deref call.timer 106
  return { s with
    adding := s.adding.eraseIdx index
    ids := s.ids ++ [(call.timer, object.sequence)] }

def step (s : TimerLoop) : Act → Except Abort TimerLoop
  | .addTimer timer time interval repeats => s.addTimer timer time interval repeats
  | .newTimer timer time interval repeats => do
    let constructed ← s.onQueue (.newTimer timer time interval repeats)
    return { constructed with
      adding := s.adding ++ [⟨timer, s.queue.numCreated + 1, false⟩] }
  | .queueAdd index =>
    match s.adding[index]? with
    | none => .ok s
    | some call => .ok { s with
        adding := s.adding.set index { call with queued := true }
        pendingFunctors := s.pendingFunctors ++ [.addTimerInLoop call.timer] }
  | .returnId index =>
    match s.adding[index]? with
    | none => .ok s
    | some call => s.returnId index call
  | .cancel true timer sequence => s.onQueue (.cancelInLoop timer sequence)
  | .cancel false timer sequence =>
    .ok { s with pendingFunctors := s.pendingFunctors ++ [.cancelInLoop timer sequence] }
  | .doPendingFunctors => .ok { s with functors := s.pendingFunctors, pendingFunctors := [] }
  | .runFunctor =>
    match s.functors with
    | [] => .ok s
    | functor :: rest => { s with functors := rest }.runFunctor functor
  | .fdFires => s.onQueue .fdFires
  | .beginRead now => s.onQueue (.beginRead now)
  | .runNext => s.onQueue .runNext
  | .endRead => s.onQueue .endRead

def queuedIs (s : TimerLoop) (index : Nat) (queued : Bool) : Bool :=
  match s.adding[index]? with
  | none => false
  | some call => call.queued = queued

/-- The timerfd is handled between two `doPendingFunctors`. -/
def Enabled (s : TimerLoop) : Act → Prop
  | .addTimer timer time interval repeats =>
    s.queue.Enabled (.newTimer timer time interval repeats) ∧ s.queue.UserTurn
  | .newTimer timer time interval repeats =>
    s.queue.Enabled (.newTimer timer time interval repeats)
  | .queueAdd index => s.queuedIs index false = true
  | .returnId index => s.queuedIs index true = true
  | .cancel inLoopThread timer sequence =>
    (timer, sequence) ∈ s.ids ∧ (inLoopThread = true → s.queue.UserTurn)
  | .doPendingFunctors => s.queue.batch = none ∧ s.functors = []
  | .runFunctor => s.queue.batch = none ∧ s.functors ≠ []
  | .fdFires => s.queue.Enabled .fdFires
  | .beginRead now => s.queue.Enabled (.beginRead now) ∧ s.functors = []
  | .runNext => s.queue.Enabled .runNext
  | .endRead => s.queue.Enabled .endRead

def machine : Machine TimerLoop Act Abort where
  enabled := Enabled
  step := step

instance (s : TimerLoop) (a : Act) : Decidable (s.Enabled a) :=
  match a with
  | .addTimer _ _ _ _ | .doPendingFunctors | .runFunctor => inferInstanceAs (Decidable (_ ∧ _))
  | .newTimer timer time interval repeats =>
    inferInstanceAs (Decidable (s.queue.Enabled (.newTimer timer time interval repeats)))
  | .queueAdd _ | .returnId _ => inferInstanceAs (Decidable (_ = _))
  | .cancel _ _ _ => inferInstanceAs (Decidable (_ ∧ _))
  | .fdFires => inferInstanceAs (Decidable (s.queue.Enabled .fdFires))
  | .beginRead now => inferInstanceAs (Decidable (s.queue.Enabled (.beginRead now) ∧ _))
  | .runNext => inferInstanceAs (Decidable (s.queue.Enabled .runNext))
  | .endRead => inferInstanceAs (Decidable (s.queue.Enabled .endRead))

instance (s : TimerLoop) (a : Act) : Decidable (machine.enabled s a) :=
  inferInstanceAs (Decidable (s.Enabled a))

end TimerLoop

end Starry.Source
