import Mathlib.Data.Fintype.Basic
import Mathlib.Logic.Function.Basic
import Starry.Foundation.Runs
import Starry.Source.Abort

/-!
# `starry::ThreadPool`

`base/thread_pool/include/thread_pool.h`, from the end of the constructor on: the workers
have been started. What runs under `queue_mutex_` is one step of the thread that holds it.
A condition variable may wake a waiting thread at any time, notified or not, so a thread
waits by being able to go on only while its predicate holds.

A task is the number of the `enqueue` call that made it. `started` and `finished` record the
executions, for the results only. `setMaxQueueSize` and a restart after `stop` are left out.
-/
namespace Starry.Source

open Starry.Foundation

inductive WorkerStage where
  /-- Before the lock, or in `condition_.wait`. -/
  | waiting
  /-- The task has been moved out of the queue, and `notFull_` not yet been notified. -/
  | popped (task : Nat)
  | running (task : Nat)
  | exited
  deriving DecidableEq, Repr

inductive EnqueueStage where
  /-- Before the lock. -/
  | called
  /-- In `notFull_.wait`. -/
  | waiting
  /-- The task is in the queue, and `condition_` has not yet been notified. -/
  | pushed
  | returned
  | threw
  deriving DecidableEq, Repr

inductive PoolStop where
  | notCalled | joining | returned
  deriving DecidableEq, Repr

structure ThreadPool (threads : Nat) where
  maxQueueSize : Nat
  tasks : List Nat
  stop : Bool
  running : Bool
  workers : Fin threads → WorkerStage
  /-- The `enqueue` calls, in the order in which they were made. -/
  calls : List EnqueueStage
  stopping : PoolStop
  started : List Nat
  finished : List Nat

namespace ThreadPool

variable {threads : Nat}

def new (maxQueueSize : Nat) : ThreadPool threads where
  maxQueueSize := maxQueueSize
  tasks := []
  stop := false
  running := true
  workers := fun _ => .waiting
  calls := []
  stopping := .notCalled
  started := []
  finished := []

def setCall (p : ThreadPool threads) (k : Nat) (stage : EnqueueStage) : ThreadPool threads :=
  { p with calls := p.calls.set k stage }

def setWorker (p : ThreadPool threads) (w : Fin threads) (stage : WorkerStage) :
    ThreadPool threads :=
  { p with workers := Function.update p.workers w stage }

/-- The predicate of `notFull_.wait`. -/
def notFull (p : ThreadPool threads) : Bool := p.tasks.length < p.maxQueueSize

/-- `tasks_.emplace` and the end of the lock. -/
def push (p : ThreadPool threads) (k : Nat) : ThreadPool threads :=
  { p.setCall k .pushed with tasks := p.tasks ++ [k] }

/-- `enqueue` under the lock, up to a wait. -/
def enter (p : ThreadPool threads) (k : Nat) : ThreadPool threads :=
  if p.running = false then p.setCall k .threw
  else if 0 < p.maxQueueSize ∧ p.notFull = false then p.setCall k .waiting
  else p.push k

/-- A worker under the lock, past `condition_.wait`. -/
def take (p : ThreadPool threads) (w : Fin threads) : ThreadPool threads :=
  match p.tasks with
  | [] => p.setWorker w .exited
  | task :: rest => { p.setWorker w (.popped task) with tasks := rest }

inductive Act (threads : Nat) where
  | call
  | enter (k : Nat)
  /-- `notFull_.wait` returns and the task is pushed. -/
  | resume (k : Nat)
  /-- `condition_.notify_one` and the return. -/
  | notify (k : Nat)
  | take (w : Fin threads)
  /-- `notFull_.notify_one`; the task begins. -/
  | begin (w : Fin threads)
  | finish (w : Fin threads)
  /-- `stop` up to the joins. -/
  | stop
  | join
  deriving DecidableEq

def next (p : ThreadPool threads) : Act threads → ThreadPool threads
  | .call => { p with calls := p.calls ++ [.called] }
  | .enter k => p.enter k
  | .resume k => p.push k
  | .notify k => p.setCall k .returned
  | .take w => p.take w
  | .begin w =>
    match p.workers w with
    | .popped task => { p.setWorker w (.running task) with started := p.started ++ [task] }
    | _ => p
  | .finish w =>
    match p.workers w with
    | .running task => { p.setWorker w .waiting with finished := p.finished ++ [task] }
    | _ => p
  | .stop => { p with stop := true, running := false, stopping := .joining }
  | .join => { p with stopping := .returned }

def hasPopped (p : ThreadPool threads) (w : Fin threads) : Bool :=
  match p.workers w with
  | .popped _ => true
  | _ => false

def isRunning (p : ThreadPool threads) (w : Fin threads) : Bool :=
  match p.workers w with
  | .running _ => true
  | _ => false

def Enabled (p : ThreadPool threads) : Act threads → Prop
  | .call => True
  | .enter k => p.calls[k]? = some .called
  | .resume k => p.calls[k]? = some .waiting ∧ p.notFull = true
  | .notify k => p.calls[k]? = some .pushed
  | .take w => p.workers w = .waiting ∧ (p.stop = true ∨ p.tasks ≠ [])
  | .begin w => p.hasPopped w = true
  | .finish w => p.isRunning w = true
  | .stop => p.stopping = .notCalled
  | .join => p.stopping = .joining ∧ ∀ w, p.workers w = .exited

def machine (threads : Nat) : Machine (ThreadPool threads) (Act threads) Abort where
  enabled := Enabled
  step p a := .ok (p.next a)

instance (p : ThreadPool threads) (a : Act threads) : Decidable (p.Enabled a) :=
  match a with
  | .call => isTrue trivial
  | .enter _ | .notify _ | .begin _ | .finish _ | .stop => inferInstanceAs (Decidable (_ = _))
  | .resume _ => inferInstanceAs (Decidable (_ ∧ _))
  | .take _ => inferInstanceAs (Decidable (_ ∧ (_ ∨ _)))
  | .join => inferInstanceAs (Decidable (_ ∧ _))

instance (p : ThreadPool threads) (a : Act threads) : Decidable ((machine threads).enabled p a) :=
  inferInstanceAs (Decidable (p.Enabled a))

end ThreadPool

end Starry.Source
