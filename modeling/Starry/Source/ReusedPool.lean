import Starry.Source.ThreadPool

/-!
# A thread pool that is stopped and started again

`base/thread_pool/include/thread_pool.h` with all of its functions that take `queue_mutex_`:
`start` after a `stop` makes new workers for the same queue. As in `Starry.Source.ThreadPool`
what runs under the mutex is one step, and a thread that waits goes on only while its predicate
holds. `workers` lists every worker that was ever started. The joins of `stop` come after its
critical section and touch no field that is read under the mutex, so they are left out: `start`
and `stop` may be called in any order, a `start` also before an earlier `stop` has joined.

`queued` and `taken` record the tasks in the order in which they enter and leave the queue, for
the results only.
-/
namespace Starry.Source

open Starry.Foundation

structure ReusedPool where
  threadCount : Nat
  maxQueueSize : Nat
  tasks : List Nat
  stop : Bool
  running : Bool
  workers : List WorkerStage
  /-- The `enqueue` calls, in the order in which they were made. -/
  calls : List EnqueueStage
  queued : List Nat
  taken : List Nat
  deriving DecidableEq, Repr

namespace ReusedPool

def start (p : ReusedPool) : ReusedPool :=
  if p.running then p
  else
    { p with
      running := true
      stop := false
      workers := p.workers ++ List.replicate p.threadCount .waiting }

/-- `stop` up to the joins. -/
def requestStop (p : ReusedPool) : ReusedPool :=
  if p.running = false then p else { p with stop := true, running := false }

/-- The constructor ends with `start`. -/
def new (threads maxQueueSize : Nat) : ReusedPool :=
  start
    { threadCount := threads
      maxQueueSize := maxQueueSize
      tasks := []
      stop := false
      running := false
      workers := []
      calls := []
      queued := []
      taken := [] }

def setCall (p : ReusedPool) (k : Nat) (stage : EnqueueStage) : ReusedPool :=
  { p with calls := p.calls.set k stage }

def setWorker (p : ReusedPool) (w : Nat) (stage : WorkerStage) : ReusedPool :=
  { p with workers := p.workers.set w stage }

/-- The predicate of `notFull_.wait`. -/
def notFull (p : ReusedPool) : Bool := p.tasks.length < p.maxQueueSize

/-- `tasks_.emplace` and the end of the lock. -/
def push (p : ReusedPool) (k : Nat) : ReusedPool :=
  { p.setCall k .pushed with tasks := p.tasks ++ [k], queued := p.queued ++ [k] }

/-- `enqueue` under the lock, up to a wait. -/
def enter (p : ReusedPool) (k : Nat) : ReusedPool :=
  if p.running = false then p.setCall k .threw
  else if 0 < p.maxQueueSize ∧ p.notFull = false then p.setCall k .waiting
  else p.push k

/-- A worker under the lock, past `condition_.wait`. -/
def take (p : ReusedPool) (w : Nat) : ReusedPool :=
  match p.tasks with
  | [] => p.setWorker w .exited
  | task :: rest => { p.setWorker w (.popped task) with tasks := rest, taken := p.taken ++ [task] }

inductive Act where
  | start
  | stop
  | call
  | enter (k : Nat)
  /-- `notFull_.wait` returns and the task is pushed. -/
  | resume (k : Nat)
  /-- `condition_.notify_one` and the return. -/
  | notify (k : Nat)
  | take (w : Nat)
  /-- `notFull_.notify_one`; the task begins. -/
  | begin (w : Nat)
  | finish (w : Nat)
  deriving DecidableEq

def next (p : ReusedPool) : Act → ReusedPool
  | .start => p.start
  | .stop => p.requestStop
  | .call => { p with calls := p.calls ++ [.called] }
  | .enter k => p.enter k
  | .resume k => p.push k
  | .notify k => p.setCall k .returned
  | .take w => p.take w
  | .begin w =>
    match p.workers[w]? with
    | some (.popped task) => p.setWorker w (.running task)
    | _ => p
  | .finish w => p.setWorker w .waiting

def isRunning (p : ReusedPool) (w : Nat) : Bool :=
  match p.workers[w]? with
  | some (.running _) => true
  | _ => false

def hasPopped (p : ReusedPool) (w : Nat) : Bool :=
  match p.workers[w]? with
  | some (.popped _) => true
  | _ => false

def Enabled (p : ReusedPool) : Act → Prop
  | .start | .stop | .call => True
  | .enter k => p.calls[k]? = some .called
  | .resume k => p.calls[k]? = some .waiting ∧ p.notFull = true
  | .notify k => p.calls[k]? = some .pushed
  | .take w => p.workers[w]? = some .waiting ∧ (p.stop = true ∨ p.tasks ≠ [])
  | .begin w => p.hasPopped w = true
  | .finish w => p.isRunning w = true

def machine : Machine ReusedPool Act Abort where
  enabled := Enabled
  step p a := .ok (p.next a)

instance (p : ReusedPool) (a : Act) : Decidable (p.Enabled a) :=
  match a with
  | .start | .stop | .call => isTrue trivial
  | .enter _ | .notify _ | .begin _ | .finish _ => inferInstanceAs (Decidable (_ = _))
  | .resume _ => inferInstanceAs (Decidable (_ ∧ _))
  | .take _ => inferInstanceAs (Decidable (_ ∧ (_ ∨ _)))

instance (p : ReusedPool) (a : Act) : Decidable (machine.enabled p a) :=
  inferInstanceAs (Decidable (p.Enabled a))

end ReusedPool

end Starry.Source
