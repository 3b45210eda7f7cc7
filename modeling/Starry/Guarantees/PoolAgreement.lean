import Mathlib.Data.List.OfFn
import Starry.Source.ReusedPool

/-!
# The two models of a thread pool agree

`Starry.Source.ThreadPool` has a fixed set of workers and one `stop`, with its joins;
`Starry.Source.ReusedPool` has `start` and `stop` in any order, and every worker that was ever
started. A run of the first is a run of the second in which the pool is started once: only the
joins have no step there.
-/
namespace Starry.Guarantees.PoolAgreement

open Starry.Foundation
open Starry.Source

variable {threads : Nat}

structure Matches (p : ThreadPool threads) (q : ReusedPool) : Prop where
  maxQueueSize : q.maxQueueSize = p.maxQueueSize
  tasks : q.tasks = p.tasks
  stop : q.stop = p.stop
  running : q.running = p.running
  workers : q.workers = List.ofFn p.workers
  calls : q.calls = p.calls
  /-- `stop` has not been called. -/
  started : p.stopping = .notCalled → p.running = true

variable {p : ThreadPool threads} {q : ReusedPool}

theorem set_ofFn {α : Type} (f : Fin threads → α) (w : Fin threads) (a : α) :
    (List.ofFn f).set w a = List.ofFn (Function.update f w a) := by
  refine List.ext_getElem (by simp) fun k inside _ => ?_
  simp only [List.length_set, List.length_ofFn] at inside
  rw [List.getElem_set, List.getElem_ofFn, List.getElem_ofFn]
  by_cases same : (w : Nat) = k
  · subst same
    simp
  · have other : (⟨k, inside⟩ : Fin threads) ≠ w := fun eq => same (by rw [← eq])
    rw [if_neg same, Function.update_of_ne other]

theorem Matches.setCall (same : Matches p q) (k : Nat) (stage : EnqueueStage) :
    Matches (p.setCall k stage) (q.setCall k stage) :=
  { same with calls := by rw [ReusedPool.setCall, same.calls]; rfl }

theorem Matches.setWorker (same : Matches p q) (w : Fin threads) (stage : WorkerStage) :
    Matches (p.setWorker w stage) (q.setWorker w stage) :=
  { same with
    workers := by
      rw [ReusedPool.setWorker, same.workers]
      exact set_ofFn p.workers w stage }

/-- The workers stand in the same stages. -/
theorem Matches.worker (same : Matches p q) (w : Fin threads) :
    q.workers[(w : Nat)]? = some (p.workers w) := by
  rw [same.workers, List.getElem?_ofFn]
  simp

theorem Matches.hasPopped (same : Matches p q) {w : Fin threads} :
    q.hasPopped w = p.hasPopped w := by
  rw [ReusedPool.hasPopped, ThreadPool.hasPopped, same.worker]
  cases p.workers w <;> rfl

theorem Matches.isRunning (same : Matches p q) {w : Fin threads} :
    q.isRunning w = p.isRunning w := by
  rw [ReusedPool.isRunning, ThreadPool.isRunning, same.worker]
  cases p.workers w <;> rfl

theorem Matches.push (same : Matches p q) (k : Nat) : Matches (p.push k) (q.push k) :=
  { same.setCall k .pushed with tasks := by rw [ReusedPool.push, same.tasks]; rfl }

/-- `notFull_` is tested alike. -/
theorem Matches.notFull (same : Matches p q) : q.notFull = p.notFull := by
  rw [ReusedPool.notFull, ThreadPool.notFull, same.tasks, same.maxQueueSize]

/-- A call passes the test of `running_`, or throws. -/
theorem Matches.enter (same : Matches p q) (k : Nat) : Matches (p.enter k) (q.enter k) := by
  unfold ThreadPool.enter ReusedPool.enter
  rw [same.running, same.maxQueueSize, same.notFull]
  split
  · exact same.setCall k .threw
  split
  · exact same.setCall k .waiting
  · exact same.push k

/-- A worker takes the task in front, or leaves. -/
theorem Matches.take (same : Matches p q) (w : Fin threads) : Matches (p.take w) (q.take w) := by
  unfold ThreadPool.take ReusedPool.take
  rw [same.tasks]
  cases p.tasks with
  | nil => exact same.setWorker w .exited
  | cons task rest => exact { same.setWorker w (.popped task) with tasks := rfl }

theorem Matches.begin (same : Matches p q) (w : Fin threads) :
    Matches (p.next (.begin w)) (q.next (.begin w)) := by
  simp only [ThreadPool.next, ReusedPool.next, same.worker]
  cases p.workers w with
  | waiting | running | exited => exact same
  | popped task => exact { same.setWorker w (.running task) with }

/-- The task that ends is the one that was begun. -/
theorem Matches.finish (same : Matches p q) {w : Fin threads} (busy : p.isRunning w = true) :
    Matches (p.next (.finish w)) (q.next (.finish w)) := by
  unfold ThreadPool.isRunning at busy
  split at busy
  next task running =>
    simp only [ThreadPool.next, ReusedPool.next, running]
    exact { same.setWorker w .waiting with }
  next => cases busy

/-- The first `stop` does the same in both. -/
theorem Matches.stopped (same : Matches p q) (first : p.stopping = .notCalled) :
    Matches (p.next .stop) (q.next .stop) := by
  have running : q.running = true := same.running.trans (same.started first)
  simp only [ThreadPool.next, ReusedPool.next, ReusedPool.requestStop, running]
  exact { same with
    stop := rfl
    running := rfl
    started := fun called => by cases called }

/-- Every step of the pool that is stopped once is a step of the one that may be started again. -/
theorem step_matched {a : ThreadPool.Act threads} (same : Matches p q) (enabled : p.Enabled a) :
    ∃ answers q', ReusedPool.machine.Run q answers q' ∧ Matches (p.next a) q' := by
  cases a with
  | call =>
    have called : Matches (p.next .call) (q.next .call) :=
      { same with calls := congrArg (· ++ [EnqueueStage.called]) same.calls }
    exact ⟨[.call], _, .one trivial rfl, called⟩
  | enter k =>
    have called : p.calls[k]? = some .called := enabled
    rw [← same.calls] at called
    exact ⟨[.enter k], _, .one called rfl, same.enter k⟩
  | resume k =>
    have waits : q.calls[k]? = some .waiting ∧ q.notFull = true := by
      rw [same.calls, same.notFull]
      exact enabled
    exact ⟨[.resume k], _, .one waits rfl, same.push k⟩
  | notify k =>
    have pushed : p.calls[k]? = some .pushed := enabled
    rw [← same.calls] at pushed
    exact ⟨[.notify k], _, .one pushed rfl, same.setCall k .returned⟩
  | take w =>
    have wakes : q.workers[(w : Nat)]? = some .waiting ∧ (q.stop = true ∨ q.tasks ≠ []) := by
      rw [same.worker, same.stop, same.tasks]
      exact ⟨congrArg some enabled.1, enabled.2⟩
    exact ⟨[.take w], _, .one wakes rfl, same.take w⟩
  | begin w =>
    have popped : q.hasPopped w = true := same.hasPopped.trans enabled
    exact ⟨[.begin w], _, .one popped rfl, same.begin w⟩
  | finish w =>
    have running : q.isRunning w = true := same.isRunning.trans enabled
    exact ⟨[.finish w], _, .one running rfl, same.finish enabled⟩
  | stop => exact ⟨[.stop], _, .one trivial rfl, same.stopped enabled⟩
  | join => exact ⟨[], q, .done q, { same with started := fun called => by cases called }⟩

/-- Both start with `threads` workers and no task. -/
theorem new_matches (maxQueueSize : Nat) :
    Matches (.new maxQueueSize : ThreadPool threads) (.new threads maxQueueSize) where
  maxQueueSize := rfl
  tasks := rfl
  stop := rfl
  running := rfl
  workers := by simp [ReusedPool.new, ReusedPool.start, ThreadPool.new]
  calls := rfl
  started := fun _ => rfl

/-- Every run of a pool that is stopped once is matched by a run of the pool that can be reused,
with the same queue, workers and calls. -/
theorem pool_matched {maxQueueSize : Nat} {actions : List (ThreadPool.Act threads)}
    (run : (ThreadPool.machine threads).Run (.new maxQueueSize) actions p) :
    ∃ answers q, ReusedPool.machine.Run (.new threads maxQueueSize) answers q ∧ Matches p q := by
  refine run.simulated (fun p a p' q same enabled stepped => ?_) (new_matches maxQueueSize)
  cases stepped
  exact step_matched same enabled

end Starry.Guarantees.PoolAgreement
