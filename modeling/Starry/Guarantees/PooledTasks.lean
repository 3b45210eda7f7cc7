import Mathlib.Data.List.Nodup
import Starry.Source.ThreadPool

/-!
# Tasks of the thread pool

A task whose `enqueue` returned is in the queue, with a worker, or executed, and in one of
these places only, so it is executed at most once; a worker leaves its loop only when `stop_`
is set and the queue is empty, so what is in the queue then is executed before `stop` returns.

`enqueue` tests `running_` before its wait on `notFull_` and not after it. A call that is
still in that wait when the last worker leaves pushes its task for nobody, and once the queue
is full again the next such call waits for ever. `tasks_run` is about the runs in which the
last worker does not leave while a call waits, and `task_stranded` is a run in which it does.
-/
namespace Starry.Guarantees.PooledTasks

open Starry.Foundation
open Starry.Source
open Starry.Source.ThreadPool

variable {threads : Nat} {p : ThreadPool threads}

/-- The queue is full: the predicate of `notFull_.wait` does not hold. -/
def Full (p : ThreadPool threads) : Prop := 0 < p.maxQueueSize ∧ p.notFull = false

structure TasksRun (p : ThreadPool threads) : Prop where
  atMostOnce : ∀ k, p.started.count k ≤ 1
  executed : ∀ k, p.calls[k]? = some .returned → p.stopping = .returned →
    p.started.count k = 1 ∧ k ∈ p.finished
  released : ¬((∀ w, p.workers w = .exited) ∧ (∃ k : Nat, p.calls[k]? = some .waiting) ∧ Full p)

/-- The last worker does not leave its loop while a call waits for space. -/
def Attended (p : ThreadPool threads) : Act threads → Prop
  | .take w => p.tasks = [] → (∀ other, other ≠ w → p.workers other = .exited) →
    EnqueueStage.waiting ∉ p.calls
  | _ => True

instance (p : ThreadPool threads) (a : Act threads) : Decidable (Attended p a) :=
  match a with
  | .take _ => inferInstanceAs (Decidable (_ → _ → _))
  | .call | .enter _ | .resume _ | .notify _ | .begin _ | .finish _ | .stop | .join =>
    isTrue trivial

/-! ## Where a task is -/

/-- The call has pushed its task. -/
def Accepted (calls : List EnqueueStage) (k : Nat) : Prop :=
  calls[k]? = some .pushed ∨ calls[k]? = some .returned

structure Placed (p : ThreadPool threads) : Prop where
  queuedOnce : p.tasks.Nodup
  poppedOnce : ∀ w other k, p.workers w = .popped k → p.workers other = .popped k → w = other
  startedOnce : p.started.Nodup
  queued : ∀ k ∈ p.tasks, Accepted p.calls k ∧ k ∉ p.started ∧ ∀ w, p.workers w ≠ .popped k
  popped : ∀ w k, p.workers w = .popped k → Accepted p.calls k ∧ k ∉ p.started
  started : ∀ k ∈ p.started, Accepted p.calls k
  running : ∀ w k, p.workers w = .running k → k ∈ p.started
  finished : ∀ k ∈ p.finished, k ∈ p.started
  kept : ∀ k, Accepted p.calls k → k ∈ p.tasks ∨ (∃ w, p.workers w = .popped k) ∨
    (∃ w, p.workers w = .running k) ∨ k ∈ p.finished

theorem setWorker_workers (w other : Fin threads) (stage : WorkerStage) :
    (p.setWorker w stage).workers other = if other = w then stage else p.workers other := by
  simp [setWorker, Function.update_apply]

@[grind =] theorem setWorker_tasks (w : Fin threads) (stage : WorkerStage) :
    (p.setWorker w stage).tasks = p.tasks := rfl

@[grind =] theorem setWorker_calls (w : Fin threads) (stage : WorkerStage) :
    (p.setWorker w stage).calls = p.calls := rfl

@[grind =] theorem setWorker_started (w : Fin threads) (stage : WorkerStage) :
    (p.setWorker w stage).started = p.started := rfl

@[grind =] theorem setWorker_finished (w : Fin threads) (stage : WorkerStage) :
    (p.setWorker w stage).finished = p.finished := rfl

theorem new_placed (maxQueueSize : Nat) : Placed (.new maxQueueSize : ThreadPool threads) := by
  constructor <;> simp [ThreadPool.new, Accepted]

/-- A step that only moves calls, none of them past its push. -/
theorem Placed.move_calls {q : ThreadPool threads} (placed : Placed p)
    (tasks : q.tasks = p.tasks) (workers : q.workers = p.workers)
    (started : q.started = p.started) (finished : q.finished = p.finished)
    (same : ∀ k, Accepted q.calls k ↔ Accepted p.calls k) : Placed q := by
  obtain ⟨queuedOnce, poppedOnce, startedOnce, queued, popped, begun, running, ended, kept⟩ := placed
  constructor <;> simp only [tasks, workers, started, finished, same] <;> assumption

/-- A call that has only begun has no task in the queue. -/
theorem accepted_append (calls : List EnqueueStage) (k : Nat) :
    Accepted (calls ++ [.called]) k ↔ Accepted calls k := by
  simp only [Accepted, List.getElem?_append]
  split
  · rfl
  · next beyond =>
    rw [List.getElem?_eq_none (by omega : calls.length ≤ k)]
    cases k - calls.length <;> simp

theorem accepted_set {calls : List EnqueueStage} {j : Nat} {before after : EnqueueStage}
    (at_j : calls[j]? = some before)
    (agree : (after = .pushed ∨ after = .returned) ↔ (before = .pushed ∨ before = .returned))
    (k : Nat) : Accepted (calls.set j after) k ↔ Accepted calls k := by
  have short : j < calls.length := (List.getElem?_eq_some_iff.mp at_j).1
  by_cases same : j = k
  · subst same
    simp only [Accepted, List.getElem?_set_self short, at_j, Option.some.injEq]
    exact agree
  · simp only [Accepted, List.getElem?_set_ne same]

/-- An accepted task joins the queue, and is nowhere else. -/
theorem Placed.push {k : Nat} {before : EnqueueStage} (placed : Placed p)
    (at_k : p.calls[k]? = some before) (early : before = .called ∨ before = .waiting) :
    Placed (p.push k) := by
  have short : k < p.calls.length := (List.getElem?_eq_some_iff.mp at_k).1
  have fresh : ¬Accepted p.calls k := by
    unfold Accepted
    grind
  have accepted : ∀ j, Accepted (p.push k).calls j ↔ j = k ∨ Accepted p.calls j := by
    intro j
    simp only [ThreadPool.push, setCall]
    by_cases same : k = j
    · subst same
      simp [Accepted, List.getElem?_set_self short]
    · simp only [Accepted, List.getElem?_set_ne same]
      grind
  have tasks : (p.push k).tasks = p.tasks ++ [k] := rfl
  have workers : (p.push k).workers = p.workers := rfl
  obtain ⟨queuedOnce, poppedOnce, startedOnce, queued, popped, started, running, finished, kept⟩ :=
    placed
  refine ⟨?_, poppedOnce, startedOnce, ?_, ?_, ?_, running, finished, ?_⟩
  · refine queuedOnce.append (List.nodup_singleton k) ?_
    simp only [List.disjoint_singleton]
    exact fun inside => fresh (queued k inside).1
  · intro j inside
    rw [accepted, workers]
    rw [tasks, List.mem_append, List.mem_singleton] at inside
    rcases inside with inside | rfl
    · exact ⟨.inr (queued j inside).1, (queued j inside).2⟩
    · exact ⟨.inl rfl, fun begun => fresh (started _ begun), fun w took => fresh (popped w _ took).1⟩
  · intro w j took
    rw [accepted]
    exact ⟨.inr (popped w j took).1, (popped w j took).2⟩
  · intro j begun
    rw [accepted]
    exact .inr (started j begun)
  · intro j
    rw [accepted, tasks, List.mem_append, List.mem_singleton]
    rintro (rfl | before)
    · exact .inl (.inr rfl)
    · exact (kept j before).imp_left .inl

/-- A worker leaves its loop. -/
theorem Placed.exit {w : Fin threads} (placed : Placed p) (idle : p.workers w = .waiting) :
    Placed (p.setWorker w .exited) := by
  obtain ⟨queuedOnce, poppedOnce, startedOnce, queued, popped, started, running, finished, kept⟩ :=
    placed
  have workers : ∀ other, _ := fun other => setWorker_workers (p := p) w other .exited
  constructor
  all_goals grind

/-- A task that is taken leaves the queue for the worker. -/
theorem Placed.pop {w : Fin threads} {task : Nat} {rest : List Nat} (placed : Placed p)
    (idle : p.workers w = .waiting) (front : p.tasks = task :: rest) :
    Placed { p.setWorker w (.popped task) with tasks := rest } := by
  obtain ⟨queuedOnce, poppedOnce, startedOnce, queued, popped, started, running, finished, kept⟩ :=
    placed
  -- The front task leaves the queue, which held it once, for a worker that held none.
  rw [front, List.nodup_cons] at queuedOnce
  have workers : ∀ other, _ := fun other => setWorker_workers (p := p) w other (.popped task)
  constructor
  all_goals grind

theorem Placed.begin {w : Fin threads} {task : Nat} (placed : Placed p)
    (held : p.workers w = .popped task) :
    Placed { p.setWorker w (.running task) with started := p.started ++ [task] } := by
  obtain ⟨queuedOnce, poppedOnce, startedOnce, queued, popped, started, running, finished, kept⟩ :=
    placed
  have fresh : task ∉ p.started := (popped w task held).2
  have alone : ∀ other, p.workers other = .popped task → other = w :=
    fun other same => poppedOnce other w task same held
  have workers : ∀ other, _ := fun other => setWorker_workers (p := p) w other (.running task)
  constructor
  all_goals grind

theorem Placed.finish {w : Fin threads} {task : Nat} (placed : Placed p)
    (busy : p.workers w = .running task) :
    Placed { p.setWorker w .waiting with finished := p.finished ++ [task] } := by
  obtain ⟨queuedOnce, poppedOnce, startedOnce, queued, popped, started, running, finished, kept⟩ :=
    placed
  have begun : task ∈ p.started := running w task busy
  have workers : ∀ other, _ := fun other => setWorker_workers (p := p) w other .waiting
  constructor
  all_goals grind

/-! ## The end of the pool -/

structure Closing (p : ThreadPool threads) : Prop where
  flags : p.stop = true ↔ p.running = false
  stopped : p.stopping ≠ .notCalled ↔ p.stop = true
  exited : ∀ w, p.workers w = .exited → p.stop = true
  emptied : (∀ w, p.workers w = .exited) → p.tasks = [] ∧ EnqueueStage.waiting ∉ p.calls
  joined : p.stopping = .returned → ∀ w, p.workers w = .exited

structure Inv (p : ThreadPool threads) : Prop extends Placed p, Closing p

theorem new_inv (maxQueueSize : Nat) : Inv (.new maxQueueSize : ThreadPool threads) := by
  refine ⟨new_placed maxQueueSize, ?_⟩
  constructor <;> simp [ThreadPool.new]

/-- While the pool runs, some worker is left. -/
theorem Closing.worker_left (closing : Closing p) (some_worker : 0 < threads)
    (running : p.running = true) : ¬∀ w, p.workers w = .exited := by
  intro gone
  have stopped := closing.flags.mp (closing.exited ⟨0, some_worker⟩ (gone _))
  rw [running] at stopped
  cases stopped

/-- A step of a call that adds no waiting call, and no task, once the workers are gone. -/
theorem Closing.move_calls {calls : List EnqueueStage} {tasks : List Nat} (closing : Closing p)
    (quiet : (∀ w, p.workers w = .exited) → tasks = [] ∧ EnqueueStage.waiting ∉ calls) :
    Closing { p with calls := calls, tasks := tasks } :=
  ⟨closing.flags, closing.stopped, closing.exited, quiet, closing.joined⟩

theorem Inv.setCall {k : Nat} {before after : EnqueueStage} (inv : Inv p)
    (at_k : p.calls[k]? = some before)
    (agree : (after = .pushed ∨ after = .returned) ↔ (before = .pushed ∨ before = .returned))
    (waits : after = .waiting → ¬∀ w, p.workers w = .exited) : Inv (p.setCall k after) := by
  refine ⟨?_, inv.toClosing.move_calls ?_⟩
  · exact inv.toPlaced.move_calls rfl rfl rfl rfl (accepted_set at_k agree)
  · intro gone
    refine ⟨(inv.emptied gone).1, fun waiting => ?_⟩
    rcases List.mem_or_eq_of_mem_set waiting with old | new
    · exact (inv.emptied gone).2 old
    · exact waits new.symm gone

/-- A task is pushed while a worker is left for it. -/
theorem Inv.push {k : Nat} {before : EnqueueStage} (inv : Inv p)
    (at_k : p.calls[k]? = some before) (early : before = .called ∨ before = .waiting)
    (left : ¬∀ w, p.workers w = .exited) : Inv (p.push k) :=
  ⟨inv.toPlaced.push at_k early, inv.toClosing.move_calls fun gone => absurd gone left⟩

/-- A call that finds the pool running pushes or waits. -/
theorem Inv.enter {k : Nat} (inv : Inv p) (some_worker : 0 < threads)
    (called : p.calls[k]? = some .called) : Inv (p.enter k) := by
  unfold ThreadPool.enter
  split
  · exact inv.setCall called (by simp) (by simp)
  next running =>
    have left := inv.worker_left some_worker (by simpa using running)
    split
    · exact inv.setCall called (by simp) fun _ => left
    · exact inv.push called (.inl rfl) left

/-- A worker that has not left before its step nor after it. -/
theorem Closing.move_worker {w : Fin threads} {stage : WorkerStage} {tasks started finished : List Nat}
    (closing : Closing p) (before : p.workers w ≠ .exited) (after : stage ≠ .exited) :
    Closing { p.setWorker w stage with tasks := tasks, started := started, finished := finished } := by
  obtain ⟨flags, stopped, exited, emptied, joined⟩ := closing
  refine ⟨flags, stopped, ?_, ?_, ?_⟩
  · intro other left
    rw [setWorker_workers] at left
    split at left
    · exact absurd left after
    · exact exited other left
  · intro gone
    have at_w := gone w
    rw [setWorker_workers, if_pos rfl] at at_w
    exact absurd at_w after
  · intro returned
    exact absurd (joined returned w) before

/-- A worker leaves only if the queue is empty after `stop`. -/
theorem Inv.take {w : Fin threads} (inv : Inv p) (idle : p.workers w = .waiting)
    (awake : p.stop = true ∨ p.tasks ≠ []) (attended : Attended p (.take w)) :
    Inv (p.take w) := by
  unfold ThreadPool.take
  split
  next empty =>
    obtain ⟨flags, stopped, exited, emptied, joined⟩ := inv.toClosing
    refine ⟨inv.toPlaced.exit idle, flags, stopped, ?_, ?_, ?_⟩
    · intro other left
      exact awake.resolve_right (not_not.mpr empty)
    · intro gone
      refine ⟨empty, attended empty fun other distinct => ?_⟩
      have at_other := gone other
      rwa [setWorker_workers, if_neg distinct] at at_other
    · intro returned
      have at_w := joined returned w
      rw [idle] at at_w
      cases at_w
  next task rest front =>
    exact ⟨inv.toPlaced.pop idle front, inv.toClosing.move_worker (by simp [idle]) (by simp)⟩

/-- Every attended step keeps the invariant. -/
theorem Inv.step {a : Act threads} (inv : Inv p) (some_worker : 0 < threads)
    (enabled : p.Enabled a) (attended : Attended p a) : Inv (p.next a) := by
  cases a with
  | call =>
    refine ⟨?_, inv.toClosing.move_calls fun gone => ⟨(inv.emptied gone).1, ?_⟩⟩
    · exact inv.toPlaced.move_calls rfl rfl rfl rfl (accepted_append p.calls)
    · simpa using (inv.emptied gone).2
  | enter k => exact inv.enter some_worker enabled
  | resume k =>
    refine inv.push enabled.1 (.inr rfl) fun gone => ?_
    exact (inv.emptied gone).2 (List.mem_of_getElem? enabled.1)
  | notify k => exact inv.setCall enabled (by simp) (by simp)
  | take w => exact inv.take enabled.1 enabled.2 attended
  | begin w =>
    simp only [Enabled, hasPopped] at enabled
    simp only [next]
    split at enabled
    next task held =>
      exact ⟨inv.toPlaced.begin held, inv.toClosing.move_worker (by simp [held]) (by simp)⟩
    next => cases enabled
  | finish w =>
    simp only [Enabled, isRunning] at enabled
    simp only [next]
    split at enabled
    next task busy =>
      exact ⟨inv.toPlaced.finish busy, inv.toClosing.move_worker (by simp [busy]) (by simp)⟩
    next => cases enabled
  | stop =>
    obtain ⟨flags, stopped, exited, emptied, joined⟩ := inv.toClosing
    refine ⟨inv.toPlaced.move_calls rfl rfl rfl rfl fun _ => Iff.rfl, ?_, ?_, ?_, emptied, ?_⟩
    · simp [next]
    · simp [next]
    · exact fun _ _ => rfl
    · simp [next]
  | join =>
    obtain ⟨flags, stopped, exited, emptied, joined⟩ := inv.toClosing
    refine ⟨inv.toPlaced.move_calls rfl rfl rfl rfl fun _ => Iff.rfl, flags, ?_, exited, emptied,
      fun _ => enabled.2⟩
    have begun := stopped.mp (by rw [enabled.1]; simp)
    simpa [next] using begun

/-- When `stop` has returned, the tasks of the calls that returned have been run. -/
theorem Inv.executed {k : Nat} (inv : Inv p) (returned : p.calls[k]? = some .returned)
    (ended : p.stopping = .returned) : k ∈ p.finished := by
  have gone := inv.joined ended
  rcases inv.kept k (.inr returned) with queued | ⟨w, popped⟩ | ⟨w, running⟩ | finished
  · rw [(inv.emptied gone).1] at queued
    cases queued
  · rw [gone w] at popped
    cases popped
  · rw [gone w] at running
    cases running
  · exact finished

/-- What the invariant means for the tasks. -/
theorem Inv.tasksRun (inv : Inv p) : TasksRun p := by
  refine ⟨fun k => List.nodup_iff_count_le_one.mp inv.startedOnce k, ?_, ?_⟩
  · intro k returned ended
    have finished := inv.executed returned ended
    exact ⟨List.count_eq_one_of_mem inv.startedOnce (inv.finished k finished), finished⟩
  · rintro ⟨gone, ⟨k, waiting⟩, full⟩
    exact (inv.emptied gone).2 (List.mem_of_getElem? waiting)

/-- In every run of any number of callers and workers in which no caller is left waiting for room
when the last worker leaves. -/
theorem tasks_run (some_worker : 0 < threads) {maxQueueSize : Nat} {actions : List (Act threads)}
    (run : ((machine threads).restrict Attended).Run (.new maxQueueSize) actions p) :
    TasksRun p := by
  have inv : Inv p :=
    @Machine.Run.invariant _ _ _ ((machine threads).restrict Attended) Inv _ _ _
      (fun s a t inv enabled stepped => by
        cases stepped
        exact inv.step some_worker enabled.1 enabled.2)
      (new_inv maxQueueSize) run
  exact inv.tasksRun

/-- A full queue, a call that waits for space, and a `stop` while it waits: the worker
empties the queue, the call pushes, and its task is executed too. -/
def attendedStop : List (Act 1) :=
  [.call, .enter 0, .notify 0, .call, .enter 1, .stop, .take 0, .resume 1, .notify 1, .begin 0,
    .finish 0, .take 0, .begin 0, .finish 0, .take 0, .join]

theorem tasks_run_attended_stop :
    0 < 1 ∧ ∃ p : ThreadPool 1, p.finished = [0, 1] ∧ p.stopping = .returned ∧ TasksRun p := by
  obtain ⟨p, run, holds⟩ := ((machine 1).restrict Attended).exists_run_of_exec (.new 1) attendedStop
    (fun p => decide (p.finished = [0, 1] ∧ p.stopping = .returned)) (by decide +kernel)
  obtain ⟨finished, ended⟩ := of_decide_eq_true holds
  exact ⟨by decide, p, finished, ended, tasks_run (by decide) run⟩

/-- The worker executes both tasks and leaves while a third call waits; the call then
returns, its task in a queue that nobody serves. -/
def unattendedStop : List (Act 1) :=
  [.call, .enter 0, .notify 0, .take 0, .begin 0, .call, .enter 1, .notify 1, .call, .enter 2, .stop,
    .finish 0, .take 0, .begin 0, .finish 0, .take 0, .join, .resume 2, .notify 2]

theorem task_stranded :
    ∃ p : ThreadPool 1, (machine 1).Run (.new 1) unattendedStop p ∧ ¬TasksRun p := by
  obtain ⟨p, run, holds⟩ := (machine 1).exists_run_of_exec (.new 1) unattendedStop
    (fun p => decide (p.calls[2]? = some EnqueueStage.returned ∧ p.stopping = .returned ∧ 2 ∉ p.finished))
    (by decide +kernel)
  obtain ⟨returned, ended, missing⟩ := of_decide_eq_true holds
  exact ⟨p, run, fun kept => missing (kept.executed 2 returned ended).2⟩

end Starry.Guarantees.PooledTasks
