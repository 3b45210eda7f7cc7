import Starry.Guarantees.PooledTasks
import Starry.Source.ReusedPool

/-!
# The task queue of the thread pool

Whatever the order of `enqueue`, `start`, `stop` and the steps of the workers: the queue keeps to
its bound, since a call that was waiting tests for space again under the lock; tasks leave it in
the order in which they entered it; a worker exits only when it finds `stop_` set and the queue
empty; and a call that finds `running_` false throws.
-/
namespace Starry.Guarantees.QueueDiscipline

open Starry.Foundation
open Starry.Source
open Starry.Source.ReusedPool
open Starry.Guarantees.PooledTasks (Accepted accepted_append accepted_set)

variable {p : ReusedPool} {threads maxQueueSize : Nat}

/-- The worker leaves its loop in this step. -/
def Exits (p : ReusedPool) (w : Nat) (after : ReusedPool) : Prop :=
  p.workers[w]? ≠ some .exited ∧ after.workers[w]? = some .exited

structure Disciplined (maxQueueSize : Nat) (p : ReusedPool) : Prop where
  bounded : 0 < maxQueueSize → p.tasks.length ≤ maxQueueSize
  inOrder : p.taken ++ p.tasks = p.queued
  once : p.taken.Nodup
  exits : ∀ a w, machine.enabled p a → Exits p w (p.next a) → p.stop = true ∧ p.tasks = []
  refused : ∀ k, machine.enabled p (.enter k) → p.running = false →
    (p.next (.enter k)).calls[k]? = some .threw ∧ (p.next (.enter k)).tasks = p.tasks

/-! ## The invariant -/

structure Inv (maxQueueSize : Nat) (p : ReusedPool) : Prop where
  constant : p.maxQueueSize = maxQueueSize
  bounded : 0 < maxQueueSize → p.tasks.length ≤ maxQueueSize
  inOrder : p.taken ++ p.tasks = p.queued
  once : p.queued.Nodup
  accepted : ∀ k ∈ p.queued, Accepted p.calls k

theorem new_inv : Inv maxQueueSize (.new threads maxQueueSize) := by
  constructor <;> simp [ReusedPool.new, start]

/-- A step that leaves the queue alone and takes no call back before its push. -/
theorem Inv.move {q : ReusedPool} (inv : Inv maxQueueSize p)
    (constant : q.maxQueueSize = p.maxQueueSize) (tasks : q.tasks = p.tasks)
    (queued : q.queued = p.queued) (taken : q.taken = p.taken)
    (same : ∀ k, Accepted q.calls k ↔ Accepted p.calls k) : Inv maxQueueSize q := by
  obtain ⟨size, bounded, inOrder, once, accepted⟩ := inv
  constructor <;> simp only [constant, tasks, queued, taken, same] <;> assumption

theorem Inv.setCall {k : Nat} {before after : EnqueueStage} (inv : Inv maxQueueSize p)
    (at_k : p.calls[k]? = some before)
    (agree : (after = .pushed ∨ after = .returned) ↔ (before = .pushed ∨ before = .returned)) :
    Inv maxQueueSize (p.setCall k after) :=
  inv.move rfl rfl rfl rfl (accepted_set at_k agree)

/-- A call that was not in the queue yet pushes, when there is space. -/
theorem Inv.push {k : Nat} {before : EnqueueStage} (inv : Inv maxQueueSize p)
    (at_k : p.calls[k]? = some before) (early : before = .called ∨ before = .waiting)
    (space : 0 < maxQueueSize → p.notFull = true) : Inv maxQueueSize (p.push k) := by
  have short : k < p.calls.length := (List.getElem?_eq_some_iff.mp at_k).1
  have fresh : k ∉ p.queued := by
    intro inside
    have accepted := inv.accepted k inside
    unfold Accepted at accepted
    grind
  refine ⟨inv.constant, ?_, ?_, ?_, ?_⟩
  · intro limited
    have room : p.tasks.length < p.maxQueueSize := of_decide_eq_true (space limited)
    have constant := inv.constant
    simp only [ReusedPool.push, List.length_append, List.length_singleton]
    omega
  · simp only [ReusedPool.push, ReusedPool.setCall]
    rw [← List.append_assoc, inv.inOrder]
  · refine inv.once.append (List.nodup_singleton k) ?_
    simpa only [List.disjoint_singleton] using fresh
  · intro j inside
    simp only [ReusedPool.push, ReusedPool.setCall, List.mem_append, List.mem_singleton] at inside ⊢
    by_cases same : k = j
    · subst same
      exact .inl (List.getElem?_set_self short)
    · simp only [Accepted, List.getElem?_set_ne same]
      exact inv.accepted j (inside.resolve_right (Ne.symm same))

theorem Inv.enter {k : Nat} (inv : Inv maxQueueSize p) (called : p.calls[k]? = some .called) :
    Inv maxQueueSize (p.enter k) := by
  unfold ReusedPool.enter
  split
  · exact inv.setCall called (by simp)
  · split
    · exact inv.setCall called (by simp)
    next space =>
      refine inv.push called (.inl rfl) fun limited => ?_
      rw [inv.constant] at space
      simpa [limited] using space

theorem Inv.take (inv : Inv maxQueueSize p) (w : Nat) : Inv maxQueueSize (p.take w) := by
  unfold ReusedPool.take
  split
  · exact inv.move rfl rfl rfl rfl fun _ => Iff.rfl
  next task rest front =>
    obtain ⟨constant, bounded, inOrder, once, accepted⟩ := inv
    rw [front] at bounded inOrder
    refine ⟨constant, ?_, ?_, once, accepted⟩
    · intro limited
      have fits := bounded limited
      rw [List.length_cons] at fits
      exact Nat.le_of_succ_le fits
    · change (p.taken ++ [task]) ++ rest = p.queued
      rw [← inOrder, List.append_assoc, List.singleton_append]

theorem Inv.step {a : Act} (inv : Inv maxQueueSize p) (enabled : p.Enabled a) :
    Inv maxQueueSize (p.next a) := by
  cases a with
  | start =>
    simp only [next, ReusedPool.start]
    split
    · exact inv
    · exact inv.move rfl rfl rfl rfl fun _ => Iff.rfl
  | stop =>
    simp only [next, requestStop]
    split
    · exact inv
    · exact inv.move rfl rfl rfl rfl fun _ => Iff.rfl
  | call => exact inv.move rfl rfl rfl rfl (accepted_append p.calls)
  | enter k => exact inv.enter enabled
  | resume k => exact inv.push enabled.1 (.inr rfl) fun _ => enabled.2
  | notify k => exact inv.setCall enabled (by simp)
  | take w => exact inv.take w
  | begin w =>
    simp only [next]
    split
    · exact inv.move rfl rfl rfl rfl fun _ => Iff.rfl
    · exact inv
  | finish w => exact inv.move rfl rfl rfl rfl fun _ => Iff.rfl

/-! ## Exits and refusals -/

/-- Of all workers, only `w` may be at `.exited` when it was not before. -/
theorem exited_of_setWorker {w other : Nat} {stage : WorkerStage} (stays : stage ≠ .exited) :
    ¬Exits p other (p.setWorker w stage) := by
  rintro ⟨before, after⟩
  simp only [ReusedPool.setWorker, List.getElem?_set] at after
  split at after
  · split at after
    · exact stays (Option.some.inj after)
    · cases after
  · exact before after

/-- A worker leaves when the pool is stopped and the queue is empty. -/
theorem exits_only_when_stopped {a : Act} {w : Nat} (enabled : p.Enabled a)
    (exits : Exits p w (p.next a)) : p.stop = true ∧ p.tasks = [] := by
  have unmoved {q : ReusedPool} (same : q.workers = p.workers) (exits : Exits p w q) : False :=
    exits.1 (by rw [← same]; exact exits.2)
  cases a with
  | start =>
    exfalso
    simp only [next, ReusedPool.start] at exits
    split at exits
    · exact unmoved rfl exits
    · -- the new workers wait, and the old ones are where they were
      obtain ⟨before, after⟩ := exits
      simp only [List.getElem?_append] at after
      split at after
      · exact before after
      · rw [List.getElem?_replicate] at after
        split at after <;> cases after
  | stop =>
    exfalso
    simp only [next, requestStop] at exits
    split at exits
    · exact unmoved rfl exits
    · exact unmoved rfl exits
  | enter k =>
    exfalso
    simp only [next, ReusedPool.enter] at exits
    split at exits
    · exact unmoved rfl exits
    · split at exits
      · exact unmoved rfl exits
      · exact unmoved rfl exits
  | call | resume k | notify k => exact (unmoved rfl exits).elim
  | take other =>
    simp only [next, ReusedPool.take] at exits
    split at exits
    next empty => exact ⟨enabled.2.resolve_right (not_not.mpr empty), empty⟩
    next => exact absurd exits (exited_of_setWorker (by simp))
  | begin other =>
    exfalso
    simp only [next] at exits
    split at exits
    · exact exited_of_setWorker (by simp) exits
    · exact unmoved rfl exits
  | finish other => exact absurd exits (exited_of_setWorker (by simp))

/-- A call that finds the pool stopped throws, and pushes nothing. -/
theorem enter_refused {k : Nat} (called : p.calls[k]? = some .called) (stopped : p.running = false) :
    (p.enter k).calls[k]? = some .threw ∧ (p.enter k).tasks = p.tasks := by
  rw [ReusedPool.enter, if_pos stopped]
  exact ⟨List.getElem?_set_self (List.getElem?_eq_some_iff.mp called).1, rfl⟩

/-! ## Every run -/

/-- In every run of any callers and workers, with any stops and starts. -/
theorem queue_disciplined {actions : List Act}
    (run : machine.Run (.new threads maxQueueSize) actions p) : Disciplined maxQueueSize p := by
  have inv : Inv maxQueueSize p :=
    @Machine.Run.invariant _ _ _ machine (Inv maxQueueSize) _ _ _
      (fun s a t inv enabled stepped => by
        cases stepped
        exact inv.step enabled)
      new_inv run
  have once := inv.once
  rw [← inv.inOrder] at once
  exact ⟨inv.bounded, inv.inOrder, once.of_append_left,
    fun a w enabled exits => exits_only_when_stopped enabled exits,
    fun k called stopped => enter_refused called stopped⟩

/-- A queue of one task; the second call waits, a `stop` comes, the worker empties the queue and
exits after both tasks, and a restarted pool executes a third one. -/
def stopAndStart : List Act :=
  [.call, .enter 0, .notify 0, .call, .enter 1, .stop, .call, .enter 2, .take 0, .resume 1,
    .begin 0, .finish 0, .take 0, .begin 0, .finish 0, .take 0, .start, .call, .enter 3, .take 1]

theorem queue_disciplined_stop_and_start : ∃ p, machine.Run (.new 1 1) stopAndStart p ∧
    p.taken = [0, 1, 3] ∧ p.calls[2]? = some .threw ∧ Disciplined 1 p := by
  obtain ⟨p, run, holds⟩ := machine.exists_run_of_exec (.new 1 1) stopAndStart
    (fun p => decide (p.taken = [0, 1, 3] ∧ p.calls[2]? = some EnqueueStage.threw)) (by decide +kernel)
  obtain ⟨taken, threw⟩ := of_decide_eq_true holds
  exact ⟨p, run, taken, threw, queue_disciplined run⟩

end Starry.Guarantees.QueueDiscipline
