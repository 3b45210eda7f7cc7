import Mathlib.Tactic
import Starry.Source.EventLoop

/-!
# The functor queue of a running loop

For any number of threads and any interleaving of their steps: the functors that were pushed
are those executed, those taken by `doPendingFunctors` and those pending, in that order; what
is pushed is executed within two further iterations of `loop()`; and the loop never waits in
`poll` for a functor that nobody announces. A `queueInLoop` of the loop thread before its
`loop()` starts is outside the model; it would not be announced.
-/
namespace Starry.Guarantees.FunctorQueue

open Starry.Foundation
open Starry.Source
open Starry.Source.EventLoop

variable {Thread Functor : Type} {l l' : EventLoop Thread Functor}

structure Disciplined (l : EventLoop Thread Functor) : Prop where
  /-- The executed functors are the first ones pushed, in order and each once; the others
  are waiting behind them, in order and each once. -/
  ordered : l.pushed = l.executed ++ (l.functors ++ l.pendingFunctors)
  announced : l.phase = .polling → l.pendingFunctors ≠ [] →
    0 < l.counter ∨ ∃ thread, l.writing thread = true

/-! ## The invariant -/

/-- Before the next `poll` the loop thread will swap the functors. -/
def beforeSwap (phase : LoopPhase) : Bool :=
  match phase with
  | .handling _ => true
  | .swapping => true
  | _ => false

/-- The phases of `doPendingFunctors`. -/
def inFunctors (phase : LoopPhase) : Bool :=
  match phase with
  | .swapping => true
  | .calling _ => true
  | _ => false

structure Inv (l : EventLoop Thread Functor) : Prop where
  ordered : l.pushed = l.executed ++ (l.functors ++ l.pendingFunctors)
  taken : l.inCalling = false → l.functors = []
  flag : l.callingPendingFunctors = inFunctors l.phase
  writing : l.loopWriting = true → l.inCalling = true
  announced : l.pendingFunctors ≠ [] → 0 < l.counter ∨ (∃ thread, l.writing thread = true) ∨
    l.loopWriting = true ∨ beforeSwap l.phase = true

theorem inv_new : Inv (new : EventLoop Thread Functor) := by
  refine ⟨rfl, fun _ => rfl, rfl, ?_, ?_⟩
  all_goals simp [new]

theorem inCalling_of {inFunctor : Bool} (phase : l.phase = .calling inFunctor) :
    l.inCalling = true := by
  simp only [inCalling, phase]

theorem inCalling_cases (calling : l.inCalling = true) :
    ∃ inFunctor, l.phase = .calling inFunctor := by
  unfold inCalling at calling
  split at calling
  next inFunctor phase => exact ⟨inFunctor, phase⟩
  next => cases calling

/-- A `wakeup` leaves the counter positive. -/
theorem counter_wakeup (l : EventLoop Thread Functor) : 0 < l.wakeup.counter := by
  unfold wakeup
  split
  · exact Nat.succ_pos _
  next full =>
    have bound : counterMax ≤ l.counter := Nat.le_of_not_lt full
    exact Nat.lt_of_lt_of_le (by decide) bound

/-- `wakeup` changes the counter only. -/
theorem wakeup_eq (l : EventLoop Thread Functor) :
    l.wakeup = { l with counter := l.wakeup.counter } := by
  unfold wakeup
  split <;> rfl

namespace Inv

/-- A wake-up that is written is seen by the next poll. -/
theorem wakeup (inv : Inv l) : Inv l.wakeup := by
  rw [wakeup_eq]
  exact ⟨inv.ordered, inv.taken, inv.flag, inv.writing, fun _ => .inl (counter_wakeup l)⟩

/-- A functor is pushed by a thread that will wake the loop, or before the swap. -/
theorem push (inv : Inv l) (cb : Functor)
    (announced : (∃ thread, l'.writing thread = true) ∨ l'.loopWriting = true ∨
      beforeSwap l.phase = true)
    (writing : l'.loopWriting = true → l.inCalling = true)
    (effect : l' = { l.push cb with writing := l'.writing, loopWriting := l'.loopWriting }) :
    Inv l' := by
  rw [effect]
  refine ⟨?_, inv.taken, inv.flag, writing, fun _ => .inr announced⟩
  simp only [EventLoop.push, inv.ordered, List.append_assoc]

/-- The loop thread goes on, outside the functors. -/
theorem move (inv : Inv l) {phase : LoopPhase} {quit : Bool} {iteration counter : Nat}
    (idle : inFunctors l.phase = false) (calm : inFunctors phase = false)
    (announced : l.pendingFunctors ≠ [] → 0 < counter ∨ (∃ thread, l.writing thread = true) ∨
      beforeSwap phase = true) :
    Inv { l with phase := phase, quit := quit, iteration := iteration, counter := counter } := by
  have before : l.inCalling = false := by
    cases calling : l.inCalling with
    | false => rfl
    | true =>
      obtain ⟨inFunctor, place⟩ := inCalling_cases calling
      rw [place] at idle
      cases idle
  have silent : l.loopWriting = false := by
    cases writing : l.loopWriting with
    | false => rfl
    | true =>
      rw [inv.writing writing] at before
      cases before
  refine ⟨inv.ordered, fun _ => inv.taken before, ?_, ?_, ?_⟩
  · change l.callingPendingFunctors = inFunctors phase
    rw [inv.flag, idle, calm]
  · intro writing
    change l.loopWriting = true at writing
    rw [silent] at writing
    cases writing
  · intro nonempty
    rcases announced nonempty with counted | thread | swap
    · exact .inl counted
    · exact .inr (.inl thread)
    · exact .inr (.inr (.inr swap))

/-- The swap takes all pending functors, in order. -/
theorem swap (inv : Inv l) (place : l.phase = .swapping) : Inv l.swap := by
  have empty : l.functors = [] := inv.taken (by simp only [inCalling, place])
  refine ⟨?_, ?_, ?_, ?_, ?_⟩
  · simp only [EventLoop.swap, inv.ordered, empty, List.nil_append, List.append_nil]
  · intro calling
    cases calling
  · change l.callingPendingFunctors = true
    rw [inv.flag, place]
    rfl
  · intro _
    rfl
  · intro nonempty
    exact absurd empty nonempty

variable [DecidableEq Thread] {a : Act Thread Functor}

/-- Reading the eventfd leaves the batch that is still to be swapped. -/
theorem handleEvent (inv : Inv l) (busy : l.inEvent = true) : Inv (l.next .handleEvent) := by
  unfold inEvent at busy
  split at busy
  next channel rest place =>
    have idle : inFunctors l.phase = false := by rw [place]; rfl
    cases channel with
    | wakeupChannel =>
      simp only [next, place]
      exact inv.move idle rfl fun _ => .inr (.inr rfl)
    | other =>
      simp only [next, place]
      exact inv.move idle rfl fun _ => .inr (.inr rfl)
  next => cases busy

/-- A functor that is called may push others, and then wakes the loop itself. -/
theorem invoke (inv : Inv l) (calling : l.inCalling = true) : Inv (l.next .invoke) := by
  obtain ⟨inFunctor, place⟩ := inCalling_cases calling
  have flag : l.callingPendingFunctors = true := by rw [inv.flag, place]; rfl
  cases taken : l.functors with
  | nil =>
    simp only [next, taken]
    exact inv
  | cons functor rest =>
    simp only [next, taken]
    refine ⟨?_, ?_, flag, fun _ => rfl, ?_⟩
    · simp only [inv.ordered, taken, List.cons_append, List.append_assoc, List.nil_append]
    · intro idle
      cases idle
    · intro nonempty
      rcases inv.announced nonempty with counted | thread | writing | swap
      · exact .inl counted
      · exact .inr (.inl thread)
      · exact .inr (.inr (.inl writing))
      · rw [place] at swap
        cases swap

theorem finish (inv : Inv l) (calling : l.inCalling = true) (silent : l.loopWriting = false)
    (done : l.functors = []) : Inv (l.next .finish) := by
  obtain ⟨inFunctor, place⟩ := inCalling_cases calling
  have announced : l.pendingFunctors ≠ [] → 0 < l.counter ∨ ∃ thread, l.writing thread = true := by
    intro nonempty
    rcases inv.announced nonempty with counted | thread | writing | swap
    · exact .inl counted
    · exact .inr thread
    · rw [silent] at writing
      cases writing
    · rw [place] at swap
      cases swap
  refine ⟨inv.ordered, fun _ => done, ?_, ?_, ?_⟩
  · simp only [next]
    split <;> rfl
  · intro writing
    change l.loopWriting = true at writing
    rw [silent] at writing
    cases writing
  · intro nonempty
    rcases announced nonempty with counted | thread
    · exact .inl counted
    · exact .inr (.inl thread)

/-- Every step keeps a functor from being left behind a sleeping loop. -/
theorem step (inv : Inv l) (allowed : l.Enabled a) : Inv (l.next a) := by
  cases a with
  | push thread cb =>
    refine inv.push cb (.inl ⟨thread, ?_⟩) inv.writing rfl
    simp only [next, Function.update_self]
  | write thread =>
    have woken := inv.wakeup
    refine ⟨woken.ordered, woken.taken, woken.flag, woken.writing, fun _ => .inl ?_⟩
    exact counter_wakeup l
  | setQuit => exact ⟨inv.ordered, inv.taken, inv.flag, inv.writing, inv.announced⟩
  | wakeup => exact inv.wakeup
  | enter =>
    have place : l.phase = .outside := allowed
    have idle : inFunctors l.phase = false := by rw [place]; rfl
    refine inv.move idle rfl fun nonempty => ?_
    rcases inv.announced nonempty with counted | thread | writing | swap
    · exact .inl counted
    · exact .inr (.inl thread)
    · have calling := inv.writing writing
      simp only [inCalling, place] at calling
      cases calling
    · rw [place] at swap
      cases swap
  | pollReturns active =>
    have idle : inFunctors l.phase = false := by rw [allowed.1]; rfl
    exact inv.move idle rfl fun _ => .inr (.inr rfl)
  | handleEvent => exact inv.handleEvent allowed.1
  | doPendingFunctors =>
    have place : l.phase = .handling [] := allowed
    have before : l.inCalling = false := by simp only [inCalling, place]
    refine ⟨inv.ordered, fun _ => inv.taken before, rfl, ?_, fun _ => .inr (.inr (.inr rfl))⟩
    intro writing
    rw [inv.writing writing] at before
    cases before
  | swap => exact inv.swap allowed
  | invoke => exact inv.invoke allowed.1
  | finish => exact inv.finish allowed.1 allowed.2.1 (List.isEmpty_iff.mp allowed.2.2)
  | queueInLoop cb =>
    obtain ⟨user, silent⟩ := allowed
    unfold inUserCode at user
    split at user
    next rest place =>
      -- in a channel's callback nothing is written, and the swap is still to come
      have flag : l.callingPendingFunctors = false := by rw [inv.flag, place]; rfl
      refine inv.push cb (.inr (.inr (by rw [place]; rfl))) ?_ rfl
      intro writing
      change l.callingPendingFunctors = true at writing
      rw [flag] at writing
      cases writing
    next place =>
      have flag : l.callingPendingFunctors = true := by rw [inv.flag, place]; rfl
      exact inv.push cb (.inr (.inl flag)) (fun _ => inCalling_of place) rfl
    next => cases user
  | loopWrite =>
    have woken := inv.wakeup
    refine ⟨woken.ordered, woken.taken, woken.flag, fun writing => (by cases writing), ?_⟩
    exact fun _ => .inl (counter_wakeup l)

end Inv

theorem disciplined_of_inv (inv : Inv l) : Disciplined l := by
  refine ⟨inv.ordered, ?_⟩
  intro waiting nonempty
  rcases inv.announced nonempty with counted | thread | writing | swap
  · exact .inl counted
  · exact .inr thread
  · have calling := inv.writing writing
    simp only [inCalling, waiting] at calling
    cases calling
  · rw [waiting] at swap
    cases swap

/-! ## Nothing is dropped -/

/-- `target` was pushed by iteration `since`. A swap of a later iteration has taken it, and
when one more iteration begins it has been executed. -/
structure Delivered (target : List Functor) (since : Nat) (l : EventLoop Thread Functor) :
    Prop where
  pushed : target <+: l.pushed
  taken : since < l.iteration → beforeSwap l.phase = false → target <+: l.executed ++ l.functors
  done : since + 2 ≤ l.iteration → target <+: l.executed

namespace Delivered

variable {target : List Functor} {since : Nat}

theorem frame (delivered : Delivered target since l) (pushed : l.pushed <+: l'.pushed)
    (phase : l'.phase = l.phase) (iteration : l'.iteration = l.iteration)
    (executed : l'.executed = l.executed) (functors : l'.functors = l.functors) :
    Delivered target since l' := by
  refine ⟨delivered.pushed.trans pushed, ?_, ?_⟩
  · rw [phase, iteration, executed, functors]
    exact delivered.taken
  · rw [iteration, executed]
    exact delivered.done

theorem wakeup (delivered : Delivered target since l) : Delivered target since l.wakeup := by
  rw [wakeup_eq]
  exact delivered.frame (List.prefix_refl _) rfl rfl rfl rfl

variable [DecidableEq Thread] {a : Act Thread Functor}

theorem step (delivered : Delivered target since l) (inv : Inv l) (allowed : l.Enabled a) :
    Delivered target since (l.next a) := by
  cases a with
  | push thread cb => exact delivered.frame (List.prefix_append _ _) rfl rfl rfl rfl
  | write thread => exact delivered.wakeup.frame (List.prefix_refl _) rfl rfl rfl rfl
  | setQuit => exact delivered.frame (List.prefix_refl _) rfl rfl rfl rfl
  | wakeup => exact delivered.wakeup
  | enter =>
    have place : l.phase = .outside := allowed
    refine ⟨delivered.pushed, fun late _ => ?_, delivered.done⟩
    exact delivered.taken late (by rw [place]; rfl)
  | pollReturns active =>
    have empty : l.functors = [] := inv.taken (by simp only [inCalling, allowed.1])
    refine ⟨delivered.pushed, fun _ settled => (by cases settled), ?_⟩
    intro late
    have before := delivered.taken (Nat.lt_of_succ_lt_succ late) (by rw [allowed.1]; rfl)
    rwa [empty, List.append_nil] at before
  | handleEvent =>
    simp only [next]
    split
    · exact ⟨delivered.pushed, fun _ settled => (by cases settled), delivered.done⟩
    · exact ⟨delivered.pushed, fun _ settled => (by cases settled), delivered.done⟩
    · exact delivered
  | doPendingFunctors =>
    exact ⟨delivered.pushed, fun _ settled => (by cases settled), delivered.done⟩
  | swap =>
    have place : l.phase = .swapping := allowed
    have empty : l.functors = [] := inv.taken (by simp only [inCalling, place])
    refine ⟨delivered.pushed, fun _ _ => ?_, delivered.done⟩
    have all := delivered.pushed
    rw [inv.ordered, empty, List.nil_append] at all
    exact all
  | invoke =>
    obtain ⟨inFunctor, place⟩ := inCalling_cases allowed.1
    cases taken : l.functors with
    | nil =>
      simp only [next, taken]
      exact delivered
    | cons functor rest =>
      simp only [next, taken]
      refine ⟨delivered.pushed, fun late _ => ?_, fun late => ?_⟩
      · have before := delivered.taken late (by rw [place]; rfl)
        rw [taken] at before
        simpa using before
      · exact (delivered.done late).trans (List.prefix_append _ _)
  | finish =>
    obtain ⟨inFunctor, place⟩ := inCalling_cases allowed.1
    refine ⟨delivered.pushed, fun late _ => ?_, delivered.done⟩
    exact delivered.taken late (by rw [place]; rfl)
  | queueInLoop cb => exact delivered.frame (List.prefix_append _ _) rfl rfl rfl rfl
  | loopWrite => exact delivered.wakeup.frame (List.prefix_refl _) rfl rfl rfl rfl

end Delivered

/-! ## Every run -/

variable [DecidableEq Thread] {s t : EventLoop Thread Functor}
  {earlier later : List (Act Thread Functor)}

theorem run_inv (inv : Inv s) (run : (machine Thread Functor).Run s later t) : Inv t := by
  refine run.invariant ?_ inv
  intro l a l' inv allowed stepped
  cases stepped
  exact inv.step allowed

theorem run_delivered (inv : Inv s) (run : (machine Thread Functor).Run s later t) :
    Delivered s.pushed s.iteration t := by
  have start : Delivered s.pushed s.iteration s :=
    ⟨List.prefix_refl _, fun late => absurd late (lt_irrefl _), fun late => by omega⟩
  have both : Inv t ∧ Delivered s.pushed s.iteration t := by
    refine @Machine.Run.invariant _ _ _ _
      (fun l => Inv l ∧ Delivered s.pushed s.iteration l) _ _ _ ?_ ⟨inv, start⟩ run
    rintro l a l' ⟨inv, delivered⟩ allowed stepped
    cases stepped
    exact ⟨inv.step allowed, delivered.step inv allowed⟩
  exact both.2

/-- In every state of every run the queue is in order and announced, and what was pushed is
executed once two further iterations have begun. -/
theorem functor_queue (before : (machine Thread Functor).Run new earlier s)
    (after : (machine Thread Functor).Run s later t) :
    Disciplined s ∧ (s.iteration + 2 ≤ t.iteration → s.pushed <+: t.executed) := by
  have inv := run_inv inv_new before
  exact ⟨disciplined_of_inv inv, (run_delivered inv after).done⟩

/-- Two threads push while the loop waits; a functor queues another one, and a callback a
fourth. -/
theorem functor_queue_two_threads : ∃ s t : EventLoop Nat Nat,
    (machine Nat Nat).Run new [.enter, .push 1 10, .push 2 20, .write 1] s ∧
    (machine Nat Nat).Run s
      [.pollReturns [.wakeupChannel, .other], .handleEvent, .queueInLoop 30, .handleEvent,
        .write 2, .doPendingFunctors, .swap, .invoke, .queueInLoop 40, .loopWrite, .invoke,
        .invoke, .finish, .pollReturns []] t ∧
    decide (s.phase = .polling ∧ s.pushed = [10, 20] ∧ t.executed = [10, 20, 30] ∧
      t.pendingFunctors = [40] ∧ t.counter = 2) = true ∧
    (Disciplined s ∧ (s.iteration + 2 ≤ t.iteration → s.pushed <+: t.executed)) := by
  obtain ⟨s, before, first⟩ := Machine.exists_run_of_exec (M := machine Nat Nat) new
    [.enter, .push 1 10, .push 2 20, .write 1]
    (fun s => ((machine Nat Nat).exec s
      [.pollReturns [.wakeupChannel, .other], .handleEvent, .queueInLoop 30, .handleEvent,
        .write 2, .doPendingFunctors, .swap, .invoke, .queueInLoop 40, .loopWrite, .invoke,
        .invoke, .finish, .pollReturns []]).any fun t : EventLoop Nat Nat =>
      decide (s.phase = .polling ∧ s.pushed = [10, 20] ∧ t.executed = [10, 20, 30] ∧
        t.pendingFunctors = [40] ∧ t.counter = 2)) (by decide +kernel)
  obtain ⟨t, after, second⟩ := Machine.exists_run_of_exec s _ _ first
  exact ⟨s, t, before, after, second, functor_queue before after⟩

end Starry.Guarantees.FunctorQueue
