import Starry.Guarantees.TimerSilence
import Starry.Source.TimerThreads

/-!
# Timers added and cancelled from any thread

However the threads interleave, the loop drives the timer queue through steps it is made for, so
that no assertion fails and no functor meets a timer that was deleted. One access is not covered
by that: the `timer->sequence()` of an `addTimer` in another thread, which finds its timer
deleted when the loop was quick to run it.
-/
namespace Starry.Guarantees.TimerCalls

open Starry.Foundation
open Starry.Source
open Starry.Source.TimerQueue hiding Act
open Starry.Guarantees.TimerSilence

variable {q q' : TimerQueue}

/-! ## The loop drives the queue -/

variable {s s' : TimerLoop}

/-- The timers that `addTimer` has constructed in other threads and not queued yet. -/
def constructed (adding : List Adding) : List Nat :=
  (adding.filter fun call => !call.queued).map Adding.timer

def added? : TimerFunctor → Option Nat
  | .addTimerInLoop timer => some timer
  | .cancelInLoop _ _ => none

/-- The timers whose `addTimerInLoop` waits among these functors. -/
def queuedIn (functors : List TimerFunctor) : List Nat := functors.filterMap added?

structure Base (s : TimerLoop) : Prop where
  sound : Sound s.queue
  accounted : Accounted s.queue
  waiting : ∀ timer, s.queue.unadded.count timer =
    (constructed s.adding).count timer + (queuedIn (s.functors ++ s.pendingFunctors)).count timer

/-- A timer that is being added is not in the queue yet. -/
theorem Base.constructed_waits (base : Base s) {call : Adding} (member : call ∈ s.adding)
    (new : call.queued = false) : call.timer ∈ s.queue.unadded := by
  have listed : call.timer ∈ constructed s.adding :=
    List.mem_map_of_mem (List.mem_filter.mpr ⟨member, by simp [new]⟩)
  have counted := base.waiting call.timer
  have positive := List.count_pos_iff.mpr listed
  exact List.count_pos_iff.mp (by omega)

/-- The queue gets there by steps of its own. -/
def Follows (q q' : TimerQueue) : Prop := ∃ actions, TimerQueue.machine.Run q actions q'

theorem Follows.refl (q : TimerQueue) : Follows q q := ⟨[], .done q⟩

theorem Follows.trans {q'' : TimerQueue} (first : Follows q q') (second : Follows q' q'') :
    Follows q q'' := by
  obtain ⟨actions, run⟩ := first
  obtain ⟨later, next⟩ := second
  exact ⟨actions ++ later, run.append next⟩

/-- A call that has queued its functor is no longer before it. -/
theorem constructed_set {adding : List Adding} {index : Nat} {call : Adding}
    (found : adding[index]? = some call) (new : call.queued = false) (timer : Nat) :
    (constructed (adding.set index { call with queued := true })).count timer +
      (if call.timer = timer then 1 else 0) = (constructed adding).count timer := by
  induction adding generalizing index with
  | nil => cases found
  | cons first rest ih =>
    cases index with
    | zero =>
      cases found
      simp [constructed, new, List.count_cons]
    | succ index =>
      have later := ih found
      unfold constructed at later ⊢
      cases queued : first.queued with
      | true => simpa [queued] using later
      | false =>
        simp only [List.set_cons_succ, List.filter_cons, queued, Bool.not_false, if_true,
          List.map_cons, List.count_cons]
        omega

theorem constructed_eraseIdx {adding : List Adding} {index : Nat} {call : Adding}
    (found : adding[index]? = some call) (old : call.queued = true) :
    constructed (adding.eraseIdx index) = constructed adding := by
  induction adding generalizing index with
  | nil => cases found
  | cons first rest ih =>
    cases index with
    | zero =>
      cases found
      simp [constructed, old]
    | succ index =>
      have later := ih found
      unfold constructed at later ⊢
      cases queued : first.queued with
      | true => simpa [queued] using later
      | false => simpa [queued] using later

/-- The timers that wait to be added after a step. -/
def unaddedAfter (q : TimerQueue) : TimerQueue.Act → List Nat
  | .newTimer timer _ _ _ => q.unadded ++ [timer]
  | .addTimerInLoop timer => q.unadded.erase timer
  | _ => q.unadded

/-- What waits to be added changes with additions only. -/
theorem effect_unadded {a : TimerQueue.Act} (effect : Effect q a q') :
    q'.unadded = unaddedAfter q a := by
  cases effect with
  | ended _ _ spec => rw [finished_unadded, spec.frame]; rfl
  | created _ | added _ _ _ | armed _ _ _ | cancelled _ _ | deferred _ _ | ignored _ _ | fired
  | begun _ | ran _ _ _ => rfl

/-- An enabled step of the queue is taken. -/
theorem onQueue_ok {a : TimerQueue.Act} (sound : Sound s.queue) (accounted : Accounted s.queue)
    (allowed : s.queue.Enabled a) : ∃ q', s.onQueue a = .ok { s with queue := q' } ∧
      Sound q' ∧ Accounted q' ∧ Follows s.queue q' ∧ q'.unadded = unaddedAfter s.queue a ∧
      Effect s.queue a q' := by
  obtain ⟨q', stepped, sound', effect⟩ := step_effect sound allowed
  refine ⟨q', ?_, sound', accounted.effect sound sound' effect,
    ⟨[a], .next allowed stepped (.done q')⟩, effect_unadded effect, effect⟩
  rw [TimerLoop.onQueue, stepped]
  rfl

/-- A step that leaves the functors and the calls alone. -/
theorem Base.onQueue {a : TimerQueue.Act} (base : Base s) (allowed : s.queue.Enabled a)
    (same : unaddedAfter s.queue a = s.queue.unadded) :
    ∃ q', s.onQueue a = .ok { s with queue := q' } ∧ Base { s with queue := q' } ∧
      Follows s.queue q' := by
  obtain ⟨q', stepped, sound, accounted, follows, unadded, _⟩ :=
    onQueue_ok base.sound base.accounted allowed
  refine ⟨q', stepped, ⟨sound, accounted, fun timer => ?_⟩, follows⟩
  rw [unadded, same]
  exact base.waiting timer

theorem Base.newTimer (base : Base s) {timer : Nat} {time : Timestamp} {interval : Int}
    {repeats : Bool} (allowed : s.queue.Enabled (.newTimer timer time interval repeats)) :
    ∃ s', s.step (.newTimer timer time interval repeats) = .ok s' ∧ Base s' ∧
      Follows s.queue s'.queue := by
  obtain ⟨q', stepped, sound, accounted, follows, unadded, _⟩ :=
    onQueue_ok base.sound base.accounted allowed
  refine ⟨{ s with
    queue := q', adding := s.adding ++ [⟨timer, s.queue.numCreated + 1, false⟩] }, ?_,
    ⟨sound, accounted, fun p => ?_⟩, follows⟩
  · simp only [TimerLoop.step, stepped]
    rfl
  · have before := base.waiting p
    rw [unadded]
    simp only [unaddedAfter, constructed, List.filter_append, List.map_append, List.count_append]
      at before ⊢
    simp only [List.filter_cons, Bool.not_false, if_true, List.filter_nil, List.map_cons,
      List.map_nil]
    omega

theorem Base.addTimer (base : Base s) {timer : Nat} {time : Timestamp} {interval : Int}
    {repeats : Bool} (allowed : s.queue.Enabled (.newTimer timer time interval repeats))
    (turn : s.queue.UserTurn) : ∃ s', s.addTimer timer time interval repeats = .ok s' ∧ Base s' ∧
      Follows s.queue s'.queue := by
  obtain ⟨q, constructed, sound, accounted, follows, unadded, effect⟩ :=
    onQueue_ok base.sound base.accounted allowed
  have ready : q.Enabled (.addTimerInLoop timer) := by
    refine ⟨by rw [unadded]; exact List.mem_append_right _ List.mem_cons_self, ?_⟩
    cases effect
    exact turn
  obtain ⟨q', added, sound', accounted', follows', unadded', _⟩ :=
    @onQueue_ok { s with queue := q } _ sound accounted ready
  refine ⟨{ s with queue := q', ids := s.ids ++ [(timer, s.queue.numCreated + 1)] }, ?_,
    ⟨sound', accounted', fun p => ?_⟩, follows.trans follows'⟩
  · rw [TimerLoop.addTimer, constructed, ok_bind, added]
    rfl
  · rw [unadded', unaddedAfter, unadded, unaddedAfter, List.count_erase, List.count_append,
      List.count_singleton]
    have before := base.waiting p
    simp only [beq_iff_eq]
    omega

/-- `addTimer` of another thread reads the sequence number of a timer that is gone. If another timer
lives at its address by then, that one is read instead. -/
def ReadsDeleted (s : TimerLoop) (a : TimerLoop.Act) : Prop :=
  ∃ index call, a = .returnId index ∧ s.adding[index]? = some call ∧
    s.queue.heap call.timer = none

theorem Base.queueAdd (base : Base s) {index : Nat} (allowed : s.Enabled (.queueAdd index)) :
    ∃ s', s.step (.queueAdd index) = .ok s' ∧ Base s' ∧ s'.queue = s.queue := by
  have new : s.queuedIs index false = true := allowed
  unfold TimerLoop.queuedIs at new
  split at new
  · cases new
  next call found =>
    simp only [TimerLoop.step, found]
    refine ⟨_, rfl, ⟨base.sound, base.accounted, fun timer => ?_⟩, rfl⟩
    have before := base.waiting timer
    have moved := constructed_set found (by simpa using new) timer
    simp only [queuedIn, List.filterMap_append, List.count_append] at before ⊢
    simp only [List.filterMap_cons, added?, List.filterMap_nil, List.count_singleton, beq_iff_eq]
    omega

/-- The read of the sequence number comes in time, or after the end of the timer. -/
theorem returnId_ok {index : Nat} (allowed : s.Enabled (.returnId index)) :
    (ReadsDeleted s (.returnId index) ∧
      s.step (.returnId index) = .error (.undefinedBehaviour .timerQueueCpp 106)) ∨
    ∃ call object, s.adding[index]? = some call ∧ call.queued = true ∧
      s.queue.heap call.timer = some object ∧
      s.step (.returnId index) = .ok { s with
        adding := s.adding.eraseIdx index
        ids := s.ids ++ [(call.timer, object.sequence)] } := by
  have old : s.queuedIs index true = true := allowed
  unfold TimerLoop.queuedIs at old
  split at old
  · cases old
  next call found =>
    simp only [TimerLoop.step, found, TimerLoop.returnId, deref]
    cases stored : s.queue.heap call.timer with
    | none => exact .inl ⟨⟨index, call, rfl, found, stored⟩, rfl⟩
    | some object => exact .inr ⟨call, object, rfl, by simpa using old, stored, rfl⟩

theorem Base.erased (base : Base s) {index : Nat} {call : Adding} {ids : List (Nat × Nat)}
    (found : s.adding[index]? = some call) (old : call.queued = true) :
    Base { s with adding := s.adding.eraseIdx index, ids := ids } where
  sound := base.sound
  accounted := base.accounted
  waiting := by
    intro timer
    rw [constructed_eraseIdx found old]
    exact base.waiting timer

/-- A functor of the queue is one of its machine's steps. -/
theorem Base.runFunctor (base : Base s) (allowed : s.Enabled .runFunctor) :
    ∃ s', s.step .runFunctor = .ok s' ∧ Base s' ∧ Follows s.queue s'.queue := by
  obtain ⟨idle, some⟩ := allowed
  have turn : s.queue.UserTurn := by simp [TimerQueue.UserTurn, idle]
  cases front : s.functors with
  | nil => exact absurd front some
  | cons functor rest =>
    have counts := base.waiting
    rw [front] at counts
    simp only [TimerLoop.step, front]
    cases functor with
    | addTimerInLoop timer =>
      have ready : s.queue.Enabled (.addTimerInLoop timer) := by
        refine ⟨List.count_pos_iff.mp ?_, turn⟩
        have here := counts timer
        simp only [queuedIn, List.cons_append, List.filterMap_cons, added?, List.count_cons_self]
          at here
        omega
      obtain ⟨q', stepped, sound, accounted, follows, unadded, _⟩ :=
        @onQueue_ok { s with functors := rest } _ base.sound base.accounted ready
      refine ⟨_, stepped, ⟨sound, accounted, fun p => ?_⟩, follows⟩
      have here := counts p
      simp only [queuedIn, List.cons_append, List.filterMap_cons, added?, List.count_cons,
        beq_iff_eq] at here
      simp only [unadded, unaddedAfter, List.count_erase, beq_iff_eq, queuedIn]
      omega
    | cancelInLoop timer sequence =>
      obtain ⟨q', stepped, sound, accounted, follows, unadded, _⟩ :=
        @onQueue_ok { s with functors := rest } (.cancelInLoop timer sequence) base.sound
          base.accounted turn
      refine ⟨_, stepped, ⟨sound, accounted, fun p => ?_⟩, follows⟩
      rw [unadded]
      exact counts p

/-- Every step is taken, but for the read of a sequence number that comes too late. -/
theorem step_ok {a : TimerLoop.Act} (base : Base s) (allowed : s.Enabled a) :
    (ReadsDeleted s a ∧ s.step a = .error (.undefinedBehaviour .timerQueueCpp 106)) ∨
    ∃ s', s.step a = .ok s' ∧ Base s' ∧ Follows s.queue s'.queue := by
  cases a with
  | addTimer timer time interval repeats => exact .inr (base.addTimer allowed.1 allowed.2)
  | newTimer timer time interval repeats => exact .inr (base.newTimer allowed)
  | queueAdd index =>
    obtain ⟨s', stepped, later, same⟩ := base.queueAdd allowed
    exact .inr ⟨s', stepped, later, same ▸ .refl _⟩
  | returnId index =>
    rcases returnId_ok allowed with late | ⟨call, object, found, old, _, stepped⟩
    · exact .inl late
    · exact .inr ⟨_, stepped, base.erased found old, .refl _⟩
  | cancel inLoopThread timer sequence =>
    right
    cases inLoopThread with
    | true =>
      obtain ⟨q', stepped, later, follows⟩ :=
        base.onQueue (a := .cancelInLoop timer sequence) (allowed.2 rfl) rfl
      exact ⟨_, stepped, later, follows⟩
    | false =>
      refine ⟨_, rfl, ⟨base.sound, base.accounted, fun p => ?_⟩, .refl _⟩
      simpa [queuedIn, List.filterMap_cons, added?] using base.waiting p
  | doPendingFunctors =>
    have counts := base.waiting
    rw [allowed.2] at counts
    refine .inr ⟨_, rfl, ⟨base.sound, base.accounted, fun p => ?_⟩, .refl _⟩
    simpa using counts p
  | runFunctor => exact .inr (base.runFunctor allowed)
  | fdFires =>
    obtain ⟨q', stepped, later, follows⟩ := base.onQueue (a := .fdFires) allowed rfl
    exact .inr ⟨_, stepped, later, follows⟩
  | beginRead now =>
    obtain ⟨q', stepped, later, follows⟩ := base.onQueue (a := .beginRead now) allowed.1 rfl
    exact .inr ⟨_, stepped, later, follows⟩
  | runNext =>
    obtain ⟨q', stepped, later, follows⟩ := base.onQueue (a := .runNext) allowed rfl
    exact .inr ⟨_, stepped, later, follows⟩
  | endRead =>
    obtain ⟨q', stepped, later, follows⟩ := base.onQueue (a := .endRead) allowed rfl
    exact .inr ⟨_, stepped, later, follows⟩

/-- Every step that succeeds is followed by the queue. -/
theorem step_base {a : TimerLoop.Act} (base : Base s) (allowed : s.Enabled a) (stepped : s.step a = .ok s') :
    Base s' ∧ Follows s.queue s'.queue := by
  rcases step_ok base allowed with ⟨_, failed⟩ | ⟨t, returned, later⟩
  · rw [stepped] at failed
    cases failed
  · rw [stepped] at returned
    cases returned
    exact later

theorem base_start : Base .start := by
  refine ⟨sound_empty, ?_, ?_⟩
  · simp [Accounted, TimerLoop.start, TimerQueue.empty]
  · simp [TimerLoop.start, TimerQueue.empty, constructed, queuedIn]

theorem run_base {actions : List TimerLoop.Act} (base : Base s) (run : TimerLoop.machine.Run s actions s') :
    Base s' ∧ Follows s.queue s'.queue := by
  refine @Machine.Run.invariant _ _ _ _ (fun t => Base t ∧ Follows s.queue t.queue) _ _ _ ?_
    ⟨base, .refl _⟩ run
  rintro t a t' ⟨base, follows⟩ allowed stepped
  obtain ⟨later, further⟩ := step_base base allowed stepped
  exact ⟨later, follows.trans further⟩

/-! ## Every run -/

/-- Whatever the threads do, the queue takes steps of its own, each of which it is made for; the
one way to fail is the late read in `addTimer`. -/
theorem threads_drive_queue {actions : List TimerLoop.Act}
    (run : TimerLoop.machine.Run .start actions s) :
    (∃ steps, TimerQueue.machine.Run .empty steps s.queue) ∧
    ∀ a reason, s.Enabled a → (s.step a = .error reason ↔
      ReadsDeleted s a ∧ reason = .undefinedBehaviour .timerQueueCpp 106) := by
  obtain ⟨base, follows⟩ := run_base base_start run
  refine ⟨follows, fun a reason allowed => ⟨fun failed => ?_, fun ⟨late, same⟩ => ?_⟩⟩
  · rcases step_ok base allowed with ⟨late, error⟩ | ⟨s', stepped, _⟩
    · rw [failed] at error
      cases error
      exact ⟨late, rfl⟩
    · rw [failed] at stepped
      cases stepped
  · obtain ⟨index, call, rfl, found, gone⟩ := late
    subst same
    simp only [TimerLoop.step, found, TimerLoop.returnId, deref, gone]
    rfl

/-- Another thread adds a timer that is due; the loop runs and deletes it, and then the thread
reads its sequence number. -/
theorem threads_drive_queue_late : ∃ s, TimerLoop.machine.Run .start
      [.newTimer 8 5 0 false, .queueAdd 0, .doPendingFunctors, .runFunctor, .fdFires, .beginRead 10,
        .runNext, .endRead] s ∧
    s.step (.returnId 0) = .error (.undefinedBehaviour .timerQueueCpp 106) := by
  obtain ⟨s, run, passes⟩ := TimerLoop.machine.exists_run_of_exec .start
      [.newTimer 8 5 0 false, .queueAdd 0, .doPendingFunctors, .runFunctor, .fdFires, .beginRead 10,
        .runNext, .endRead]
    (fun s => decide (s.Enabled (.returnId 0) ∧ s.adding[0]? = some (Adding.mk 8 1 true) ∧
      s.queue.heap 8 = none)) (by decide +kernel)
  obtain ⟨allowed, found, gone⟩ := of_decide_eq_true passes
  exact ⟨s, run, ((threads_drive_queue run).2 _ _ allowed).mpr ⟨⟨0, _, rfl, found, gone⟩, rfl⟩⟩

end Starry.Guarantees.TimerCalls
