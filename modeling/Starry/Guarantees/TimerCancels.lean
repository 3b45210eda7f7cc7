import Starry.Guarantees.TimerCalls

/-!
# A cancel is final

Once `cancelInLoop` has run, the callback is not invoked again, except in the batch that is being
run at the time. This needs that the id is genuine, and that the loop thread does not cancel a
timer which another thread has not got into the queue yet.
-/
namespace Starry.Guarantees.TimerCancels

open Starry.Foundation
open Starry.Source
open Starry.Source.TimerQueue hiding Act
open Starry.Guarantees.TimerSilence
open Starry.Guarantees.TimerCalls

variable {q q' : TimerQueue} {s s' : TimerLoop}

/-! ## A cancel comes behind its addition -/

/-- The sequence number is read in time, and the loop thread does not cancel a timer that is
still on its way to the queue. -/
def Orderly (s : TimerLoop) : TimerLoop.Act → Prop
  | .returnId index => ∀ call ∈ s.adding[index]?, ∃ object ∈ s.queue.heap call.timer,
      object.sequence = call.sequence
  | .cancel true _ sequence => ∀ timer ∈ s.queue.unadded, ∀ object ∈ s.queue.heap timer,
      object.sequence ≠ sequence
  | _ => True

instance (s : TimerLoop) (a : TimerLoop.Act) : Decidable (Orderly s a) :=
  match a with
  | .returnId _ => inferInstanceAs (Decidable (∀ call ∈ _, _))
  | .cancel true _ _ => inferInstanceAs (Decidable (∀ timer ∈ s.queue.unadded, _))
  | .cancel false _ _ | .addTimer _ _ _ _ | .newTimer _ _ _ _ | .queueAdd _ | .doPendingFunctors
  | .runFunctor | .fdFires | .beginRead _ | .runNext | .endRead => .isTrue trivial

/-- The second functor does not add the timer that the first one cancels. -/
def Apart (q : TimerQueue) (first second : TimerFunctor) : Prop :=
  ∀ timer sequence timer' object, first = .cancelInLoop timer sequence →
    second = .addTimerInLoop timer' → q.heap timer' = some object → object.sequence ≠ sequence

/-- The id names one timer only, and its addition is past the calling thread. -/
structure Genuine (s : TimerLoop) (id : Nat × Nat) : Prop where
  old : id.2 ≤ s.queue.numCreated
  past : ∀ call ∈ s.adding, call.queued = false → call.sequence ≠ id.2
  own : ∀ timer object, s.queue.heap timer = some object → object.sequence = id.2 → timer = id.1

structure Ordered (s : TimerLoop) : Prop where
  calls : ∀ call ∈ s.adding, call.sequence ≤ s.queue.numCreated ∧
    (call.queued = false → ∃ object, s.queue.heap call.timer = some object ∧
      object.sequence = call.sequence)
  distinct : (s.adding.map Adding.sequence).Nodup
  ids : ∀ id ∈ s.ids, Genuine s id
  cancels : ∀ timer sequence, .cancelInLoop timer sequence ∈ s.functors ++ s.pendingFunctors →
    (timer, sequence) ∈ s.ids
  behind : (s.functors ++ s.pendingFunctors).Pairwise (Apart s.queue)

/-- A timer that waits to be added is left alone. -/
theorem waiting_stays {a : TimerQueue.Act} (sound : Sound q) (effect : Effect q a q')
    {timer : Nat} {object : Timer} (waiting : timer ∈ q.unadded)
    (live : q.heap timer = some object) : q'.heap timer = some object := by
  cases effect with
  | created free => exact newTimer_keeps free live
  | added _ _ _ | armed _ _ _ | deferred _ _ | ignored _ _ | fired | begun _ | ran _ _ _ =>
    exact live
  | @cancelled p found stored active =>
    have different : timer ≠ p := by
      rintro rfl
      rw [live] at stored
      cases stored
      exact sound.consistent.inactive_of_unadded waiting live active
    simpa [record, dropped, delete, different] using live
  | @ended b settled running complete spec =>
    have outside := (sound.consistent.unadded timer waiting).1
    rw [inFlight_running running] at outside
    rw [finished_heap, spec.others timer outside]
    exact live

/-- What is known of the calls and ids outlasts a step of the queue. -/
theorem Ordered.queue {a : TimerQueue.Act} (ordered : Ordered s) (sound : Sound s.queue)
    (waits : ∀ call ∈ s.adding, call.queued = false → call.timer ∈ s.queue.unadded)
    (effect : Effect s.queue a q') : Ordered { s with queue := q' } where
  calls := by
    intro call member
    obtain ⟨old, live⟩ := ordered.calls call member
    refine ⟨Nat.le_trans old (numCreated_mono effect), fun new => ?_⟩
    obtain ⟨object, stored, own⟩ := live new
    exact ⟨object, waiting_stays sound effect (waits call member new) stored, own⟩
  distinct := ordered.distinct
  ids := by
    intro id member
    obtain ⟨old, past, own⟩ := ordered.ids id member
    refine ⟨Nat.le_trans old (numCreated_mono effect), past, fun timer object live same => ?_⟩
    rcases heap_back sound effect live with ⟨before, stored, equal⟩ | new
    · exact own timer before stored (equal.trans same)
    · omega
  cancels := ordered.cancels
  behind := by
    refine ordered.behind.imp_of_mem ?_
    intro first second member _ apart timer sequence timer' object canceling adding live
    rcases heap_back sound effect live with ⟨before, stored, equal⟩ | new
    · exact equal ▸ apart timer sequence timer' before canceling adding stored
    · have old := (ordered.ids _ (ordered.cancels timer sequence (canceling ▸ member))).old
      dsimp only at old
      omega

/-- A step of the queue that leaves the functors and the calls alone. -/
theorem Ordered.onQueue {a : TimerQueue.Act} (ordered : Ordered s) (base : Base s)
    (allowed : s.queue.Enabled a) (stepped : s.onQueue a = .ok s') : Ordered s' := by
  obtain ⟨q', returned, _, _, _, _, effect⟩ := onQueue_ok base.sound base.accounted allowed
  rw [stepped] at returned
  cases returned
  exact ordered.queue base.sound (fun _ => base.constructed_waits) effect

/-- The functors that have run, or are to run, in another order of the same two lists. -/
theorem Ordered.sublist (ordered : Ordered s) {functors pending : List TimerFunctor}
    (fewer : (functors ++ pending).Sublist (s.functors ++ s.pendingFunctors)) :
    Ordered { s with functors := functors, pendingFunctors := pending } where
  calls := ordered.calls
  distinct := ordered.distinct
  ids := fun id member =>
    have genuine := ordered.ids id member
    ⟨genuine.old, genuine.past, genuine.own⟩
  cancels := fun timer sequence member => ordered.cancels timer sequence (fewer.subset member)
  behind := ordered.behind.sublist fewer

/-- The addition of a new timer comes before any cancel of it. -/
theorem Ordered.newTimer (ordered : Ordered s) (base : Base s) {timer : Nat} {time : Timestamp}
    {interval : Int} {repeats : Bool}
    (allowed : s.queue.Enabled (.newTimer timer time interval repeats)) :
    Ordered { s with
      queue := s.queue.newTimer timer time interval repeats
      adding := s.adding ++ [⟨timer, s.queue.numCreated + 1, false⟩] } := by
  have constructed := ordered.queue base.sound (fun _ => base.constructed_waits)
    (@Effect.created _ timer time interval repeats allowed.1)
  refine ⟨?_, ?_, ?_, constructed.cancels, constructed.behind⟩
  · intro call member
    rcases List.mem_append.mp member with old | new
    · exact constructed.calls call old
    · cases List.mem_singleton.mp new
      exact ⟨Nat.le_refl _, fun _ => ⟨_, Function.update_self _ _ _, rfl⟩⟩
  · rw [List.map_append, List.nodup_append]
    refine ⟨ordered.distinct, by simp, ?_⟩
    intro sequence old sequence' new same
    obtain ⟨call, member, rfl⟩ := List.mem_map.mp old
    have fresh : sequence' = s.queue.numCreated + 1 := by simpa using new
    have known := (ordered.calls call member).1
    omega
  · intro id member
    obtain ⟨old, past, own⟩ := constructed.ids id member
    refine ⟨old, fun call listed new => ?_, own⟩
    rcases List.mem_append.mp listed with before | now
    · exact past call before new
    · cases List.mem_singleton.mp now
      have known := (ordered.ids id member).old
      dsimp only
      omega

theorem Ordered.addTimer (ordered : Ordered s) (base : Base s) {timer : Nat} {time : Timestamp}
    {interval : Int} {repeats : Bool}
    (allowed : s.queue.Enabled (.newTimer timer time interval repeats)) (turn : s.queue.UserTurn)
    (stepped : s.addTimer timer time interval repeats = .ok s') : Ordered s' := by
  obtain ⟨q, constructed, sound, accounted, _, unadded, effect⟩ :=
    onQueue_ok base.sound base.accounted allowed
  have ready : q.Enabled (.addTimerInLoop timer) := by
    refine ⟨by rw [unadded]; exact List.mem_append_right _ List.mem_cons_self, ?_⟩
    cases effect
    exact turn
  obtain ⟨q', added, sound', _, _, _, effect'⟩ :=
    @onQueue_ok { s with queue := q } _ sound accounted ready
  rw [TimerLoop.addTimer, constructed, ok_bind, added] at stepped
  cases stepped
  have first := ordered.queue base.sound (fun _ => base.constructed_waits) effect
  have second := first.queue sound (fun call member new => by
    rw [unadded]
    exact List.mem_append_left _ (base.constructed_waits member new)) effect'
  refine ⟨second.calls, second.distinct, ?_, ?_, second.behind⟩
  · intro id member
    rcases List.mem_append.mp member with old | new
    · have genuine := second.ids id old
      exact ⟨genuine.old, genuine.past, genuine.own⟩
    · cases List.mem_singleton.mp new
      cases effect with
      | created free =>
        have live : q'.heap timer =
            some ⟨time, interval, repeats, s.queue.numCreated + 1⟩ :=
          waiting_stays sound effect' ready.1 (Function.update_self _ _ _)
        refine ⟨numCreated_mono effect', ?_, fun p object stored same => ?_⟩
        · intro call listed _ same
          have known := (ordered.calls call listed).1
          dsimp only at same
          omega
        · exact sound'.consistent.distinct stored live same
  · intro p sequence member
    exact List.mem_append_left _ (second.cancels p sequence member)

theorem Ordered.queueAdd (ordered : Ordered s) {index : Nat} (allowed : s.Enabled (.queueAdd index))
    (stepped : s.step (.queueAdd index) = .ok s') : Ordered s' := by
  have new : s.queuedIs index false = true := allowed
  unfold TimerLoop.queuedIs at new
  split at new
  · cases new
  next call found =>
    have new : call.queued = false := by simpa using new
    have member := List.mem_of_getElem? found
    simp only [TimerLoop.step, found] at stepped
    cases stepped
    refine ⟨?_, ?_, ?_, ?_, ?_⟩
    · intro other listed
      rcases List.mem_or_eq_of_mem_set listed with old | rfl
      · exact ordered.calls other old
      · exact ⟨(ordered.calls call member).1, fun queued => by cases queued⟩
    · have same : (s.adding.set index { call with queued := true }).map Adding.sequence =
          s.adding.map Adding.sequence := by
        obtain ⟨inside, at_index⟩ := List.getElem?_eq_some_iff.mp found
        rw [List.map_set]
        refine List.ext_getElem? fun j => ?_
        rw [List.getElem?_set]
        split
        next equal =>
          subst equal
          simp [inside, at_index]
        next => rfl
      rw [same]
      exact ordered.distinct
    · intro id listed
      have genuine := ordered.ids id listed
      refine ⟨genuine.old, fun other inside fresh => ?_, genuine.own⟩
      rcases List.mem_or_eq_of_mem_set inside with old | rfl
      · exact genuine.past other old fresh
      · cases fresh
    · intro timer sequence listed
      rw [← List.append_assoc, List.mem_append] at listed
      exact ordered.cancels timer sequence (listed.resolve_right (by simp))
    · rw [← List.append_assoc, List.pairwise_append]
      refine ⟨ordered.behind, List.pairwise_singleton _ _, ?_⟩
      intro first listed second adds timer sequence timer' object canceling adding live same
      cases List.mem_singleton.mp adds
      cases adding
      -- the thread that queues this timer has not returned its id yet
      obtain ⟨own, stored, equal⟩ := (ordered.calls call member).2 new
      rw [stored] at live
      cases live
      have past := (ordered.ids _ (ordered.cancels timer sequence (canceling ▸ listed))).past
      exact past call member new (equal.symm.trans same)

theorem Ordered.returnId (ordered : Ordered s) (base : Base s) {index : Nat}
    (allowed : s.Enabled (.returnId index)) (orderly : Orderly s (.returnId index))
    (stepped : s.step (.returnId index) = .ok s') : Ordered s' := by
  rcases returnId_ok allowed with ⟨_, failed⟩ | ⟨call, object, found, old, live, returned⟩
  · rw [stepped] at failed
    cases failed
  · rw [stepped] at returned
    cases returned
    obtain ⟨own, stored, equal⟩ := orderly call found
    rw [live] at stored
    cases stored
    have member := List.mem_of_getElem? found
    have fewer := List.eraseIdx_sublist s.adding index
    refine ⟨fun other listed => ordered.calls other (fewer.subset listed),
      ordered.distinct.sublist (fewer.map _), ?_, ?_, ordered.behind⟩
    · intro id listed
      rcases List.mem_append.mp listed with before | now
      · have genuine := ordered.ids id before
        exact ⟨genuine.old, fun other inside => genuine.past other (fewer.subset inside),
          genuine.own⟩
      · cases List.mem_singleton.mp now
        refine ⟨equal ▸ (ordered.calls call member).1, fun other inside fresh same => ?_,
          fun p found' stored same => ?_⟩
        · have one := List.inj_on_of_nodup_map ordered.distinct (fewer.subset inside) member
            (same.trans equal)
          rw [one, old] at fresh
          cases fresh
        · exact base.sound.consistent.distinct stored live same
    · intro timer sequence listed
      exact List.mem_append_left _ (ordered.cancels timer sequence listed)

theorem Ordered.runFunctor (ordered : Ordered s) (base : Base s) (allowed : s.Enabled .runFunctor)
    (stepped : s.step .runFunctor = .ok s') : Ordered s' := by
  obtain ⟨idle, some⟩ := allowed
  have turn : s.queue.UserTurn := by simp [TimerQueue.UserTurn, idle]
  cases front : s.functors with
  | nil => exact absurd front some
  | cons functor rest =>
    have popped : Ordered { s with functors := rest } := by
      refine @Ordered.sublist s ordered rest s.pendingFunctors ?_
      rw [front]
      exact List.sublist_cons_self _ _
    simp only [TimerLoop.step, front] at stepped
    obtain ⟨a, ready, moved⟩ : ∃ a, s.queue.Enabled a ∧
        ({ s with functors := rest } : TimerLoop).onQueue a = .ok s' := by
      cases functor with
      | addTimerInLoop timer =>
        refine ⟨.addTimerInLoop timer, ⟨List.count_pos_iff.mp ?_, turn⟩, stepped⟩
        have here := base.waiting timer
        rw [front] at here
        simp only [queuedIn, List.cons_append, List.filterMap_cons, added?, List.count_cons_self]
          at here
        omega
      | cancelInLoop timer sequence => exact ⟨.cancelInLoop timer sequence, turn, stepped⟩
    obtain ⟨q', returned, _, _, _, _, effect⟩ :=
      @onQueue_ok { s with functors := rest } a base.sound base.accounted ready
    rw [moved] at returned
    cases returned
    exact popped.queue base.sound (fun _ => base.constructed_waits) effect

theorem step_ordered {a : TimerLoop.Act} (ordered : Ordered s) (base : Base s)
    (allowed : s.Enabled a) (orderly : Orderly s a) (stepped : s.step a = .ok s') : Ordered s' := by
  cases a with
  | addTimer timer time interval repeats => exact ordered.addTimer base allowed.1 allowed.2 stepped
  | newTimer timer time interval repeats =>
    cases stepped
    exact ordered.newTimer base allowed
  | queueAdd index => exact ordered.queueAdd allowed stepped
  | returnId index => exact ordered.returnId base allowed orderly stepped
  | cancel inLoopThread timer sequence =>
    cases inLoopThread with
    | true =>
      exact ordered.onQueue (a := .cancelInLoop timer sequence) base (allowed.2 rfl) stepped
    | false =>
      cases stepped
      refine ⟨ordered.calls, ordered.distinct, ?_, ?_, ?_⟩
      · intro id listed
        have genuine := ordered.ids id listed
        exact ⟨genuine.old, genuine.past, genuine.own⟩
      · intro p other listed
        rw [← List.append_assoc, List.mem_append] at listed
        rcases listed with before | now
        · exact ordered.cancels p other before
        · cases List.mem_singleton.mp now
          exact allowed.1
      · rw [← List.append_assoc, List.pairwise_append]
        refine ⟨ordered.behind, List.pairwise_singleton _ _, ?_⟩
        intro first _ second cancels timer' sequence' timer'' object _ adding
        cases List.mem_singleton.mp cancels
        cases adding
  | doPendingFunctors =>
    cases stepped
    refine @Ordered.sublist s ordered s.pendingFunctors [] ?_
    rw [List.append_nil]
    exact List.sublist_append_right _ _
  | runFunctor => exact ordered.runFunctor base allowed stepped
  | fdFires => exact ordered.onQueue (a := .fdFires) base allowed stepped
  | beginRead now => exact ordered.onQueue (a := .beginRead now) base allowed.1 stepped
  | runNext => exact ordered.onQueue (a := .runNext) base allowed stepped
  | endRead => exact ordered.onQueue (a := .endRead) base allowed stepped

theorem ordered_start : Ordered .start := by
  refine ⟨?_, ?_, ?_, ?_, ?_⟩
  all_goals simp [TimerLoop.start]

theorem run_ordered {actions : List TimerLoop.Act}
    (run : (TimerLoop.machine.restrict Orderly).Run .start actions s) : Base s ∧ Ordered s := by
  refine @Machine.Run.invariant _ _ _ (TimerLoop.machine.restrict Orderly)
    (fun s => Base s ∧ Ordered s) _ _ _ ?_ ⟨base_start, ordered_start⟩ run
  rintro s a s' ⟨base, ordered⟩ ⟨allowed, orderly⟩ stepped
  exact ⟨(step_base base allowed stepped).1, step_ordered ordered base allowed orderly stepped⟩

/-! ## Cancelled timers -/

/-- The step runs `cancelInLoop` with this id. -/
def Cancels (s : TimerLoop) (timer sequence : Nat) : TimerLoop.Act → Prop
  | .cancel true timer' sequence' => timer' = timer ∧ sequence' = sequence
  | .runFunctor => s.functors.head? = some (.cancelInLoop timer sequence)
  | _ => False

/-- When `cancelInLoop` runs, no timer that waits to be added has the id, and no other timer. -/
theorem cancels_known {a : TimerLoop.Act} {timer sequence : Nat} (base : Base s)
    (ordered : Ordered s) (allowed : s.Enabled a) (orderly : Orderly s a)
    (cancels : Cancels s timer sequence a) : Genuine s (timer, sequence) ∧
      ∀ p ∈ s.queue.unadded, ∀ object, s.queue.heap p = some object →
        object.sequence ≠ sequence := by
  cases a with
  | cancel inLoopThread timer' sequence' =>
    cases inLoopThread with
    | false => exact absurd cancels id
    | true =>
      obtain ⟨rfl, rfl⟩ := cancels
      exact ⟨ordered.ids _ allowed.1, fun p waiting object live => orderly p waiting object live⟩
  | runFunctor =>
    obtain ⟨rest, front⟩ : ∃ rest, s.functors = .cancelInLoop timer sequence :: rest := by
      cases functors : s.functors with
      | nil => simp [Cancels, functors] at cancels
      | cons functor rest =>
        have head : functor = .cancelInLoop timer sequence := by
          simpa [Cancels, functors] using cancels
        exact ⟨rest, by rw [head]⟩
    have genuine := ordered.ids _ (ordered.cancels timer sequence (by simp [front]))
    refine ⟨genuine, fun p waiting object live => ?_⟩
    have counted := base.waiting p
    have positive := List.count_pos_iff.mpr waiting
    by_cases inside : p ∈ constructed s.adding
    · obtain ⟨call, listed, rfl⟩ := List.mem_map.mp inside
      obtain ⟨member, new⟩ := List.mem_filter.mp listed
      have new : call.queued = false := by simpa using new
      obtain ⟨own, stored, equal⟩ := (ordered.calls call member).2 new
      rw [stored] at live
      cases live
      exact fun same => genuine.past call member new (equal.symm.trans same)
    · have queued : p ∈ queuedIn (s.functors ++ s.pendingFunctors) := by
        rw [List.count_eq_zero.mpr inside] at counted
        exact List.count_pos_iff.mp (by omega)
      obtain ⟨functor, listed, adds⟩ := List.mem_filterMap.mp queued
      cases functor with
      | cancelInLoop _ _ => cases adds
      | addTimerInLoop p' =>
        cases adds
        have behind := ordered.behind
        rw [front, List.cons_append, List.pairwise_cons] at behind
        rw [front, List.cons_append, List.mem_cons] at listed
        rcases listed with clash | later
        · cases clash
        · exact behind.1 _ later timer sequence p object rfl rfl live
  | addTimer _ _ _ _ | newTimer _ _ _ _ | queueAdd _ | returnId _ | doPendingFunctors | fdFires
  | beginRead _ | runNext | endRead => exact absurd cancels id

/-- After `cancelInLoop` the timer is gone, or about to be dropped at the end of the batch. -/
theorem cancelled_silent {timer sequence : Nat} (accounted : Accounted q)
    (own : ∀ p object, q.heap p = some object → object.sequence = sequence → p = timer)
    (known : ∀ p ∈ q.unadded, ∀ object, q.heap p = some object → object.sequence ≠ sequence)
    (effect : Effect q (.cancelInLoop timer sequence) q') :
    Silenced q' sequence ∧ (q.batch = none → Dead q' sequence) := by
  have silenced_of_dead (dead : Dead q' sequence) : Silenced q' sequence :=
    fun p object live same => absurd same (dead p object live)
  cases effect with
  | @cancelled _ object live active =>
    have dead : Dead ((q.dropped timer object).record (.cancelled object.sequence))
        object.sequence := by
      intro p found stored same
      by_cases here : p = timer
      · simp [record, dropped, delete, here] at stored
      · exact here (own p found (by simpa [record, dropped, delete, here] using stored) same)
    exact ⟨silenced_of_dead dead, fun _ => dead⟩
  | deferred inactive calling =>
    refine ⟨fun p found stored same => ?_, fun idle => by simp [idle] at calling⟩
    obtain rfl := own p found stored same
    rcases accounted p found stored with waiting | active | flying
    · exact absurd same (known p waiting found stored)
    · exact absurd (same ▸ active) inactive
    · exact ⟨flying, OrderedSet.mem_insert.mpr (.inl rfl)⟩
  | ignored inactive idle =>
    have dead : Dead q sequence := by
      intro p found stored same
      obtain rfl := own p found stored same
      rcases accounted p found stored with waiting | active | flying
      · exact known p waiting found stored same
      · exact inactive (same ▸ active)
      · rw [inFlight_idle idle] at flying
        cases flying
    exact ⟨silenced_of_dead dead, fun _ => dead⟩

/-- A step that runs `cancelInLoop` is that step of the queue. -/
theorem cancels_effect {a : TimerLoop.Act} {timer sequence : Nat} (base : Base s)
    (allowed : s.Enabled a) (cancels : Cancels s timer sequence a) (stepped : s.step a = .ok s') :
    Effect s.queue (.cancelInLoop timer sequence) s'.queue := by
  cases a with
  | cancel inLoopThread timer' sequence' =>
    cases inLoopThread with
    | false => exact absurd cancels id
    | true =>
      obtain ⟨rfl, rfl⟩ := cancels
      obtain ⟨q', returned, _, _, _, _, effect⟩ :=
        @onQueue_ok s (.cancelInLoop timer' sequence') base.sound base.accounted (allowed.2 rfl)
      simp only [TimerLoop.step] at stepped
      rw [stepped] at returned
      cases returned
      exact effect
  | runFunctor =>
    obtain ⟨idle, _⟩ := allowed
    have turn : s.queue.UserTurn := by simp [TimerQueue.UserTurn, idle]
    cases front : s.functors with
    | nil => simp [Cancels, front] at cancels
    | cons functor rest =>
      have head : functor = .cancelInLoop timer sequence := by simpa [Cancels, front] using cancels
      subst head
      obtain ⟨q', returned, _, _, _, _, effect⟩ :=
        @onQueue_ok { s with functors := rest } (.cancelInLoop timer sequence) base.sound
          base.accounted turn
      simp only [TimerLoop.step, front, TimerLoop.runFunctor] at stepped
      rw [stepped] at returned
      cases returned
      exact effect
  | addTimer _ _ _ _ | newTimer _ _ _ _ | queueAdd _ | returnId _ | doPendingFunctors | fdFires
  | beginRead _ | runNext | endRead => exact absurd cancels id

/-- In an orderly run, once `cancelInLoop` has run for an id, then whatever happens later the
callback of that timer is not invoked after the end of a batch, and not at all if no batch was
being run. -/
theorem cancel_final {past later : List TimerLoop.Act} {a : TimerLoop.Act} {timer sequence : Nat}
    {t : TimerLoop} (before : (TimerLoop.machine.restrict Orderly).Run .start past s)
    (allowed : s.Enabled a) (orderly : Orderly s a) (cancels : Cancels s timer sequence a)
    (stepped : s.step a = .ok s') (after : TimerLoop.machine.Run s' later t) :
    ∃ events, t.queue.history = s'.queue.history ++ events ∧
      ¬ [.batchEnd, .ran sequence].Sublist events ∧
      (s.queue.batch = none → .ran sequence ∉ events) := by
  obtain ⟨base, ordered⟩ := run_ordered before
  obtain ⟨genuine, known⟩ := cancels_known base ordered allowed orderly cancels
  have effect := cancels_effect base allowed cancels stepped
  obtain ⟨silenced, dead⟩ := cancelled_silent base.accounted genuine.own known effect
  obtain ⟨base', _⟩ := step_base base allowed stepped
  have start : Hushed sequence s'.queue.history (s.queue.batch = none) s'.queue := by
    refine ⟨base'.sound, Nat.le_trans genuine.old (numCreated_mono effect), silenced, dead, [], ?_⟩
    simp
  obtain ⟨_, steps, run⟩ := run_base base' after
  obtain ⟨events, history, unheard, _, never⟩ := (start.run run).later
  exact ⟨events, history, unheard, never⟩

/-- A repeating timer has run once when the `cancel` of another thread reaches the queue. -/
def cancelledOnce : List TimerLoop.Act :=
  [.newTimer 8 5 1 true, .queueAdd 0, .returnId 0, .doPendingFunctors, .runFunctor, .fdFires,
    .beginRead 10, .cancel false 8 1, .runNext, .endRead, .doPendingFunctors]

theorem cancel_final_repeating : ∃ s s' t,
    (TimerLoop.machine.restrict Orderly).Run .start cancelledOnce s ∧
    s.step .runFunctor = .ok s' ∧ TimerLoop.machine.Run s' [.beginRead 3000, .endRead] t ∧
    .ran 1 ∈ s.queue.history ∧
    ∃ events, t.queue.history = s'.queue.history ++ events ∧ .ran 1 ∉ events := by
  obtain ⟨s, run, passes⟩ := (TimerLoop.machine.restrict Orderly).exists_run_of_exec .start
    cancelledOnce (fun s => decide (s.Enabled .runFunctor ∧
      s.functors.head? = some (.cancelInLoop 8 1) ∧ s.queue.batch = none ∧
      .ran 1 ∈ s.queue.history) && (match s.step .runFunctor with
        | .ok s' => (TimerLoop.machine.exec s' [.beginRead 3000, .endRead]).isSome
        | .error _ => false)) (by decide +kernel)
  rw [Bool.and_eq_true] at passes
  obtain ⟨allowed, front, idle, ran⟩ := of_decide_eq_true passes.1
  have goes := passes.2
  cases stepped : s.step .runFunctor with
  | error reason => simp [stepped] at goes
  | ok s' =>
    simp only [stepped] at goes
    obtain ⟨t, executed⟩ := Option.isSome_iff_exists.mp goes
    have after := Machine.run_of_exec executed
    obtain ⟨events, history, _, never⟩ :=
      cancel_final run allowed trivial (show Cancels s 8 1 .runFunctor from front) stepped after
    exact ⟨s, s', t, run, stepped, after, ran, events, history, never idle⟩

/-- The loop thread cancels a timer that another thread has added but the loop has not: the
cancel finds nothing, and the callback is invoked later. -/
example : (TimerLoop.machine.exec .start [.newTimer 8 5 0 false, .queueAdd 0, .returnId 0,
    .cancel true 8 1, .doPendingFunctors, .runFunctor, .fdFires, .beginRead 10, .runNext]).any
    (fun s => s.queue.history.contains (.ran 1)) = true := by decide +kernel

end Starry.Guarantees.TimerCancels
