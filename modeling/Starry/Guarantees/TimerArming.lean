import Starry.Source.TimerQueueSpec

/-!
# The timerfd is armed for the earliest timer

`nextExpire` of `reset` is default-constructed, which is the epoch, and is compared with
`Timestamp::min()`; so when a batch leaves no timer, `reset` arms the timerfd for the epoch
(`armed_without_timers`). In every run in which each batch leaves a timer and the clock never
reads `Timestamp::min()`, the timerfd is armed in time, and only for queued timers.

Besides the last time the timerfd was armed for, the results speak of `pending`: a time that
was armed before the last expiry says nothing about the next one.
-/
namespace Starry.Guarantees.TimerArming

open Starry.Foundation
open Starry.Source
open Starry.Source.TimerQueue

structure ArmedInTime (q : TimerQueue) : Prop where
  early : q.timers.elements ≠ [] →
    (∃ time, q.lastArmed = some time ∧ ∀ e ∈ q.timers, time ≤ e.time) ∨ q.readable = true
  /-- Outside `handleRead` the timerfd is going to fire, or has fired. -/
  awaited : q.batch = none → q.timers.elements ≠ [] → q.pending = true ∨ q.readable = true
  /-- `resetTimerfd` is only called with the expiration of a timer in `timers_`. -/
  honest : ∀ time queued, .armed time queued ∈ q.history → time ∈ queued

/-- A timer is queued when `reset` has dealt with the batch. -/
def leavesTimer (q : TimerQueue) : Bool :=
  !q.timers.elements.isEmpty || match q.batch with
    | none => false
    | some b => b.expired.any fun e =>
      match q.heap e.timer with
      | none => false
      | some object => decide (q.Kept e.timer object)

def Careful (q : TimerQueue) : Act → Prop
  | .endRead => leavesTimer q = true
  | .beginRead now => Timestamp.min < now
  | _ => True

instance (q : TimerQueue) (a : Act) : Decidable (Careful q a) :=
  match a with
  | .endRead => inferInstanceAs (Decidable (leavesTimer q = true))
  | .beginRead now => Int.decLt Timestamp.min now
  | .newTimer _ _ _ _ | .addTimerInLoop _ | .cancelInLoop _ _ | .fdFires | .runNext =>
    isTrue trivial

structure Timely (q : TimerQueue) : Prop where
  last : q.timers.elements ≠ [] → ∃ time, q.lastArmed = some time ∧ ∀ e ∈ q.timers, time ≤ e.time
  awaited : q.batch = none → q.timers.elements ≠ [] → q.pending = true ∨ q.readable = true
  /-- A timer that a callback added is not due unnoticed. -/
  noticed : ∀ b, q.batch = some b → ∀ e ∈ q.timers, e.time ≤ b.now →
    q.pending = true ∨ q.readable = true
  clock : ∀ b, q.batch = some b → Timestamp.min < b.now
  honest : ∀ time queued, .armed time queued ∈ q.history → time ∈ queued

theorem timely_empty : Timely empty := by
  refine ⟨?_, ?_, ?_, ?_, ?_⟩
  all_goals simp [empty, OrderedSet.empty]

variable {q q' : TimerQueue}

theorem nonempty_iff {s : OrderedSet Entry} : s.elements ≠ [] ↔ ∃ e, e ∈ s := by
  constructor
  · exact List.exists_mem_of_ne_nil _
  · rintro ⟨e, member⟩
    exact List.ne_nil_of_mem member

/-- A timer that is not the earliest comes behind another. -/
theorem earliest_false {time : Timestamp} (later : q.earliest time = false) :
    ∃ first ∈ q.timers, first.time ≤ time := by
  unfold earliest at later
  cases first : q.timers.first? with
  | none => simp [first] at later
  | some e =>
    refine ⟨e, (OrderedSet.first?_eq_some first).1, ?_⟩
    simpa [first] using later

theorem earliest_true {time : Timestamp} (first : q.earliest time = true) :
    ∀ e ∈ q.timers, time ≤ e.time := by
  intro e member
  unfold earliest at first
  cases least : q.timers.first? with
  | none => exact absurd member (OrderedSet.first?_eq_none.mp least e)
  | some e' =>
    have earlier : time < e'.time := by simpa [least] using first
    exact earlier.le.trans (time_mono ((OrderedSet.first?_eq_some least).2 e member))

namespace Timely

/-- Fewer timers, and events other than `armed`, in the same batch. -/
theorem fewer (timely : Timely q) (subset : ∀ e ∈ q'.timers, e ∈ q.timers)
    (batch : q'.batch = q.batch) (armed : q'.lastArmed = q.lastArmed)
    (awaited : q.pending = true ∨ q.readable = true → q'.pending = true ∨ q'.readable = true)
    (history : ∀ time queued, .armed time queued ∈ q'.history → .armed time queued ∈ q.history) :
    Timely q' := by
  have more : q'.timers.elements ≠ [] → q.timers.elements ≠ [] := by
    intro queued
    obtain ⟨e, member⟩ := nonempty_iff.mp queued
    exact nonempty_iff.mpr ⟨e, subset e member⟩
  refine ⟨?_, ?_, ?_, ?_, fun time queued member => timely.honest time queued (history _ _ member)⟩
  · intro queued
    obtain ⟨time, same, bound⟩ := timely.last (more queued)
    exact ⟨time, armed.trans same, fun e member => bound e (subset e member)⟩
  · intro idle queued
    exact awaited (timely.awaited (batch ▸ idle) (more queued))
  · intro b running e member due
    exact awaited (timely.noticed b (batch ▸ running) e (subset e member) due)
  · intro b running
    exact timely.clock b (batch ▸ running)

/-- A timer that is not the first one is covered by the first one. -/
theorem added (timely : Timely q) {timer : Nat} {object : Timer}
    (later : q.earliest object.expiration = false) : Timely (q.added timer object) := by
  obtain ⟨first, queued, bound⟩ := earliest_false later
  have nonempty := nonempty_iff.mpr ⟨first, queued⟩
  refine ⟨?_, fun idle _ => timely.awaited idle nonempty, ?_, timely.clock, timely.honest⟩
  · intro _
    obtain ⟨time, armed, least⟩ := timely.last nonempty
    refine ⟨time, armed, ?_⟩
    intro e member
    rcases OrderedSet.mem_insert.mp member with rfl | old
    · exact (least first queued).trans bound
    · exact least e old
  · intro b running e member due
    rcases OrderedSet.mem_insert.mp member with rfl | old
    · exact timely.noticed b running first queued (bound.trans due)
    · exact timely.noticed b running e old due

/-- Arming for the first of the timers. -/
theorem resetTimerfd {time : Timestamp} (clock : ∀ b, q.batch = some b → Timestamp.min < b.now)
    (honest : ∀ time queued, .armed time queued ∈ q.history → time ∈ queued)
    (least : ∀ e ∈ q.timers, time ≤ e.time) (queued : ∃ e ∈ q.timers, e.time = time) :
    Timely (q.resetTimerfd time) := by
  refine ⟨fun _ => ⟨time, rfl, least⟩, fun _ _ => .inl rfl, fun _ _ _ _ _ => .inl rfl, clock, ?_⟩
  intro time' queued' member
  rcases List.mem_append.mp member with old | new
  · exact honest time' queued' old
  · cases List.mem_singleton.mp new
    obtain ⟨e, listed, rfl⟩ := queued
    exact List.mem_map_of_mem listed

theorem begun (timely : Timely q) (sound : Sound q) {now : Timestamp}
    (after : Timestamp.min < now) (active : OrderedSet ActiveTimer) :
    Timely (q.begun now active) := by
  have remaining : ∀ e ∈ (q.begun now active).timers, e ∈ q.timers ∧ now < e.time :=
    fun e member => (mem_above sound.consistent).mp member
  refine ⟨?_, fun idle => (by cases idle), ?_, ?_, ?_⟩
  · intro queued
    obtain ⟨e, member⟩ := nonempty_iff.mp queued
    obtain ⟨time, armed, least⟩ := timely.last (nonempty_iff.mpr ⟨e, (remaining e member).1⟩)
    exact ⟨time, armed, fun e' member' => least e' (remaining e' member').1⟩
  · intro b running e member due
    cases running
    exact absurd due (not_le.mpr (remaining e member).2)
  · intro b running
    cases running
    exact after
  · intro time queued member
    exact timely.honest time queued (by simpa [TimerQueue.begun] using member)

/-- What `reset` queues again expires no earlier than the batch. -/
theorem restarted (sound : Sound q) {b : Batch} {timer : Nat} {object : Timer}
    (live : q.heap timer = some object) (kept : q.Kept timer object) :
    b.now ≤ (object.restart b.now).expiration := by
  have positive := sound.consistent.intervals live kept.1
  simp only [Timer.restart, kept.1, if_true]
  exact le_add_of_nonneg_right (mul_nonneg positive (by decide))

/-- A timer is queued at the end of the batch if one is left, or one of the batch repeats. -/
theorem nonempty_of_leavesTimer {b : Batch} {settled : TimerQueue} (running : q.batch = some b)
    (spec : Settled { q with callingExpiredTimers := false } b.now b.expired settled)
    (leaves : leavesTimer q = true) : ∃ e, e ∈ settled.timers := by
  unfold leavesTimer at leaves
  rw [Bool.or_eq_true] at leaves
  rcases leaves with queued | back
  · have listed : q.timers.elements ≠ [] := by simpa using queued
    obtain ⟨e, member⟩ := nonempty_iff.mp listed
    exact ⟨e, spec.old e member⟩
  · simp only [running, List.any_eq_true] at back
    obtain ⟨e, listed, keep⟩ := back
    cases live : q.heap e.timer with
    | none => simp [live] at keep
    | some object =>
      have kept : q.Kept e.timer object := by simpa [live] using keep
      exact ⟨_, (spec.restarted e listed object live kept).2⟩

/-- A first timer that expires at the sentinel is not armed by `reset`: a callback has added
it, and it is armed already. -/
theorem noticed_sentinel (timely : Timely q) (sound : Sound q) {b : Batch} {settled : TimerQueue}
    (running : q.batch = some b)
    (spec : Settled { q with callingExpiredTimers := false } b.now b.expired settled) {e : Entry}
    (member : e ∈ settled.timers) (sentinel : e.time = Timestamp.min) :
    e ∈ q.timers ∧ (q.pending = true ∨ q.readable = true) := by
  have added : e ∈ q.timers := by
    rcases spec.new e member with old | ⟨e', listed, object, live, kept, rfl⟩
    · exact old
    · have late := restarted (b := b) sound live kept
      rw [time_of] at sentinel
      rw [sentinel] at late
      exact absurd late (not_le.mpr (timely.clock b running))
  refine ⟨added, timely.noticed b running e added ?_⟩
  rw [sentinel]
  exact (timely.clock b running).le

theorem rearmed (timely : Timely q) (sound : Sound q) {b : Batch} {settled : TimerQueue}
    (running : q.batch = some b)
    (spec : Settled { q with callingExpiredTimers := false } b.now b.expired settled) {e : Entry}
    (first : settled.timers.first? = some e) : Timely settled.rearmed ∧
      (settled.rearmed.pending = true ∨ settled.rearmed.readable = true) := by
  obtain ⟨member, least⟩ := OrderedSet.first?_eq_some first
  have last : ∀ e' ∈ settled.timers, e.time ≤ e'.time := fun e' member' =>
    time_mono (least e' member')
  have honest : ∀ time queued, .armed time queued ∈ settled.history → time ∈ queued := by
    rw [spec.frame]
    exact timely.honest
  have clock : ∀ b, settled.batch = some b → Timestamp.min < b.now := by
    rw [spec.frame]
    exact timely.clock
  have next : settled.nextExpire = e.time := by simp only [nextExpire, first]
  unfold TimerQueue.rearmed
  rw [next]
  by_cases sentinel : e.time = Timestamp.min
  · rw [if_neg (not_not.mpr sentinel)]
    obtain ⟨added, noticed⟩ := timely.noticed_sentinel sound running spec member sentinel
    have fires : settled.pending = true ∨ settled.readable = true := by
      rw [spec.frame]
      exact noticed
    refine ⟨⟨?_, fun _ _ => fires, fun _ _ _ _ _ => fires, clock, honest⟩, fires⟩
    intro _
    obtain ⟨time, same, bound⟩ := timely.last (nonempty_iff.mpr ⟨e, added⟩)
    refine ⟨time, by rw [spec.frame]; exact same, ?_⟩
    intro e' member'
    exact (bound e added).trans (last e' member')
  · rw [if_pos sentinel]
    exact ⟨resetTimerfd clock honest last ⟨e, member, rfl⟩, .inl rfl⟩

theorem ended (timely : Timely q) (sound : Sound q) {b : Batch} {settled : TimerQueue}
    (running : q.batch = some b)
    (spec : Settled { q with callingExpiredTimers := false } b.now b.expired settled)
    (leaves : leavesTimer q = true) : Timely settled.finished := by
  obtain ⟨e', member⟩ := nonempty_of_leavesTimer running spec leaves
  cases first : settled.timers.first? with
  | none => exact absurd member (OrderedSet.first?_eq_none.mp first e')
  | some e =>
    obtain ⟨armed, fires⟩ := timely.rearmed sound running spec first
    refine ⟨armed.last, fun _ _ => fires, fun b' idle => (by cases idle),
      fun b' idle => (by cases idle), ?_⟩
    intro time queued listed
    exact armed.honest time queued (by simpa [finished] using listed)

theorem effect {a : Act} (timely : Timely q) (sound : Sound q) (careful : Careful q a)
    (effect : Effect q a q') : Timely q' := by
  cases effect with
  | created free =>
    refine timely.fewer (fun _ member => member) rfl rfl id ?_
    intro time queued member
    simpa [newTimer] using member
  | added _ _ later => exact timely.added later
  | @armed timer object _ _ first =>
    refine resetTimerfd timely.clock timely.honest ?_ ?_
    · intro e member
      rcases OrderedSet.mem_insert.mp member with rfl | old
      · exact le_refl _
      · exact earliest_true first e old
    · exact ⟨_, OrderedSet.mem_insert.mpr (.inl rfl), rfl⟩
  | cancelled live active =>
    refine timely.fewer ?_ rfl rfl id ?_
    · intro e member
      exact (OrderedSet.mem_erase.mp member).1
    · intro time queued member
      simpa [record, dropped, delete] using member
  | @deferred timer sequence =>
    refine timely.fewer (fun _ member => member) rfl rfl id ?_
    intro time queued member
    rcases List.mem_append.mp member with old | new
    · exact old
    · split at new
      · cases List.mem_singleton.mp new
      · cases new
  | ignored => exact timely
  | fired =>
    exact timely.fewer (fun _ member => member) rfl rfl (fun _ => .inr rfl) fun _ _ member => member
  | begun idle => exact timely.begun sound careful _
  | @ran b e object running next live =>
    refine ⟨timely.last, fun idle => (by cases idle), ?_, ?_, ?_⟩
    · intro b' same
      cases same
      exact timely.noticed b running
    · intro b' same
      cases same
      exact timely.clock b running
    · intro time queued member
      exact timely.honest time queued (by simpa [invoked] using member)
  | ended running complete spec => exact timely.ended sound running spec careful

end Timely

theorem step_timely (q : TimerQueue) (a : Act) (q' : TimerQueue) (before : Sound q ∧ Timely q)
    (allowed : (machine.restrict Careful).enabled q a)
    (stepped : (machine.restrict Careful).step q a = .ok q') : Sound q' ∧ Timely q' := by
  obtain ⟨sound, timely⟩ := before
  obtain ⟨sound', effect⟩ := effect_of_ok sound allowed.1 stepped
  exact ⟨sound', timely.effect sound allowed.2 effect⟩

/-- In every run whose batches leave a timer, the timerfd is armed in time. -/
theorem armed_in_time {actions : List Act} (run : (machine.restrict Careful).Run empty actions q) :
    ArmedInTime q := by
  have timely := (@Machine.Run.invariant _ _ _ _ (fun q => Sound q ∧ Timely q) _ _ _ step_timely
    ⟨sound_empty, timely_empty⟩ run).2
  exact ⟨fun nonempty => .inl (timely.last nonempty), timely.awaited, timely.honest⟩

/-- A repeating timer fires, and its callback adds a timer that is due at once. -/
theorem armed_in_time_repeating : ∃ q, (machine.restrict Careful).Run empty
      [.newTimer 8 5 1 true, .addTimerInLoop 8, .fdFires, .beginRead 10, .runNext,
        .newTimer 16 7 0 false, .addTimerInLoop 16, .endRead] q ∧
    decide (q.timers.elements = [Entry.of 7 16, Entry.of 1010 8] ∧ q.lastArmed = some 7) = true ∧
    ArmedInTime q := by
  obtain ⟨q, run, passes⟩ := Machine.exists_run_of_exec (M := machine.restrict Careful) empty
      [.newTimer 8 5 1 true, .addTimerInLoop 8, .fdFires, .beginRead 10, .runNext,
        .newTimer 16 7 0 false, .addTimerInLoop 16, .endRead]
      (fun q => decide (q.timers.elements = [Entry.of 7 16, Entry.of 1010 8] ∧
        q.lastArmed = some 7)) (by decide +kernel)
  exact ⟨q, run, passes, armed_in_time run⟩

/-- The only timer fires once, and `reset` arms the timerfd for the epoch. -/
theorem armed_without_timers : ∃ q, machine.Run empty
      [.newTimer 8 5 0 false, .addTimerInLoop 8, .fdFires, .beginRead 10, .runNext, .endRead] q ∧
    .armed Timestamp.epoch [] ∈ q.history ∧ ¬ ArmedInTime q := by
  obtain ⟨q, run, passes⟩ := Machine.exists_run_of_exec (M := machine) empty
      [.newTimer 8 5 0 false, .addTimerInLoop 8, .fdFires, .beginRead 10, .runNext, .endRead]
      (fun q => decide (.armed Timestamp.epoch [] ∈ q.history)) (by decide +kernel)
  have called := of_decide_eq_true passes
  refine ⟨q, run, called, fun armed => ?_⟩
  exact absurd (armed.honest Timestamp.epoch [] called) List.not_mem_nil

end Starry.Guarantees.TimerArming
