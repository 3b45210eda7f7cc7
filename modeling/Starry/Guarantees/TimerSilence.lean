import Starry.Foundation.Traces
import Starry.Source.TimerQueueSpec

/-!
# Timers that stay silent

No live timer is forgotten by the queue. So a sequence number that no live timer carries is never
invoked again, and one whose timer is deleted or barred from the next insertion is not invoked
after the batch.
-/
namespace Starry.Guarantees.TimerSilence

open Starry.Foundation
open Starry.Source
open Starry.Source.TimerQueue hiding Act

/-! ## No live timer is forgotten -/

variable {q q' : TimerQueue}

/-- Every live timer waits to be added, is in the two sets, or is in the batch. -/
def Accounted (q : TimerQueue) : Prop :=
  ∀ timer object, q.heap timer = some object → timer ∈ q.unadded ∨
    ActiveTimer.of timer object.sequence ∈ q.activeTimers ∨ timer ∈ q.inFlight.map Entry.timer

theorem finished_unadded (settled : TimerQueue) : settled.finished.unadded = settled.unadded := by
  unfold finished rearmed
  split <;> rfl

theorem finished_timers (settled : TimerQueue) : settled.finished.timers = settled.timers := by
  unfold finished rearmed
  split <;> rfl

/-- A timer that is added is in the queue. -/
theorem Accounted.added (accounted : Accounted q) {timer : Nat} {object : Timer}
    (live : q.heap timer = some object) : Accounted (q.added timer object) := by
  intro p found stored
  rcases accounted p found stored with waiting | active | running
  · by_cases same : p = timer
    · subst same
      have own : found = object := Option.some.inj (stored.symm.trans live)
      subst own
      exact .inr (.inl (OrderedSet.mem_insert.mpr (.inl rfl)))
    · exact .inl ((List.mem_erase_of_ne same).mpr waiting)
  · exact .inr (.inl (OrderedSet.mem_insert.mpr (.inr active)))
  · exact .inr (.inr running)

theorem Accounted.effect {a : TimerQueue.Act} (accounted : Accounted q) (sound : Sound q)
    (sound' : Sound q') (effect : Effect q a q') : Accounted q' := by
  cases effect with
  | @created timer time interval repeats free =>
    intro p found stored
    rcases newTimer_heap stored with ⟨rfl, _⟩ | before
    · exact .inl (by simp [newTimer])
    · rcases accounted p found before with waiting | active | running
      · exact .inl (List.mem_append_left _ waiting)
      · exact .inr (.inl active)
      · exact .inr (.inr running)
  | added live waiting later => exact accounted.added live
  | armed live waiting first => exact accounted.added live
  | @cancelled timer object live active =>
    intro p found stored
    have different : p ≠ timer := by
      rintro rfl
      simp [record, dropped, delete] at stored
    have before : q.heap p = some found := by simpa [record, dropped, delete, different] using stored
    rcases accounted p found before with waiting | listed | running
    · exact .inl waiting
    · refine .inr (.inl (OrderedSet.mem_erase.mpr ⟨listed, fun same => ?_⟩))
      exact different (active_of_inj.mp same).1
    · exact .inr (.inr running)
  | deferred inactive calling => exact accounted
  | ignored inactive idle => exact accounted
  | fired => exact accounted
  | @begun now active idle =>
    intro p found stored
    rcases accounted p found stored with waiting | listed | running
    · exact .inl waiting
    · -- an active timer is in the batch if it is due, and stays active if it is not
      have entry := (sound.consistent.active_iff stored).mp listed
      by_cases early : found.expiration ≤ now
      · refine .inr (.inr (List.mem_map.mpr ⟨_, (mem_due sound.consistent).mpr ⟨entry, early⟩, rfl⟩))
      · refine .inr (.inl ((sound'.consistent.active_iff stored).mpr ?_))
        exact (mem_above sound.consistent).mpr ⟨entry, not_le.mp early⟩
    · rw [inFlight_idle idle] at running
      cases running
  | ran running next live =>
    intro p found stored
    rcases accounted p found stored with waiting | listed | flying
    · exact .inl waiting
    · exact .inr (.inl listed)
    · rw [inFlight_running running] at flying
      exact .inr (.inr flying)
  | @ended b settled running complete spec =>
    intro p found stored
    rw [finished_heap] at stored
    have unadded : settled.finished.unadded = q.unadded := by
      rw [finished_unadded, spec.frame]
    have listed (entry : Entry.of found.expiration p ∈ settled.timers) :
        ActiveTimer.of p found.sequence ∈ settled.finished.activeTimers := by
      refine (sound'.consistent.active_iff (by rw [finished_heap]; exact stored)).mpr ?_
      rw [finished_timers]
      exact entry
    by_cases member : p ∈ b.expired.map Entry.timer
    · obtain ⟨e, expired, rfl⟩ := List.mem_map.mp member
      obtain ⟨object, live, _⟩ := sound.consistent.running e (inFlight_running running ▸ expired)
      by_cases kept : Kept { q with callingExpiredTimers := false } e.timer object
      · obtain ⟨restarted, entry⟩ := spec.restarted e expired object live kept
        rw [restarted] at stored
        cases stored
        exact .inr (.inl (listed entry))
      · rw [spec.deleted e expired object live kept] at stored
        cases stored
    · have before : q.heap p = some found := (spec.others p member).symm.trans stored
      rcases accounted p found before with waiting | active | flying
      · exact .inl (unadded ▸ waiting)
      · exact .inr (.inl (listed (spec.old _ ((sound.consistent.active_iff before).mp active))))
      · exact absurd (inFlight_running running ▸ flying) member

/-! ## Silent timers -/

/-- A timer that is live after a step was live before it, or is new. -/
theorem heap_back {a : TimerQueue.Act} (sound : Sound q) (effect : Effect q a q') {timer : Nat} {object : Timer}
    (live : q'.heap timer = some object) :
    (∃ before, q.heap timer = some before ∧ before.sequence = object.sequence) ∨
      object.sequence = q.numCreated + 1 := by
  cases effect with
  | created free =>
    rcases newTimer_heap live with ⟨_, rfl⟩ | before
    · exact .inr rfl
    · exact .inl ⟨object, before, rfl⟩
  | added _ _ _ | armed _ _ _ | deferred _ _ | ignored _ _ | fired | begun _ | ran _ _ _ =>
    exact .inl ⟨object, live, rfl⟩
  | @cancelled p _ _ _ =>
    by_cases same : timer = p
    · simp [record, dropped, delete, same] at live
    · exact .inl ⟨object, by simpa [record, dropped, delete, same] using live, rfl⟩
  | @ended b settled running complete spec =>
    rw [finished_heap] at live
    by_cases member : timer ∈ b.expired.map Entry.timer
    · obtain ⟨e, expired, rfl⟩ := List.mem_map.mp member
      obtain ⟨found, before, _⟩ := sound.consistent.running e (inFlight_running running ▸ expired)
      by_cases kept : Kept { q with callingExpiredTimers := false } e.timer found
      · obtain ⟨restarted, _⟩ := spec.restarted e expired found before kept
        rw [restarted] at live
        cases live
        exact .inl ⟨found, before, rfl⟩
      · rw [spec.deleted e expired found before kept] at live
        cases live
    · exact .inl ⟨object, (spec.others timer member).symm.trans live, rfl⟩

/-- No live timer has this sequence number. -/
def Dead (q : TimerQueue) (sequence : Nat) : Prop :=
  ∀ timer object, q.heap timer = some object → object.sequence ≠ sequence

/-- A live timer with this sequence number is in the batch, and `reset` will delete it. -/
def Silenced (q : TimerQueue) (sequence : Nat) : Prop :=
  ∀ timer object, q.heap timer = some object → object.sequence = sequence →
    timer ∈ q.inFlight.map Entry.timer ∧ ActiveTimer.of timer sequence ∈ q.cancelingTimers

variable {sequence : Nat}

theorem numCreated_mono {a : TimerQueue.Act} (effect : Effect q a q') :
    q.numCreated ≤ q'.numCreated := by
  cases effect with
  | created _ => exact Nat.le_succ _
  | added _ _ _ | armed _ _ _ | cancelled _ _ | deferred _ _ | ignored _ _ | fired | begun _
  | ran _ _ _ => exact Nat.le_refl _
  | ended _ _ spec => rw [finished_numCreated, spec.frame]

/-- A number that is dead stays dead. -/
theorem Dead.effect {a : TimerQueue.Act} (dead : Dead q sequence) (old : sequence ≤ q.numCreated)
    (sound : Sound q) (effect : Effect q a q') : Dead q' sequence := by
  intro timer object live same
  rcases heap_back sound effect live with ⟨before, stored, equal⟩ | new
  · exact dead timer before stored (equal.trans same)
  · omega

/-- Outside a batch a silenced timer is dead. -/
theorem Silenced.dead (silenced : Silenced q sequence) (idle : q.batch = none) :
    Dead q sequence := by
  intro timer object live same
  have flying := (silenced timer object live same).1
  rw [inFlight_idle idle] at flying
  cases flying

/-- A silenced timer stays so until its batch ends, and is dead then. -/
theorem Silenced.effect {a : TimerQueue.Act} (silenced : Silenced q sequence)
    (old : sequence ≤ q.numCreated) (sound : Sound q) (effect : Effect q a q') :
    Silenced q' sequence ∧ (a = .endRead → Dead q' sequence) := by
  have cases_of {t : TimerQueue} (dead : Dead t sequence) : Silenced t sequence :=
    fun timer object live same => absurd same (dead timer object live)
  cases effect with
  | @created timer _ _ _ free =>
    refine ⟨fun p object live same => ?_, fun ending => by cases ending⟩
    rcases newTimer_heap live with ⟨_, rfl⟩ | before
    · have new : q.numCreated + 1 = sequence := same
      omega
    · exact silenced p object before same
  | added _ _ _ | armed _ _ _ => exact ⟨silenced, fun ending => by cases ending⟩
  | @cancelled timer object live active =>
    refine ⟨fun p found stored same => ?_, fun ending => by cases ending⟩
    by_cases here : p = timer
    · simp [record, dropped, delete, here] at stored
    · exact silenced p found (by simpa [record, dropped, delete, here] using stored) same
  | deferred _ _ =>
    refine ⟨fun p found stored same => ?_, fun ending => by cases ending⟩
    obtain ⟨flying, condemned⟩ := silenced p found stored same
    exact ⟨flying, OrderedSet.mem_insert.mpr (.inr condemned)⟩
  | ignored _ _ | fired => exact ⟨silenced, fun ending => by cases ending⟩
  | @begun now active idle =>
    have dead : Dead (q.begun now active) sequence := silenced.dead idle
    exact ⟨cases_of dead, fun ending => by cases ending⟩
  | @ran b e object running next live =>
    refine ⟨fun p found stored same => ?_, fun ending => by cases ending⟩
    obtain ⟨flying, condemned⟩ := silenced p found stored same
    rw [inFlight_running running] at flying
    exact ⟨flying, condemned⟩
  | @ended b settled running complete spec =>
    have dead : Dead settled.finished sequence := by
      intro p found stored same
      rw [finished_heap] at stored
      by_cases member : p ∈ b.expired.map Entry.timer
      · obtain ⟨e, expired, rfl⟩ := List.mem_map.mp member
        obtain ⟨object, live, _⟩ := sound.consistent.running e (inFlight_running running ▸ expired)
        by_cases kept : Kept { q with callingExpiredTimers := false } e.timer object
        · rw [(spec.restarted e expired object live kept).1] at stored
          cases stored
          exact kept.2 (same ▸ (silenced _ object live same).2)
        · rw [spec.deleted e expired object live kept] at stored
          cases stored
      · have live : q.heap p = some found := (spec.others p member).symm.trans stored
        exact member (inFlight_running running ▸ (silenced p found live same).1)
    exact ⟨cases_of dead, fun _ => dead⟩

/-- A callback is invoked only of a live timer, and only `endRead` ends a batch. -/
theorem effect_events {a : TimerQueue.Act} (effect : Effect q a q') :
    ∃ events, q'.history = q.history ++ events ∧
      (.batchEnd ∈ events → a = .endRead) ∧
      ∀ sequence, .ran sequence ∈ events → a ≠ .endRead ∧ ¬ Dead q sequence := by
  cases effect with
  | created _ => exact ⟨[.created _ _], rfl, by simp, by simp⟩
  | added _ _ _ | fired | ignored _ _ => exact ⟨[], (List.append_nil _).symm, by simp, by simp⟩
  | armed _ _ _ => exact ⟨[.armed _ _], rfl, by simp, by simp⟩
  | cancelled _ _ => exact ⟨[.cancelled _], rfl, by simp, by simp⟩
  | @deferred timer sequence _ _ =>
    refine ⟨if q.inBatch timer sequence then [.condemned sequence] else [], rfl, ?_, ?_⟩
    · split <;> simp
    · split <;> simp
  | begun _ => exact ⟨[.batch _ _], rfl, by simp, by simp⟩
  | @ran b e object running next live =>
    refine ⟨[.ran object.sequence], rfl, by simp, fun sequence member => ?_⟩
    cases List.mem_singleton.mp member
    exact ⟨by simp, fun dead => dead _ object live rfl⟩
  | @ended b settled running complete spec =>
    have history : settled.history = q.history := by rw [spec.frame]
    unfold finished rearmed
    split
    · refine ⟨[.armed settled.nextExpire (settled.timers.elements.map Entry.time), .batchEnd], ?_,
        fun _ => rfl, by simp⟩
      simp [TimerQueue.resetTimerfd, history]
    · exact ⟨[.batchEnd], by simp [history], fun _ => rfl, by simp⟩

/-- From a silenced timer on: its callback is not invoked after the end of a batch, and not at
all if there was none to begin with. -/
structure Hushed (sequence : Nat) (past : List TimerEvent) (idle : Prop) (q : TimerQueue) :
    Prop where
  sound : Sound q
  old : sequence ≤ q.numCreated
  silenced : Silenced q sequence
  dead : idle → Dead q sequence
  later : ∃ events, q.history = past ++ events ∧
    ¬ [.batchEnd, .ran sequence].Sublist events ∧
    (.batchEnd ∈ events → Dead q sequence) ∧ (idle → .ran sequence ∉ events)

/-- No step runs it after the end of the batch. -/
theorem Hushed.step {past : List TimerEvent} {idle : Prop} {a : TimerQueue.Act}
    (hushed : Hushed sequence past idle q) (allowed : q.Enabled a) (stepped : q.step a = .ok q') :
    Hushed sequence past idle q' := by
  obtain ⟨sound, old, silenced, dead, events, history, unheard, ended, never⟩ := hushed
  obtain ⟨sound', effect⟩ := effect_of_ok sound allowed stepped
  obtain ⟨silenced', buried⟩ := silenced.effect old sound effect
  obtain ⟨more, grown, ends, runs⟩ := effect_events effect
  refine ⟨sound', Nat.le_trans old (numCreated_mono effect), silenced',
    fun calm => (dead calm).effect old sound effect, events ++ more, ?_, ?_, ?_, ?_⟩
  · rw [grown, history, List.append_assoc]
  · intro heard
    rcases pair_sublist_append heard with before | ⟨first, last⟩
    · exact unheard before
    · obtain ⟨running, live⟩ := runs sequence last
      rcases first with earlier | now
      · exact live (ended earlier)
      · exact running (ends now)
  · intro member
    rcases List.mem_append.mp member with before | now
    · exact (ended before).effect old sound effect
    · exact buried (ends now)
  · intro calm member
    rcases List.mem_append.mp member with before | now
    · exact never calm before
    · exact (runs sequence now).2 (dead calm)

theorem Hushed.run {past : List TimerEvent} {idle : Prop} {actions : List TimerQueue.Act}
    (hushed : Hushed sequence past idle q) (run : TimerQueue.machine.Run q actions q') :
    Hushed sequence past idle q' :=
  run.invariant (fun _ _ _ hushed allowed stepped => hushed.step allowed stepped) hushed

end Starry.Guarantees.TimerSilence
