import Starry.Source.TimerQueue

/-!
# The timer queue stays consistent

`timers_` and `activeTimers_` hold the same live timers, each under its current expiration;
the timers of the batch being run, those not yet added and the queued ones are apart; and
no two live timers share a sequence number, whatever addresses are used again. The lemmas
below say what each function does when it returns, and that it keeps `Consistent`.
-/
namespace Starry.Source.TimerQueue

open Starry.Foundation

variable {q q' : TimerQueue} {expired : List Entry}

/-! ## Entries -/

@[simp] theorem time_of (time : Timestamp) (timer : Nat) : (Entry.of time timer).time = time := rfl

@[simp] theorem of_time_timer (e : Entry) : Entry.of e.time e.timer = e := rfl

@[simp] theorem entry_of_inj {time time' : Timestamp} {timer timer' : Nat} :
    Entry.of time timer = Entry.of time' timer' ↔ time = time' ∧ timer = timer' := by
  simp [Entry.of]

@[simp] theorem active_of_inj {timer timer' sequence sequence' : Nat} :
    ActiveTimer.of timer sequence = ActiveTimer.of timer' sequence' ↔
      timer = timer' ∧ sequence = sequence' := by
  simp [ActiveTimer.of]

/-- Below the sentry of `getExpired` are the entries that have expired. -/
theorem lt_sentry {e : Entry} {now : Timestamp} (inside : e.timer < UINTPTR_MAX) :
    e < Entry.of now UINTPTR_MAX ↔ e.time ≤ now := by
  rw [← of_time_timer e]
  unfold Entry.of
  rw [Prod.Lex.toLex_lt_toLex]
  change e.timer < UINTPTR_MAX at inside
  constructor
  · rintro (earlier | ⟨same, _⟩)
    · exact earlier.le
    · exact same.le
  · intro due
    rcases due.lt_or_eq with earlier | same
    · exact .inl earlier
    · exact .inr ⟨same, inside⟩

theorem time_mono {e e' : Entry} (lower : e ≤ e') : e.time ≤ e'.time := by
  rw [← of_time_timer e, ← of_time_timer e'] at lower
  unfold Entry.of at lower
  rw [Prod.Lex.toLex_le_toLex] at lower
  rcases lower with earlier | ⟨same, _⟩
  · exact earlier.le
  · exact same.le

/-! ## A new timer -/

/-- What lives is the new timer, or lived before. -/
theorem newTimer_heap {timer p : Nat} {time : Timestamp} {interval : Int} {repeats : Bool}
    {object : Timer} (live : (q.newTimer timer time interval repeats).heap p = some object) :
    (p = timer ∧ object = ⟨time, interval, repeats, q.numCreated + 1⟩) ∨
      q.heap p = some object := by
  by_cases same : p = timer
  · subst same
    left
    simpa [newTimer, eq_comm] using live
  · right
    simpa [newTimer, same] using live

theorem newTimer_keeps {timer p : Nat} {time : Timestamp} {interval : Int} {repeats : Bool}
    {object : Timer} (free : q.heap timer = none) (live : q.heap p = some object) :
    (q.newTimer timer time interval repeats).heap p = some object := by
  have different : p ≠ timer := by
    intro same
    rw [same, free] at live
    cases live
  simpa [newTimer, different] using live

/-! ## The two sets -/

/-- `timers_` and `activeTimers_` hold the same timers, each under its current expiration. -/
structure Paired (q : TimerQueue) : Prop where
  queued : ∀ {time timer}, Entry.of time timer ∈ q.timers → ∃ object, q.heap timer = some object ∧
    object.expiration = time ∧ ActiveTimer.of timer object.sequence ∈ q.activeTimers
  active : ∀ {timer sequence}, ActiveTimer.of timer sequence ∈ q.activeTimers →
    ∃ object, q.heap timer = some object ∧ object.sequence = sequence ∧
      Entry.of object.expiration timer ∈ q.timers

namespace Paired

variable {timer : Nat} {object : Timer}

/-- An entry of `timers_` is of a live timer, and has its partner in `activeTimers_`. -/
theorem of_entry (paired : Paired q) {e : Entry} (member : e ∈ q.timers) :
    ∃ object, q.heap e.timer = some object ∧ object.expiration = e.time ∧
      ActiveTimer.of e.timer object.sequence ∈ q.activeTimers := by
  rw [← of_time_timer e] at member
  exact paired.queued member

/-- An entry of `activeTimers_` has its partner in `timers_`. -/
theorem of_active (paired : Paired q) {a : ActiveTimer} (member : a ∈ q.activeTimers) :
    ∃ object, q.heap (ofLex a).1 = some object ∧ object.sequence = (ofLex a).2 ∧
      Entry.of object.expiration (ofLex a).1 ∈ q.timers := by
  have own : ActiveTimer.of (ofLex a).1 (ofLex a).2 = a := rfl
  rw [← own] at member
  exact paired.active member

theorem active_iff (paired : Paired q) (live : q.heap timer = some object) :
    ActiveTimer.of timer object.sequence ∈ q.activeTimers ↔
      Entry.of object.expiration timer ∈ q.timers := by
  constructor
  · intro member
    obtain ⟨same, found, _, entry⟩ := paired.active member
    rw [live] at found
    cases found
    exact entry
  · intro member
    obtain ⟨same, found, _, active⟩ := paired.queued member
    rw [live] at found
    cases found
    exact active

/-- No timer is queued under two expirations. -/
theorem entry_eq (paired : Paired q) {e e' : Entry} (member : e ∈ q.timers)
    (member' : e' ∈ q.timers) (same : e.timer = e'.timer) : e = e' := by
  obtain ⟨object, live, time, _⟩ := paired.of_entry member
  obtain ⟨object', live', time', _⟩ := paired.of_entry member'
  rw [same, live'] at live
  cases live
  rw [← of_time_timer e, ← of_time_timer e', ← time, ← time', same]

/-- A live timer that is not active has no entry under any expiration. -/
theorem no_entry (paired : Paired q) (live : q.heap timer = some object)
    (inactive : ActiveTimer.of timer object.sequence ∉ q.activeTimers) (time : Timestamp) :
    Entry.of time timer ∉ q.timers := by
  intro member
  obtain ⟨same, found, _, active⟩ := paired.queued member
  rw [live] at found
  cases found
  exact inactive active

theorem no_active (paired : Paired q) (live : q.heap timer = some object)
    (inactive : ActiveTimer.of timer object.sequence ∉ q.activeTimers) (sequence : Nat) :
    ActiveTimer.of timer sequence ∉ q.activeTimers := by
  intro member
  obtain ⟨same, found, equal, _⟩ := paired.active member
  rw [live] at found
  cases found
  exact inactive (equal ▸ member)

/-- Both sets list every queued address once, so `sameSize` holds. -/
theorem size_eq (paired : Paired q) : q.timers.size = q.activeTimers.size := by
  have entries : (q.timers.elements.map Entry.timer).Nodup := by
    refine List.Nodup.map_on ?_ (q.timers.ascending.imp ne_of_lt)
    intro e member e' member' same
    exact paired.entry_eq member member' same
  have actives : (q.activeTimers.elements.map fun a => (ofLex a).1).Nodup := by
    refine List.Nodup.map_on ?_ (q.activeTimers.ascending.imp ne_of_lt)
    intro a member a' member' equal
    obtain ⟨object, live, same, _⟩ := paired.of_active member
    obtain ⟨object', live', same', _⟩ := paired.of_active member'
    rw [equal, live'] at live
    cases live
    exact congrArg toLex (Prod.ext equal (same.symm.trans same'))
  have addresses : ∀ timer, timer ∈ q.timers.elements.map Entry.timer ↔
      timer ∈ q.activeTimers.elements.map fun a => (ofLex a).1 := by
    intro timer
    constructor
    · intro member
      obtain ⟨e, listed, rfl⟩ := List.mem_map.mp member
      obtain ⟨object, _, _, active⟩ := paired.of_entry listed
      exact List.mem_map.mpr ⟨_, active, rfl⟩
    · intro member
      obtain ⟨a, listed, rfl⟩ := List.mem_map.mp member
      obtain ⟨object, _, _, entry⟩ := paired.of_active listed
      exact List.mem_map.mpr ⟨_, entry, rfl⟩
  have lengths := ((List.perm_ext_iff_of_nodup entries actives).mpr addresses).length_eq
  simpa [OrderedSet.size] using lengths

/-- The two sets are as large as each other, as the code asserts. -/
theorem sameSize (paired : Paired q) (line : Nat) : q.sameSize line = .ok () := by
  simp [TimerQueue.sameSize, cassert, paired.size_eq]

/-- A timer that is in neither set may change. -/
theorem update (paired : Paired q) (live : q.heap timer = some object)
    (inactive : ActiveTimer.of timer object.sequence ∉ q.activeTimers) (content : Option Timer) :
    Paired { q with heap := Function.update q.heap timer content } := by
  constructor
  · intro time p member
    obtain ⟨found, same, rest⟩ := paired.queued member
    have different : p ≠ timer := by
      rintro rfl
      exact paired.no_entry live inactive time member
    exact ⟨found, by simpa [different] using same, rest⟩
  · intro p sequence member
    obtain ⟨found, same, rest⟩ := paired.active member
    have different : p ≠ timer := by
      rintro rfl
      exact paired.no_active live inactive sequence member
    exact ⟨found, by simpa [different] using same, rest⟩

theorem enqueue (paired : Paired q) (live : q.heap timer = some object) :
    Paired (q.queued timer object) := by
  constructor
  · intro time p member
    rcases OrderedSet.mem_insert.mp member with new | old
    · obtain ⟨rfl, rfl⟩ := entry_of_inj.mp new
      exact ⟨object, live, rfl, OrderedSet.mem_insert.mpr (.inl rfl)⟩
    · obtain ⟨found, same, time_eq, active⟩ := paired.queued old
      exact ⟨found, same, time_eq, OrderedSet.mem_insert.mpr (.inr active)⟩
  · intro p sequence member
    rcases OrderedSet.mem_insert.mp member with new | old
    · obtain ⟨rfl, rfl⟩ := active_of_inj.mp new
      exact ⟨object, live, rfl, OrderedSet.mem_insert.mpr (.inl rfl)⟩
    · obtain ⟨found, same, equal, entry⟩ := paired.active old
      exact ⟨found, same, equal, OrderedSet.mem_insert.mpr (.inr entry)⟩

/-- `insert` of a live timer that is in neither set passes all its assertions. -/
theorem insert_eq (paired : Paired q) (live : q.heap timer = some object)
    (inactive : ActiveTimer.of timer object.sequence ∉ q.activeTimers) :
    q.insert timer = .ok (q.queued timer object, q.earliest object.expiration) := by
  have unlisted := paired.no_entry live inactive object.expiration
  have grown := (paired.enqueue live).sameSize 232
  unfold TimerQueue.insert
  rw [paired.sameSize 208, ok_bind, TimerQueue.deref, live]
  simp only [ok_bind, cassert, unlisted, inactive, not_false_eq_true, if_true, grown, pure_eq_ok]

end Paired

/-! ## The invariant -/

/-- `expired` are the timers of the batch that `reset` has not dealt with yet. -/
structure Consistent (q : TimerQueue) (expired : List Entry) : Prop extends Paired q where
  running : ∀ e ∈ expired, ∃ object, q.heap e.timer = some object ∧
    ActiveTimer.of e.timer object.sequence ∉ q.activeTimers
  running_once : (expired.map Entry.timer).Nodup
  unadded : ∀ timer ∈ q.unadded, timer ∉ expired.map Entry.timer ∧ ∃ object,
    q.heap timer = some object ∧ ActiveTimer.of timer object.sequence ∉ q.activeTimers
  unadded_once : q.unadded.Nodup
  sequences : ∀ {timer object}, q.heap timer = some object →
    0 < object.sequence ∧ object.sequence ≤ q.numCreated
  distinct : ∀ {timer timer' object object'}, q.heap timer = some object →
    q.heap timer' = some object' → object.sequence = object'.sequence → timer = timer'
  addresses : ∀ {timer object}, q.heap timer = some object → timer < UINTPTR_MAX
  intervals : ∀ {timer object}, q.heap timer = some object → object.repeats = true →
    0 ≤ object.interval

namespace Consistent

theorem frame {calling pending readable : Bool} {canceling : OrderedSet ActiveTimer}
    {batch : Option Batch} {lastArmed : Option Timestamp} {history : List TimerEvent}
    (consistent : Consistent q expired) :
    Consistent { q with
      callingExpiredTimers := calling, cancelingTimers := canceling, batch := batch
      lastArmed := lastArmed, pending := pending, readable := readable, history := history }
      expired :=
  ⟨⟨consistent.queued, consistent.active⟩, consistent.running, consistent.running_once,
    consistent.unadded, consistent.unadded_once, consistent.sequences, consistent.distinct,
    consistent.addresses, consistent.intervals⟩

theorem inactive_of_running (consistent : Consistent q expired) {e : Entry} {object : Timer}
    (listed : e ∈ expired) (live : q.heap e.timer = some object) :
    ActiveTimer.of e.timer object.sequence ∉ q.activeTimers := by
  obtain ⟨found, stored, inactive⟩ := consistent.running e listed
  rw [live] at stored
  cases stored
  exact inactive

/-- A timer that waits to be added is in neither set. -/
theorem inactive_of_unadded (consistent : Consistent q expired) {timer : Nat} {object : Timer}
    (waiting : timer ∈ q.unadded) (live : q.heap timer = some object) :
    ActiveTimer.of timer object.sequence ∉ q.activeTimers := by
  obtain ⟨_, found, stored, inactive⟩ := consistent.unadded timer waiting
  rw [live] at stored
  cases stored
  exact inactive

theorem newTimer (consistent : Consistent q expired) {timer : Nat} {time : Timestamp}
    {interval : Int} {repeats : Bool} (free : q.heap timer = none) (inside : timer < UINTPTR_MAX)
    (positive : repeats = true → 0 ≤ interval) :
    Consistent (q.newTimer timer time interval repeats) expired := by
  have others : ∀ {p object}, q.heap p = some object →
      (q.newTimer timer time interval repeats).heap p = some object :=
    fun live => newTimer_keeps free live
  have unqueued : ActiveTimer.of timer (q.numCreated + 1) ∉ q.activeTimers := by
    intro member
    obtain ⟨object, live, _⟩ := consistent.active member
    rw [free] at live
    cases live
  refine ⟨⟨?_, ?_⟩, ?_, consistent.running_once, ?_, ?_, ?_, ?_, ?_, ?_⟩
  · intro time timer member
    obtain ⟨object, live, rest⟩ := consistent.queued member
    exact ⟨object, others live, rest⟩
  · intro timer sequence member
    obtain ⟨object, live, rest⟩ := consistent.active member
    exact ⟨object, others live, rest⟩
  · intro e member
    obtain ⟨object, live, rest⟩ := consistent.running e member
    exact ⟨object, others live, rest⟩
  · intro p member
    rcases List.mem_append.mp member with old | new
    · obtain ⟨apart, object, live, rest⟩ := consistent.unadded p old
      exact ⟨apart, object, others live, rest⟩
    · have same : p = timer := by simpa using new
      subst same
      refine ⟨?_, _, by simp [TimerQueue.newTimer]; rfl, unqueued⟩
      intro running
      obtain ⟨e, listed, address⟩ := List.mem_map.mp running
      obtain ⟨object, live, _⟩ := consistent.running e listed
      rw [address, free] at live
      cases live
  · have new : timer ∉ q.unadded := by
      intro member
      obtain ⟨_, object, live, _⟩ := consistent.unadded timer member
      rw [free] at live
      cases live
    refine List.nodup_append.mpr ⟨consistent.unadded_once, by simp, ?_⟩
    intro p member p' single
    have same : p' = timer := by simpa using single
    subst same
    intro equal
    exact new (equal ▸ member)
  · intro p object live
    have bound : (q.newTimer timer time interval repeats).numCreated = q.numCreated + 1 := rfl
    rcases newTimer_heap live with ⟨_, rfl⟩ | old
    · exact ⟨by simp, le_refl _⟩
    · have before := consistent.sequences old
      exact ⟨before.1, by omega⟩
  · intro p p' object object' live live' equal
    rcases newTimer_heap live with ⟨rfl, rfl⟩ | old
    · rcases newTimer_heap live' with ⟨rfl, _⟩ | old'
      · rfl
      · have before := consistent.sequences old'
        simp only at equal
        omega
    · rcases newTimer_heap live' with ⟨rfl, rfl⟩ | old'
      · have before := consistent.sequences old
        simp only at equal
        omega
      · exact consistent.distinct old old' equal
  · intro p object live
    rcases newTimer_heap live with ⟨rfl, _⟩ | old
    · exact inside
    · exact consistent.addresses old
  · intro p object live repeating
    rcases newTimer_heap live with ⟨_, rfl⟩ | old
    · exact positive repeating
    · exact consistent.intervals old repeating

/-- A timer of the batch may be restarted. -/
theorem restart (consistent : Consistent q expired) {e : Entry} {object : Timer}
    (listed : e ∈ expired) (live : q.heap e.timer = some object) (now : Timestamp) :
    Consistent
      { q with heap := Function.update q.heap e.timer (some (object.restart now)) } expired := by
  have same : ∀ {p found},
      Function.update q.heap e.timer (some (object.restart now)) p = some found →
        ∃ before, q.heap p = some before ∧ found.sequence = before.sequence ∧
          found.repeats = before.repeats ∧ found.interval = before.interval := by
    intro p found stored
    by_cases equal : p = e.timer
    · subst equal
      have content : object.restart now = found := by simpa using stored
      subst content
      exact ⟨object, live, rfl, rfl, rfl⟩
    · exact ⟨found, by simpa [equal] using stored, rfl, rfl, rfl⟩
  have kept : ∀ {p before}, q.heap p = some before → ∃ found,
      Function.update q.heap e.timer (some (object.restart now)) p = some found ∧
        found.sequence = before.sequence := by
    intro p before stored
    by_cases equal : p = e.timer
    · subst equal
      rw [live] at stored
      cases stored
      exact ⟨_, Function.update_self _ _ _, rfl⟩
    · exact ⟨before, by simpa [equal] using stored, rfl⟩
  have inactive := consistent.inactive_of_running listed live
  refine ⟨consistent.toPaired.update live inactive _, ?_, consistent.running_once, ?_,
    consistent.unadded_once, ?_, ?_, ?_, ?_⟩
  · intro e' member
    obtain ⟨before, stored, absent⟩ := consistent.running e' member
    obtain ⟨found, stored', sequence⟩ := kept stored
    exact ⟨found, stored', sequence ▸ absent⟩
  · intro p member
    obtain ⟨apart, before, stored, absent⟩ := consistent.unadded p member
    obtain ⟨found, stored', sequence⟩ := kept stored
    exact ⟨apart, found, stored', sequence ▸ absent⟩
  · intro p found stored
    obtain ⟨before, stored', sequence, _⟩ := same stored
    rw [sequence]
    exact consistent.sequences stored'
  · intro p p' found found' stored stored' equal
    obtain ⟨before, old, sequence, _⟩ := same stored
    obtain ⟨before', old', sequence', _⟩ := same stored'
    rw [sequence, sequence'] at equal
    exact consistent.distinct old old' equal
  · intro p found stored
    obtain ⟨before, old, _⟩ := same stored
    exact consistent.addresses old
  · intro p found stored repeating
    obtain ⟨before, old, _, repeats, interval⟩ := same stored
    rw [interval]
    exact consistent.intervals old (repeats ▸ repeating)

/-- A live timer moves into the two sets, from the timers not yet added or from the batch. -/
theorem enqueue (consistent : Consistent q expired) {timer : Nat} {object : Timer}
    {left : List Entry} {waiting : List Nat} (live : q.heap timer = some object)
    (fewer : left.Sublist expired) (less : waiting.Sublist q.unadded)
    (apart : timer ∉ left.map Entry.timer) (added : timer ∉ waiting) :
    Consistent { q.queued timer object with unadded := waiting } left := by
  have still : ∀ {p sequence}, p ≠ timer → ActiveTimer.of p sequence ∉ q.activeTimers →
      ActiveTimer.of p sequence ∉ (q.queued timer object).activeTimers := by
    intro p sequence different absent member
    rcases OrderedSet.mem_insert.mp member with new | old
    · exact different (active_of_inj.mp new).1
    · exact absent old
  have paired := consistent.toPaired.enqueue live
  refine ⟨⟨paired.queued, paired.active⟩, ?_, consistent.running_once.sublist (fewer.map _), ?_,
    consistent.unadded_once.sublist less, consistent.sequences, consistent.distinct,
    consistent.addresses, consistent.intervals⟩
  · intro e member
    obtain ⟨found, stored, absent⟩ := consistent.running e (fewer.subset member)
    have different : e.timer ≠ timer := by
      intro equal
      exact apart (equal ▸ List.mem_map_of_mem member)
    exact ⟨found, stored, still different absent⟩
  · intro p member
    obtain ⟨elsewhere, found, stored, absent⟩ := consistent.unadded p (less.subset member)
    have different : p ≠ timer := by
      intro equal
      exact added (equal ▸ member)
    exact ⟨fun running => elsewhere ((fewer.map _).subset running), found, stored,
      still different absent⟩

/-- A timer is deleted, and the two sets forget it. -/
theorem forget (consistent : Consistent q expired) {timer : Nat} {left : List Entry}
    {timers : OrderedSet Entry} {active : OrderedSet ActiveTimer}
    (entries : ∀ time p, Entry.of time p ∈ timers ↔ Entry.of time p ∈ q.timers ∧ p ≠ timer)
    (pairs : ∀ p sequence, ActiveTimer.of p sequence ∈ active ↔
      ActiveTimer.of p sequence ∈ q.activeTimers ∧ p ≠ timer)
    (fewer : left.Sublist expired) (apart : timer ∉ left.map Entry.timer)
    (added : timer ∉ q.unadded) :
    Consistent { q.delete timer with timers := timers, activeTimers := active } left := by
  have other : ∀ {p}, p ≠ timer → (q.delete timer).heap p = q.heap p := by
    intro p different
    simp [delete, different]
  have survives : ∀ {p object}, (q.delete timer).heap p = some object → q.heap p = some object := by
    intro p object stored
    by_cases equal : p = timer
    · simp [delete, equal] at stored
    · rwa [other equal] at stored
  refine ⟨⟨?_, ?_⟩, ?_, consistent.running_once.sublist (fewer.map _), ?_,
    consistent.unadded_once, ?_, ?_, ?_, ?_⟩
  · intro time p member
    obtain ⟨listed, different⟩ := (entries time p).mp member
    obtain ⟨object, stored, equal, pair⟩ := consistent.queued listed
    exact ⟨object, by rwa [← other different] at stored, equal, (pairs _ _).mpr ⟨pair, different⟩⟩
  · intro p sequence member
    obtain ⟨listed, different⟩ := (pairs p sequence).mp member
    obtain ⟨object, stored, equal, entry⟩ := consistent.active listed
    exact ⟨object, by rwa [← other different] at stored, equal,
      (entries _ _).mpr ⟨entry, different⟩⟩
  · intro e member
    obtain ⟨object, stored, absent⟩ := consistent.running e (fewer.subset member)
    have different : e.timer ≠ timer := by
      intro equal
      exact apart (equal ▸ List.mem_map_of_mem member)
    exact ⟨object, by rwa [← other different] at stored, fun pair => absent ((pairs _ _).mp pair).1⟩
  · intro p member
    obtain ⟨elsewhere, object, stored, absent⟩ := consistent.unadded p member
    have different : p ≠ timer := by
      intro equal
      exact added (equal ▸ member)
    exact ⟨fun running => elsewhere ((fewer.map _).subset running), object,
      by rwa [← other different] at stored, fun pair => absent ((pairs _ _).mp pair).1⟩
  · intro p object stored
    exact consistent.sequences (survives stored)
  · intro p p' object object' stored stored' equal
    exact consistent.distinct (survives stored) (survives stored') equal
  · intro p object stored
    exact consistent.addresses (survives stored)
  · intro p object stored repeating
    exact consistent.intervals (survives stored) repeating

end Consistent

/-! ## Adding and cancelling -/

/-- The queue after `insert` in `addTimerInLoop`. -/
def added (q : TimerQueue) (timer : Nat) (object : Timer) : TimerQueue :=
  { q.queued timer object with unadded := q.unadded.erase timer }

/-- The timer enters both sets, and the timerfd is set if it is the earliest. -/
theorem addTimerInLoop_eq (consistent : Consistent q expired) {timer : Nat}
    (waiting : timer ∈ q.unadded) : ∃ object, q.heap timer = some object ∧
      Consistent (q.added timer object) expired ∧
      q.addTimerInLoop timer = .ok (if q.earliest object.expiration
        then (q.added timer object).resetTimerfd object.expiration else q.added timer object) := by
  obtain ⟨apart, object, live, inactive⟩ := consistent.unadded timer waiting
  refine ⟨object, live, ?_, ?_⟩
  · exact consistent.enqueue live (List.Sublist.refl _) List.erase_sublist apart
      consistent.unadded_once.not_mem_erase
  · unfold addTimerInLoop
    rw [consistent.toPaired.insert_eq live inactive, ok_bind]
    simp only [deref, queued, live, ok_bind, pure_eq_ok]
    cases q.earliest object.expiration <;> rfl

/-- The queue without a timer that was active. -/
def dropped (q : TimerQueue) (timer : Nat) (object : Timer) : TimerQueue :=
  { q.delete timer with
    timers := q.timers.erase (.of object.expiration timer)
    activeTimers := q.activeTimers.erase (.of timer object.sequence) }

/-- A timer that is cancelled leaves both sets and is deleted. -/
theorem Consistent.dropped (consistent : Consistent q expired) {timer : Nat} {object : Timer}
    (live : q.heap timer = some object)
    (active : ActiveTimer.of timer object.sequence ∈ q.activeTimers) :
    Consistent (q.dropped timer object) expired := by
  refine consistent.forget ?_ ?_ (List.Sublist.refl _) ?_ ?_
  · intro time p
    rw [OrderedSet.mem_erase, ne_eq, entry_of_inj]
    constructor
    · rintro ⟨listed, other⟩
      refine ⟨listed, ?_⟩
      rintro rfl
      obtain ⟨found, stored, equal, _⟩ := consistent.queued listed
      rw [live] at stored
      cases stored
      exact other ⟨equal.symm, rfl⟩
    · rintro ⟨listed, different⟩
      exact ⟨listed, fun equal => different equal.2⟩
  · intro p sequence
    rw [OrderedSet.mem_erase, ne_eq, active_of_inj]
    constructor
    · rintro ⟨listed, other⟩
      refine ⟨listed, ?_⟩
      rintro rfl
      obtain ⟨found, stored, equal, _⟩ := consistent.active listed
      rw [live] at stored
      cases stored
      exact other ⟨rfl, equal.symm⟩
    · rintro ⟨listed, different⟩
      exact ⟨listed, fun equal => different equal.1⟩
  · intro running
    obtain ⟨e, listed, rfl⟩ := List.mem_map.mp running
    exact consistent.inactive_of_running listed live active
  · intro waiting
    exact consistent.inactive_of_unadded waiting live active

/-- A timer that is queued is cancelled at once. -/
theorem cancelInLoop_active (consistent : Consistent q expired) {timer sequence : Nat}
    (active : ActiveTimer.of timer sequence ∈ q.activeTimers) : ∃ object,
      q.heap timer = some object ∧ object.sequence = sequence ∧
      Consistent (q.dropped timer object) expired ∧
      q.cancelInLoop timer sequence =
        .ok ((q.dropped timer object).record (.cancelled sequence)) := by
  obtain ⟨object, live, rfl, entry⟩ := consistent.active active
  have shrunk := consistent.dropped live active
  refine ⟨object, live, rfl, shrunk, ?_⟩
  -- the assertion on the sizes comes before the `delete` in the model, and reads no heap
  have sizes : TimerQueue.sameSize { q with
      timers := q.timers.erase (.of object.expiration timer)
      activeTimers := q.activeTimers.erase (.of timer object.sequence) } 140 = .ok () :=
    shrunk.toPaired.sameSize 140
  unfold cancelInLoop
  rw [consistent.toPaired.sameSize 128, ok_bind, if_pos active]
  simp only [deref, live, ok_bind, cassert, entry, if_true, sizes, pure_eq_ok]
  rfl

/-- A timer that is not queued is cancelled in `reset`, if a batch is being run. -/
theorem cancelInLoop_inactive (consistent : Consistent q expired) {timer sequence : Nat}
    (inactive : ActiveTimer.of timer sequence ∉ q.activeTimers) :
    q.cancelInLoop timer sequence = .ok (if q.callingExpiredTimers then
      { q with
        cancelingTimers := q.cancelingTimers.insert (.of timer sequence)
        history := q.history ++
          if q.inBatch timer sequence then [.condemned sequence] else [] } else q) := by
  unfold cancelInLoop
  rw [consistent.toPaired.sameSize 128, ok_bind, if_neg inactive]
  cases q.callingExpiredTimers with
  | false => rfl
  | true =>
    cases q.inBatch timer sequence with
    | false => simp
    | true => rfl

/-! ## The batch -/

/-- The entries that `getExpired` takes out. -/
def due (q : TimerQueue) (now : Timestamp) : List Entry :=
  q.timers.below (.of now UINTPTR_MAX)

/-- `getExpired` erases each expired timer from `activeTimers_`, as it asserts. -/
theorem eraseActive_ok {heap : Nat → Option Timer} {active : OrderedSet ActiveTimer}
    {entries : List Entry}
    (owned : ∀ {timer sequence}, ActiveTimer.of timer sequence ∈ active →
      ∃ object, heap timer = some object ∧ object.sequence = sequence)
    (listed : ∀ e ∈ entries, ∃ object, heap e.timer = some object ∧
      ActiveTimer.of e.timer object.sequence ∈ active)
    (once : (entries.map Entry.timer).Nodup) :
    Yields (eraseActive heap active entries) fun left => ∀ timer sequence,
      ActiveTimer.of timer sequence ∈ left ↔
        ActiveTimer.of timer sequence ∈ active ∧ timer ∉ entries.map Entry.timer := by
  induction entries generalizing active with
  | nil => exact .ok (by simp)
  | cons e rest ih =>
    obtain ⟨object, live, member⟩ := listed e List.mem_cons_self
    rw [List.map_cons, List.nodup_cons] at once
    have smaller : ∀ timer sequence,
        ActiveTimer.of timer sequence ∈ active.erase (.of e.timer object.sequence) ↔
          ActiveTimer.of timer sequence ∈ active ∧ timer ≠ e.timer := by
      intro timer sequence
      rw [OrderedSet.mem_erase, ne_eq, active_of_inj]
      constructor
      · rintro ⟨before, other⟩
        refine ⟨before, ?_⟩
        rintro rfl
        obtain ⟨found, stored, equal⟩ := owned before
        rw [live] at stored
        cases stored
        exact other ⟨rfl, equal.symm⟩
      · rintro ⟨before, different⟩
        exact ⟨before, fun equal => different equal.1⟩
    have fewer : ∀ {timer sequence},
        ActiveTimer.of timer sequence ∈ active.erase (.of e.timer object.sequence) →
          ∃ object, heap timer = some object ∧ object.sequence = sequence :=
      fun pair => owned ((smaller _ _).mp pair).1
    have later := ih fewer ?_ once.2
    · simp only [eraseActive, live, cassert, member, if_true, ok_bind]
      refine later.imp fun left rest_spec timer sequence => ?_
      rw [rest_spec, smaller, List.map_cons, List.mem_cons]
      tauto
    · intro e' later
      obtain ⟨found, stored, pair⟩ := listed e' (List.mem_cons_of_mem _ later)
      refine ⟨found, stored, (smaller _ _).mpr ⟨pair, ?_⟩⟩
      intro equal
      exact once.1 (equal ▸ List.mem_map_of_mem later)

/-- What is due is in the queue, at a time that has come. -/
theorem mem_due (consistent : Consistent q expired) {now : Timestamp} {e : Entry} :
    e ∈ q.due now ↔ e ∈ q.timers ∧ e.time ≤ now := by
  rw [due, OrderedSet.mem_below]
  constructor
  · rintro ⟨member, low⟩
    obtain ⟨object, live, _⟩ := consistent.of_entry member
    exact ⟨member, (lt_sentry (consistent.addresses live)).mp low⟩
  · rintro ⟨member, early⟩
    obtain ⟨object, live, _⟩ := consistent.of_entry member
    exact ⟨member, (lt_sentry (consistent.addresses live)).mpr early⟩

theorem mem_above (consistent : Consistent q expired) {now : Timestamp} {e : Entry} :
    e ∈ q.timers.above (.of now UINTPTR_MAX) ↔ e ∈ q.timers ∧ now < e.time := by
  rw [OrderedSet.mem_above]
  constructor
  · rintro ⟨member, high⟩
    obtain ⟨object, live, _⟩ := consistent.of_entry member
    refine ⟨member, not_le.mp fun early => ?_⟩
    exact not_lt.mpr high ((lt_sentry (consistent.addresses live)).mpr early)
  · rintro ⟨member, late⟩
    obtain ⟨object, live, _⟩ := consistent.of_entry member
    refine ⟨member, not_lt.mp fun low => ?_⟩
    exact not_le.mpr late ((lt_sentry (consistent.addresses live)).mp low)

theorem due_once (consistent : Consistent q expired) (now : Timestamp) :
    ((q.due now).map Entry.timer).Nodup := by
  refine List.Nodup.map_on ?_ ((q.timers.below_ascending _).imp ne_of_lt)
  intro e member e' member' same
  exact consistent.entry_eq ((mem_due consistent).mp member).1 ((mem_due consistent).mp member').1
    same

theorem due_active (consistent : Consistent q expired) {now : Timestamp} {e : Entry}
    (member : e ∈ q.due now) : ∃ object, q.heap e.timer = some object ∧
      ActiveTimer.of e.timer object.sequence ∈ q.activeTimers := by
  obtain ⟨object, live, _, pair⟩ := consistent.of_entry ((mem_due consistent).mp member).1
  exact ⟨object, live, pair⟩

/-- The due timers leave both sets together. -/
theorem Consistent.expire (consistent : Consistent q []) {now : Timestamp}
    {active : OrderedSet ActiveTimer}
    (remaining : ∀ timer sequence, ActiveTimer.of timer sequence ∈ active ↔
      ActiveTimer.of timer sequence ∈ q.activeTimers ∧ timer ∉ (q.due now).map Entry.timer) :
    Consistent { q with
      timers := q.timers.above (.of now UINTPTR_MAX), activeTimers := active } (q.due now) := by
  refine ⟨⟨?_, ?_⟩, ?_, due_once consistent now, ?_, consistent.unadded_once, consistent.sequences,
    consistent.distinct, consistent.addresses, consistent.intervals⟩
  · intro time timer member
    obtain ⟨before, late⟩ := (mem_above consistent).mp member
    obtain ⟨object, live, equal, pair⟩ := consistent.queued before
    refine ⟨object, live, equal, (remaining _ _).mpr ⟨pair, ?_⟩⟩
    intro taken
    obtain ⟨e, isDue, rfl⟩ := List.mem_map.mp taken
    obtain ⟨member', early⟩ := (mem_due consistent).mp isDue
    rw [consistent.entry_eq before member' rfl] at late
    exact not_le.mpr late early
  · intro timer sequence member
    obtain ⟨pair, kept⟩ := (remaining _ _).mp member
    obtain ⟨object, live, equal, entry⟩ := consistent.active pair
    refine ⟨object, live, equal, (mem_above consistent).mpr ⟨entry, ?_⟩⟩
    refine not_le.mp fun early => kept ?_
    exact List.mem_map.mpr ⟨_, (mem_due consistent).mpr ⟨entry, early⟩, rfl⟩
  · intro e member
    obtain ⟨object, live, _⟩ := due_active consistent member
    refine ⟨object, live, fun pair => ?_⟩
    exact ((remaining _ _).mp pair).2 (List.mem_map_of_mem member)
  · intro timer waiting
    obtain ⟨_, object, live, absent⟩ := consistent.unadded timer waiting
    refine ⟨fun taken => ?_, object, live, fun pair => absent ((remaining _ _).mp pair).1⟩
    obtain ⟨e, isDue, rfl⟩ := List.mem_map.mp taken
    obtain ⟨found, stored, pair⟩ := due_active consistent isDue
    exact consistent.inactive_of_unadded waiting stored pair

/-- What is left starts after `now`, as `getExpired` asserts. -/
theorem above_bounded (consistent : Consistent q expired) (now : Timestamp) :
    (q.timers.above (.of now UINTPTR_MAX)).first? = none ∨
      ∃ e, (q.timers.above (.of now UINTPTR_MAX)).first? = some e ∧ now < e.time := by
  cases first : (q.timers.above (.of now UINTPTR_MAX)).first? with
  | none => exact .inl rfl
  | some e =>
    have member := (OrderedSet.first?_eq_some first).1
    exact .inr ⟨e, rfl, ((mem_above consistent).mp member).2⟩

/-- `getExpired` moves the due timers out of the two sets, and nothing else. -/
theorem getExpired_ok (consistent : Consistent q []) (now : Timestamp) :
    Yields (q.getExpired now) fun outcome => outcome.1 = q.due now ∧
      outcome.2 = { q with
        timers := q.timers.above (.of now UINTPTR_MAX), activeTimers := outcome.2.activeTimers } ∧
      Consistent outcome.2 (q.due now) := by
  have owned : ∀ {timer sequence}, ActiveTimer.of timer sequence ∈ q.activeTimers →
      ∃ object, q.heap timer = some object ∧ object.sequence = sequence := by
    intro timer sequence pair
    obtain ⟨object, live, equal, _⟩ := consistent.active pair
    exact ⟨object, live, equal⟩
  obtain ⟨active, erased, remaining⟩ := eraseActive_ok owned
    (fun _ member => due_active consistent member) (due_once consistent now)
  have left := consistent.expire remaining
  refine ⟨(q.due now, { q with
      timers := q.timers.above (.of now UINTPTR_MAX), activeTimers := active }), ?_, rfl, rfl, left⟩
  unfold getExpired
  rw [consistent.toPaired.sameSize 162, ok_bind]
  simp only [cassert, above_bounded consistent now, if_true, ok_bind]
  change (eraseActive q.heap q.activeTimers (q.due now) >>= _) = _
  rw [erased, ok_bind, left.toPaired.sameSize 177]
  rfl

/-! ## `reset` -/

/-- `reset` puts the timer back: it repeats, and its own id was not cancelled meanwhile. -/
def Kept (q : TimerQueue) (timer : Nat) (object : Timer) : Prop :=
  object.repeats = true ∧ ActiveTimer.of timer object.sequence ∉ q.cancelingTimers

instance (timer : Nat) (object : Timer) : Decidable (q.Kept timer object) :=
  inferInstanceAs (Decidable (_ ∧ _))

/-- What the loop of `reset` makes of the queue. -/
structure Settled (q : TimerQueue) (now : Timestamp) (expired : List Entry) (q' : TimerQueue) :
    Prop where
  others : ∀ timer, timer ∉ expired.map Entry.timer → q'.heap timer = q.heap timer
  restarted : ∀ e ∈ expired, ∀ object, q.heap e.timer = some object → q.Kept e.timer object →
    q'.heap e.timer = some (object.restart now) ∧
      Entry.of (object.restart now).expiration e.timer ∈ q'.timers
  deleted : ∀ e ∈ expired, ∀ object, q.heap e.timer = some object → ¬ q.Kept e.timer object →
    q'.heap e.timer = none
  old : ∀ x ∈ q.timers, x ∈ q'.timers
  new : ∀ x ∈ q'.timers, x ∈ q.timers ∨ ∃ e ∈ expired, ∃ object,
    q.heap e.timer = some object ∧ q.Kept e.timer object ∧
      x = Entry.of (object.restart now).expiration e.timer
  frame : q' = { q with heap := q'.heap, timers := q'.timers, activeTimers := q'.activeTimers }

/-- A timer of the batch is queued again or deleted. -/
theorem resetOne_ok {e : Entry} {rest : List Entry} (consistent : Consistent q (e :: rest))
    (now : Timestamp) :
    Yields (q.resetOne now e) fun q' => Consistent q' rest ∧ q.Settled now [e] q' := by
  obtain ⟨object, live, inactive⟩ := consistent.running e List.mem_cons_self
  have apart : e.timer ∉ rest.map Entry.timer := (List.nodup_cons.mp consistent.running_once).1
  have added : e.timer ∉ q.unadded := by
    intro waiting
    exact (consistent.unadded _ waiting).1 List.mem_cons_self
  have own : ∀ {found}, q.heap e.timer = some found → found = object := by
    intro found stored
    rw [live] at stored
    cases stored
    rfl
  unfold resetOne
  simp only [deref, live, ok_bind]
  by_cases kept : q.Kept e.timer object
  · rw [if_pos (And.intro kept.1 kept.2)]
    have restarted := consistent.restart List.mem_cons_self live now
    have stored : Function.update q.heap e.timer (some (object.restart now)) e.timer =
        some (object.restart now) := Function.update_self _ _ _
    rw [restarted.toPaired.insert_eq stored inactive, ok_bind]
    refine .ok ⟨restarted.enqueue stored (List.sublist_cons_self _ _) (List.Sublist.refl _) apart
      added, ?_⟩
    refine ⟨?_, ?_, ?_, ?_, ?_, rfl⟩
    · intro timer other
      simp only [List.map_cons, List.map_nil, List.mem_singleton] at other
      simp [queued, other]
    · intro e' member found stored' _
      cases List.mem_singleton.mp member
      cases own stored'
      exact ⟨stored, OrderedSet.mem_insert.mpr (.inl rfl)⟩
    · intro e' member found stored' lost
      cases List.mem_singleton.mp member
      cases own stored'
      exact absurd kept lost
    · intro x member
      exact OrderedSet.mem_insert.mpr (.inr member)
    · intro x member
      rcases OrderedSet.mem_insert.mp member with rfl | before
      · exact .inr ⟨e, List.mem_cons_self, object, live, kept, rfl⟩
      · exact .inl before
  · rw [if_neg fun both => kept ⟨both.1, both.2⟩]
    refine .ok ⟨?_, ?_⟩
    · refine consistent.forget ?_ ?_ (List.sublist_cons_self _ _) apart added
      · intro time timer
        refine ⟨fun member => ⟨member, ?_⟩, And.left⟩
        rintro rfl
        exact consistent.no_entry live inactive time member
      · intro timer sequence
        refine ⟨fun member => ⟨member, ?_⟩, And.left⟩
        rintro rfl
        exact consistent.no_active live inactive sequence member
    · refine ⟨?_, ?_, ?_, fun x member => member, fun x member => .inl member, rfl⟩
      · intro timer other
        simp only [List.map_cons, List.map_nil, List.mem_singleton] at other
        simp [delete, other]
      · intro e' member found stored' kept'
        cases List.mem_singleton.mp member
        cases own stored'
        exact absurd kept' kept
      · intro e' member found _ _
        cases List.mem_singleton.mp member
        simp [delete]

/-- The timers of the batch are settled one by one. -/
theorem Settled.cons {e : Entry} {rest : List Entry} {now : Timestamp} {middle q' : TimerQueue}
    (apart : e.timer ∉ rest.map Entry.timer) (first : q.Settled now [e] middle)
    (later : middle.Settled now rest q') : q.Settled now (e :: rest) q' := by
  have canceling : middle.cancelingTimers = q.cancelingTimers := by rw [first.frame]
  have kept : ∀ timer object, middle.Kept timer object ↔ q.Kept timer object := by
    intro timer object
    unfold Kept
    rw [canceling]
  have behind : ∀ e' ∈ rest, middle.heap e'.timer = q.heap e'.timer := by
    intro e' member
    refine first.others _ ?_
    intro equal
    rw [List.map_cons, List.map_nil, List.mem_singleton] at equal
    exact apart (equal ▸ List.mem_map_of_mem member)
  refine ⟨?_, ?_, ?_, fun x member => later.old x (first.old x member), ?_, ?_⟩
  · intro timer other
    rw [List.map_cons, List.mem_cons, not_or] at other
    rw [later.others timer other.2, first.others timer (by simpa using other.1)]
  · intro e' member object live keep
    rcases List.mem_cons.mp member with rfl | behind'
    · obtain ⟨stored, entry⟩ := first.restarted _ List.mem_cons_self object live keep
      exact ⟨by rw [later.others _ apart, stored], later.old _ entry⟩
    · rw [← behind e' behind'] at live
      exact later.restarted e' behind' object live ((kept _ _).mpr keep)
  · intro e' member object live lost
    rcases List.mem_cons.mp member with rfl | behind'
    · rw [later.others _ apart]
      exact first.deleted _ List.mem_cons_self object live lost
    · rw [← behind e' behind'] at live
      exact later.deleted e' behind' object live fun keep => lost ((kept _ _).mp keep)
  · intro x member
    rcases later.new x member with before | ⟨e', behind', object, live, keep, rfl⟩
    · rcases first.new x before with old | ⟨e', single, object, live, keep, rfl⟩
      · exact .inl old
      · cases List.mem_singleton.mp single
        exact .inr ⟨e, List.mem_cons_self, object, live, keep, rfl⟩
    · rw [behind e' behind'] at live
      exact .inr ⟨e', List.mem_cons_of_mem _ behind', object, live, (kept _ _).mp keep, rfl⟩
  · rw [later.frame, first.frame]

/-- `reset` settles every timer of the batch. -/
theorem resetAll_ok (consistent : Consistent q expired) (now : Timestamp) :
    Yields (q.resetAll now expired) fun q' => Consistent q' [] ∧ q.Settled now expired q' := by
  induction expired generalizing q with
  | nil =>
    refine .ok ⟨consistent, fun _ _ => rfl, ?_, ?_, fun _ member => member,
      fun _ member => .inl member, rfl⟩
    · simp
    · simp
  | cons e rest ih =>
    have apart := (List.nodup_cons.mp consistent.running_once).1
    refine Yields.bind (resetOne_ok consistent now) fun middle ⟨left, first⟩ => ?_
    exact (ih left).imp fun q' ⟨done, later⟩ => ⟨done, first.cons apart later⟩

/-- The `nextExpire` of `reset`. -/
def nextExpire (q : TimerQueue) : Timestamp :=
  match q.timers.first? with
  | none => Timestamp.epoch
  | some first => first.time

def rearmed (q : TimerQueue) : TimerQueue :=
  if q.nextExpire ≠ Timestamp.min then q.resetTimerfd q.nextExpire else q

/-- The queue after `endRead`, from what the loop of `reset` left. -/
def finished (settled : TimerQueue) : TimerQueue :=
  { settled.rearmed with batch := none, history := settled.rearmed.history ++ [.batchEnd] }

@[simp] theorem finished_heap (settled : TimerQueue) : settled.finished.heap = settled.heap := by
  unfold finished rearmed
  split <;> rfl

@[simp] theorem finished_numCreated (settled : TimerQueue) :
    settled.finished.numCreated = settled.numCreated := by
  unfold finished rearmed
  split <;> rfl

theorem reset_ok (consistent : Consistent q expired) (now : Timestamp) :
    ∃ settled, q.resetAll now expired = .ok settled ∧ Consistent settled [] ∧
      q.Settled now expired settled ∧ q.reset expired now = .ok settled.rearmed := by
  obtain ⟨settled, looped, done, spec⟩ := resetAll_ok consistent now
  refine ⟨settled, looped, done, spec, ?_⟩
  unfold reset
  rw [looped, ok_bind]
  cases first : settled.timers.first? with
  | none =>
    simp only [ok_bind, rearmed, nextExpire, first, pure_eq_ok]
    split <;> rfl
  | some e =>
    obtain ⟨object, live, equal, _⟩ := done.of_entry (OrderedSet.first?_eq_some first).1
    simp only [deref, live, ok_bind, pure_eq_ok, equal, rearmed, nextExpire, first]
    split <;> rfl

theorem endRead_ok {b : Batch} (running : q.batch = some b) (consistent : Consistent q b.expired) :
    ∃ settled,
      resetAll { q with callingExpiredTimers := false } b.now b.expired = .ok settled ∧
      Consistent settled [] ∧
      Settled { q with callingExpiredTimers := false } b.now b.expired settled ∧
      q.endRead = .ok settled.finished := by
  have idle : Consistent { q with callingExpiredTimers := false } b.expired := consistent.frame
  obtain ⟨settled, looped, done, spec, returned⟩ := reset_ok idle b.now
  refine ⟨settled, looped, done, spec, ?_⟩
  unfold endRead
  split
  next none =>
    rw [running] at none
    cases none
  next b' found =>
    rw [running] at found
    cases found
    rw [returned, ok_bind]
    rfl

/-- The queue after `beginRead`; `active` is what `getExpired` leaves of `activeTimers_`. -/
def begun (q : TimerQueue) (now : Timestamp) (active : OrderedSet ActiveTimer) : TimerQueue :=
  { q with
    timers := q.timers.above (.of now UINTPTR_MAX)
    activeTimers := active
    callingExpiredTimers := true
    cancelingTimers := .empty
    batch := some ⟨now, q.due now, 0⟩
    readable := false
    history := q.history ++ [.batch now q.snapshot] }

/-- `getExpired` takes what is due out of both sets. -/
theorem beginRead_ok (consistent : Consistent q []) (now : Timestamp) :
    ∃ active, Consistent (q.begun now active) (q.due now) ∧
      q.beginRead now = .ok (q.begun now active) := by
  have read : Consistent { q with readable := false } [] := consistent.frame
  obtain ⟨⟨_, left⟩, returned, rfl, effect, after⟩ := getExpired_ok read now
  refine ⟨left.activeTimers, ?_, ?_⟩
  · simp only at effect after
    rw [effect] at after
    exact after.frame
  · unfold beginRead
    simp only [returned, ok_bind, pure_eq_ok, Except.ok.injEq]
    simp only at effect
    rw [effect]
    rfl

/-- The queue once the callback of a timer with this sequence number has been invoked. -/
def invoked (q : TimerQueue) (b : Batch) (sequence : Nat) : TimerQueue :=
  { q with
    batch := some { b with ran := b.ran + 1 }
    history := q.history ++ [.ran sequence] }

theorem runNext_ok {b : Batch} (running : q.batch = some b) (consistent : Consistent q b.expired)
    (left : b.ran < b.expired.length) : ∃ e object, b.expired[b.ran]? = some e ∧
      q.heap e.timer = some object ∧ q.runNext = .ok (q.invoked b object.sequence) := by
  obtain ⟨object, live, _⟩ := consistent.running b.expired[b.ran] (List.getElem_mem left)
  have next : b.expired[b.ran]? = some b.expired[b.ran] := List.getElem?_eq_getElem left
  refine ⟨_, object, next, live, ?_⟩
  unfold runNext
  simp only [running, next, deref, live, ok_bind]
  rfl

/-- The sequence number of the live timer at an address. -/
def sequenceAt (q : TimerQueue) (timer : Nat) : Nat :=
  match q.heap timer with
  | some object => object.sequence
  | none => 0

theorem sequenceAt_live {timer : Nat} {object : Timer} (live : q.heap timer = some object) :
    q.sequenceAt timer = object.sequence := by
  simp only [sequenceAt, live]

theorem snapshot_eq (q : TimerQueue) :
    q.snapshot = q.timers.elements.map fun e => (e.time, q.sequenceAt e.timer) := rfl

/-! ## One step -/

/-- The timers that are in neither set because their batch is being run. -/
def inFlight (q : TimerQueue) : List Entry :=
  match q.batch with
  | none => []
  | some b => b.expired

theorem inFlight_idle (idle : q.batch = none) : q.inFlight = [] := by
  simp only [inFlight, idle]

theorem inFlight_running {b : Batch} (running : q.batch = some b) : q.inFlight = b.expired := by
  simp only [inFlight, running]

/-- An id is in the batch if its timer is, with its sequence number. -/
theorem inBatch_iff {timer sequence : Nat} : q.inBatch timer sequence = true ↔
    timer ∈ q.inFlight.map Entry.timer ∧ ∃ object, q.heap timer = some object ∧
      object.sequence = sequence := by
  unfold inBatch inFlight
  cases q.batch with
  | none => simp
  | some b =>
    cases stored : q.heap timer with
    | none => simp
    | some object =>
      simp only [List.any_eq_true, Bool.and_eq_true, decide_eq_true_eq, List.mem_map,
        Option.some.injEq, exists_eq_left']
      constructor
      · rintro ⟨e, listed, address, own⟩
        exact ⟨⟨e, listed, address⟩, own⟩
      · rintro ⟨⟨e, listed, address⟩, own⟩
        exact ⟨e, listed, address, own⟩

structure Sound (q : TimerQueue) : Prop where
  consistent : Consistent q q.inFlight
  calling : q.callingExpiredTimers = q.batch.isSome

/-- Everything that an enabled step can do. -/
inductive Effect (q : TimerQueue) : Act → TimerQueue → Prop
  | created {timer time interval repeats} (free : q.heap timer = none) :
      Effect q (.newTimer timer time interval repeats) (q.newTimer timer time interval repeats)
  | added {timer object} (live : q.heap timer = some object) (waiting : timer ∈ q.unadded)
      (later : q.earliest object.expiration = false) :
      Effect q (.addTimerInLoop timer) (q.added timer object)
  | armed {timer object} (live : q.heap timer = some object) (waiting : timer ∈ q.unadded)
      (first : q.earliest object.expiration = true) :
      Effect q (.addTimerInLoop timer)
        ((q.added timer object).resetTimerfd object.expiration)
  | cancelled {timer object} (live : q.heap timer = some object)
      (active : ActiveTimer.of timer object.sequence ∈ q.activeTimers) :
      Effect q (.cancelInLoop timer object.sequence)
        ((q.dropped timer object).record (.cancelled object.sequence))
  | deferred {timer sequence} (inactive : ActiveTimer.of timer sequence ∉ q.activeTimers)
      (calling : q.batch.isSome = true) :
      Effect q (.cancelInLoop timer sequence)
        { q with
          cancelingTimers := q.cancelingTimers.insert (.of timer sequence)
          history := q.history ++
            if q.inBatch timer sequence then [.condemned sequence] else [] }
  | ignored {timer sequence} (inactive : ActiveTimer.of timer sequence ∉ q.activeTimers)
      (idle : q.batch = none) : Effect q (.cancelInLoop timer sequence) q
  | fired : Effect q .fdFires { q with pending := false, readable := true }
  | begun {now active} (idle : q.batch = none) :
      Effect q (.beginRead now) (q.begun now active)
  | ran {b e object} (running : q.batch = some b) (next : b.expired[b.ran]? = some e)
      (live : q.heap e.timer = some object) : Effect q .runNext (q.invoked b object.sequence)
  | ended {b settled} (running : q.batch = some b) (complete : b.ran = b.expired.length)
      (spec : Settled { q with callingExpiredTimers := false } b.now b.expired settled) :
      Effect q .endRead settled.finished

/-- An enabled step neither fails an assertion nor touches a timer that was deleted. -/
theorem step_effect {a : Act} (sound : Sound q) (allowed : q.Enabled a) :
    ∃ q', q.step a = .ok q' ∧ Sound q' ∧ Effect q a q' := by
  obtain ⟨consistent, calling⟩ := sound
  cases a with
  | newTimer timer time interval repeats =>
    obtain ⟨free, inside, positive⟩ := allowed
    exact ⟨_, rfl, ⟨consistent.newTimer free inside positive, calling⟩, .created free⟩
  | addTimerInLoop timer =>
    obtain ⟨object, live, after, returned⟩ := addTimerInLoop_eq consistent allowed.1
    cases first : q.earliest object.expiration with
    | false =>
      simp only [first, Bool.false_eq_true, if_false] at returned
      exact ⟨_, returned, ⟨after, calling⟩, .added live allowed.1 first⟩
    | true =>
      simp only [first, if_true] at returned
      exact ⟨_, returned, ⟨after.frame, calling⟩, .armed live allowed.1 first⟩
  | cancelInLoop timer sequence =>
    by_cases active : ActiveTimer.of timer sequence ∈ q.activeTimers
    · obtain ⟨object, live, rfl, after, returned⟩ := cancelInLoop_active consistent active
      exact ⟨_, returned, ⟨after.frame, calling⟩, .cancelled live active⟩
    · have returned := cancelInLoop_inactive consistent active
      cases idle : q.batch with
      | none =>
        have quiet : q.callingExpiredTimers = false := by rw [calling, idle]; rfl
        rw [quiet, if_neg Bool.false_ne_true] at returned
        exact ⟨_, returned, ⟨consistent, calling⟩, .ignored active idle⟩
      | some b =>
        have during : q.batch.isSome = true := by simp [idle]
        rw [if_pos (calling.trans during)] at returned
        exact ⟨_, returned, ⟨consistent.frame, calling⟩, .deferred active during⟩
  | fdFires => exact ⟨_, rfl, ⟨consistent.frame, calling⟩, .fired⟩
  | beginRead now =>
    have idle : q.batch = none := allowed
    rw [inFlight_idle idle] at consistent
    obtain ⟨active, after, returned⟩ := beginRead_ok consistent now
    exact ⟨_, returned, ⟨after, rfl⟩, .begun idle⟩
  | runNext =>
    obtain ⟨b, running, left⟩ := allowed
    rw [inFlight_running running] at consistent
    obtain ⟨e, object, next, live, returned⟩ := runNext_ok running consistent left
    exact ⟨_, returned, ⟨consistent.frame, by rw [invoked, calling, running]; rfl⟩,
      .ran running next live⟩
  | endRead =>
    obtain ⟨b, running, complete⟩ := allowed
    rw [inFlight_running running] at consistent
    obtain ⟨settled, -, after, spec, returned⟩ := endRead_ok running consistent
    refine ⟨_, returned, ⟨?_, ?_⟩, .ended running complete spec⟩
    · unfold finished rearmed
      split
      · exact after.frame
      · exact after.frame
    · have idle : settled.callingExpiredTimers = false := by rw [spec.frame]
      unfold finished rearmed
      split
      · exact idle
      · exact idle

theorem effect_of_ok {a : Act} (sound : Sound q) (allowed : q.Enabled a)
    (stepped : q.step a = .ok q') : Sound q' ∧ Effect q a q' := by
  obtain ⟨next, returned, sound', effect⟩ := step_effect sound allowed
  rw [stepped] at returned
  cases returned
  exact ⟨sound', effect⟩

theorem sound_empty : Sound empty := by
  refine ⟨⟨⟨?_, ?_⟩, ?_, ?_, ?_, ?_, ?_, ?_, ?_, ?_⟩, rfl⟩
  all_goals simp [empty, inFlight]

end Starry.Source.TimerQueue
