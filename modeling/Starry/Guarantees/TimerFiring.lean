import Starry.Foundation.Traces
import Starry.Source.TimerQueueSpec

/-!
# Which timers run, when, and how often

Results for every run of the timer queue, whatever the clock readings, whichever timers the
callbacks add and cancel, and wherever `new` places a timer. They are read off the history:
a batch runs exactly the timers that were due when `getExpired` ran, in the order of their
expirations; and of the events of one timer some never follow others.
-/
namespace Starry.Guarantees.TimerFiring

open Starry.Foundation
open Starry.Source
open Starry.Source.TimerQueue

/-! ## Reading a history -/

/-- The sequence numbers of the queued timers that have expired, in the order of `timers_`. -/
def dueOf (now : Timestamp) (queued : List (Timestamp × Nat)) : List Nat :=
  (queued.filter fun timer => timer.1 ≤ now).map Prod.snd

inductive Stage where
  | idle
  /-- The batch still has these timers to run, in this order. -/
  | running (left : List Nat)
  | wrong
  deriving DecidableEq

def Stage.after : Stage → TimerEvent → Stage
  | .idle, .batch now queued => .running (dueOf now queued)
  | .running (next :: left), .ran sequence => if sequence = next then .running left else .wrong
  | .running [], .batchEnd => .idle
  | stage, .created _ _ => stage
  | stage, .cancelled _ => stage
  | stage, .condemned _ => stage
  | stage, .armed _ _ => stage
  | _, _ => .wrong

/-- A history is followed from its start; `wrong` is reached when a callback runs outside a
batch, out of turn or twice, or when a batch ends before all its timers have run. -/
def stageOf (history : List TimerEvent) : Stage := history.foldl Stage.after .idle

/-- `q'` differs from `q` in nothing that a timer with another sequence number depends on. -/
structure Spares (q : TimerQueue) (sequence : Nat) (q' : TimerQueue) : Prop where
  timers : ∀ timer object, q.heap timer = some object → object.sequence ≠ sequence →
    q'.heap timer = some object ∧
    (∀ time, Entry.of time timer ∈ q'.timers ↔ Entry.of time timer ∈ q.timers) ∧
    (ActiveTimer.of timer object.sequence ∈ q'.activeTimers ↔
      ActiveTimer.of timer object.sequence ∈ q.activeTimers) ∧
    (ActiveTimer.of timer object.sequence ∈ q'.cancelingTimers ↔
      ActiveTimer.of timer object.sequence ∈ q.cancelingTimers)
  rest : q'.unadded = q.unadded ∧ q'.batch = q.batch ∧ q'.lastArmed = q.lastArmed ∧
    q'.pending = q.pending ∧ q'.readable = q.readable

structure FiringSemantics (q : TimerQueue) : Prop where
  /-- No step fails an assertion or reaches a deleted timer. -/
  proceeds : ∀ a, q.Enabled a → ∃ q', q.step a = .ok q'
  /-- Every `handleRead` runs what was due when `getExpired` ran, in that order. -/
  batches : stageOf q.history ≠ .wrong
  /-- What was queued is listed by expiration, and no timer twice. -/
  ordered : ∀ now queued, .batch now queued ∈ q.history →
    queued.Pairwise (fun x y => x.1 ≤ y.1) ∧ (queued.map Prod.snd).Nodup
  oneShot : ∀ sequence, .created sequence false ∈ q.history →
    ¬ [.ran sequence, .ran sequence].Sublist q.history
  cancelled : ∀ sequence, ¬ [.cancelled sequence, .ran sequence].Sublist q.history
  condemned : ∀ sequence,
    ¬ [.condemned sequence, .batchEnd, .ran sequence].Sublist q.history
  /-- The events that these speak of: a cancel of a timer in `activeTimers_`, and a cancel of a
  timer of the batch. -/
  noted : ∀ timer sequence q', q.cancelInLoop timer sequence = .ok q' →
    (ActiveTimer.of timer sequence ∈ q.activeTimers → .cancelled sequence ∈ q'.history) ∧
    (q.inBatch timer sequence = true → .condemned sequence ∈ q'.history)
  spared : ∀ timer sequence q', q.cancelInLoop timer sequence = .ok q' → Spares q sequence q'
  /-- A repeating timer of the batch is put back unless its own id was cancelled in it. -/
  restarted : ∀ b q', q.batch = some b → q.endRead = .ok q' → ∀ e ∈ b.expired, ∀ object,
    q.heap e.timer = some object → object.repeats = true →
    .condemned object.sequence ∉ q.history →
      q'.heap e.timer = some (object.restart b.now) ∧
      Entry.of (object.restart b.now).expiration e.timer ∈ q'.timers ∧
      ActiveTimer.of e.timer object.sequence ∈ q'.activeTimers

/-! ## What may follow in a history -/

def sequence? : TimerEvent → Option Nat
  | .created sequence _ => some sequence
  | .ran sequence => some sequence
  | .cancelled sequence => some sequence
  | .condemned sequence => some sequence
  | _ => none

structure Record (history : List TimerEvent) (count : Nat) : Prop where
  known : ∀ event ∈ history, ∀ sequence ∈ sequence? event, sequence ≤ count
  single : ∀ {sequence repeats repeats'}, .created sequence repeats ∈ history →
    .created sequence repeats' ∈ history → repeats = repeats'
  ordered : ∀ now queued, .batch now queued ∈ history →
    queued.Pairwise (fun x y => x.1 ≤ y.1) ∧ (queued.map Prod.snd).Nodup
  oneShot : ∀ sequence, .created sequence false ∈ history →
    ¬ [.ran sequence, .ran sequence].Sublist history
  cancelled : ∀ sequence, ¬ [.cancelled sequence, .ran sequence].Sublist history
  condemned : ∀ sequence, ¬ [.condemned sequence, .batchEnd, .ran sequence].Sublist history

/-- When an event may come next. -/
def Admissible (history : List TimerEvent) (count : Nat) : TimerEvent → Prop
  | .created sequence _ => count < sequence
  | .batch _ queued => queued.Pairwise (fun x y => x.1 ≤ y.1) ∧ (queued.map Prod.snd).Nodup
  | .ran sequence => (.created sequence false ∈ history → .ran sequence ∉ history) ∧
    .cancelled sequence ∉ history ∧ ¬ [.condemned sequence, .batchEnd].Sublist history
  | _ => True

namespace Record

variable {history : List TimerEvent} {count count' : Nat} {event : TimerEvent}

theorem fresh (record : Record history count) {sequence : Nat} (new : count < sequence)
    (about : sequence ∈ sequence? event) : event ∉ history := by
  intro member
  have bound := record.known event member sequence about
  omega

theorem snoc (record : Record history count) (more : count ≤ count')
    (about : ∀ sequence ∈ sequence? event, sequence ≤ count')
    (admissible : Admissible history count event) : Record (history ++ [event]) count' := by
  refine ⟨?_, ?_, ?_, ?_, ?_, ?_⟩
  · intro event' member sequence mentioned
    rcases List.mem_append.mp member with old | new
    · exact (record.known event' old sequence mentioned).trans more
    · cases List.mem_singleton.mp new
      exact about sequence mentioned
  · intro sequence repeats repeats' first second
    rcases List.mem_append.mp first with old | new
    · rcases List.mem_append.mp second with old' | new'
      · exact record.single old old'
      · cases List.mem_singleton.mp new'
        exact absurd old (record.fresh admissible rfl)
    · cases List.mem_singleton.mp new
      rcases List.mem_append.mp second with old' | new'
      · exact absurd old' (record.fresh admissible rfl)
      · cases List.mem_singleton.mp new'
        rfl
  · intro now queued member
    rcases List.mem_append.mp member with old | new
    · exact record.ordered now queued old
    · cases List.mem_singleton.mp new
      exact admissible
  · intro sequence created twice
    rcases pair_sublist.mp twice with before | ⟨rfl, earlier⟩
    · rcases List.mem_append.mp created with old | new
      · exact record.oneShot sequence old before
      · cases List.mem_singleton.mp new
        exact record.fresh admissible rfl (before.subset List.mem_cons_self)
    · have old : .created sequence false ∈ history := by
        simpa using created
      exact admissible.1 old earlier
  · intro sequence after
    rcases pair_sublist.mp after with before | ⟨rfl, earlier⟩
    · exact record.cancelled sequence before
    · exact admissible.2.1 earlier
  · intro sequence after
    rcases triple_sublist.mp after with before | ⟨rfl, earlier⟩
    · exact record.condemned sequence before
    · exact admissible.2.2 earlier

end Record

/-! ## The invariant -/

variable {q q' : TimerQueue}

/-- The timers of the batch whose callbacks have been invoked. -/
def invokedPart (q : TimerQueue) : List Entry :=
  match q.batch with
  | none => []
  | some b => b.expired.take b.ran

/-- Where the history of the queue should stand. -/
def expectedStage (q : TimerQueue) : Stage :=
  match q.batch with
  | none => .idle
  | some b => .running ((b.expired.drop b.ran).map fun e => q.sequenceAt e.timer)

structure Ledger (q : TimerQueue) : Prop where
  record : Record q.history q.numCreated
  stage : stageOf q.history = expectedStage q
  recorded : ∀ {timer object}, q.heap timer = some object →
    .created object.sequence object.repeats ∈ q.history
  gone : ∀ {timer object}, q.heap timer = some object → .cancelled object.sequence ∉ q.history
  /-- A condemned timer that is still there belongs to the batch, and `reset` will find it. -/
  doomed : ∀ {timer object}, q.heap timer = some object → .condemned object.sequence ∈ q.history →
    timer ∈ q.inFlight.map Entry.timer ∧
      ActiveTimer.of timer object.sequence ∈ q.cancelingTimers
  buried : ∀ {timer object}, q.heap timer = some object →
    ¬ [.condemned object.sequence, .batchEnd].Sublist q.history
  spent : ∀ {timer object}, q.heap timer = some object → object.repeats = false →
    .ran object.sequence ∈ q.history → timer ∈ (invokedPart q).map Entry.timer
  /-- Only condemned timers of the batch are in `cancelingTimers_` under their own id. -/
  deferred : ∀ {timer object}, q.heap timer = some object →
    timer ∈ q.inFlight.map Entry.timer →
    ActiveTimer.of timer object.sequence ∈ q.cancelingTimers →
    .condemned object.sequence ∈ q.history

theorem ledger_empty : Ledger empty := by
  refine ⟨⟨?_, ?_, ?_, ?_, ?_, ?_⟩, rfl, ?_, ?_, ?_, ?_, ?_, ?_⟩
  all_goals simp [empty]

theorem stageOf_snoc (history : List TimerEvent) (event : TimerEvent) :
    stageOf (history ++ [event]) = (stageOf history).after event := by
  simp [stageOf]

/-- The events that belong to no batch. -/
def Aside : TimerEvent → Prop
  | .created _ _ => True
  | .cancelled _ => True
  | .condemned _ => True
  | .armed _ _ => True
  | _ => False

/-- The events that belong to no batch do not change the stage. -/
theorem after_of_aside {event : TimerEvent} (aside : Aside event) (stage : Stage) :
    stage.after event = stage := by
  cases event with
  | batch now queued => cases aside
  | ran sequence => cases aside
  | batchEnd => cases aside
  | created sequence repeats => simp only [Stage.after]
  | cancelled sequence => simp only [Stage.after]
  | condemned sequence => simp only [Stage.after]
  | armed time queued => simp only [Stage.after]

theorem expectedStage_ne_wrong : expectedStage q ≠ .wrong := by
  unfold expectedStage
  split <;> simp

/-- Every live timer of `q'` is one of `q`, at the same address. -/
def Shrinks (q q' : TimerQueue) : Prop :=
  ∀ {timer object}, q'.heap timer = some object → ∃ before, q.heap timer = some before ∧
    before.sequence = object.sequence ∧ before.repeats = object.repeats

namespace Ledger

/-- Events that say nothing about a timer change nothing. -/
theorem resetTimerfd (ledger : Ledger q) (time : Timestamp) : Ledger (q.resetTimerfd time) := by
  refine ⟨ledger.record.snoc (le_refl _) (by simp [sequence?]) trivial, ?_, ?_, ?_, ?_, ?_, ?_, ?_⟩
  · simp only [TimerQueue.resetTimerfd, stageOf_snoc]
    exact (after_of_aside (by trivial) _).trans ledger.stage
  · intro timer object live
    exact List.mem_append_left _ (ledger.recorded live)
  · intro timer object live
    simpa [TimerQueue.resetTimerfd] using ledger.gone live
  · intro timer object live member
    exact ledger.doomed live (by simpa [TimerQueue.resetTimerfd] using member)
  · intro timer object live after
    rcases pair_sublist.mp after with before | ⟨equal, _⟩
    · exact ledger.buried live before
    · cases equal
  · intro timer object live once member
    exact ledger.spent live once (by simpa [TimerQueue.resetTimerfd] using member)
  · intro timer object live flight member
    exact List.mem_append_left _ (ledger.deferred live flight member)

theorem shrink (ledger : Ledger q) (shrinks : Shrinks q q')
    (same : q'.history = q.history ∧ q'.numCreated = q.numCreated ∧ q'.batch = q.batch ∧
      q'.cancelingTimers = q.cancelingTimers)
    (stage : expectedStage q' = expectedStage q) : Ledger q' := by
  obtain ⟨history, count, batch, canceling⟩ := same
  have flight : q'.inFlight = q.inFlight := by simp only [inFlight, batch]
  have invoked : invokedPart q' = invokedPart q := by simp only [invokedPart, batch]
  refine ⟨?_, ?_, ?_, ?_, ?_, ?_, ?_, ?_⟩
  · rw [history, count]
    exact ledger.record
  · rw [history, stage]
    exact ledger.stage
  all_goals
    intro timer object live
    obtain ⟨before, old, sequence, repeats⟩ := shrinks live
    rw [history, ← sequence]
  · rw [← repeats]
    exact ledger.recorded old
  · exact ledger.gone old
  · rw [flight, canceling]
    exact ledger.doomed old
  · exact ledger.buried old
  · rw [invoked, ← repeats]
    exact ledger.spent old
  · rw [flight, canceling]
    exact ledger.deferred old

/-- A new timer has a sequence number that the history does not know. -/
theorem newTimer (ledger : Ledger q) (sound : Sound q) {timer : Nat} {time : Timestamp}
    {interval : Int} {repeats : Bool} (free : q.heap timer = none) :
    Ledger (q.newTimer timer time interval repeats) := by
  have unknown : ∀ {event}, q.numCreated + 1 ∈ sequence? event → event ∉ q.history := by
    intro event about
    exact ledger.record.fresh (Nat.lt_succ_self _) about
  have elsewhere : timer ∉ q.inFlight.map Entry.timer := by
    intro running
    obtain ⟨e, listed, rfl⟩ := List.mem_map.mp running
    obtain ⟨object, live, _⟩ := sound.consistent.running e listed
    rw [free] at live
    cases live
  refine ⟨?_, ?_, ?_, ?_, ?_, ?_, ?_, ?_⟩
  · refine ledger.record.snoc (Nat.le_succ _) ?_ (Nat.lt_succ_self _)
    intro sequence about
    cases about
    exact le_refl _
  · have stage : expectedStage (q.newTimer timer time interval repeats) = expectedStage q := by
      unfold expectedStage
      cases running : q.batch with
      | none => simp only [TimerQueue.newTimer, running]
      | some b =>
        simp only [TimerQueue.newTimer, running, Stage.running.injEq]
        refine List.map_congr_left fun e member => ?_
        have different : e.timer ≠ timer := by
          intro equal
          refine elsewhere (equal ▸ List.mem_map_of_mem ?_)
          rw [inFlight_running running]
          exact List.mem_of_mem_drop member
        simp [sequenceAt, different]
    rw [stage, ← ledger.stage]
    simp only [TimerQueue.newTimer, stageOf_snoc]
    exact after_of_aside (by trivial) _
  all_goals intro p object live
  · rcases newTimer_heap live with ⟨_, rfl⟩ | old
    · exact List.mem_append_right _ List.mem_cons_self
    · exact List.mem_append_left _ (ledger.recorded old)
  · intro member
    have before : .cancelled object.sequence ∈ q.history := by
      simpa [TimerQueue.newTimer] using member
    rcases newTimer_heap live with ⟨_, rfl⟩ | old
    · exact unknown rfl before
    · exact ledger.gone old before
  · intro member
    have before : .condemned object.sequence ∈ q.history := by
      simpa [TimerQueue.newTimer] using member
    rcases newTimer_heap live with ⟨_, rfl⟩ | old
    · exact absurd before (unknown rfl)
    · exact ledger.doomed old before
  · intro after
    rcases pair_sublist.mp after with before | ⟨equal, _⟩
    · rcases newTimer_heap live with ⟨_, rfl⟩ | old
      · exact unknown rfl (before.subset List.mem_cons_self)
      · exact ledger.buried old before
    · cases equal
  · intro once member
    have before : .ran object.sequence ∈ q.history := by
      simpa [TimerQueue.newTimer] using member
    rcases newTimer_heap live with ⟨_, rfl⟩ | old
    · exact absurd before (unknown rfl)
    · exact ledger.spent old once before
  · intro flight member
    rcases newTimer_heap live with ⟨rfl, _⟩ | old
    · exact absurd flight elsewhere
    · exact List.mem_append_left _ (ledger.deferred old flight member)

/-- A timer that is cancelled leaves both sets, and the history says so. -/
theorem cancelled (ledger : Ledger q) (sound : Sound q) {timer : Nat} {object : Timer}
    (live : q.heap timer = some object)
    (active : ActiveTimer.of timer object.sequence ∈ q.activeTimers) :
    Ledger ((q.dropped timer object).record (.cancelled object.sequence)) := by
  have survives : ∀ {p found}, (q.dropped timer object).heap p = some found →
      p ≠ timer ∧ q.heap p = some found := by
    intro p found stored
    by_cases equal : p = timer
    · simp [dropped, delete, equal] at stored
    · exact ⟨equal, by simpa [dropped, delete, equal] using stored⟩
  have shrunk : Ledger (q.dropped timer object) := by
    refine ledger.shrink ?_ ⟨rfl, rfl, rfl, rfl⟩ ?_
    · intro p found stored
      exact ⟨found, (survives stored).2, rfl, rfl⟩
    · unfold expectedStage
      cases running : q.batch with
      | none => simp only [dropped, delete, running]
      | some b =>
        simp only [dropped, delete, running, Stage.running.injEq]
        refine List.map_congr_left fun e member => ?_
        have different : e.timer ≠ timer := by
          rintro rfl
          have listed : e ∈ q.inFlight := by
            rw [inFlight_running running]
            exact List.mem_of_mem_drop member
          exact sound.consistent.inactive_of_running listed live active
        simp [sequenceAt, different]
  refine ⟨?_, ?_, ?_, ?_, ?_, ?_, ?_, ?_⟩
  · refine shrunk.record.snoc (le_refl _) ?_ trivial
    intro sequence about
    cases about
    exact (sound.consistent.sequences live).2
  · simp only [TimerQueue.record, stageOf_snoc]
    exact (after_of_aside (by trivial) _).trans shrunk.stage
  all_goals intro p found stored
  · exact List.mem_append_left _ (shrunk.recorded stored)
  · intro member
    rcases List.mem_append.mp member with before | new
    · exact shrunk.gone stored before
    · have equal : found.sequence = object.sequence := by simpa using new
      obtain ⟨different, old⟩ := survives stored
      exact different (sound.consistent.distinct old live equal)
  · intro member
    exact shrunk.doomed stored (by simpa [TimerQueue.record] using member)
  · intro after
    rcases pair_sublist.mp after with before | ⟨equal, _⟩
    · exact shrunk.buried stored before
    · cases equal
  · intro once member
    exact shrunk.spent stored once (by simpa [TimerQueue.record] using member)
  · intro flight member
    exact List.mem_append_left _ (shrunk.deferred stored flight member)

theorem canceling (ledger : Ledger q) (sound : Sound q) (timer sequence : Nat) :
    Ledger { q with
      cancelingTimers := q.cancelingTimers.insert (.of timer sequence)
      history := q.history ++ if q.inBatch timer sequence then [.condemned sequence] else [] } := by
  have more : ∀ {p s}, ActiveTimer.of p s ∈ q.cancelingTimers →
      ActiveTimer.of p s ∈ q.cancelingTimers.insert (.of timer sequence) :=
    fun member => OrderedSet.mem_insert.mpr (.inr member)
  cases condemned : q.inBatch timer sequence with
  | false =>
    simp only [Bool.false_eq_true, if_false, List.append_nil]
    refine ⟨ledger.record, ledger.stage, ledger.recorded, ledger.gone, ?_, ledger.buried,
      ledger.spent, ?_⟩
    · intro p object live member
      exact ⟨(ledger.doomed live member).1, more (ledger.doomed live member).2⟩
    · intro p object live flight member
      rcases OrderedSet.mem_insert.mp member with new | old
      · obtain ⟨rfl, rfl⟩ := active_of_inj.mp new
        have now : q.inBatch p object.sequence = true :=
          inBatch_iff.mpr ⟨flight, object, live, rfl⟩
        rw [condemned] at now
        cases now
      · exact ledger.deferred live flight old
  | true =>
    obtain ⟨flight, own, found, equal⟩ := inBatch_iff.mp condemned
    simp only [if_true]
    refine ⟨?_, ?_, ?_, ?_, ?_, ?_, ?_, ?_⟩
    · refine ledger.record.snoc (le_refl _) ?_ trivial
      intro s about
      cases about
      exact equal ▸ (sound.consistent.sequences found).2
    · simp only [stageOf_snoc]
      exact (after_of_aside (by trivial) _).trans ledger.stage
    all_goals intro p object live
    · exact List.mem_append_left _ (ledger.recorded live)
    · simpa using ledger.gone live
    · intro member
      rcases List.mem_append.mp member with before | new
      · exact ⟨(ledger.doomed live before).1, more (ledger.doomed live before).2⟩
      · have same : object.sequence = sequence := by simpa using new
        have address := sound.consistent.distinct live found (same.trans equal.symm)
        subst address
        exact ⟨flight, same ▸ OrderedSet.mem_insert.mpr (.inl rfl)⟩
    · intro after
      rcases pair_sublist.mp after with before | ⟨clash, _⟩
      · exact ledger.buried live before
      · cases clash
    · intro once member
      exact ledger.spent live once (by simpa using member)
    · intro flight' member
      rcases OrderedSet.mem_insert.mp member with new | old
      · rw [(active_of_inj.mp new).2]
        exact List.mem_append_right _ List.mem_cons_self
      · exact List.mem_append_left _ (ledger.deferred live flight' old)

/-- `getExpired` goes through the timers in the order of their times. -/
theorem snapshot_ordered (sound : Sound q) :
    q.snapshot.Pairwise (fun x y => x.1 ≤ y.1) ∧ (q.snapshot.map Prod.snd).Nodup := by
  rw [snapshot_eq, List.map_map, List.pairwise_map]
  have times : q.timers.elements.Pairwise fun e e' => e.time ≤ e'.time :=
    q.timers.ascending.imp fun lower => time_mono (le_of_lt lower)
  refine ⟨times, ?_⟩
  refine List.Nodup.map_on ?_ (q.timers.ascending.imp ne_of_lt)
  intro e member e' member' same
  obtain ⟨object, live, _⟩ := sound.consistent.of_entry member
  obtain ⟨object', live', _⟩ := sound.consistent.of_entry member'
  simp only [Function.comp_apply, sequenceAt_live live, sequenceAt_live live'] at same
  exact sound.consistent.entry_eq member member' (sound.consistent.distinct live live' same)

theorem dueOf_snapshot (sound : Sound q) (now : Timestamp) :
    dueOf now q.snapshot = (q.due now).map fun e => q.sequenceAt e.timer := by
  rw [snapshot_eq, dueOf, List.filter_map, List.map_map]
  have same : q.timers.elements.filter ((fun timer : Timestamp × Nat => decide (timer.1 ≤ now)) ∘
      fun e => (e.time, q.sequenceAt e.timer)) = q.due now := by
    refine List.filter_congr fun e member => ?_
    obtain ⟨object, live, _⟩ := sound.consistent.of_entry member
    have low := @lt_sentry e now (sound.consistent.addresses live)
    simp only [Function.comp_apply, low]
  rw [same]
  rfl

/-- `handleRead` begins its batch with all that is due. -/
theorem begun (ledger : Ledger q) (sound : Sound q) (idle : q.batch = none) (now : Timestamp)
    (active : OrderedSet ActiveTimer) : Ledger (q.begun now active) := by
  have nothing := inFlight_idle idle
  have none_ran : invokedPart q = [] := by simp only [invokedPart, idle]
  refine ⟨ledger.record.snoc (le_refl _) (by simp [sequence?]) (snapshot_ordered sound),
    ?_, ?_, ?_, ?_, ?_, ?_, ?_⟩
  · have before : stageOf q.history = .idle := by
      rw [ledger.stage]
      simp only [expectedStage, idle]
    simp only [TimerQueue.begun, stageOf_snoc, before, Stage.after]
    rw [dueOf_snapshot sound]
    rfl
  all_goals intro p object live
  · exact List.mem_append_left _ (ledger.recorded live)
  · simpa [TimerQueue.begun] using ledger.gone live
  · intro member
    have before : .condemned object.sequence ∈ q.history := by
      simpa [TimerQueue.begun] using member
    have flight := (ledger.doomed live before).1
    simp [nothing] at flight
  · intro after
    rcases pair_sublist.mp after with before | ⟨clash, _⟩
    · exact ledger.buried live before
    · cases clash
  · intro once member
    have before : .ran object.sequence ∈ q.history := by
      simpa [TimerQueue.begun] using member
    have part := ledger.spent live once before
    simp [none_ran] at part
  · intro _ member
    exact absurd member OrderedSet.not_mem_empty

theorem ran (ledger : Ledger q) (sound : Sound q) {b : Batch} {e : Entry} {object : Timer}
    (running : q.batch = some b) (next : b.expired[b.ran]? = some e)
    (live : q.heap e.timer = some object) : Ledger (q.invoked b object.sequence) := by
  obtain ⟨inside, place⟩ := List.getElem?_eq_some_iff.mp next
  have flight := inFlight_running running
  have part : invokedPart q = b.expired.take b.ran := by simp only [invokedPart, running]
  have grown : invokedPart (q.invoked b object.sequence) = b.expired.take b.ran ++ [e] := by
    simp only [invokedPart, invoked]
    rw [List.take_add_one, next]
    rfl
  have distinct : e.timer ∉ (b.expired.take b.ran).map Entry.timer := by
    have once := sound.consistent.running_once
    rw [flight, ← List.take_append_drop b.ran b.expired, List.map_append] at once
    intro member
    refine (List.nodup_append.mp once).2.2 _ member _ ?_ rfl
    refine List.mem_map_of_mem ?_
    rw [List.drop_eq_getElem_cons inside, place]
    exact List.mem_cons_self
  refine ⟨?_, ?_, ?_, ?_, ?_, ?_, ?_, ?_⟩
  · refine ledger.record.snoc (le_refl _) ?_ ⟨?_, ledger.gone live, ledger.buried live⟩
    · intro sequence about
      cases about
      exact (sound.consistent.sequences live).2
    · intro created again
      have once := ledger.record.single created (ledger.recorded live)
      have already := ledger.spent live once.symm again
      rw [part] at already
      exact distinct already
  · have before : stageOf q.history =
        .running (object.sequence :: (b.expired.drop (b.ran + 1)).map fun e => q.sequenceAt e.timer) := by
      rw [ledger.stage]
      simp only [expectedStage, running]
      rw [List.drop_eq_getElem_cons inside, place, List.map_cons, sequenceAt_live live]
    simp only [invoked, stageOf_snoc, before, Stage.after, if_true]
    rfl
  all_goals intro p found stored
  · exact List.mem_append_left _ (ledger.recorded stored)
  · simpa [invoked] using ledger.gone stored
  · intro member
    have before : .condemned found.sequence ∈ q.history := by simpa [invoked] using member
    have still := ledger.doomed stored before
    rw [flight] at still
    exact still
  · intro after
    rcases pair_sublist.mp after with before | ⟨clash, _⟩
    · exact ledger.buried stored before
    · cases clash
  · intro once member
    rw [grown, List.map_append]
    rcases List.mem_append.mp member with before | new
    · have already := ledger.spent stored once before
      rw [part] at already
      exact List.mem_append_left _ already
    · have same : found.sequence = object.sequence := by simpa using new
      rw [sound.consistent.distinct stored live same]
      exact List.mem_append_right _ List.mem_cons_self
  · intro listed member
    refine List.mem_append_left _ (ledger.deferred stored ?_ member)
    rw [flight]
    exact listed

/-- `reset` leaves of the batch only repeating timers that were not condemned. -/
theorem finish (ledger : Ledger q) {b : Batch} (running : q.batch = some b)
    (complete : b.ran = b.expired.length)
    (kept : ∀ {timer object}, q.heap timer = some object → timer ∈ b.expired.map Entry.timer →
      q.Kept timer object) :
    Ledger { q with batch := none, history := q.history ++ [.batchEnd] } := by
  have flight := inFlight_running running
  have part : invokedPart q = b.expired := by
    simp only [invokedPart, running]
    exact List.take_of_length_le complete.ge
  have uncondemned : ∀ {timer object}, q.heap timer = some object →
      .condemned object.sequence ∉ q.history := by
    intro timer object live member
    obtain ⟨listed, pair⟩ := ledger.doomed live member
    rw [flight] at listed
    exact (kept live listed).2 pair
  refine ⟨ledger.record.snoc (le_refl _) (by simp [sequence?]) trivial, ?_, ?_, ?_, ?_, ?_, ?_, ?_⟩
  · have before : stageOf q.history = .running [] := by
      rw [ledger.stage]
      simp only [expectedStage, running, complete, List.drop_length, List.map_nil]
    simp only [stageOf_snoc, before]
    rfl
  all_goals intro p object live
  · exact List.mem_append_left _ (ledger.recorded live)
  · simpa using ledger.gone live
  · intro member
    have before : .condemned object.sequence ∈ q.history := by simpa using member
    exact absurd before (uncondemned live)
  · intro after
    rcases pair_sublist.mp after with before | ⟨_, member⟩
    · exact ledger.buried live before
    · exact uncondemned live member
  · intro once member
    have before : .ran object.sequence ∈ q.history := by simpa using member
    have listed := ledger.spent live once before
    rw [part] at listed
    have repeating := (kept live listed).1
    rw [once] at repeating
    cases repeating
  · intro listed
    simp [inFlight] at listed

/-- The batch ends in `reset`, which restarts or deletes each of its timers. -/
theorem ended (ledger : Ledger q) (sound : Sound q) {b : Batch} {settled : TimerQueue}
    (running : q.batch = some b) (complete : b.ran = b.expired.length)
    (spec : Settled { q with callingExpiredTimers := false } b.now b.expired settled) :
    Ledger settled.finished := by
  have flight := inFlight_running running
  have cases_heap : ∀ {timer object}, settled.heap timer = some object →
      (timer ∉ b.expired.map Entry.timer ∧ q.heap timer = some object) ∨
        ∃ before, q.heap timer = some before ∧ q.Kept timer before ∧
          object = before.restart b.now := by
    intro timer object live
    by_cases listed : timer ∈ b.expired.map Entry.timer
    · right
      obtain ⟨e, member, rfl⟩ := List.mem_map.mp listed
      obtain ⟨before, old, _⟩ := sound.consistent.running e (flight ▸ member)
      by_cases keep : q.Kept e.timer before
      · have stored := (spec.restarted e member before old keep).1
        rw [live] at stored
        cases stored
        exact ⟨before, old, keep, rfl⟩
      · have lost := spec.deleted e member before old keep
        rw [live] at lost
        cases lost
    · left
      have same := spec.others timer listed
      rw [live] at same
      exact ⟨listed, same.symm⟩
  have batch : settled.batch = some b := by
    rw [spec.frame]
    exact running
  have shrunk : Ledger settled := by
    refine ledger.shrink ?_ ?_ ?_
    · intro timer object live
      rcases cases_heap live with ⟨_, old⟩ | ⟨before, old, _, rfl⟩
      · exact ⟨object, old, rfl, rfl⟩
      · exact ⟨before, old, rfl, rfl⟩
    · rw [spec.frame]
      exact ⟨rfl, rfl, rfl, rfl⟩
    · simp only [expectedStage, batch, running, complete, List.drop_length, List.map_nil]
  have kept : ∀ {timer object}, settled.heap timer = some object →
      timer ∈ b.expired.map Entry.timer → settled.Kept timer object := by
    intro timer object live listed
    have canceling : settled.cancelingTimers = q.cancelingTimers := by rw [spec.frame]
    rcases cases_heap live with ⟨apart, _⟩ | ⟨before, _, keep, rfl⟩
    · exact absurd listed apart
    · refine ⟨keep.1, ?_⟩
      rw [canceling]
      exact keep.2
  unfold finished rearmed
  split
  · exact (shrunk.resetTimerfd _).finish batch complete kept
  · exact shrunk.finish batch complete kept

/-- Every step keeps the history in step with the queue. -/
theorem effect {a : Act} (ledger : Ledger q) (sound : Sound q) (effect : Effect q a q') :
    Ledger q' := by
  have framed : ∀ timer object, Ledger (q.added timer object) := fun _ _ =>
    ⟨ledger.record, ledger.stage, ledger.recorded, ledger.gone, ledger.doomed, ledger.buried,
      ledger.spent, ledger.deferred⟩
  cases effect with
  | created free => exact ledger.newTimer sound free
  | added => exact framed _ _
  | armed => exact (framed _ _).resetTimerfd _
  | cancelled live active => exact ledger.cancelled sound live active
  | deferred => exact ledger.canceling sound _ _
  | ignored => exact ledger
  | fired =>
    exact ⟨ledger.record, ledger.stage, ledger.recorded, ledger.gone, ledger.doomed,
      ledger.buried, ledger.spent, ledger.deferred⟩
  | begun idle => exact ledger.begun sound idle _ _
  | ran running next live => exact ledger.ran sound running next live
  | ended running complete spec => exact ledger.ended sound running complete spec

end Ledger

/-! ## Cancelling one id -/

/-- `cancelInLoop` for one id leaves every other timer as it is. -/
theorem spares (sound : Sound q) {timer sequence : Nat}
    (success : q.cancelInLoop timer sequence = .ok q') : Spares q sequence q' := by
  by_cases active : ActiveTimer.of timer sequence ∈ q.activeTimers
  · obtain ⟨object, live, rfl, _, returned⟩ := cancelInLoop_active sound.consistent active
    rw [returned] at success
    cases success
    refine ⟨?_, rfl, rfl, rfl, rfl, rfl⟩
    intro p other stored different
    have apart : p ≠ timer := by
      rintro rfl
      rw [live] at stored
      cases stored
      exact different rfl
    refine ⟨?_, fun time => ?_, ?_, Iff.rfl⟩
    · simpa [record, dropped, delete, apart] using stored
    · simp [record, dropped, apart]
    · simp [record, dropped, apart]
  · rw [cancelInLoop_inactive sound.consistent active] at success
    cases calling : q.callingExpiredTimers with
    | false =>
      rw [calling, if_neg Bool.false_ne_true] at success
      cases success
      exact ⟨fun _ _ stored _ => ⟨stored, fun _ => Iff.rfl, Iff.rfl, Iff.rfl⟩, rfl, rfl, rfl, rfl, rfl⟩
    | true =>
      rw [if_pos calling] at success
      cases success
      refine ⟨?_, rfl, rfl, rfl, rfl, rfl⟩
      intro p other stored different
      refine ⟨stored, fun _ => Iff.rfl, Iff.rfl, ?_⟩
      rw [OrderedSet.mem_insert, active_of_inj]
      tauto

/-- A timer of the batch is in neither set, so it is the second branch that finds it. -/
theorem condemns (sound : Sound q) {timer sequence : Nat} (batched : q.inBatch timer sequence = true)
    (success : q.cancelInLoop timer sequence = .ok q') : .condemned sequence ∈ q'.history := by
  obtain ⟨flight, object, live, rfl⟩ := inBatch_iff.mp batched
  obtain ⟨e, listed, rfl⟩ := List.mem_map.mp flight
  have inactive := sound.consistent.inactive_of_running listed live
  have calling : q.callingExpiredTimers = true := by
    rw [sound.calling]
    cases idle : q.batch with
    | none => simp [inFlight_idle idle] at listed
    | some b => rfl
  rw [cancelInLoop_inactive sound.consistent inactive, if_pos calling, if_pos batched] at success
  cases success
  exact List.mem_append_right _ List.mem_cons_self

theorem cancels (sound : Sound q) {timer sequence : Nat}
    (active : ActiveTimer.of timer sequence ∈ q.activeTimers)
    (success : q.cancelInLoop timer sequence = .ok q') : .cancelled sequence ∈ q'.history := by
  obtain ⟨object, _, _, _, returned⟩ := cancelInLoop_active sound.consistent active
  rw [returned] at success
  cases success
  exact List.mem_append_right _ List.mem_cons_self

/-- A repeating timer of the batch that nobody cancelled is queued again. -/
theorem restarts (ledger : Ledger q) (sound : Sound q) {b : Batch} (running : q.batch = some b)
    (success : q.endRead = .ok q') {e : Entry} {object : Timer} (listed : e ∈ b.expired)
    (live : q.heap e.timer = some object) (repeating : object.repeats = true)
    (spared : .condemned object.sequence ∉ q.history) :
    q'.heap e.timer = some (object.restart b.now) ∧
      Entry.of (object.restart b.now).expiration e.timer ∈ q'.timers ∧
      ActiveTimer.of e.timer object.sequence ∈ q'.activeTimers := by
  have flight := inFlight_running running
  have consistent := sound.consistent
  rw [flight] at consistent
  obtain ⟨settled, -, after, spec, returned⟩ := endRead_ok running consistent
  rw [returned] at success
  cases success
  have keep : q.Kept e.timer object := by
    refine ⟨repeating, fun pair => spared (ledger.deferred live ?_ pair)⟩
    rw [flight]
    exact List.mem_map_of_mem listed
  obtain ⟨stored, entry⟩ := spec.restarted e listed object live keep
  have active := (after.active_iff stored).mpr entry
  unfold finished rearmed
  split
  · exact ⟨stored, entry, active⟩
  · exact ⟨stored, entry, active⟩

/-! ## Every run -/

theorem step_ledger (q : TimerQueue) (a : Act) (q' : TimerQueue) (before : Sound q ∧ Ledger q)
    (allowed : machine.enabled q a) (stepped : machine.step q a = .ok q') : Sound q' ∧ Ledger q' := by
  obtain ⟨sound, ledger⟩ := before
  obtain ⟨sound', effect⟩ := effect_of_ok sound allowed stepped
  exact ⟨sound', ledger.effect sound effect⟩

theorem run_ledger {actions : List Act} (run : machine.Run empty actions q) : Sound q ∧ Ledger q :=
  @Machine.Run.invariant _ _ _ _ (fun q => Sound q ∧ Ledger q) _ _ _ step_ledger
    ⟨sound_empty, ledger_empty⟩ run

/-- The firing semantics holds in every state that the timer queue reaches. -/
theorem firing_semantics {actions : List Act} (run : machine.Run empty actions q) :
    FiringSemantics q := by
  obtain ⟨sound, ledger⟩ := run_ledger run
  refine ⟨?_, ?_, ledger.record.ordered, ledger.record.oneShot, ledger.record.cancelled,
    ledger.record.condemned, ?_, ?_, ?_⟩
  · intro a allowed
    obtain ⟨q', returned, _⟩ := step_effect sound allowed
    exact ⟨q', returned⟩
  · rw [ledger.stage]
    exact expectedStage_ne_wrong
  · intro timer sequence q' success
    exact ⟨fun active => cancels sound active success, fun batched => condemns sound batched success⟩
  · intro timer sequence q' success
    exact spares sound success
  · intro b q' running success e listed object live repeating spared
    exact restarts ledger sound running success listed live repeating spared

/-- A repeating timer that cancels itself, a one-shot timer of the same batch, a third timer at
the address of the second, which a cancel of the old id does not reach, and a fourth, which is
cancelled while it is queued. -/
theorem firing_semantics_address_reused : ∃ q, machine.Run empty
      [.newTimer 8 5 0 false, .addTimerInLoop 8, .newTimer 16 3 1 true, .addTimerInLoop 16,
        .fdFires, .beginRead 10, .runNext, .cancelInLoop 16 2, .runNext, .endRead,
        .newTimer 8 20 0 false, .addTimerInLoop 8, .cancelInLoop 8 1, .newTimer 24 25 0 false,
        .addTimerInLoop 24, .cancelInLoop 24 4, .beginRead 30, .runNext, .endRead] q ∧
    decide (.condemned 2 ∈ q.history ∧ .cancelled 4 ∈ q.history ∧
      [.ran 2, .ran 1, .batchEnd, .ran 3].Sublist q.history) = true ∧
    FiringSemantics q := by
  obtain ⟨q, run, passes⟩ := Machine.exists_run_of_exec (M := machine) empty
      [.newTimer 8 5 0 false, .addTimerInLoop 8, .newTimer 16 3 1 true, .addTimerInLoop 16,
        .fdFires, .beginRead 10, .runNext, .cancelInLoop 16 2, .runNext, .endRead,
        .newTimer 8 20 0 false, .addTimerInLoop 8, .cancelInLoop 8 1, .newTimer 24 25 0 false,
        .addTimerInLoop 24, .cancelInLoop 24 4, .beginRead 30, .runNext, .endRead]
      (fun q => decide (.condemned 2 ∈ q.history ∧ .cancelled 4 ∈ q.history ∧
        [.ran 2, .ran 1, .batchEnd, .ran 3].Sublist q.history)) (by decide +kernel)
  exact ⟨q, run, passes, firing_semantics run⟩

end Starry.Guarantees.TimerFiring
