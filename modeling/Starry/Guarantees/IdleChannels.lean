import Starry.Guarantees.PollerAgreement

/-!
# Channels without interest

`updateChannel` deletes an fd whose channel has lost its last interest, but only in `kAdded`:
an update without interest of a channel that is new or already deleted adds its fd to the
kernel's set with an empty mask, for which epoll still reports hang-ups and errors.

`idle_unmonitored_iff` says that the runs in which no channel without interest is ever
monitored are the runs in which no such update is made.
-/
namespace Starry.Guarantees.IdleChannels

open Starry.Foundation
open Starry.Source
open Starry.Guarantees.PollerAgreement

variable {ι : Type}

/-- The interest of the channel after the call. -/
def interest (ch : Channel) : Call → EventMask
  | .enableReading => ch.events ||| Channel.kReadEvent
  | .disableReading => ch.events &&& ~~~ Channel.kReadEvent
  | .enableWriting => ch.events ||| Channel.kWriteEvent
  | .disableWriting => ch.events &&& ~~~ Channel.kWriteEvent
  | .disableAll => Channel.kNoneEvent
  | .remove => ch.events

/-- An update that leaves no interest finds the channel in `kAdded`. -/
def Registered (s : Channels ι) (a : ι × Call) : Prop :=
  a.2 = .remove ∨ (s.channel a.1).index = .kAdded ∨
    interest (s.channel a.1) a.2 ≠ Channel.kNoneEvent

/-- A channel without interest is not in the kernel's set, and so not in `kAdded`. -/
structure Unmonitored (s : Channels ι) : Prop where
  absent : ∀ i, (s.channel i).events = Channel.kNoneEvent → s.poller.epollSet (s.channel i).fd = none
  added : ∀ i, (s.channel i).index = .kAdded → (s.channel i).events ≠ Channel.kNoneEvent

def Interested (ch : Channel) : Prop := ch.index = .kAdded → ch.events ≠ Channel.kNoneEvent

variable {fd : ι → Nat} {ch : Channel} {p : EpollPoller} {s t : Channels ι}

/-- An idle channel that is not in `kAdded` has no entry in the epoll set. -/
theorem absent_of_interested (agrees : ch.Agrees p) (interested : Interested ch)
    (idle : ch.events = Channel.kNoneEvent) : p.epollSet ch.fd = none := by
  unfold Channel.Agrees at agrees
  split at agrees
  next => exact agrees.2.1
  next place => exact absurd idle (interested place)
  next => exact agrees.2.1

/-- The kernel watches no idle channel exactly if every channel in the set is interested. -/
theorem unmonitored_iff (inv : Inv fd s) : Unmonitored s ↔ ∀ i, Interested (s.channel i) := by
  constructor
  · intro unmonitored i
    exact unmonitored.added i
  · intro interested
    refine ⟨fun i idle => ?_, interested⟩
    exact absent_of_interested (inv.settled i).agrees (interested i) idle

/-! ## One call -/

theorem updated_interested (ch : Channel) (events : EventMask) :
    Interested (ch.updated events) ↔ ch.index = .kAdded ∨ events ≠ Channel.kNoneEvent := by
  unfold Interested Channel.updated Channel.kNoneEvent
  by_cases added : ch.index = .kAdded
  · by_cases idle : events = 0#32
    · simp [added, idle]
    · simp [added, idle]
  · simp [added]

theorem call_interested {i : ι} {call : Call} {out : Channel × EpollPoller}
    (success : call.op (s.channel i) s.poller = .ok out) :
    Interested out.1 ↔ Registered s (i, call) := by
  cases call with
  | remove =>
    obtain ⟨shape, _⟩ := Channel.remove_ok success
    rw [shape]
    simp [Interested, Channel.removed, Registered]
  | enableReading | disableReading | enableWriting | disableWriting | disableAll =>
    rw [Channel.setEvents_ok success, updated_interested]
    simp [Registered, interest]

variable [DecidableEq ι]

/-- The call decides about its own channel; the others are as before. -/
theorem step_unmonitored {a : ι × Call} (inv' : Inv fd t) (unmonitored : Unmonitored s)
    (stepped : machine.step s a = .ok t) : Registered s a ↔ Unmonitored t := by
  obtain ⟨i, call⟩ := a
  obtain ⟨⟨channel, poller⟩, success, stepped⟩ := bind_eq_ok stepped
  cases stepped
  rw [unmonitored_iff inv', ← call_interested success]
  constructor
  · intro interested j
    by_cases same : j = i
    · subst same
      simpa using interested
    · have other : Interested (s.channel j) := unmonitored.added j
      simpa [same] using other
  · intro interested
    simpa using interested i

/-- For any set of channels and any sequence of calls. -/
theorem idle_unmonitored_iff {address : ι → Nat} {poller : EpollPoller} {actions : List (ι × Call)}
    (distinct : Function.Injective fd)
    (unknown : ∀ i, poller.channels (fd i) = none ∧ poller.epollSet (fd i) = none) :
    (machine.restrict Registered).Run (.new address fd poller) actions s ↔
      (machine.ensuring fun _ _ t => Unmonitored t).Run (.new address fd poller) actions s := by
  have start : Inv fd (Channels.new address fd poller) := new_inv unknown
  refine @Machine.restrict_iff_ensuring _ _ _ machine _ _ (fun s => Inv fd s ∧ Unmonitored s) _ _ _
    ?_ ?_ ?_
  · intro s a t ⟨inv, unmonitored⟩ enabled stepped
    exact step_unmonitored ((inv.step distinct enabled).of_ok stepped) unmonitored stepped
  · intro s a t ⟨inv, unmonitored⟩ enabled met stepped
    have inv' := (inv.step distinct enabled).of_ok stepped
    exact ⟨inv', (step_unmonitored inv' unmonitored stepped).mp met⟩
  · refine ⟨start, (unmonitored_iff start).mpr fun i added => ?_⟩
    cases added

instance (s : Channels ι) (a : ι × Call) : Decidable (Registered s a) :=
  inferInstanceAs (Decidable (_ ∨ _ ∨ _))

/-- A channel loses its interest, gets it back, loses it again and is removed. -/
def onAndOff : List (Unit × Call) :=
  [((), .enableReading), ((), .disableAll), ((), .enableWriting), ((), .disableWriting),
    ((), .remove)]

theorem idle_unmonitored_iff_on_and_off :
    ∃ s : Channels Unit, (s.channel ()).index = .kNew ∧
      (machine.ensuring fun _ _ t => Unmonitored t).Run
        (.new (fun _ => 100) (fun _ => 5) .empty) onAndOff s := by
  obtain ⟨s, run, holds⟩ := (machine.restrict Registered).exists_run_of_exec
    (Channels.new (fun _ : Unit => 100) (fun _ => 5) .empty) onAndOff
    (fun s => decide ((s.channel ()).index = .kNew)) (by decide +kernel)
  have distinct : Function.Injective fun _ : Unit => 5 := fun _ _ _ => rfl
  exact ⟨s, of_decide_eq_true holds, (idle_unmonitored_iff distinct fun _ => ⟨rfl, rfl⟩).mp run⟩

/-- As `stopRead` and then `handleClose` do, with nothing to write. -/
def disabledTwice : List (Unit × Call) :=
  [((), .enableReading), ((), .disableReading), ((), .disableAll)]

theorem disabled_channel_monitored :
    ∃ s : Channels Unit, machine.Run (.new (fun _ => 100) (fun _ => 5) .empty) disabledTwice s ∧
      (s.channel ()).events = Channel.kNoneEvent ∧
      s.poller.epollSet (s.channel ()).fd = some (Channel.kNoneEvent, 100) ∧ ¬Unmonitored s := by
  obtain ⟨s, run, holds⟩ := machine.exists_run_of_exec
    (Channels.new (fun _ : Unit => 100) (fun _ => 5) .empty) disabledTwice
    (fun s => decide ((s.channel ()).events = Channel.kNoneEvent ∧
      s.poller.epollSet (s.channel ()).fd = some (Channel.kNoneEvent, 100))) (by decide +kernel)
  obtain ⟨idle, monitored⟩ := of_decide_eq_true holds
  refine ⟨s, run, idle, monitored, fun unmonitored => ?_⟩
  rw [unmonitored.absent () idle] at monitored
  cases monitored

end Starry.Guarantees.IdleChannels
