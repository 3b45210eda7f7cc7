import Starry.Foundation.Runs
import Starry.Source.EpollPoller

/-!
# Channels and the poller

Any family of channels with distinct fds on one poller, and any sequence of their calls. The
three places where a registration is recorded, `index_`, `channels_` and the kernel's set,
never diverge, so no assertion of `updateChannel` and `removeChannel` fails and the kernel
rejects no `epoll_ctl`. A call touches the poller at its own fd only, which is what lets the
agreement of one channel be carried past the calls of the others.

`remove` is called on a channel without interest that has been updated since its last
removal, and not from within the handling of events. `addedToLoop_` says the former: `update`
sets it and `remove` clears it.
-/
namespace Starry.Guarantees.PollerAgreement

open Starry.Foundation
open Starry.Source

variable {ι : Type}

structure Channels (ι : Type) where
  channel : ι → Channel
  poller : EpollPoller

inductive Call where
  | enableReading | disableReading | enableWriting | disableWriting | disableAll | remove
  deriving DecidableEq

def Call.op : Call → Channel.Op
  | .enableReading => Channel.enableReading
  | .disableReading => Channel.disableReading
  | .enableWriting => Channel.enableWriting
  | .disableWriting => Channel.disableWriting
  | .disableAll => Channel.disableAll
  | .remove => Channel.remove false

/-- The channels as constructed. -/
def Channels.new (address fd : ι → Nat) (poller : EpollPoller) : Channels ι :=
  ⟨fun i => Channel.new (address i) (fd i), poller⟩

def Enabled (s : Channels ι) : ι × Call → Prop
  | (i, .remove) => (s.channel i).events = 0#32 ∧ (s.channel i).addedToLoop = true
  | _ => True

def machine [DecidableEq ι] : Machine (Channels ι) (ι × Call) Abort where
  enabled := Enabled
  step s a := do
    let (channel, poller) ← a.2.op (s.channel a.1) s.poller
    return ⟨Function.update s.channel a.1 channel, poller⟩

instance (s : Channels ι) (a : ι × Call) : Decidable (Enabled s a) :=
  match a with
  | (_, .remove) => inferInstanceAs (Decidable (_ ∧ _))
  | (_, .enableReading) | (_, .disableReading) | (_, .enableWriting) | (_, .disableWriting)
  | (_, .disableAll) => isTrue trivial

instance [DecidableEq ι] (s : Channels ι) (a : ι × Call) : Decidable (machine.enabled s a) :=
  inferInstanceAs (Decidable (Enabled s a))

/-- What `index_` says of the other two places. -/
structure Recorded (ch : Channel) (p : EpollPoller) : Prop where
  new : ch.index = .kNew ↔ p.channels ch.fd = none
  added : ch.index = .kAdded ↔ p.epollSet ch.fd = some (ch.events, ch.address)
  deleted : ch.index = .kDeleted ↔ p.channels ch.fd ≠ none ∧ p.epollSet ch.fd = none

variable {ch : Channel} {p : EpollPoller}

theorem recorded_of_agrees (agrees : ch.Agrees p) : Recorded ch p := by
  unfold Channel.Agrees at agrees
  split at agrees
  next place => constructor <;> simp [place, agrees]
  next place => constructor <;> simp [place, agrees]
  next place => constructor <;> simp [place, agrees]

/-! ## One call -/

/-- The channel agrees with the poller, and the poller knows it since its last update. -/
structure Settled (ch : Channel) (p : EpollPoller) : Prop where
  agrees : ch.Agrees p
  known : ch.addedToLoop = true → ch.index ≠ .kNew

/-- `update` calls the kernel as the state of the channel demands, and touches no other fd. -/
theorem Settled.setEvents (settled : Settled ch p) (events : EventMask) :
    Yields (ch.setEvents events p) fun out =>
      Settled out.1 out.2 ∧ out.1.fd = ch.fd ∧ Channel.SameBeside ch.fd p out.2 := by
  refine ((Channel.setEvents_yields settled.agrees events).and_of_ok
    fun out success => Channel.setEvents_beside success).imp ?_
  rintro out ⟨⟨agrees, shape⟩, beside⟩
  refine ⟨⟨agrees, fun _ => ?_⟩, by rw [shape]; rfl, beside⟩
  rw [shape]
  simp only [Channel.updated]
  split <;> simp

theorem Settled.remove (settled : Settled ch p) (idle : ch.events = 0#32)
    (updated : ch.addedToLoop = true) :
    Yields (ch.remove false p) fun out =>
      Settled out.1 out.2 ∧ out.1.fd = ch.fd ∧ Channel.SameBeside ch.fd p out.2 := by
  refine ((Channel.remove_yields settled.agrees idle (settled.known updated)).and_of_ok
    fun out success => Channel.remove_beside success).imp ?_
  rintro out ⟨⟨agrees, shape⟩, beside⟩
  refine ⟨⟨agrees, ?_⟩, by rw [shape]; rfl, beside⟩
  rw [shape]
  simp [Channel.removed]

theorem Settled.call {s : Channels ι} {i : ι} {call : Call}
    (settled : Settled (s.channel i) s.poller) (enabled : Enabled s (i, call)) :
    Yields (call.op (s.channel i) s.poller) fun out =>
      Settled out.1 out.2 ∧ out.1.fd = (s.channel i).fd ∧
        Channel.SameBeside (s.channel i).fd s.poller out.2 := by
  cases call with
  | enableReading | disableReading | enableWriting | disableWriting | disableAll =>
    exact settled.setEvents _
  | remove => exact settled.remove enabled.1 enabled.2

/-! ## Every sequence of calls -/

structure Inv (fd : ι → Nat) (s : Channels ι) : Prop where
  fds : ∀ i, (s.channel i).fd = fd i
  settled : ∀ i, Settled (s.channel i) s.poller

variable {fd : ι → Nat}

theorem new_inv {address : ι → Nat} {poller : EpollPoller}
    (unknown : ∀ i, poller.channels (fd i) = none ∧ poller.epollSet (fd i) = none) :
    Inv fd (Channels.new address fd poller) := by
  refine ⟨fun _ => rfl, fun i => ⟨Channel.new_agrees (unknown i), ?_⟩⟩
  simp [Channels.new, Channel.new]

variable [DecidableEq ι]

/-- A call for one channel leaves the others, whose fds are different. -/
theorem Inv.step {s : Channels ι} {a : ι × Call} (distinct : Function.Injective fd)
    (inv : Inv fd s) (enabled : Enabled s a) : Yields (machine.step s a) (Inv fd) := by
  obtain ⟨i, call⟩ := a
  refine ((inv.settled i).call enabled).bind ?_
  rintro ⟨channel, poller⟩ ⟨settled, same_fd, beside⟩
  refine .ok ⟨fun j => ?_, fun j => ?_⟩
  · by_cases same : j = i
    · subst same
      simpa using same_fd.trans (inv.fds j)
    · simpa [same] using inv.fds j
  · by_cases same : j = i
    · subst same
      simpa using settled
    · have apart : (s.channel j).fd ≠ (s.channel i).fd := by
        rw [inv.fds, inv.fds]
        exact fun equal => same (distinct equal)
      have other := inv.settled j
      simpa [same] using Settled.mk (other.agrees.beside beside apart) other.known

/-- Every channel is recorded alike in the three places, and no call aborts. -/
structure Agreement (s : Channels ι) : Prop where
  recorded : ∀ i, Recorded (s.channel i) s.poller
  accepted : ∀ a, machine.enabled s a → ∃ t, machine.step s a = .ok t

/-- For any set of channels and any sequence of calls. -/
theorem poller_agrees {address : ι → Nat} {poller : EpollPoller} {actions : List (ι × Call)}
    {s : Channels ι} (distinct : Function.Injective fd)
    (unknown : ∀ i, poller.channels (fd i) = none ∧ poller.epollSet (fd i) = none)
    (run : machine.Run (.new address fd poller) actions s) : Agreement s := by
  have inv : Inv fd s :=
    @Machine.Run.invariant _ _ _ machine (Inv fd) _ _ _
      (fun _ _ _ inv enabled stepped => (inv.step distinct enabled).of_ok stepped) (new_inv unknown) run
  refine ⟨fun i => recorded_of_agrees (inv.settled i).agrees, fun a enabled => ?_⟩
  obtain ⟨t, stepped, _⟩ := inv.step distinct enabled
  exact ⟨t, stepped⟩

/-- Two channels, of which the first is removed, used again and left without interest. -/
def twoChannels : List (Fin 2 × Call) :=
  [(0, .enableReading), (1, .enableWriting), (0, .disableAll), (0, .remove), (1, .enableReading),
    (0, .enableReading), (0, .disableReading)]

/-- One of the channels has been disabled, the other is read. -/
theorem poller_agrees_two_channels :
    ∃ s : Channels (Fin 2), (s.channel 0).index = .kDeleted ∧ (s.channel 1).index = .kAdded ∧
      Agreement s := by
  obtain ⟨s, run, holds⟩ := machine.exists_run_of_exec
    (Channels.new (fun i : Fin 2 => 100 + i.val) (fun i => 5 + i.val) .empty) twoChannels
    (fun s => decide ((s.channel 0).index = .kDeleted ∧ (s.channel 1).index = .kAdded))
    (by decide +kernel)
  obtain ⟨deleted, added⟩ := of_decide_eq_true holds
  have distinct : Function.Injective fun i : Fin 2 => 5 + i.val := by decide
  exact ⟨s, deleted, added, poller_agrees distinct (fun _ => ⟨rfl, rfl⟩) run⟩

end Starry.Guarantees.PollerAgreement
