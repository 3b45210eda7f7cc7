import Mathlib.Logic.Function.Basic
import Starry.Source.Abort

/-!
# `starry::Channel` and `starry::EpollPoller`

`net/include/channel.h`, `net/src/channel.cpp` and `net/src/epoll_poller.cpp`. The kernel's
epoll set is part of the poller here: `epoll_ctl` fails, and `update` then logs at level
FATAL, when an fd is added twice, or changed or deleted without being there.

A channel pointer is a number. `assertInLoopThread` has no counterpart: these functions
are only reached from the loop thread.
-/
namespace Starry.Source

open Starry.Foundation

abbrev EventMask := BitVec 32

def EPOLLIN : EventMask := 0x001
def EPOLLPRI : EventMask := 0x002
def EPOLLOUT : EventMask := 0x004
def EPOLLERR : EventMask := 0x008
def EPOLLHUP : EventMask := 0x010
def EPOLLRDHUP : EventMask := 0x2000

inductive PollerIndex where
  | kNew | kAdded | kDeleted
  deriving DecidableEq, Repr

structure Channel where
  address : Nat
  fd : Nat
  events : EventMask
  revents : EventMask
  index : PollerIndex
  tied : Bool
  eventHandling : Bool
  addedToLoop : Bool
  deriving DecidableEq, Repr

/-- `channels` is `channels_`, from fds to channel pointers; `epollSet` is the kernel's
interest list, from fds to the mask and the pointer given for them. -/
structure EpollPoller where
  channels : Nat → Option Nat
  epollSet : Nat → Option (EventMask × Nat)

namespace Channel

def kNoneEvent : EventMask := 0#32
def kReadEvent : EventMask := EPOLLIN ||| EPOLLPRI
def kWriteEvent : EventMask := EPOLLOUT

def new (address fd : Nat) : Channel where
  address := address
  fd := fd
  events := 0
  revents := 0
  index := .kNew
  tied := false
  eventHandling := false
  addedToLoop := false

def isNoneEvent (ch : Channel) : Bool := ch.events == kNoneEvent
def isWriting (ch : Channel) : Bool := ch.events &&& kWriteEvent != 0#32
def isReading (ch : Channel) : Bool := ch.events &&& kReadEvent != 0#32

end Channel

namespace EpollPoller

def empty : EpollPoller := ⟨fun _ => none, fun _ => none⟩

inductive CtlOp where
  | add | mod | del

def update (p : EpollPoller) (operation : CtlOp) (ch : Channel) : Except Abort EpollPoller :=
  match operation, p.epollSet ch.fd with
  | .add, none | .mod, some _ =>
    .ok { p with epollSet := Function.update p.epollSet ch.fd (some (ch.events, ch.address)) }
  | .del, some _ => .ok { p with epollSet := Function.update p.epollSet ch.fd none }
  | _, _ => .error (.logFatal .epollPollerCpp 133)

def updateChannel (p : EpollPoller) (ch : Channel) : Except Abort (Channel × EpollPoller) :=
  match ch.index with
  | .kNew => do
    cassert (p.channels ch.fd = none) .epollPollerCpp 80
    let entered := { p with channels := Function.update p.channels ch.fd (some ch.address) }
    let added : Channel := { ch with index := .kAdded }
    return (added, ← entered.update .add added)
  | .kDeleted => do
    cassert (p.channels ch.fd ≠ none) .epollPollerCpp 83
    cassert (p.channels ch.fd = some ch.address) .epollPollerCpp 84
    let added : Channel := { ch with index := .kAdded }
    return (added, ← p.update .add added)
  | .kAdded => do
    cassert (p.channels ch.fd ≠ none) .epollPollerCpp 90
    cassert (p.channels ch.fd = some ch.address) .epollPollerCpp 91
    if ch.isNoneEvent then
      return ({ ch with index := .kDeleted }, ← p.update .del ch)
    else
      return (ch, ← p.update .mod ch)

def removeChannel (p : EpollPoller) (ch : Channel) : Except Abort (Channel × EpollPoller) := do
  cassert (p.channels ch.fd ≠ none) .epollPollerCpp 107
  cassert (p.channels ch.fd = some ch.address) .epollPollerCpp 108
  cassert (ch.isNoneEvent = true) .epollPollerCpp 109
  cassert (ch.index = .kAdded ∨ ch.index = .kDeleted) .epollPollerCpp 111
  let erased := { p with channels := Function.update p.channels ch.fd none }
  let out ← (if ch.index = .kAdded then erased.update .del ch else .ok erased)
  return ({ ch with index := .kNew }, out)

def hasChannel (p : EpollPoller) (ch : Channel) : Bool := p.channels ch.fd == some ch.address

end EpollPoller

namespace Channel

/-- What a member function of `Channel` does to the channel and, through the loop, to the
poller. -/
abbrev Op := Channel → EpollPoller → Except Abort (Channel × EpollPoller)

/-- `events_ = events; update();`, the shape of all the functions below. -/
def setEvents (events : EventMask) : Op := fun ch p =>
  p.updateChannel { ch with events := events, addedToLoop := true }

def enableReading : Op := fun ch p => ch.setEvents (ch.events ||| kReadEvent) p
def disableReading : Op := fun ch p => ch.setEvents (ch.events &&& ~~~ kReadEvent) p
def enableWriting : Op := fun ch p => ch.setEvents (ch.events ||| kWriteEvent) p
def disableWriting : Op := fun ch p => ch.setEvents (ch.events &&& ~~~ kWriteEvent) p
def disableAll : Op := fun ch p => ch.setEvents kNoneEvent p

/-- `Channel::remove`. The middle assertion is that of `EventLoop::removeChannel`:
`inUse` says that the loop is handling events, that the channel is among the active ones
and that it is not the one being handled. -/
def remove (inUse : Bool) : Op := fun ch p => do
  cassert (ch.isNoneEvent = true) .channelCpp 49
  cassert (inUse = false) .eventloopCpp 168
  p.removeChannel { ch with addedToLoop := false }

/-! ## Interest bits -/

theorem isReading_none {ch : Channel} (none : ch.events = 0#32) : ch.isReading = false := by
  simp [isReading, none]

theorem isWriting_none {ch : Channel} (none : ch.events = 0#32) : ch.isWriting = false := by
  simp [isWriting, none]

theorem isNoneEvent_iff {ch : Channel} : ch.isNoneEvent = true ↔ ch.events = 0#32 := by
  simp [isNoneEvent, kNoneEvent]

theorem write_bit_set (events : EventMask) : (events ||| kWriteEvent) &&& kWriteEvent ≠ 0#32 := by
  intro cleared
  have bit : ((events ||| kWriteEvent) &&& kWriteEvent).getLsbD 2 = true := by
    simp [kWriteEvent, EPOLLOUT]
  rw [cleared] at bit
  simp at bit

theorem write_bit_cleared (events : EventMask) :
    (events &&& ~~~ kWriteEvent) &&& kWriteEvent = 0#32 := by
  rw [BitVec.and_assoc, BitVec.not_and_self]
  exact BitVec.and_zero

theorem write_bit_of_read_set (events : EventMask) :
    (events ||| kReadEvent) &&& kWriteEvent = events &&& kWriteEvent := by
  have apart : kReadEvent &&& kWriteEvent = 0#32 := by decide
  rw [BitVec.and_or_distrib_right, apart, BitVec.or_zero]

theorem write_bit_of_read_cleared (events : EventMask) :
    (events &&& ~~~ kReadEvent) &&& kWriteEvent = events &&& kWriteEvent := by
  have apart : ~~~ kReadEvent &&& kWriteEvent = kWriteEvent := by decide
  rw [BitVec.and_assoc, apart]

/-! ## Agreement of a channel with the poller -/

/-- The index of the channel says where its fd is: nowhere, in `channels_` and the epoll
set, or in `channels_` only; outside the epoll set it has no interest. -/
def Agrees (ch : Channel) (p : EpollPoller) : Prop :=
  match ch.index with
  | .kNew => p.channels ch.fd = none ∧ p.epollSet ch.fd = none ∧ ch.events = 0#32
  | .kAdded => p.channels ch.fd = some ch.address ∧
      p.epollSet ch.fd = some (ch.events, ch.address)
  | .kDeleted => p.channels ch.fd = some ch.address ∧ p.epollSet ch.fd = none ∧
      ch.events = 0#32

/-- The channel after an update to `events`. -/
def updated (ch : Channel) (events : EventMask) : Channel :=
  { ch with
    events := events
    addedToLoop := true
    index := if ch.index = .kAdded ∧ events = 0#32 then .kDeleted else .kAdded }

/-- The channel after `remove`. -/
def removed (ch : Channel) : Channel := { ch with addedToLoop := false, index := .kNew }

variable {ch : Channel} {p : EpollPoller}

/-- A channel that is new agrees with a poller that does not know its fd. -/
theorem new_agrees {address fd : Nat} (unknown : p.channels fd = none ∧ p.epollSet fd = none) :
    (Channel.new address fd).Agrees p := ⟨unknown.1, unknown.2, rfl⟩

/-- An update of an agreeing channel never aborts, and the channel agrees again. -/
theorem setEvents_yields (agrees : ch.Agrees p) (events : EventMask) :
    Yields (ch.setEvents events p) fun out =>
      out.1.Agrees out.2 ∧ out.1 = ch.updated events := by
  unfold setEvents EpollPoller.updateChannel
  dsimp only
  cases place : ch.index with
  | kNew =>
    simp only [Agrees, place] at agrees
    apply yields_cassert agrees.1
    simp [EpollPoller.update, agrees.2.1, place, Agrees, updated, Yields]
  | kDeleted =>
    simp only [Agrees, place] at agrees
    apply yields_cassert (by simp [agrees.1])
    apply yields_cassert agrees.1
    simp [EpollPoller.update, agrees.1, agrees.2.1, place, Agrees, updated, Yields]
  | kAdded =>
    simp only [Agrees, place] at agrees
    apply yields_cassert (by simp [agrees.1])
    apply yields_cassert agrees.1
    by_cases idle : events = 0#32
    · simp [EpollPoller.update, agrees.1, agrees.2, Agrees, updated, Yields, isNoneEvent,
        kNoneEvent, place, idle]
    · simp [EpollPoller.update, agrees.1, agrees.2, Agrees, updated, Yields, isNoneEvent,
        kNoneEvent, place, idle]

/-- Removal of an agreeing channel with no interest that is known to the poller. -/
theorem remove_yields (agrees : ch.Agrees p) (idle : ch.events = 0#32) (known : ch.index ≠ .kNew) :
    Yields (ch.remove false p) fun out =>
      out.1.Agrees out.2 ∧ out.1 = ch.removed := by
  have none := isNoneEvent_iff.mpr idle
  apply yields_cassert none
  apply yields_cassert rfl
  cases place : ch.index with
  | kNew => exact absurd place known
  | kDeleted =>
    simp only [Agrees, place] at agrees
    apply yields_cassert (by simp [agrees.1])
    apply yields_cassert agrees.1
    apply yields_cassert (by simpa [isNoneEvent] using none)
    apply yields_cassert (by simp)
    simp [agrees.2.1, idle, Agrees, removed, Yields]
  | kAdded =>
    simp only [Agrees, place] at agrees
    apply yields_cassert (by simp [agrees.1])
    apply yields_cassert agrees.1
    apply yields_cassert (by simpa [isNoneEvent] using none)
    apply yields_cassert (by simp)
    simp [EpollPoller.update, agrees.2, idle, Agrees, removed, Yields]

/-- The channel that an update returns, whether or not it agreed before. -/
theorem setEvents_ok {events : EventMask} {out : Channel × EpollPoller}
    (success : ch.setEvents events p = .ok out) : out.1 = ch.updated events := by
  unfold setEvents EpollPoller.updateChannel at success
  dsimp only at success
  cases place : ch.index with
  | kNew =>
    simp only [place] at success
    obtain ⟨_, _, success⟩ := bind_eq_ok success
    obtain ⟨_, _, success⟩ := bind_eq_ok success
    cases success
    simp [updated, place]
  | kDeleted =>
    simp only [place] at success
    obtain ⟨_, _, success⟩ := bind_eq_ok success
    obtain ⟨_, _, success⟩ := bind_eq_ok success
    obtain ⟨_, _, success⟩ := bind_eq_ok success
    cases success
    simp [updated, place]
  | kAdded =>
    simp only [place] at success
    obtain ⟨_, _, success⟩ := bind_eq_ok success
    obtain ⟨_, _, success⟩ := bind_eq_ok success
    split at success
    next idle =>
      obtain ⟨_, _, success⟩ := bind_eq_ok success
      cases success
      simp_all [updated, isNoneEvent, kNoneEvent]
    next busy =>
      obtain ⟨_, _, success⟩ := bind_eq_ok success
      cases success
      simp_all [updated, isNoneEvent, kNoneEvent]

/-- A successful removal found the channel without interest and known to the poller. -/
theorem remove_ok {inUse : Bool} {out : Channel × EpollPoller}
    (success : ch.remove inUse p = .ok out) :
    out.1 = ch.removed ∧ ch.events = 0#32 ∧ ch.index ≠ .kNew ∧ inUse = false := by
  obtain ⟨_, idle, success⟩ := bind_eq_ok success
  obtain ⟨_, free, success⟩ := bind_eq_ok success
  obtain ⟨_, _, success⟩ := bind_eq_ok success
  obtain ⟨_, _, success⟩ := bind_eq_ok success
  obtain ⟨_, _, success⟩ := bind_eq_ok success
  obtain ⟨_, known, success⟩ := bind_eq_ok success
  obtain ⟨_, _, success⟩ := bind_eq_ok success
  cases success
  have place : ch.index = .kAdded ∨ ch.index = .kDeleted := cassert_ok known
  refine ⟨rfl, isNoneEvent_iff.mp (cassert_ok idle), ?_, cassert_ok free⟩
  rcases place with added | deleted
  · simp [added]
  · simp [deleted]

/-! ## Other fds -/

/-- The poller is the same at every other fd. -/
def SameBeside (fd : Nat) (p q : EpollPoller) : Prop :=
  ∀ other, other ≠ fd → q.channels other = p.channels other ∧ q.epollSet other = p.epollSet other

theorem update_beside {operation : EpollPoller.CtlOp} {q : EpollPoller}
    (success : p.update operation ch = .ok q) : SameBeside ch.fd p q := by
  intro other distinct
  unfold EpollPoller.update at success
  split at success <;> cases success
  · exact ⟨rfl, Function.update_of_ne distinct _ _⟩
  · exact ⟨rfl, Function.update_of_ne distinct _ _⟩
  · exact ⟨rfl, Function.update_of_ne distinct _ _⟩

/-- `update` touches the entries of its own fd only. -/
theorem setEvents_beside {events : EventMask} {out : Channel × EpollPoller}
    (success : ch.setEvents events p = .ok out) : SameBeside ch.fd p out.2 := by
  unfold setEvents EpollPoller.updateChannel at success
  dsimp only at success
  split at success
  next =>
    obtain ⟨_, _, success⟩ := bind_eq_ok success
    obtain ⟨_, added, success⟩ := bind_eq_ok success
    cases success
    intro other distinct
    obtain ⟨same_channels, same_set⟩ := update_beside added other distinct
    exact ⟨same_channels.trans (Function.update_of_ne distinct _ _), same_set⟩
  next =>
    obtain ⟨_, _, success⟩ := bind_eq_ok success
    obtain ⟨_, _, success⟩ := bind_eq_ok success
    obtain ⟨_, added, success⟩ := bind_eq_ok success
    cases success
    have beside := update_beside added
    exact beside
  next =>
    obtain ⟨_, _, success⟩ := bind_eq_ok success
    obtain ⟨_, _, success⟩ := bind_eq_ok success
    split at success
    next =>
      obtain ⟨_, deleted, success⟩ := bind_eq_ok success
      cases success
      have beside := update_beside deleted
      exact beside
    next =>
      obtain ⟨_, changed, success⟩ := bind_eq_ok success
      cases success
      have beside := update_beside changed
      exact beside

/-- `remove` touches the entries of its own fd only. -/
theorem remove_beside {inUse : Bool} {out : Channel × EpollPoller}
    (success : ch.remove inUse p = .ok out) : SameBeside ch.fd p out.2 := by
  obtain ⟨_, _, success⟩ := bind_eq_ok success
  obtain ⟨_, _, success⟩ := bind_eq_ok success
  obtain ⟨_, _, success⟩ := bind_eq_ok success
  obtain ⟨_, _, success⟩ := bind_eq_ok success
  obtain ⟨_, _, success⟩ := bind_eq_ok success
  obtain ⟨_, _, success⟩ := bind_eq_ok success
  obtain ⟨_, erased, success⟩ := bind_eq_ok success
  cases success
  intro other distinct
  split at erased
  · obtain ⟨same_channels, same_set⟩ := update_beside erased other distinct
    exact ⟨same_channels.trans (Function.update_of_ne distinct _ _), same_set⟩
  · cases erased
    exact ⟨Function.update_of_ne distinct _ _, rfl⟩

/-- A channel agrees or not by what the poller has at its fd. -/
theorem Agrees.beside {fd : Nat} {q : EpollPoller} (agrees : ch.Agrees p)
    (same : SameBeside fd p q) (distinct : ch.fd ≠ fd) : ch.Agrees q := by
  obtain ⟨same_channels, same_set⟩ := same ch.fd distinct
  unfold Agrees at *
  rwa [same_channels, same_set]

end Channel

end Starry.Source
