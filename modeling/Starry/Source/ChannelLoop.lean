import Starry.Foundation.Runs
import Starry.Source.EpollPoller

/-!
# Channels in `EventLoop::loop`

The part of `EventLoop` that has to do with channels: `poll` and `fillActiveChannels` of
`net/src/epoll_poller.cpp`, the `for` of `loop()` in `net/src/eventloop.cpp` with
`updateChannel` and `removeChannel`, and `handleEvent` of `net/src/channel.cpp`. Channels come and
go: an address is one of an existing channel or it is not, and an address or a file descriptor may
be used again.

Callbacks and functors are code of the owners of channels. Such code runs in the loop thread while
a callback or `doPendingFunctors` runs, or outside `loop()`; it may construct, tie, update, remove
and destroy any channel that exists. Another thread may close a descriptor, or destroy a channel,
at any time. When a descriptor is closed, the kernel takes it from the epoll set.

`epoll_wait` reports descriptors of the set, each once and with any events, and no more of them
than there is room for. A failure of `epoll_wait` other than `EINTR` is left out, and so are the
functor queue and the times.
-/
namespace Starry.Source

open Starry.Foundation

inductive Callback where
  | close | error | read | write
  deriving DecidableEq, Repr

inductive ChannelCall where
  | enableReading | disableReading | enableWriting | disableWriting | disableAll
  deriving DecidableEq, Repr

namespace ChannelCall

/-- `events_` after the call. -/
def events (call : ChannelCall) (before : EventMask) : EventMask :=
  match call with
  | .enableReading => before ||| Channel.kReadEvent
  | .disableReading => before &&& ~~~ Channel.kReadEvent
  | .enableWriting => before ||| Channel.kWriteEvent
  | .disableWriting => before &&& ~~~ Channel.kWriteEvent
  | .disableAll => Channel.kNoneEvent

end ChannelCall

namespace Channel

/-- What `handleEventWithGuard` calls, in its order. -/
def callbacks (revents : EventMask) : List Callback :=
  (if revents &&& EPOLLHUP ≠ 0#32 ∧ revents &&& EPOLLIN = 0#32 then [.close] else []) ++
  (if revents &&& EPOLLERR ≠ 0#32 then [.error] else []) ++
  (if revents &&& (EPOLLIN ||| EPOLLPRI ||| EPOLLRDHUP) ≠ 0#32 then [.read] else []) ++
  (if revents &&& EPOLLOUT ≠ 0#32 then [.write] else [])

/-- `~Channel` -/
def destroy (inLoopThread : Bool) (ch : Channel) (p : EpollPoller) : Except Abort Unit := do
  cassert (ch.eventHandling = false) .channelCpp 31
  cassert (ch.addedToLoop = false) .channelCpp 32
  if inLoopThread then cassert (p.hasChannel ch = false) .channelCpp 34

end Channel

/-- An event that `epoll_wait` reports, with the descriptor it is about. -/
structure EpollEvent where
  fd : Nat
  events : EventMask
  /-- `data.ptr` -/
  ptr : Nat
  deriving DecidableEq, Repr

inductive DispatchPhase where
  /-- `loop()` has not been called, or has returned. -/
  | outside
  | polling
  /-- In the `for`, between two channels. -/
  | dispatching
  /-- In `handleEventWithGuard`: the first of these callbacks runs, the others are still to be
  called. -/
  | handling (callbacks : List Callback)
  /-- In `doPendingFunctors`. -/
  | calling
  deriving DecidableEq, Repr

structure ChannelLoop where
  phase : DispatchPhase
  quit : Bool
  eventHandling : Bool
  activeChannels : List Nat
  /-- The part of `activeChannels_` that the `for` has not come to. -/
  upcoming : List Nat
  currentActiveChannel : Option Nat
  /-- The channels that exist, by their addresses. -/
  objects : Nat → Option Channel
  poller : EpollPoller
  /-- `events_.size()` -/
  eventListSize : Nat

namespace ChannelLoop

def kInitEventListSize : Nat := 16

def new : ChannelLoop where
  phase := .outside
  quit := false
  eventHandling := false
  activeChannels := []
  upcoming := []
  currentActiveChannel := none
  objects := fun _ => none
  poller := .empty
  eventListSize := kInitEventListSize

/-- `*pointer` -/
def object (l : ChannelLoop) (address : Nat) (file : SourceFile) (line : Nat) :
    Except Abort Channel :=
  match l.objects address with
  | some ch => .ok ch
  | none => .error (.undefinedBehaviour file line)

def setObject (l : ChannelLoop) (address : Nat) (ch : Option Channel) : ChannelLoop :=
  { l with objects := Function.update l.objects address ch }

def fillActiveChannels (l : ChannelLoop) : List EpollEvent → Except Abort ChannelLoop
  | [] => .ok l
  | event :: rest => do
    let ch ← l.object event.ptr .epollPollerCpp 65
    let revised := l.setObject event.ptr (some { ch with revents := event.events })
    fillActiveChannels { revised with activeChannels := l.activeChannels ++ [event.ptr] } rest

/-- `poll`, with the `clear` before and the assignment after it. -/
def poll (l : ChannelLoop) (events : List EpollEvent) : Except Abort ChannelLoop := do
  cassert (events.length ≤ l.eventListSize) .epollPollerCpp 62
  let filled ← fillActiveChannels { l with activeChannels := [] } events
  return { filled with
    eventListSize :=
      if 0 < events.length ∧ events.length = l.eventListSize then l.eventListSize * 2
      else l.eventListSize
    phase := .dispatching
    eventHandling := true
    upcoming := filled.activeChannels }

/-- `handleEvent` of the next channel, up to its first callback. `locked` is the outcome of
`tie_.lock()`. -/
def handleEvent (l : ChannelLoop) (locked : Bool) : Except Abort ChannelLoop :=
  match l.upcoming with
  | [] => .ok l
  | address :: rest => do
    let ch ← l.object address .channelCpp 56
    let entered := { l with upcoming := rest, currentActiveChannel := some address }
    if ch.tied && !locked then return entered
    else
      return { entered.setObject address (some { ch with eventHandling := true }) with
        phase := .handling (Channel.callbacks ch.revents) }

/-- A callback has returned: the next test of `revents_`. -/
def callbackReturns (l : ChannelLoop) : Except Abort ChannelLoop :=
  match l.phase, l.currentActiveChannel with
  | .handling (_ :: rest), some address => do
    let _ ← l.object address .channelCpp 73
    return { l with phase := .handling rest }
  | _, _ => .ok l

/-- The end of `handleEventWithGuard`. -/
def leave (l : ChannelLoop) : Except Abort ChannelLoop :=
  match l.currentActiveChannel with
  | some address => do
    let ch ← l.object address .channelCpp 84
    return { l.setObject address (some { ch with eventHandling := false }) with
      phase := .dispatching }
  | none => .ok l

def updateChannel (l : ChannelLoop) (address : Nat) (call : ChannelCall) :
    Except Abort ChannelLoop := do
  let ch ← l.object address .channelCpp 44
  let (updated, poller) ← ch.setEvents (call.events ch.events) l.poller
  return { l.setObject address (some updated) with poller := poller }

/-- The channel is active and not the one that is being handled. -/
def inUse (l : ChannelLoop) (address : Nat) : Bool :=
  l.eventHandling && !(l.currentActiveChannel = some address || address ∉ l.activeChannels)

def removeChannel (l : ChannelLoop) (address : Nat) : Except Abort ChannelLoop := do
  let ch ← l.object address .channelCpp 49
  let (removed, poller) ← ch.remove (l.inUse address) l.poller
  return { l.setObject address (some removed) with poller := poller }

def destroyChannel (l : ChannelLoop) (address : Nat) (inLoopThread : Bool) :
    Except Abort ChannelLoop := do
  let ch ← l.object address .channelCpp 31
  ch.destroy inLoopThread l.poller
  return l.setObject address none

def tie (l : ChannelLoop) (address : Nat) : Except Abort ChannelLoop := do
  let ch ← l.object address .channelCpp 39
  return l.setObject address (some { ch with tied := true })

/-- What the kernel does when the last descriptor for an open file is closed. -/
def closeFd (l : ChannelLoop) (fd : Nat) : ChannelLoop :=
  { l with poller := { l.poller with epollSet := Function.update l.poller.epollSet fd none } }

inductive Act where
  | enter
  | pollReturns (events : List EpollEvent)
  | handleEvent (locked : Bool)
  | callbackReturns
  | leave
  | doPendingFunctors
  | finish
  | setQuit
  | construct (address fd : Nat)
  | tie (address : Nat)
  | update (address : Nat) (call : ChannelCall)
  | remove (address : Nat)
  | destroy (address : Nat) (inLoopThread : Bool)
  | closeFd (fd : Nat)
  deriving DecidableEq

def step (l : ChannelLoop) : Act → Except Abort ChannelLoop
  | .enter => .ok { l with quit := false, phase := .polling }
  | .pollReturns events => l.poll events
  | .handleEvent locked => l.handleEvent locked
  | .callbackReturns => l.callbackReturns
  | .leave => l.leave
  | .doPendingFunctors =>
    .ok { l with currentActiveChannel := none, eventHandling := false, phase := .calling }
  | .finish => .ok { l with phase := if l.quit then .outside else .polling }
  | .setQuit => .ok { l with quit := true }
  | .construct address fd => .ok (l.setObject address (some (Channel.new address fd)))
  | .tie address => l.tie address
  | .update address call => l.updateChannel address call
  | .remove address => l.removeChannel address
  | .destroy address inLoopThread => l.destroyChannel address inLoopThread
  | .closeFd fd => .ok (l.closeFd fd)

/-- The code of an owner runs in the loop thread. -/
def inOwnerCode (l : ChannelLoop) : Bool :=
  match l.phase with
  | .outside | .calling | .handling (_ :: _) => true
  | .polling | .dispatching | .handling [] => false

def inCallback (l : ChannelLoop) : Bool :=
  match l.phase with
  | .handling (_ :: _) => true
  | _ => false

/-- The system's limit on descriptors is below this. -/
def fdLimit : Nat := 2 ^ 30

structure Reports (l : ChannelLoop) (events : List EpollEvent) : Prop where
  distinct : (events.map EpollEvent.fd).Nodup
  watched : ∀ event ∈ events, (l.poller.epollSet event.fd).map Prod.snd = some event.ptr
  room : events.length ≤ l.eventListSize
  few : events.length < fdLimit

instance (l : ChannelLoop) (events : List EpollEvent) : Decidable (l.Reports events) :=
  decidable_of_iff ((events.map EpollEvent.fd).Nodup ∧
    (∀ event ∈ events, (l.poller.epollSet event.fd).map Prod.snd = some event.ptr) ∧
    events.length ≤ l.eventListSize ∧ events.length < fdLimit)
    ⟨fun ⟨distinct, watched, room, few⟩ => ⟨distinct, watched, room, few⟩,
      fun ⟨distinct, watched, room, few⟩ => ⟨distinct, watched, room, few⟩⟩

def Enabled (l : ChannelLoop) : Act → Prop
  | .enter => l.phase = .outside
  | .pollReturns events => l.phase = .polling ∧ l.Reports events
  | .handleEvent _ => l.phase = .dispatching ∧ l.upcoming ≠ []
  | .callbackReturns => l.inCallback = true
  | .leave => l.phase = .handling []
  | .doPendingFunctors => l.phase = .dispatching ∧ l.upcoming = []
  | .finish => l.phase = .calling
  | .setQuit => True
  | .construct address _ => l.inOwnerCode = true ∧ l.objects address = none
  | .tie address => l.inOwnerCode = true ∧ l.objects address ≠ none
  | .update address _ => l.inOwnerCode = true ∧ l.objects address ≠ none
  | .remove address => l.inOwnerCode = true ∧ l.objects address ≠ none
  | .destroy address inLoopThread =>
    (inLoopThread = true → l.inOwnerCode = true) ∧ l.objects address ≠ none
  | .closeFd _ => True

def machine : Machine ChannelLoop Act Abort where
  enabled := Enabled
  step := step

instance (l : ChannelLoop) (a : Act) : Decidable (l.Enabled a) :=
  match a with
  | .enter | .callbackReturns | .leave | .finish => inferInstanceAs (Decidable (_ = _))
  | .pollReturns _ | .handleEvent _ | .doPendingFunctors | .construct _ _ | .tie _ | .update _ _
  | .remove _ | .destroy _ _ => inferInstanceAs (Decidable (_ ∧ _))
  | .setQuit | .closeFd _ => isTrue trivial

instance (l : ChannelLoop) (a : Act) : Decidable (machine.enabled l a) :=
  inferInstanceAs (Decidable (l.Enabled a))

end ChannelLoop

end Starry.Source
