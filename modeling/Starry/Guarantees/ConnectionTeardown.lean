import Starry.Source.ConnectionLoopSpec

/-!
# Teardown of a connection

`connectDestroyed` branches on `kConnected` only, and `startReadInLoop` and
`stopReadInLoop` look at no state at all. The teardown is clean in every run in which
`connectDestroyed` never meets `kDisconnecting`, no `startReadInLoop` runs on a closed
connection, and no `stopReadInLoop` that has anything to change runs on a channel that the
poller does not know. Outside these conditions it is not: `destroyed_while_disconnecting`
is a server that is destroyed after `shutdown`.
-/
namespace Starry.Guarantees.ConnectionTeardown

open Starry.Foundation
open Starry.Source
open Starry.Source.IoLoop
open Starry.Source.Session

/-- No step of `M` fails the assertion on `isNoneEvent` of `Channel::remove` or of
`EpollPoller::removeChannel`; and once `connectDestroyed` has run, the connection is in
`kDisconnected` and its channel is neither in `channels_` nor in the epoll set. -/
structure CleanTeardown (M : Machine Session Act Abort) (s : Session) : Prop where
  asserted : ∀ a, M.enabled s a → M.step s a ≠ .error (.assertion .channelCpp 49) ∧
    M.step s a ≠ .error (.assertion .epollPollerCpp 109)
  gone : .destroyed ∈ s.io.seen → s.io.conn.state = .kDisconnected ∧
    s.io.poller.channels s.io.conn.channel.fd = none ∧
    s.io.poller.epollSet s.io.conn.channel.fd = none

structure Careful (s : Session) (a : Act) : Prop where
  settled : s.Destroys a → s.io.conn.state ≠ .kDisconnecting
  no_start : s.StartsReading a → s.io.conn.state ≠ .kDisconnected
  no_stop : s.StopsReading a → s.io.conn.channel.index = .kNew → s.io.conn.reading = false

instance (s : Session) (a : Act) : Decidable (Careful s a) :=
  decidable_of_iff ((s.Destroys a → s.io.conn.state ≠ .kDisconnecting) ∧
    (s.StartsReading a → s.io.conn.state ≠ .kDisconnected) ∧
    (s.StopsReading a → s.io.conn.channel.index = .kNew → s.io.conn.reading = false))
    ⟨fun ⟨settled, no_start, no_stop⟩ => ⟨settled, no_start, no_stop⟩,
      fun ⟨settled, no_start, no_stop⟩ => ⟨settled, no_start, no_stop⟩⟩

structure Sound (l : IoLoop) (todo : List Task) : Prop where
  agrees : l.Agrees
  established : l.conn.state ≠ .kConnecting
  closed : l.conn.state = .kDisconnected → l.conn.channel.events = 0#32
  removing : .removeChannel ∈ todo → l.conn.state = .kDisconnected
  gone : .destroyed ∈ l.seen → l.conn.state = .kDisconnected ∧ l.conn.channel.index = .kNew

variable {l l' : IoLoop} {todo : List Task}

namespace Sound

/-! ## What the functions of the connection keep -/

theorem tasks {later : List Task} (sound : Sound l todo)
    (fewer : .removeChannel ∈ later → .removeChannel ∈ todo) : Sound l later :=
  { sound with removing := fun member => sound.removing (fewer member) }

theorem removal (sound : Sound l todo) (closed : l.conn.state = .kDisconnected) (later : List Task) :
    Sound l later :=
  { sound with removing := fun _ => closed }

theorem aside (sound : Sound l todo) (beside : l.Aside l') : Sound l' todo where
  agrees := beside.agrees sound.agrees
  established := by rw [beside.state]; exact sound.established
  closed := by
    intro closed
    rw [beside.state] at closed
    have idle := sound.closed closed
    rw [beside.closed closed idle]
    exact idle
  removing := by rw [beside.state]; exact sound.removing
  gone := by
    intro member
    obtain ⟨closed, place⟩ := sound.gone (beside.destroyed.mp member)
    rw [beside.state, beside.closed closed (sound.closed closed)]
    exact ⟨closed, place⟩

theorem not_closed (opened : l.conn.isOpen = true) : l.conn.state ≠ .kDisconnected := by
  intro closed
  simp [TcpConnection.isOpen, closed] at opened

theorem disconnecting (sound : Sound l todo) (opened : l.conn.isOpen = true) :
    Sound (l.setState .kDisconnecting) todo := by
  have live := not_closed opened
  exact ⟨sound.agrees, by simp [setState], by simp [setState],
    fun member => absurd (sound.removing member) live,
    fun member => absurd (sound.gone member).1 live⟩

/-- Turning reading on, outside the closed state. -/
theorem startReadInLoop (sound : Sound l todo) (live : l.conn.state ≠ .kDisconnected)
    (success : l.startReadInLoop = .ok l') : Sound l' todo := by
  rcases startReadInLoop_ok success with ⟨_, rfl⟩ | ⟨_, retuned⟩
  · exact sound
  · refine ⟨retuned.agrees sound.agrees, ?_, ?_, ?_, ?_⟩
    all_goals rw [retuned.effect]
    · exact sound.established
    · exact fun closed => absurd closed live
    · exact sound.removing
    · exact fun member => absurd (sound.gone member).1 live

/-- Turning reading off, when there is nothing to turn off on a removed channel. -/
theorem stopReadInLoop (sound : Sound l todo)
    (known : l.conn.channel.index = .kNew → l.conn.reading = false)
    (success : l.stopReadInLoop = .ok l') : Sound l' todo := by
  rcases stopReadInLoop_ok success with ⟨_, rfl⟩ | ⟨touched, retuned⟩
  · exact sound
  · refine ⟨retuned.agrees sound.agrees, ?_, ?_, ?_, ?_⟩
    all_goals rw [retuned.effect]
    · exact sound.established
    · intro closed
      simp [Channel.updated, sound.closed closed]
    · exact sound.removing
    · intro member
      obtain ⟨closed, place⟩ := sound.gone member
      have idle := Channel.isReading_none (sound.closed closed)
      rw [known place, idle] at touched
      simp at touched

/-- Closing, from any state that is not closed yet. -/
theorem announced {tied : Bool} (sound : Sound l todo) (live : l.conn.state ≠ .kDisconnected)
    (closes : l.Announced .kDisconnected 0#32 tied l') (later : List Task) : Sound l' later := by
  refine ⟨closes.agrees sound.agrees, ?_, ?_, ?_, ?_⟩
  all_goals rw [closes.effect]
  · simp
  · simp [Channel.updated]
  · simp
  · intro member
    have earlier : .destroyed ∈ l.seen := by simpa using member
    exact absurd (sound.gone earlier).1 live

/-- The last line of `connectDestroyed` takes the channel out of the poller. -/
theorem removeChannel {inUse : Bool} (sound : Sound l todo) (removing : .removeChannel ∈ todo)
    (success : l.removeChannel inUse = .ok l') (later : List Task) : Sound l' later := by
  obtain ⟨idle, _, effect, agrees⟩ := removeChannel_ok success
  have closed := sound.removing removing
  refine ⟨agrees sound.agrees, ?_, ?_, ?_, ?_⟩
  all_goals rw [effect]
  · exact sound.established
  · exact fun _ => idle
  · exact fun _ => closed
  · exact fun _ => ⟨closed, rfl⟩

/-- An observation that is not the end of `connectDestroyed`. -/
theorem observe (sound : Sound l todo) {observation : Observation}
    (other : observation ≠ .destroyed) : Sound (l.observe observation) todo where
  agrees := sound.agrees
  established := sound.established
  closed := sound.closed
  removing := sound.removing
  gone := by
    intro member
    have earlier : .destroyed ∈ l.seen := by simpa [IoLoop.observe, other.symm] using member
    exact sound.gone earlier

theorem queueInLoop (sound : Sound l todo) (functor : LoopFunctor) :
    Sound (l.queueInLoop functor) todo :=
  ⟨sound.agrees, sound.established, sound.closed, sound.removing, sound.gone⟩

/-- Fields of the channel that play no part here. -/
theorem setChannel {channel : Channel} (sound : Sound l todo)
    (same : channel = { l.conn.channel with
      revents := channel.revents, eventHandling := channel.eventHandling }) :
    Sound { l with conn := { l.conn with channel := channel } } todo := by
  rw [same]
  exact ⟨sound.agrees, sound.established, sound.closed, sound.removing, sound.gone⟩

end Sound

variable {s s' : Session}

/-! ## Steps -/

theorem close_sound (sound : Sound s.io s.todo) (success : s.close = .ok s') :
    Sound s'.io s'.todo := by
  obtain ⟨io, closed, rfl⟩ := close_ok success
  obtain ⟨opened, closes⟩ := handleClose_ok closed
  exact sound.announced (Sound.not_closed opened) closes _

theorem handleRead_sound {result : ReadResult} (sound : Sound s.io s.todo)
    (success : s.handleRead result = .ok s') : Sound s'.io s'.todo := by
  obtain ⟨buffer, delivered | ⟨_, closed⟩ | failed⟩ := handleRead_ok success
  · subst delivered
    have read := @Sound.observe _ _ (sound.aside (input_aside s.io buffer)) .messageCallback
      (by simp)
    exact read.tasks (by simp)
  · exact close_sound (s := { s with io := input s.io buffer })
      (sound.aside (input_aside s.io buffer)) closed
  · subst failed
    exact sound.aside (input_aside s.io buffer)

/-- `connectDestroyed` finds the channel disabled, or disables it in `kConnected`. -/
theorem connectDestroyed_sound (sound : Sound s.io s.todo)
    (settled : s.io.conn.state ≠ .kDisconnecting) (success : s.connectDestroyed = .ok s') :
    Sound s'.io s'.todo := by
  rcases connectDestroyed_ok success with ⟨connected, io, begun, rfl⟩ | ⟨other, rfl⟩
  · exact sound.announced (by rw [connected]; simp) (beginDestroy_ok begun) _
  · have closed : s.io.conn.state = .kDisconnected := by
      cases state : s.io.conn.state with
      | kDisconnected => rfl
      | kConnecting => exact absurd state sound.established
      | kConnected => exact absurd state other
      | kDisconnecting => exact absurd state settled
    exact sound.removal closed _

theorem perform_sound {answers : Answers} {task : Task} {rest : List Task}
    (sound : Sound s.io (task :: rest))
    (success : ({ s with todo := rest } : Session).perform answers task = .ok s') :
    Sound s'.io s'.todo := by
  have popped : Sound s.io rest := sound.tasks (by simp +contextual)
  cases task with
  | closeOnHangup =>
    simp only [perform] at success
    split at success
    · exact close_sound popped success
    · cases success
      exact popped
  | reportError =>
    cases success
    exact popped
  | readEvent =>
    simp only [perform] at success
    split at success
    · exact handleRead_sound popped success
    · cases success
      exact popped
  | writeEvent =>
    rcases writeEvent_ok success with rfl | ⟨io, written, rfl⟩
    · exact popped
    · exact popped.aside (handleWrite_aside written)
  | leaveEvent =>
    cases success
    exact popped.setChannel rfl
  | userCode =>
    cases success
    exact popped
  | closeCallback =>
    have seen := @Sound.observe _ _ popped .closeCallback (by simp)
    rcases removeConnection_ok success with rfl | rfl
    · exact seen.queueInLoop .connectDestroyed
    · exact seen
  | removeChannel =>
    obtain ⟨io, removed, success⟩ := bind_eq_ok success
    cases success
    exact sound.removeChannel (by simp) removed _

/-- The functors, if none of them reads on a closed connection. -/
theorem runFunctor_sound {answers : Answers} {functor : LoopFunctor} {rest : List LoopFunctor}
    (sound : Sound s.io s.todo) (front : s.functors = functor :: rest)
    (careful : Careful s (.runFunctor answers))
    (success : ({ s with functors := rest } : Session).runFunctor answers functor = .ok s') :
    Sound s'.io s'.todo := by
  have head : s.functors.head? = some functor := by rw [front]; rfl
  cases functor with
  | sendInLoop message =>
    obtain ⟨io, sent, success⟩ := bind_eq_ok success
    cases success
    exact sound.aside (sendInLoop_aside sent)
  | shutdownInLoop =>
    obtain ⟨io, shut, success⟩ := bind_eq_ok success
    cases success
    exact sound.aside (shutdownInLoop_aside shut)
  | forceCloseInLoop =>
    simp only [runFunctor] at success
    split at success
    · exact close_sound (s := { s with functors := rest }) sound success
    · cases success
      exact sound
  | startReadInLoop =>
    obtain ⟨io, started, success⟩ := bind_eq_ok success
    cases success
    exact sound.startReadInLoop (careful.no_start head) started
  | stopReadInLoop =>
    obtain ⟨io, stopped, success⟩ := bind_eq_ok success
    cases success
    exact sound.stopReadInLoop (careful.no_stop head) stopped
  | writeCompleteCallback =>
    cases success
    exact (sound.observe (by simp)).tasks (by simp)
  | highWaterMarkCallback backlog =>
    cases success
    exact (sound.observe (by simp)).tasks (by simp)
  | connectDestroyed =>
    exact connectDestroyed_sound (s := { s with functors := rest }) sound (careful.settled head)
      success

/-- A user call changes the interest of an open connection only. -/
theorem call_sound {inLoopThread : Bool} {call : Call} {answers : Answers} {io : IoLoop}
    (sound : Sound s.io s.todo) (careful : Careful s (.call inLoopThread call answers))
    (success : s.io.call inLoopThread answers call = .ok io) : Sound io s.todo := by
  rcases call_ok success with beside | ⟨opened, beside⟩ | ⟨inLoop, start, started⟩ |
    ⟨inLoop, stop, stopped⟩
  · exact sound.aside beside
  · exact (sound.disconnecting opened).aside beside
  · exact sound.startReadInLoop (careful.no_start ⟨inLoop, start⟩) started
  · exact sound.stopReadInLoop (careful.no_stop ⟨inLoop, stop⟩) stopped

/-- Every careful step keeps channel and state together. -/
theorem step_sound {a : Act} (sound : Sound s.io s.todo) (enabled : s.Enabled a)
    (careful : Careful s a) (success : s.step a = .ok s') : Sound s'.io s'.todo := by
  cases a with
  | connectEstablished => exact absurd enabled sound.established
  | call inLoopThread call answers =>
    obtain ⟨io, called, success⟩ := bind_eq_ok success
    cases success
    exact call_sound (s := s) sound careful called
  | retrieveInput len =>
    obtain ⟨shorter, _, success⟩ := bind_eq_ok success
    cases success
    exact sound.aside (input_aside s.io shorter)
  | poll reported =>
    cases reported with
    | none =>
      cases success
      exact sound
    | some revents =>
      cases success
      exact sound.setChannel rfl
  | handleEvent =>
    cases success
    exact (sound.setChannel rfl).tasks (by simp)
  | proceed answers =>
    obtain ⟨task, rest, front, success⟩ := proceed_ok enabled success
    rw [front] at sound
    exact perform_sound sound success
  | doPendingFunctors =>
    cases success
    exact ⟨sound.agrees, sound.established, sound.closed, sound.removing, sound.gone⟩
  | runFunctor answers =>
    obtain ⟨functor, rest, front, success⟩ := runFunctor_ok enabled success
    exact runFunctor_sound sound front careful success
  | iterate =>
    cases success
    exact sound
  | removeConnectionInLoop =>
    simp only [step] at success
    split at success
    · cases success
    · rw [removeConnectionInLoop_ok success]
      exact sound.queueInLoop .connectDestroyed
  | destroyServer =>
    simp only [step, destroyServer] at success
    split at success
    · cases success
      exact sound
    next registered =>
      split at success
      next same =>
        exact connectDestroyed_sound (s := { s with serverAlive := false, registered := false }) sound
          (careful.settled ⟨by simpa using registered, same⟩) success
      next =>
        cases success
        exact sound.queueInLoop .connectDestroyed

theorem established_sound {address sockfd : Nat} {poller : EpollPoller}
    {writeComplete highWater sameLoop : Bool}
    (unknown : poller.channels sockfd = none ∧ poller.epollSet sockfd = none)
    (success : (fresh address sockfd poller writeComplete highWater sameLoop).step
      .connectEstablished = .ok s) : Sound s.io s.todo := by
  obtain ⟨io, up, success⟩ := bind_eq_ok success
  cases success
  obtain ⟨_, announced⟩ := connectEstablished_ok up
  refine ⟨announced.agrees (Channel.new_agrees unknown), ?_, ?_, by simp [fresh], ?_⟩
  all_goals rw [announced.effect]
  · simp
  · simp
  · simp [fresh]

theorem sound_clean {condition : Session → Act → Prop} (sound : Sound s.io s.todo) :
    CleanTeardown (machine.restrict condition) s := by
  constructor
  · intro a _
    have failures := step_faults sound.agrees (a := a) (by
      intro removal
      exact sound.closed (sound.removing (List.mem_of_mem_head? removal)))
    constructor
    · intro failed
      rcases failures _ failed with foreign | ⟨asserted, _⟩
      · exact foreign.2.1 rfl
      · cases asserted
    · intro failed
      rcases failures _ failed with foreign | ⟨asserted, _⟩
      · exact foreign.2.2 rfl
      · cases asserted
  · intro member
    obtain ⟨closed, place⟩ := sound.gone member
    have agrees : s.io.conn.channel.Agrees s.io.poller := sound.agrees
    simp only [Channel.Agrees, place] at agrees
    exact ⟨closed, agrees.1, agrees.2.1⟩

/-- In every state of every run of a connection that starts with `connectEstablished` and
takes only careful steps, the teardown is clean. -/
theorem teardown_clean {address sockfd : Nat} {poller : EpollPoller}
    {writeComplete highWater sameLoop : Bool} {actions : List Act}
    (unknown : poller.channels sockfd = none ∧ poller.epollSet sockfd = none)
    (run : (machine.restrict Careful).Run
      (fresh address sockfd poller writeComplete highWater sameLoop)
      (.connectEstablished :: actions) s) :
    CleanTeardown (machine.restrict Careful) s := by
  cases run with
  | next _ established rest =>
    have start := established_sound unknown established
    have sound := @Machine.Run.invariant _ _ _ (machine.restrict Careful) (fun s => Sound s.io s.todo) _ _ _
      (fun _ _ _ sound enabled stepped => step_sound sound enabled.1 enabled.2 stepped) start rest
    exact sound_clean sound

/-- The kernel's answers in the runs below, where none matters. -/
def quietly : Answers := ⟨.bytes [], .wrote 0, none⟩

/-- Another thread asks for `forceClose`; the loop closes the connection, the server queues
`connectDestroyed`, and the channel is gone. -/
theorem teardown_clean_forced : ∃ s,
    (machine.restrict Careful).Run (fresh 1 7 EpollPoller.empty false false true)
      [.connectEstablished, .proceed quietly, .call false .forceClose quietly, .doPendingFunctors,
        .runFunctor quietly, .proceed quietly, .proceed quietly, .iterate, .poll none,
        .doPendingFunctors, .runFunctor quietly, .proceed quietly] s ∧
    s.io.conn.state = .kDisconnected ∧ s.io.poller.channels s.io.conn.channel.fd = none := by
  obtain ⟨s, run, destroyed⟩ := (machine.restrict Careful).exists_run_of_exec
    (fresh 1 7 EpollPoller.empty false false true)
    [.connectEstablished, .proceed quietly, .call false .forceClose quietly, .doPendingFunctors,
      .runFunctor quietly, .proceed quietly, .proceed quietly, .iterate, .poll none,
      .doPendingFunctors, .runFunctor quietly, .proceed quietly]
    (fun s => s.io.seen.contains .destroyed) (by decide +kernel)
  have clean := teardown_clean ⟨rfl, rfl⟩ run
  have gone := clean.gone (by simpa using destroyed)
  exact ⟨s, run, gone.1, gone.2.1⟩

/-- `shutdown` puts the connection in `kDisconnecting`, the server is destroyed, and
`connectDestroyed` removes a channel that still asks for input. -/
theorem destroyed_while_disconnecting : ∃ s,
    machine.Run (fresh 1 7 EpollPoller.empty false false true)
      [.connectEstablished, .proceed quietly, .call true .shutdown quietly, .destroyServer] s ∧
    ¬ CleanTeardown machine s := by
  obtain ⟨s, run, aborts⟩ := machine.exists_run_of_exec
    (fresh 1 7 EpollPoller.empty false false true)
    [.connectEstablished, .proceed quietly, .call true .shutdown quietly, .destroyServer]
    (fun s => decide (s.Enabled (.proceed quietly)) &&
      failsWith (s.step (.proceed quietly)) (.assertion .channelCpp 49)) (by decide +kernel)
  simp only [Bool.and_eq_true, decide_eq_true_eq] at aborts
  refine ⟨s, run, ?_⟩
  intro clean
  exact (clean.asserted (.proceed quietly) aborts.1).1 (eq_error_of_failsWith aborts.2)

end Starry.Guarantees.ConnectionTeardown
