import Starry.Source.ConnectionLoopSpec

/-!
# The callback protocol of a connection

Over every run of one connection whose server stays alive, the callbacks come in order and
`handleClose` is entered at most once, provided that

* no `handleClose` is entered while the channel has no interest: `disableAll` on a channel
  that the poller has deleted adds the fd to the epoll set again,
* no `startReadInLoop`, and no `stopReadInLoop` with `reading_` still set, runs on a closed
  connection: either one registers the channel again,
* no event reports EPOLLHUP with EPOLLPRI or EPOLLRDHUP and without EPOLLIN: the first test
  of `handleEventWithGuard` then closes and the third one reads.

Under these conditions a closed connection is never in the epoll set.
`closed_twice_after_stopRead` is a run that breaks the first.
-/
namespace Starry.Guarantees.ConnectionCallbacks

open Starry.Foundation
open Starry.Source
open Starry.Source.IoLoop
open Starry.Source.Session

/-- The runs of one connection: the server is not destroyed. -/
def connectionMachine : Machine Session Act Abort :=
  machine.restrict fun _ a => a ≠ .destroyServer

structure CallbackProtocol (M : Machine Session Act Abort) (s : Session) : Prop where
  connected_once : s.io.seen.count (.connectionCallback .kConnected) = 1
  disconnected_once : s.io.seen.count (.connectionCallback .kDisconnected) ≤ 1
  closed_once : s.io.seen.count .closeCallback ≤ 1
  silent : ∀ before after, s.io.seen = before ++ .closeCallback :: after →
    .messageCallback ∉ after
  asserted : ∀ a, M.enabled s a → M.step s a ≠ .error (.assertion .tcpConnectionCpp 314)

/-- The step does not report a hangup that also reads. -/
def Calm : Act → Prop
  | .poll (some revents) => hangup revents = true → readable revents = false
  | _ => True

/-- The condition on a step, in the state before it. -/
structure Tame (s : Session) (a : Act) : Prop where
  interested : s.Closes a → s.io.conn.channel.events ≠ 0#32
  no_start : s.StartsReading a → s.io.conn.state ≠ .kDisconnected
  no_stop : s.StopsReading a → s.io.conn.state = .kDisconnected → s.io.conn.reading = false
  calm : Calm a

instance (a : Act) : Decidable (Calm a) :=
  match a with
  | .poll (some _) => inferInstanceAs (Decidable (_ → _))
  | .poll none | .connectEstablished | .call _ _ _ | .retrieveInput _ | .handleEvent | .proceed _
  | .doPendingFunctors | .runFunctor _ | .iterate | .removeConnectionInLoop | .destroyServer =>
    isTrue trivial

instance (s : Session) (a : Act) : Decidable (Tame s a) :=
  decidable_of_iff ((s.Closes a → s.io.conn.channel.events ≠ 0#32) ∧
    (s.StartsReading a → s.io.conn.state ≠ .kDisconnected) ∧
    (s.StopsReading a → s.io.conn.state = .kDisconnected → s.io.conn.reading = false) ∧ Calm a)
    ⟨fun ⟨interested, no_start, no_stop, calm⟩ => ⟨interested, no_start, no_stop, calm⟩,
      fun ⟨interested, no_start, no_stop, calm⟩ => ⟨interested, no_start, no_stop, calm⟩⟩

/-! ## The invariant -/

def isEventTask : Task → Bool
  | .closeOnHangup | .reportError | .readEvent | .writeEvent | .leaveEvent => true
  | _ => false

def eventTasks : List Task := [.closeOnHangup, .reportError, .readEvent, .writeEvent, .leaveEvent]

/-- What has been called back at the end, and whether the close callback is still due. -/
def Stage (conn : TcpConnection) (todo : List Task) (ending : List Observation) : Prop :=
  (conn.isOpen = true ∧ ending = [] ∧ .closeCallback ∉ todo) ∨
  (conn.state = .kDisconnected ∧
    ((ending = [.connectionCallback .kDisconnected] ∧ todo.count .closeCallback = 1) ∨
      (ending = [.connectionCallback .kDisconnected, .closeCallback] ∧ .closeCallback ∉ todo)))

structure Closed (s : Session) : Prop where
  idle : s.io.conn.channel.events = 0#32
  absent : s.io.conn.channel.index ≠ .kAdded
  past : s.activity ≠ .waiting
  no_hangup : .closeOnHangup ∉ s.todo
  no_read : .readEvent ∈ s.todo → readable s.io.conn.channel.revents = false

/-- `connectDestroyed` is on its way. -/
def Doomed (s : Session) : Prop :=
  .connectDestroyed ∈ s.io.pendingFunctors ∨ .connectDestroyed ∈ s.functors ∨
    .removeChannel ∈ s.todo ∨ 0 < s.removals

structure Orderly (s : Session) : Prop where
  agrees : s.io.Agrees
  shape : ∃ n ending, s.io.callbacks = .connectionCallback .kConnected ::
    (List.replicate n .messageCallback ++ ending) ∧ Stage s.io.conn s.todo ending
  calm : hangup s.io.conn.channel.revents = true → readable s.io.conn.channel.revents = false
  tasks : s.todo.filter isEventTask <:+ eventTasks
  waits : s.activity = .waiting → s.phase = .events ∧ s.todo.filter isEventTask = []
  closed : s.io.conn.state = .kDisconnected → Closed s
  doomed : Doomed s → s.io.conn.state = .kDisconnected

variable {s s' : Session}

/-- A stage is of a connection that has been established. -/
theorem Stage.established {conn : TcpConnection} {todo : List Task} {ending : List Observation}
    (stage : Stage conn todo ending) : conn.state ≠ .kConnecting := by
  intro connecting
  rcases stage with ⟨opened, _⟩ | ⟨closed, _⟩
  · simp [TcpConnection.isOpen, connecting] at opened
  · rw [connecting] at closed
    cases closed

theorem isOpen_iff {conn : TcpConnection} {todo : List Task} {ending : List Observation}
    (stage : Stage conn todo ending) : conn.isOpen = true ↔ conn.state ≠ .kDisconnected := by
  constructor
  · intro opened closed
    simp [TcpConnection.isOpen, closed] at opened
  · intro live
    rcases stage with ⟨opened, _⟩ | ⟨closed, _⟩
    · exact opened
    · exact absurd closed live

namespace Orderly

theorem isOpen (orderly : Orderly s) (live : s.io.conn.state ≠ .kDisconnected) :
    s.io.conn.isOpen = true := by
  obtain ⟨n, ending, _, stage⟩ := orderly.shape
  exact (isOpen_iff stage).mpr live

theorem live (opened : s.io.conn.isOpen = true) : s.io.conn.state ≠ .kDisconnected := by
  intro closed
  simp [TcpConnection.isOpen, closed] at opened

/-! ## What the functions of the connection keep -/

/-- What leaves the state and the callbacks alone keeps the order. -/
theorem aside {io : IoLoop} (orderly : Orderly s) (beside : s.io.Aside io) :
    Orderly { s with io := io } := by
  have same : s.io.conn.state = .kDisconnected → io.conn.channel = s.io.conn.channel :=
    fun closed => beside.closed closed (orderly.closed closed).idle
  have opens : io.conn.isOpen = s.io.conn.isOpen := by
    simp only [TcpConnection.isOpen, beside.state]
  refine ⟨beside.agrees orderly.agrees, ?_, ?_, orderly.tasks, orderly.waits, ?_, ?_⟩
  · obtain ⟨n, ending, callbacks, stage⟩ := orderly.shape
    refine ⟨n, ending, beside.callbacks.trans callbacks, ?_⟩
    simpa only [Stage, opens, beside.state] using stage
  · simpa only [beside.revents] using orderly.calm
  · intro closed
    have closed : s.io.conn.state = .kDisconnected := beside.state.symm.trans closed
    have before := orderly.closed closed
    refine ⟨?_, ?_, before.past, before.no_hangup, ?_⟩
    · simpa only [same closed] using before.idle
    · simpa only [same closed] using before.absent
    · simpa only [same closed] using before.no_read
  · intro doomed
    rw [beside.state]
    apply orderly.doomed
    simpa only [Doomed, beside.queue] using doomed

theorem disconnecting (orderly : Orderly s) (opened : s.io.conn.isOpen = true) :
    Orderly { s with io := s.io.setState .kDisconnecting } := by
  have alive := live opened
  refine ⟨orderly.agrees, ?_, orderly.calm, orderly.tasks, orderly.waits, by simp [setState],
    fun doomed => absurd (orderly.doomed doomed) alive⟩
  obtain ⟨n, ending, callbacks, stage⟩ := orderly.shape
  refine ⟨n, ending, callbacks, ?_⟩
  rcases stage with ⟨_, ended, due⟩ | ⟨closed, _⟩
  · exact .inl ⟨by simp [setState, TcpConnection.isOpen], ended, due⟩
  · exact absurd closed alive

theorem retuned {io : IoLoop} {events : EventMask} {reading : Bool} (orderly : Orderly s)
    (alive : s.io.conn.state ≠ .kDisconnected) (tuned : s.io.Retuned events reading io) :
    Orderly { s with io := io } := by
  have effect := tuned.effect
  refine ⟨tuned.agrees orderly.agrees, ?_, ?_, orderly.tasks, orderly.waits, ?_, ?_⟩
  · rw [effect]
    exact orderly.shape
  · rw [effect]
    exact orderly.calm
  · rw [effect]
    exact fun closed => absurd closed alive
  · intro doomed
    have before : Doomed s := by
      simp only [Doomed] at doomed ⊢
      rwa [effect] at doomed
    exact absurd (orderly.doomed before) alive

/-- The tasks change; what is added is user code, or the removal of a closed connection's
channel. -/
theorem retask {todo : List Task} (orderly : Orderly s)
    (added : ∀ task ∈ todo, task ∈ s.todo ∨ task = .userCode ∨
      (task = .removeChannel ∧ s.io.conn.state = .kDisconnected))
    (events : todo.filter isEventTask <:+ s.todo.filter isEventTask)
    (due : todo.count .closeCallback = s.todo.count .closeCallback) :
    Orderly { s with todo := todo } := by
  have old : ∀ task ∈ todo, isEventTask task = true → task ∈ s.todo := by
    intro task member event
    rcases added task member with old | rfl | ⟨rfl, _⟩
    · exact old
    · cases event
    · cases event
  refine ⟨orderly.agrees, ?_, orderly.calm, events.trans orderly.tasks, ?_, ?_, ?_⟩
  · obtain ⟨n, ending, callbacks, stage⟩ := orderly.shape
    refine ⟨n, ending, callbacks, ?_⟩
    have member : .closeCallback ∈ todo ↔ .closeCallback ∈ s.todo := by
      rw [← List.count_pos_iff, ← List.count_pos_iff, due]
    simpa only [Stage, due, member] using stage
  · intro waiting
    obtain ⟨phase, none⟩ := orderly.waits waiting
    rw [none] at events
    exact ⟨phase, List.suffix_nil.mp events⟩
  · intro closed
    have before := orderly.closed closed
    exact ⟨before.idle, before.absent, before.past,
      fun member => before.no_hangup (old _ member rfl),
      fun member => before.no_read (old _ member rfl)⟩
  · intro doomed
    rcases doomed with queued | running | removing | remote
    · exact orderly.doomed (.inl queued)
    · exact orderly.doomed (.inr (.inl running))
    · rcases added _ removing with old | user | ⟨_, closed⟩
      · exact orderly.doomed (.inr (.inr (.inl old)))
      · cases user
      · exact closed
    · exact orderly.doomed (.inr (.inr (.inr remote)))

theorem pop {task : Task} {rest : List Task} (orderly : Orderly s) (front : s.todo = task :: rest)
    (other : task ≠ .closeCallback) : Orderly { s with todo := rest } := by
  apply orderly.retask
  · intro later member
    exact .inl (by rw [front]; exact List.mem_cons_of_mem _ member)
  · rw [front, List.filter_cons]
    split
    · exact List.suffix_cons _ _
    · exact List.suffix_rfl
  · rw [front, List.count_cons_of_ne other]

theorem userCode (orderly : Orderly s) : Orderly { s with todo := .userCode :: s.todo } := by
  apply orderly.retask
  · intro task member
    rcases List.mem_cons.mp member with user | old
    · exact .inr (.inl user)
    · exact .inl old
  · simp [isEventTask]
  · simp

theorem removal (orderly : Orderly s) (closed : s.io.conn.state = .kDisconnected) :
    Orderly { s with todo := .removeChannel :: s.todo } := by
  apply orderly.retask
  · intro task member
    rcases List.mem_cons.mp member with removing | old
    · exact .inr (.inr ⟨removing, closed⟩)
    · exact .inl old
  · simp [isEventTask]
  · simp

/-- An observation that is not a callback of the protocol. -/
theorem observe {observation : Observation} (orderly : Orderly s)
    (other : isCallback observation = false) :
    Orderly { s with io := s.io.observe observation } := by
  refine ⟨orderly.agrees, ?_, orderly.calm, orderly.tasks, orderly.waits, ?_, orderly.doomed⟩
  · simpa [callbacks, IoLoop.observe, other] using orderly.shape
  · intro closed
    have before := orderly.closed closed
    exact ⟨before.idle, before.absent, before.past, before.no_hangup, before.no_read⟩

/-- A message, while the connection is open. -/
theorem message (orderly : Orderly s) (alive : s.io.conn.state ≠ .kDisconnected) :
    Orderly { s with io := s.io.observe .messageCallback } := by
  refine ⟨orderly.agrees, ?_, orderly.calm, orderly.tasks, orderly.waits,
    fun closed => absurd closed alive, orderly.doomed⟩
  obtain ⟨n, ending, before, stage⟩ := orderly.shape
  rcases stage with ⟨opened, rfl, due⟩ | ⟨closed, _⟩
  · refine ⟨n + 1, [], ?_, .inl ⟨opened, rfl, due⟩⟩
    rw [callbacks, IoLoop.observe, List.filter_append, ← callbacks, before]
    simp [isCallback, List.replicate_succ']
  · exact absurd closed alive

/-- `handleClose` on an open connection with interest: the channel leaves the epoll set. -/
theorem close (orderly : Orderly s) (interested : s.io.conn.channel.events ≠ 0#32)
    (past : s.activity ≠ .waiting) (no_hangup : .closeOnHangup ∉ s.todo)
    (no_read : .readEvent ∈ s.todo → readable s.io.conn.channel.revents = false)
    (success : s.close = .ok s') : Orderly s' := by
  obtain ⟨io, entered, rfl⟩ := close_ok success
  obtain ⟨opened, announced⟩ := handleClose_ok entered
  have alive := live opened
  have effect := announced.effect
  have added : s.io.conn.channel.index = .kAdded := by
    have agrees : s.io.conn.channel.Agrees s.io.poller := orderly.agrees
    cases place : s.io.conn.channel.index with
    | kAdded => rfl
    | kNew =>
      simp only [Channel.Agrees, place] at agrees
      exact absurd agrees.2.2 interested
    | kDeleted =>
      simp only [Channel.Agrees, place] at agrees
      exact absurd agrees.2.2 interested
  refine ⟨announced.agrees orderly.agrees, ?_, ?_, ?_, ?_, ?_, ?_⟩
  · obtain ⟨n, ending, before, stage⟩ := orderly.shape
    rcases stage with ⟨_, rfl, due⟩ | ⟨closed, _⟩
    · refine ⟨n, [.connectionCallback .kDisconnected], ?_, .inr ⟨?_, .inl ⟨rfl, ?_⟩⟩⟩
      · rw [effect, callbacks, List.filter_append, ← callbacks, before]
        simp [isCallback]
      · rw [effect]
      · simp [List.count_eq_zero_of_not_mem due]
    · exact absurd closed alive
  · rw [effect]
    exact orderly.calm
  · simpa [isEventTask] using orderly.tasks
  · intro waiting
    exact absurd waiting past
  · intro _
    refine ⟨?_, ?_, past, by simpa using no_hangup, ?_⟩
    · rw [effect]
      rfl
    · rw [effect]
      simp [Channel.updated, added]
    · rw [effect]
      simpa [Channel.updated] using no_read
  · intro _
    rw [effect]

/-- `connectDestroyed` is queued, here or at the base loop, for a closed connection. -/
theorem doom {functors : List LoopFunctor} {registered : Bool} {removals : Nat}
    (orderly : Orderly s) (closed : s.io.conn.state = .kDisconnected) :
    Orderly { s with io := { s.io with pendingFunctors := functors }
                     registered := registered, removals := removals } := by
  have before := orderly.closed closed
  exact ⟨orderly.agrees, orderly.shape, orderly.calm, orderly.tasks, orderly.waits,
    fun _ => ⟨before.idle, before.absent, before.past, before.no_hangup, before.no_read⟩,
    fun _ => closed⟩

/-- The close callback, the one task that was due. -/
theorem closeCallback {rest : List Task} (orderly : Orderly s)
    (front : s.todo = .closeCallback :: rest) :
    s.io.conn.state = .kDisconnected ∧
      Orderly { s with io := s.io.observe .closeCallback, todo := rest } := by
  obtain ⟨n, ending, before, stage⟩ := orderly.shape
  rw [front] at stage
  rcases stage with ⟨_, _, due⟩ | ⟨closed, ⟨rfl, due⟩ | ⟨_, due⟩⟩
  · simp at due
  · have closing := orderly.closed closed
    have none : .closeCallback ∉ rest := by
      rw [List.count_cons_self] at due
      exact List.count_eq_zero.mp (by omega)
    have events : rest.filter isEventTask = s.todo.filter isEventTask := by
      rw [front]
      simp [isEventTask]
    refine ⟨closed, orderly.agrees, ?_, orderly.calm, ?_, ?_, ?_, ?_⟩
    · refine ⟨n, _, ?_, .inr ⟨closed, .inr ⟨rfl, none⟩⟩⟩
      rw [callbacks, IoLoop.observe, List.filter_append, ← callbacks, before]
      simp [isCallback]
    · rw [events]
      exact orderly.tasks
    · rw [events]
      exact orderly.waits
    · intro _
      refine ⟨closing.idle, closing.absent, closing.past, ?_, ?_⟩
      · intro member
        exact closing.no_hangup (by rw [front]; exact List.mem_cons_of_mem _ member)
      · intro member
        exact closing.no_read (by rw [front]; exact List.mem_cons_of_mem _ member)
    · exact fun _ => closed
  · simp at due

/-- The end of `connectDestroyed`, on a closed connection. -/
theorem removeChannel {io : IoLoop} {inUse : Bool} (orderly : Orderly s)
    (closed : s.io.conn.state = .kDisconnected)
    (success : s.io.removeChannel inUse = .ok io) : Orderly { s with io := io } := by
  obtain ⟨idle, _, effect, agrees⟩ := removeChannel_ok success
  have before := orderly.closed closed
  refine ⟨agrees orderly.agrees, ?_, ?_, orderly.tasks, orderly.waits, ?_, ?_⟩
  · obtain ⟨n, ending, known, stage⟩ := orderly.shape
    rw [effect]
    refine ⟨n, ending, ?_, stage⟩
    simpa [callbacks, isCallback] using known
  · rw [effect]
    exact orderly.calm
  · intro _
    refine ⟨?_, ?_, before.past, before.no_hangup, ?_⟩
    all_goals rw [effect]
    · exact idle
    · simp [Channel.removed]
    · exact before.no_read
  · intro _
    rw [effect]
    exact closed

/-- `revents_` is set by `poll`, or `eventHandling_` by `handleEvent`. -/
theorem setChannel (orderly : Orderly s) {channel : Channel}
    (same : channel = { s.io.conn.channel with
      revents := channel.revents, eventHandling := channel.eventHandling })
    (calm : hangup channel.revents = true → readable channel.revents = false)
    (steady : s.io.conn.state = .kDisconnected → channel.revents = s.io.conn.channel.revents) :
    Orderly (s.setChannel channel) := by
  refine ⟨?_, orderly.shape, calm, orderly.tasks, orderly.waits, ?_, orderly.doomed⟩
  · unfold Session.setChannel
    rw [same]
    exact orderly.agrees
  · intro closed
    have before := orderly.closed closed
    refine ⟨?_, ?_, before.past, before.no_hangup, ?_⟩
    · have events : channel.events = s.io.conn.channel.events := by rw [same]
      exact events.trans before.idle
    · have place : channel.index = s.io.conn.channel.index := by rw [same]
      simpa only [Session.setChannel, place] using before.absent
    · simpa only [Session.setChannel, steady closed] using before.no_read

/-- The loop goes on to another phase, or the round over the active channels does. -/
theorem schedule (orderly : Orderly s) (phase : Phase) {activity : Activity}
    (settled : activity ≠ .waiting) : Orderly { s with phase := phase, activity := activity } := by
  refine ⟨orderly.agrees, orderly.shape, orderly.calm, orderly.tasks,
    fun waiting => absurd waiting settled, ?_, orderly.doomed⟩
  intro closed
  have before := orderly.closed closed
  exact ⟨before.idle, before.absent, settled, before.no_hangup, before.no_read⟩

end Orderly

/-! ## Steps -/

/-- A read either calls `messageCallback_` or closes, and before the end. -/
theorem handleRead_orderly {result : ReadResult} (orderly : Orderly s)
    (alive : s.io.conn.state ≠ .kDisconnected)
    (interested : result = .bytes [] → s.io.conn.channel.events ≠ 0#32)
    (past : s.activity ≠ .waiting) (no_hangup : .closeOnHangup ∉ s.todo)
    (no_read : .readEvent ∉ s.todo)
    (success : s.handleRead result = .ok s') : Orderly s' := by
  obtain ⟨buffer, delivered | ⟨empty, closed⟩ | failed⟩ := handleRead_ok success
  · subst delivered
    exact ((orderly.aside (input_aside s.io buffer)).message alive).userCode
  · exact (orderly.aside (input_aside s.io buffer)).close (interested empty) past no_hangup
      (fun member => absurd member no_read) closed
  · subst failed
    exact orderly.aside (input_aside s.io buffer)

/-- On a closed connection there is nothing left for `stopReadInLoop` to turn off. -/
theorem stopReadInLoop_orderly {io : IoLoop} (orderly : Orderly s)
    (settled : s.io.conn.state = .kDisconnected → s.io.conn.reading = false)
    (success : s.io.stopReadInLoop = .ok io) : Orderly { s with io := io } := by
  rcases stopReadInLoop_ok success with ⟨_, rfl⟩ | ⟨touched, tuned⟩
  · exact orderly
  · refine orderly.retuned ?_ tuned
    intro closed
    rw [settled closed, Channel.isReading_none (orderly.closed closed).idle] at touched
    simp at touched

/-- The tasks left behind the first test, and behind the read. -/
theorem tasks_after {task : Task} {rest : List Task} (orderly : Orderly s)
    (front : s.todo = task :: rest) (event : isEventTask task = true) :
    s.activity ≠ .waiting ∧ (task = .closeOnHangup ∨ task = .readEvent → .closeOnHangup ∉ rest) ∧
      (task = .readEvent → .readEvent ∉ rest) := by
  have tail : (task :: rest.filter isEventTask) <:+ eventTasks := by
    have tasks := orderly.tasks
    rwa [front, List.filter_cons_of_pos event] at tasks
  have inside : ∀ later, isEventTask later = true → later ∈ rest →
      later ∈ rest.filter isEventTask :=
    fun later event member => List.mem_filter.mpr ⟨member, event⟩
  refine ⟨?_, ?_, ?_⟩
  · intro waiting
    have none := (orderly.waits waiting).2
    rw [front, List.filter_cons_of_pos event] at none
    cases none
  · intro which member
    have later := inside .closeOnHangup rfl member
    rcases which with rfl | rfl
    · simp [eventTasks, List.suffix_cons_iff] at tail
      simp [tail] at later
    · simp [eventTasks, List.suffix_cons_iff] at tail
      simp [tail] at later
  · intro which member
    have later := inside .readEvent rfl member
    subst which
    simp [eventTasks, List.suffix_cons_iff] at tail
    simp [tail] at later

theorem perform_orderly {answers : Answers} {task : Task} {rest : List Task}
    (orderly : Orderly s) (front : s.todo = task :: rest) (tame : Tame s (.proceed answers))
    (success : ({ s with todo := rest } : Session).perform answers task = .ok s') :
    Orderly s' := by
  cases task with
  | closeOnHangup =>
    have popped := orderly.pop front (by simp)
    simp only [perform] at success
    split at success
    next reported =>
      obtain ⟨past, no_hangup, _⟩ := tasks_after orderly front rfl
      exact popped.close (tame.interested (.inl ⟨by rw [front]; rfl, reported⟩)) past
        (no_hangup (.inl rfl)) (fun _ => orderly.calm reported) success
    next =>
      cases success
      exact popped
  | reportError =>
    cases success
    exact orderly.pop front (by simp)
  | readEvent =>
    have popped := orderly.pop front (by simp)
    simp only [perform] at success
    split at success
    next reported =>
      obtain ⟨past, no_hangup, no_read⟩ := tasks_after orderly front rfl
      have alive : s.io.conn.state ≠ .kDisconnected := by
        intro closed
        have quiet := (orderly.closed closed).no_read (by rw [front]; simp)
        have reported : readable s.io.conn.channel.revents = true := reported
        rw [quiet] at reported
        cases reported
      exact handleRead_orderly popped alive
        (fun empty => tame.interested (.inr ⟨by rw [front]; rfl, reported, empty⟩)) past
        (no_hangup (.inr rfl)) (no_read rfl) success
    next =>
      cases success
      exact popped
  | writeEvent =>
    have popped := orderly.pop front (by simp)
    rcases writeEvent_ok success with rfl | ⟨io, written, rfl⟩
    · exact popped
    · exact popped.aside (handleWrite_aside written)
  | leaveEvent =>
    cases success
    have popped := orderly.pop front (by simp)
    have left := @Orderly.setChannel _ popped { s.io.conn.channel with eventHandling := false } rfl
      orderly.calm (fun _ => rfl)
    exact left.schedule s.phase (by simp)
  | userCode =>
    cases success
    exact orderly.pop front (by simp)
  | closeCallback =>
    obtain ⟨closed, seen⟩ := orderly.closeCallback front
    rcases removeConnection_ok success with rfl | rfl
    · exact seen.doom closed
    · exact seen.doom closed
  | removeChannel =>
    obtain ⟨io, removed, success⟩ := bind_eq_ok success
    cases success
    have closed := orderly.doomed (.inr (.inr (.inl (by rw [front]; simp))))
    exact (orderly.pop front (by simp)).removeChannel closed removed

theorem runFunctor_orderly {answers : Answers} {functor : LoopFunctor} {rest : List LoopFunctor}
    (orderly : Orderly s) (front : s.functors = functor :: rest)
    (enabled : s.Enabled (.runFunctor answers)) (tame : Tame s (.runFunctor answers))
    (success : ({ s with functors := rest } : Session).runFunctor answers functor = .ok s') :
    Orderly s' := by
  have head : s.functors.head? = some functor := by rw [front]; rfl
  have popped : Orderly { s with functors := rest } := by
    refine ⟨orderly.agrees, orderly.shape, orderly.calm, orderly.tasks, orderly.waits, ?_, ?_⟩
    · intro closed
      have before := orderly.closed closed
      exact ⟨before.idle, before.absent, before.past, before.no_hangup, before.no_read⟩
    · intro doomed
      apply orderly.doomed
      simp only [Doomed, front, List.mem_cons] at doomed ⊢
      tauto
  cases functor with
  | sendInLoop message =>
    obtain ⟨io, sent, success⟩ := bind_eq_ok success
    cases success
    exact popped.aside (sendInLoop_aside sent)
  | shutdownInLoop =>
    obtain ⟨io, shut, success⟩ := bind_eq_ok success
    cases success
    exact popped.aside (shutdownInLoop_aside shut)
  | forceCloseInLoop =>
    simp only [runFunctor] at success
    split at success
    next opened =>
      have past : s.activity ≠ .waiting := by
        intro waiting
        have phase := (orderly.waits waiting).1
        rw [enabled.1] at phase
        cases phase
      exact popped.close (tame.interested ⟨head, opened⟩) past (by simp [enabled.2.1])
        (by simp [enabled.2.1]) success
    next =>
      cases success
      exact popped
  | startReadInLoop =>
    obtain ⟨io, started, success⟩ := bind_eq_ok success
    cases success
    rcases startReadInLoop_ok started with ⟨_, rfl⟩ | ⟨_, tuned⟩
    · exact popped
    · exact popped.retuned (tame.no_start head) tuned
  | stopReadInLoop =>
    obtain ⟨io, stopped, success⟩ := bind_eq_ok success
    cases success
    exact stopReadInLoop_orderly popped (tame.no_stop head) stopped
  | writeCompleteCallback =>
    cases success
    exact (popped.observe rfl).userCode
  | highWaterMarkCallback backlog =>
    cases success
    exact (popped.observe rfl).userCode
  | connectDestroyed =>
    have closed := orderly.doomed (.inr (.inl (by rw [front]; simp)))
    rcases connectDestroyed_ok success with ⟨connected, _⟩ | ⟨_, rfl⟩
    · rw [closed] at connected
      cases connected
    · exact popped.removal closed

theorem call_orderly {inLoopThread : Bool} {call : Call} {answers : Answers} {io : IoLoop}
    (orderly : Orderly s) (tame : Tame s (.call inLoopThread call answers))
    (success : s.io.call inLoopThread answers call = .ok io) : Orderly { s with io := io } := by
  rcases call_ok success with beside | ⟨opened, beside⟩ | ⟨inLoop, start, started⟩ |
    ⟨inLoop, stop, stopped⟩
  · exact orderly.aside beside
  · exact (orderly.disconnecting opened).aside beside
  · rcases startReadInLoop_ok started with ⟨_, rfl⟩ | ⟨_, tuned⟩
    · exact orderly
    · exact orderly.retuned (tame.no_start ⟨inLoop, start⟩) tuned
  · exact stopReadInLoop_orderly orderly (tame.no_stop ⟨inLoop, stop⟩) stopped

/-- A closed connection is not in the epoll set, so the kernel reports nothing for it. -/
theorem not_deliverable (orderly : Orderly s) {revents : EventMask}
    (deliverable : s.Deliverable revents) : s.io.conn.state ≠ .kDisconnected := by
  intro closed
  have agrees : s.io.conn.channel.Agrees s.io.poller := orderly.agrees
  have absent := (orderly.closed closed).absent
  obtain ⟨mask, address, listed, _⟩ := deliverable
  cases place : s.io.conn.channel.index with
  | kAdded => exact absent place
  | kNew =>
    simp only [Channel.Agrees, place] at agrees
    rw [agrees.2.1] at listed
    cases listed
  | kDeleted =>
    simp only [Channel.Agrees, place] at agrees
    rw [agrees.2.1] at listed
    cases listed

theorem poll_orderly {revents : EventMask} (orderly : Orderly s)
    (enabled : s.Enabled (.poll (some revents)))
    (calm : hangup revents = true → readable revents = false) :
    Orderly { s.setChannel { s.io.conn.channel with revents := revents } with
      phase := .events, activity := .waiting } := by
  obtain ⟨_, none, deliverable⟩ := enabled
  have alive := not_deliverable orderly deliverable
  have seen := @Orderly.setChannel _ orderly { s.io.conn.channel with revents := revents } rfl calm
    (fun closed => absurd closed alive)
  refine ⟨seen.agrees, seen.shape, seen.calm, seen.tasks, ?_, fun closed => absurd closed alive,
    seen.doomed⟩
  intro _
  exact ⟨rfl, by simp [Session.setChannel, none]⟩

theorem handleEvent_orderly (orderly : Orderly s) (enabled : s.Enabled .handleEvent) :
    Orderly { s.setChannel { s.io.conn.channel with eventHandling := true } with
      activity := .current
      todo := [.closeOnHangup, .reportError, .readEvent, .writeEvent, .leaveEvent] } := by
  obtain ⟨_, waiting, none⟩ := enabled
  have alive : s.io.conn.state ≠ .kDisconnected :=
    fun closed => (orderly.closed closed).past waiting
  have handling := @Orderly.setChannel _ orderly { s.io.conn.channel with eventHandling := true } rfl
    orderly.calm (fun _ => rfl)
  refine ⟨handling.agrees, ?_, handling.calm, ?_, by simp, fun closed => absurd closed alive, ?_⟩
  · obtain ⟨n, ending, before, stage⟩ := handling.shape
    refine ⟨n, ending, before, ?_⟩
    rcases stage with ⟨opened, ended, _⟩ | ⟨closed, _⟩
    · exact .inl ⟨opened, ended, by simp⟩
    · exact absurd closed alive
  · exact List.suffix_rfl
  · intro doomed
    apply orderly.doomed
    rcases doomed with queued | running | removing | remote
    · exact .inl queued
    · exact .inr (.inl running)
    · simp at removing
    · exact .inr (.inr (.inr remote))

theorem doPendingFunctors_orderly (orderly : Orderly s) (enabled : s.Enabled .doPendingFunctors) :
    Orderly { s with phase := .functors, functors := s.io.pendingFunctors
                     io := { s.io with pendingFunctors := [] } } := by
  refine ⟨orderly.agrees, orderly.shape, orderly.calm, orderly.tasks,
    fun waiting => absurd waiting enabled.2.1, ?_, ?_⟩
  · intro closed
    have before := orderly.closed closed
    exact ⟨before.idle, before.absent, before.past, before.no_hangup, before.no_read⟩
  · intro doomed
    apply orderly.doomed
    rcases doomed with queued | running | removing | remote
    · simp at queued
    · exact .inl running
    · exact .inr (.inr (.inl removing))
    · exact .inr (.inr (.inr remote))

theorem step_orderly {a : Act} (orderly : Orderly s) (enabled : s.Enabled a)
    (alive : a ≠ .destroyServer) (tame : Tame s a) (success : s.step a = .ok s') : Orderly s' := by
  cases a with
  | connectEstablished =>
    obtain ⟨n, ending, _, stage⟩ := orderly.shape
    exact absurd enabled stage.established
  | call inLoopThread call answers =>
    obtain ⟨io, called, success⟩ := bind_eq_ok success
    cases success
    exact call_orderly orderly tame called
  | retrieveInput len =>
    obtain ⟨shorter, _, success⟩ := bind_eq_ok success
    cases success
    exact orderly.aside (input_aside s.io shorter)
  | poll reported =>
    cases reported with
    | none =>
      cases success
      exact orderly.schedule .events (by simp)
    | some revents =>
      cases success
      exact poll_orderly orderly enabled tame.calm
  | handleEvent =>
    cases success
    exact handleEvent_orderly orderly enabled
  | proceed answers =>
    obtain ⟨task, rest, front, success⟩ := proceed_ok enabled success
    exact perform_orderly orderly front tame success
  | doPendingFunctors =>
    cases success
    exact doPendingFunctors_orderly orderly enabled
  | runFunctor answers =>
    obtain ⟨functor, rest, front, success⟩ := runFunctor_ok enabled success
    exact runFunctor_orderly orderly front enabled tame success
  | iterate =>
    cases success
    refine orderly.schedule .poll ?_
    intro waiting
    have phase := (orderly.waits waiting).1
    rw [enabled.1] at phase
    cases phase
  | removeConnectionInLoop =>
    simp only [step] at success
    split at success
    · cases success
    · rw [removeConnectionInLoop_ok success]
      exact orderly.doom (orderly.doomed (.inr (.inr (.inr enabled))))
  | destroyServer => exact absurd rfl alive

/-! ## Runs -/

theorem established_orderly {address sockfd : Nat} {poller : EpollPoller}
    {writeComplete highWater sameLoop : Bool}
    (unknown : poller.channels sockfd = none ∧ poller.epollSet sockfd = none)
    (success : (fresh address sockfd poller writeComplete highWater sameLoop).step
      .connectEstablished = .ok s) : Orderly s := by
  obtain ⟨io, up, success⟩ := bind_eq_ok success
  cases success
  obtain ⟨_, announced⟩ := connectEstablished_ok up
  have effect := announced.effect
  refine ⟨announced.agrees (Channel.new_agrees unknown), ?_, ?_, ?_, by simp [fresh], ?_, ?_⟩
  · refine ⟨0, [], ?_, .inl ⟨?_, rfl, by simp [fresh]⟩⟩
    · rw [effect]
      simp [callbacks, isCallback, fresh]
    · rw [effect]
      rfl
  · rw [effect]
    intro reported
    simp [hangup, fresh, TcpConnection.new, Channel.new, Channel.updated] at reported
  · simp [fresh, isEventTask]
  · rw [effect]
    simp
  · rw [effect]
    intro doomed
    simp [Doomed, fresh] at doomed

/-- What follows the close callback among the callbacks. -/
theorem nothing_after_close {front before after : List Observation}
    (fresh : .closeCallback ∉ front)
    (split : front ++ [.closeCallback] = before ++ .closeCallback :: after) : after = [] := by
  rcases List.eq_nil_or_concat after with none | ⟨init, last, rfl⟩
  · exact none
  · exfalso
    have longer : front ++ [.closeCallback] = (before ++ .closeCallback :: init) ++ [last] := by
      simpa using split
    have front_eq := List.append_inj_left' longer rfl
    rw [front_eq] at fresh
    simp at fresh

theorem orderly_protocol {condition : Session → Act → Prop} (orderly : Orderly s) :
    CallbackProtocol (connectionMachine.restrict condition) s := by
  have seen_count : ∀ o, isCallback o = true → s.io.seen.count o = s.io.callbacks.count o :=
    fun o callback => (List.count_filter callback).symm
  obtain ⟨n, ending, known, stage⟩ := orderly.shape
  have counts : ending.count (.connectionCallback .kConnected) = 0 ∧
      ending.count (.connectionCallback .kDisconnected) ≤ 1 ∧ ending.count .closeCallback ≤ 1 := by
    rcases stage with ⟨_, rfl, _⟩ | ⟨_, ⟨rfl, _⟩ | ⟨rfl, _⟩⟩
    · simp
    · decide
    · decide
  refine ⟨?_, ?_, ?_, ?_, ?_⟩
  · rw [seen_count _ rfl, known]
    simp [List.count_replicate, counts.1]
  · rw [seen_count _ rfl, known]
    simpa [List.count_cons, List.count_replicate] using counts.2.1
  · rw [seen_count _ rfl, known]
    simpa [List.count_cons, List.count_replicate] using counts.2.2
  · intro before after split member
    have inside : .messageCallback ∈ after.filter isCallback := List.mem_filter.mpr ⟨member, rfl⟩
    have order : s.io.callbacks =
        before.filter isCallback ++ .closeCallback :: after.filter isCallback := by
      rw [callbacks, split, List.filter_append, List.filter_cons_of_pos rfl]
    rw [known] at order
    rcases stage with ⟨_, rfl, _⟩ | ⟨_, ⟨rfl, _⟩ | ⟨rfl, _⟩⟩
    · have absurdity : .closeCallback ∈ Observation.connectionCallback .kConnected ::
          (List.replicate n .messageCallback ++ []) := by rw [order]; simp
      simp at absurdity
    · have absurdity : .closeCallback ∈ Observation.connectionCallback .kConnected ::
          (List.replicate n .messageCallback ++ [.connectionCallback .kDisconnected]) := by
        rw [order]; simp
      simp at absurdity
    · have last : (Observation.connectionCallback .kConnected ::
          (List.replicate n .messageCallback ++ [.connectionCallback .kDisconnected])) ++
            [.closeCallback] =
          before.filter isCallback ++ .closeCallback :: after.filter isCallback := by
        simpa using order
      rw [nothing_after_close (by simp) last] at inside
      cases inside
  · intro a _ failed
    have failures := step_faults orderly.agrees (a := a) (by
      intro removal
      have closed := orderly.doomed (.inr (.inr (.inl (List.mem_of_mem_head? removal))))
      exact (orderly.closed closed).idle)
    rcases failures _ failed with foreign | ⟨_, ended, task, front, closing⟩
    · exact foreign.1 rfl
    · -- the task that closes is not there any more once the connection is closed
      have closed : s.io.conn.state = .kDisconnected := by
        by_contra live
        rw [orderly.isOpen live] at ended
        cases ended
      have member := List.mem_of_mem_head? front
      rcases closing with ⟨rfl, _⟩ | ⟨rfl, reported⟩
      · exact (orderly.closed closed).no_hangup member
      · rw [(orderly.closed closed).no_read member] at reported
        cases reported

/-- In every state of every run of a connection that starts with `connectEstablished` and
takes only tame steps, the callbacks have kept their protocol and no step can fail the
assertion of `handleClose`. -/
theorem callback_protocol {address sockfd : Nat} {poller : EpollPoller}
    {writeComplete highWater sameLoop : Bool} {actions : List Act}
    (unknown : poller.channels sockfd = none ∧ poller.epollSet sockfd = none)
    (run : (connectionMachine.restrict Tame).Run
      (fresh address sockfd poller writeComplete highWater sameLoop)
      (.connectEstablished :: actions) s) :
    CallbackProtocol (connectionMachine.restrict Tame) s := by
  cases run with
  | next _ established rest =>
    have start := established_orderly unknown established
    have orderly := @Machine.Run.invariant _ _ _ (connectionMachine.restrict Tame) Orderly _ _ _
      (fun _ _ _ orderly enabled stepped =>
        step_orderly orderly enabled.1.1 enabled.1.2 enabled.2 stepped) start rest
    exact orderly_protocol orderly

instance (s : Session) (a : Act) : Decidable (connectionMachine.enabled s a) :=
  inferInstanceAs (Decidable (s.Enabled a ∧ a ≠ .destroyServer))

/-- The kernel's answers in the runs below, where only the end of the stream matters. -/
def atEnd : Answers := ⟨.bytes [], .wrote 0, none⟩

/-- The peer closes: one event with EPOLLIN and EPOLLHUP, a read of 0 bytes. -/
theorem callback_protocol_peer_close : ∃ s,
    (connectionMachine.restrict Tame).Run (fresh 1 7 EpollPoller.empty false false true)
      [.connectEstablished, .proceed atEnd, .doPendingFunctors, .iterate,
        .poll (some (EPOLLIN ||| EPOLLHUP)), .handleEvent, .proceed atEnd, .proceed atEnd,
        .proceed atEnd, .proceed atEnd, .proceed atEnd] s ∧
    s.io.seen = [.connectionCallback .kConnected, .connectionCallback .kDisconnected,
      .closeCallback] ∧ CallbackProtocol (connectionMachine.restrict Tame) s := by
  obtain ⟨s, run, closed⟩ := (connectionMachine.restrict Tame).exists_run_of_exec
    (fresh 1 7 EpollPoller.empty false false true)
    [.connectEstablished, .proceed atEnd, .doPendingFunctors, .iterate,
      .poll (some (EPOLLIN ||| EPOLLHUP)), .handleEvent, .proceed atEnd, .proceed atEnd,
      .proceed atEnd, .proceed atEnd, .proceed atEnd]
    (fun s => s.io.seen = [.connectionCallback .kConnected, .connectionCallback .kDisconnected,
      .closeCallback]) (by decide +kernel)
  exact ⟨s, run, by simpa using closed, callback_protocol ⟨rfl, rfl⟩ run⟩

/-- `stopRead` takes the fd out of the epoll set, `forceClose` puts it back with no interest,
and a hangup of the peer is reported for the closed connection. -/
theorem closed_twice_after_stopRead : ∃ s,
    connectionMachine.Run (fresh 1 7 EpollPoller.empty false false true)
      [.connectEstablished, .proceed atEnd, .call true .stopRead atEnd,
        .call true .forceClose atEnd, .doPendingFunctors, .runFunctor atEnd, .proceed atEnd,
        .proceed atEnd, .iterate, .poll (some EPOLLHUP), .handleEvent] s ∧
    ¬ CallbackProtocol connectionMachine s := by
  obtain ⟨s, run, aborts⟩ := connectionMachine.exists_run_of_exec
    (fresh 1 7 EpollPoller.empty false false true)
    [.connectEstablished, .proceed atEnd, .call true .stopRead atEnd,
      .call true .forceClose atEnd, .doPendingFunctors, .runFunctor atEnd, .proceed atEnd,
      .proceed atEnd, .iterate, .poll (some EPOLLHUP), .handleEvent]
    (fun s => decide (connectionMachine.enabled s (.proceed atEnd)) &&
      failsWith (s.step (.proceed atEnd)) (.assertion .tcpConnectionCpp 314)) (by decide +kernel)
  simp only [Bool.and_eq_true, decide_eq_true_eq] at aborts
  refine ⟨s, run, ?_⟩
  intro protocol
  exact protocol.asserted (.proceed atEnd) aborts.1 (eq_error_of_failsWith aborts.2)

end Starry.Guarantees.ConnectionCallbacks
