import Starry.Guarantees.ConnectionCallbacks
import Starry.Guarantees.RpcAgreement
import Starry.Guarantees.RpcWire
import Starry.Source.ServedConnection

/-!
# A channel serves as long as its connection

Over every run of a served connection whose steps keep the callbacks in order, the `RpcChannel`
is there from the one connection callback to the other, and the loop finds it whenever it calls
`onMessage` or returns into it. When the connection has been taken out of its loop the context is
empty, so that the cycle of the `shared_ptr`s in `context_` and `conn_` is broken.

A service that calls its `done` after that calls a member function of a deleted channel.
-/
namespace Starry.Guarantees.ServedChannels

open Starry.Foundation
open Starry.Source
open Starry.Source.IoLoop (callbacks isCallback)
open Starry.Source.ServedConnection
open Starry.Guarantees.ConnectionCallbacks

variable {s s' : Session}

/-! ## What a step calls -/

/-- At most one callback is made. When it is the message callback, it is what runs now. -/
inductive Called (before : List Observation) (s' : Session) : Prop where
  | nothing (same : s'.io.callbacks = before)
  | down (added : s'.io.callbacks = before ++ [.connectionCallback .kDisconnected])
  | closed (added : s'.io.callbacks = before ++ [.closeCallback])
  | message (added : s'.io.callbacks = before ++ [.messageCallback])
      (running : s'.todo.head? = some .userCode)

structure Advances (s s' : Session) : Prop where
  called : Called s.io.callbacks s'
  destroyed : .destroyed ∈ s'.io.seen → .destroyed ∈ s.io.seen ∨ .removeChannel ∈ s.todo
  closed : s.io.conn.state = .kDisconnected → s'.io.conn.state = .kDisconnected

/-- The tasks and functors do not count. -/
theorem Advances.of_io (callbacks : s'.io.callbacks = s.io.callbacks)
    (destroyed : .destroyed ∈ s'.io.seen ↔ .destroyed ∈ s.io.seen)
    (state : s'.io.conn.state = s.io.conn.state) : Advances s s' :=
  ⟨.nothing callbacks, fun member => .inl (destroyed.mp member), fun closed => state.trans closed⟩

theorem Advances.of_aside (beside : s.io.Aside s'.io) : Advances s s' :=
  .of_io beside.callbacks beside.destroyed beside.state

theorem Advances.of_same (same : s'.io = s.io) : Advances s s' := by
  refine .of_aside ?_
  rw [same]
  exact .refl _

theorem Advances.of_retuned {events : EventMask} {reading : Bool}
    (tuned : s.io.Retuned events reading s'.io) : Advances s s' := by
  have effect := tuned.effect
  refine .of_io ?_ ?_ ?_ <;> rw [effect]
  rfl

/-- The connection callback has been made for the connection going down. -/
theorem Advances.of_down {l : IoLoop} {events : EventMask} {tied : Bool}
    (callbacks : l.callbacks = s.io.callbacks)
    (destroyed : .destroyed ∈ l.seen ↔ .destroyed ∈ s.io.seen)
    (announced : l.Announced .kDisconnected events tied s'.io) : Advances s s' := by
  have effect := announced.effect
  refine ⟨.down ?_, fun member => .inl ?_, fun _ => ?_⟩
  · rw [effect, ← callbacks]
    simp [IoLoop.callbacks, isCallback]
  · rw [effect] at member
    exact destroyed.mp (by simpa using member)
  · rw [effect]

theorem close_advances {t : Session} (success : t.close = .ok s')
    (callbacks : t.io.callbacks = s.io.callbacks)
    (destroyed : .destroyed ∈ t.io.seen ↔ .destroyed ∈ s.io.seen) : Advances s s' := by
  obtain ⟨io, closed, rfl⟩ := Session.close_ok success
  exact .of_down callbacks destroyed (IoLoop.handleClose_ok closed).2

theorem call_callbacks {l l' : IoLoop} {inLoopThread : Bool} {answers : Answers} {call : IoLoop.Call}
    (success : l.call inLoopThread answers call = .ok l') : l'.callbacks = l.callbacks := by
  rcases IoLoop.call_ok success with beside | ⟨_, beside⟩ | ⟨_, _, started⟩ | ⟨_, _, stopped⟩
  · exact beside.callbacks
  · exact beside.callbacks
  · rcases IoLoop.startReadInLoop_ok started with ⟨_, same⟩ | ⟨_, tuned⟩
    · rw [same]
    · rw [tuned.effect]
      rfl
  · rcases IoLoop.stopReadInLoop_ok stopped with ⟨_, same⟩ | ⟨_, tuned⟩
    · rw [same]
    · rw [tuned.effect]
      rfl

theorem call_advances {inLoopThread : Bool} {answers : Answers} {call : IoLoop.Call}
    (success : s.io.call inLoopThread answers call = .ok s'.io) : Advances s s' := by
  rcases IoLoop.call_ok success with beside | ⟨opened, beside⟩ | ⟨_, _, started⟩ | ⟨_, _, stopped⟩
  · exact .of_aside beside
  · refine ⟨.nothing beside.callbacks, fun member => .inl (beside.destroyed.mp member), ?_⟩
    intro closed
    simp [TcpConnection.isOpen, closed] at opened
  · rcases IoLoop.startReadInLoop_ok started with ⟨_, same⟩ | ⟨_, tuned⟩
    · exact .of_same same
    · exact .of_retuned tuned
  · rcases IoLoop.stopReadInLoop_ok stopped with ⟨_, same⟩ | ⟨_, tuned⟩
    · exact .of_same same
    · exact .of_retuned tuned

theorem handleRead_advances {t : Session} {result : ReadResult}
    (success : t.handleRead result = .ok s') (same : t.io = s.io) : Advances s s' := by
  obtain ⟨buffer, outcome⟩ := Session.handleRead_ok success
  rw [same] at outcome
  rcases outcome with rfl | ⟨_, closed⟩ | rfl
  · refine ⟨.message ?_ rfl, fun member => .inl ?_, id⟩
    · simp [IoLoop.callbacks, IoLoop.observe, Session.input, isCallback]
    · simpa [IoLoop.observe, Session.input] using member
  · exact close_advances closed rfl Iff.rfl
  · exact .of_aside (Session.input_aside s.io buffer)

theorem perform_advances {answers : Answers} {task : Task} {rest : List Task}
    (front : s.todo = task :: rest)
    (success : ({ s with todo := rest } : Session).perform answers task = .ok s') :
    Advances s s' := by
  cases task with
  | closeOnHangup =>
    simp only [Session.perform] at success
    split at success
    · exact close_advances success rfl Iff.rfl
    · cases success
      exact .of_same rfl
  | reportError | leaveEvent | userCode =>
    cases success
    exact .of_io rfl Iff.rfl rfl
  | readEvent =>
    simp only [Session.perform] at success
    split at success
    · exact handleRead_advances success rfl
    · cases success
      exact .of_same rfl
  | writeEvent =>
    rcases Session.writeEvent_ok success with rfl | ⟨io, written, rfl⟩
    · exact .of_same rfl
    · exact .of_aside (IoLoop.handleWrite_aside written)
  | closeCallback =>
    rcases Session.removeConnection_ok success with rfl | rfl
    · refine ⟨.closed ?_, fun member => .inl ?_, id⟩
      · simp [IoLoop.callbacks, IoLoop.observe, IoLoop.queueInLoop, isCallback]
      · simpa [IoLoop.observe, IoLoop.queueInLoop] using member
    · refine ⟨.closed ?_, fun member => .inl ?_, id⟩
      · simp [IoLoop.callbacks, IoLoop.observe, isCallback]
      · simpa [IoLoop.observe] using member
  | removeChannel =>
    obtain ⟨io, removed, success⟩ := bind_eq_ok success
    cases success
    obtain ⟨_, _, effect, _⟩ := IoLoop.removeChannel_ok removed
    refine ⟨.nothing ?_, fun _ => .inr (by simp [front]), ?_⟩
    · rw [effect]
      simp [IoLoop.callbacks, isCallback]
    · rw [effect]
      exact id

theorem runFunctor_advances {answers : Answers} {functor : LoopFunctor} {rest : List LoopFunctor}
    (success : ({ s with functors := rest } : Session).runFunctor answers functor = .ok s') :
    Advances s s' := by
  cases functor with
  | sendInLoop message =>
    obtain ⟨io, sent, success⟩ := bind_eq_ok success
    cases success
    exact .of_aside (IoLoop.sendInLoop_aside sent)
  | shutdownInLoop =>
    obtain ⟨io, shut, success⟩ := bind_eq_ok success
    cases success
    exact .of_aside (IoLoop.shutdownInLoop_aside shut)
  | forceCloseInLoop =>
    simp only [Session.runFunctor] at success
    split at success
    · exact close_advances success rfl Iff.rfl
    · cases success
      exact .of_same rfl
  | startReadInLoop =>
    obtain ⟨io, started, success⟩ := bind_eq_ok success
    cases success
    rcases IoLoop.startReadInLoop_ok started with ⟨_, same⟩ | ⟨_, tuned⟩
    · exact .of_same same
    · exact .of_retuned tuned
  | stopReadInLoop =>
    obtain ⟨io, stopped, success⟩ := bind_eq_ok success
    cases success
    rcases IoLoop.stopReadInLoop_ok stopped with ⟨_, same⟩ | ⟨_, tuned⟩
    · exact .of_same same
    · exact .of_retuned tuned
  | writeCompleteCallback | highWaterMarkCallback backlog =>
    cases success
    refine .of_io ?_ ?_ rfl
    · simp [IoLoop.callbacks, IoLoop.observe, isCallback]
    · simp [IoLoop.observe]
  | connectDestroyed =>
    rcases Session.connectDestroyed_ok success with ⟨_, io, begun, rfl⟩ | ⟨_, rfl⟩
    · exact @Advances.of_down s _ s.io _ _ rfl Iff.rfl (IoLoop.beginDestroy_ok begun)
    · exact .of_same rfl

/-- Of a connection that is established, under a server that stays. -/
theorem step_advances {a : Session.Act} (enabled : s.Enabled a) (alive : a ≠ .destroyServer)
    (established : s.io.conn.state ≠ .kConnecting) (success : s.step a = .ok s') :
    Advances s s' := by
  cases a with
  | connectEstablished => exact absurd enabled established
  | call inLoopThread call answers =>
    obtain ⟨io, called, success⟩ := bind_eq_ok success
    cases success
    exact call_advances called
  | retrieveInput len =>
    obtain ⟨shorter, _, success⟩ := bind_eq_ok success
    cases success
    exact .of_aside (Session.input_aside s.io shorter)
  | poll reported =>
    cases reported <;> cases success <;> exact .of_io rfl Iff.rfl rfl
  | handleEvent | doPendingFunctors | iterate =>
    cases success
    exact .of_io rfl Iff.rfl rfl
  | proceed answers =>
    obtain ⟨task, rest, front, success⟩ := Session.proceed_ok enabled success
    exact perform_advances front success
  | runFunctor answers =>
    obtain ⟨functor, rest, _, success⟩ := Session.runFunctor_ok enabled success
    exact runFunctor_advances success
  | removeConnectionInLoop =>
    simp only [Session.step] at success
    split at success
    · cases success
    · rw [Session.removeConnectionInLoop_ok success]
      exact .of_io rfl Iff.rfl rfl
  | destroyServer => exact absurd rfl alive

/-- While a callback runs, the loop thread does nothing of its own. -/
theorem step_during {a : Session.Act} (running : s.todo.head? = some .userCode)
    (enabled : s.Enabled a) (alive : a ≠ .destroyServer)
    (established : s.io.conn.state ≠ .kConnecting) (stays : returns a = false)
    (success : s.step a = .ok s') :
    s'.io.callbacks = s.io.callbacks ∧ s'.todo.head? = some .userCode := by
  have busy : s.todo ≠ [] := by
    intro none
    simp [none] at running
  cases a with
  | connectEstablished => exact absurd enabled established
  | call inLoopThread call answers =>
    obtain ⟨io, called, success⟩ := bind_eq_ok success
    cases success
    exact ⟨call_callbacks called, running⟩
  | retrieveInput len =>
    obtain ⟨shorter, _, success⟩ := bind_eq_ok success
    cases success
    exact ⟨rfl, running⟩
  | poll reported =>
    cases reported with
    | none => exact absurd enabled.2 busy
    | some revents => exact absurd enabled.2.1 busy
  | handleEvent | doPendingFunctors => exact absurd enabled.2.2 busy
  | proceed answers => cases stays
  | runFunctor answers | iterate => exact absurd enabled.2.1 busy
  | removeConnectionInLoop =>
    simp only [Session.step] at success
    split at success
    · cases success
    · rw [Session.removeConnectionInLoop_ok success]
      exact ⟨rfl, running⟩
  | destroyServer => exact absurd rfl alive

/-! ## The channel in the context -/

/-- An open connection has not been reported down. -/
theorem open_iff (orderly : Orderly s) :
    s.io.conn.isOpen = true ↔ .connectionCallback .kDisconnected ∉ s.io.callbacks := by
  obtain ⟨n, ending, shape, stage⟩ := orderly.shape
  rw [shape, isOpen_iff stage]
  rcases stage with ⟨opened, rfl, _⟩ | ⟨closed, ⟨rfl, _⟩ | ⟨rfl, _⟩⟩
  · simp [Orderly.live opened]
  · simp [closed]
  · simp [closed]

/-- The message callback is not made once the connection is down. -/
theorem up_before_message (orderly : Orderly s) {before : List Observation}
    (added : s.io.callbacks = before ++ [.messageCallback]) :
    .connectionCallback .kDisconnected ∉ before := by
  obtain ⟨n, ending, shape, stage⟩ := orderly.shape
  have last : s.io.callbacks.getLast? = some .messageCallback := by simp [added]
  intro member
  have down : .connectionCallback .kDisconnected ∈ s.io.callbacks := by simp [added, member]
  rcases stage with ⟨_, rfl, _⟩ | ⟨_, ⟨rfl, _⟩ | ⟨rfl, _⟩⟩
  · simp [shape] at down
  · simp [shape, List.getLast?_cons] at last
  · simp [shape, List.getLast?_cons] at last

variable {Message : Type} {reflection : Reflection Message} {codec : ProtobufCodecLite RpcMessage}
  {server : RpcServer Message} {c c' : ServedConnection Message}

/-- The steps of the connection are tame. -/
def Proper (c : ServedConnection Message) : Act Message → Prop
  | .session a => Tame c.session a
  | _ => True

structure Inv (c : ServedConnection Message) : Prop where
  orderly : Orderly c.session
  context : c.context.isSome = true ↔
    .connectionCallback .kDisconnected ∉ c.session.io.callbacks
  bound : c.bound = true
  receiving : c.receiving = true →
    c.session.todo.head? = some .userCode ∧ c.context.isSome = true
  destroyed : .destroyed ∈ c.session.io.seen → c.session.io.conn.state = .kDisconnected

/-- The channel is made when the connection comes up. -/
theorem Inv.established (inv : Inv c) : c.session.io.conn.state ≠ .kConnecting := by
  obtain ⟨_, _, _, stage⟩ := inv.orderly.shape
  exact stage.established

/-- Any end but the use of a deleted channel. -/
def Stopped (reason : ServedEnd) : Prop := ∃ abort, reason = .stopped abort

theorem mapError_ends {α : Type} (outcome : Except Abort α) :
    Ends (outcome.mapError ServedEnd.stopped) (fun _ => True) Stopped := by
  cases outcome with
  | ok value => trivial
  | error reason => exact ⟨reason, rfl⟩

theorem sessionStep_eq {a : Session.Act} {t : Session} (new : List Observation)
    (stepped : c.session.step a = .ok t)
    (added : t.io.callbacks = c.session.io.callbacks ++ new) :
    c.sessionStep server a = new.foldlM (callback server)
      { c with session := t, receiving := c.receiving && !returns a } := by
  simp [sessionStep, stepped, added, Except.mapError]

/-- A step of the connection makes, uses or drops the channel by its callbacks. -/
theorem Inv.sessionStep {a : Session.Act} (inv : Inv c) (enabled : c.session.Enabled a)
    (alive : a ≠ .destroyServer) (tame : Tame c.session a) :
    Ends (c.sessionStep server a) Inv Stopped := by
  cases stepped : c.session.step a with
  | error reason =>
    have failed : c.sessionStep server a = .error (.stopped reason) := by
      simp [ServedConnection.sessionStep, stepped, Except.mapError]
    rw [failed]
    exact ⟨reason, rfl⟩
  | ok t =>
    have orderly := step_orderly inv.orderly enabled alive tame stepped
    obtain ⟨called, removed, closed⟩ := step_advances enabled alive inv.established stepped
    have destroyed : .destroyed ∈ t.io.seen → t.io.conn.state = .kDisconnected := by
      intro member
      apply closed
      rcases removed member with before | removing
      · exact inv.destroyed before
      · exact inv.orderly.doomed (.inr (.inr (.inl removing)))
    have during : (c.receiving && !returns a) = true →
        t.io.callbacks = c.session.io.callbacks ∧ t.todo.head? = some .userCode ∧
          c.context.isSome = true := by
      intro on
      rw [Bool.and_eq_true, Bool.not_eq_true'] at on
      obtain ⟨running, present⟩ := inv.receiving on.1
      obtain ⟨same, still⟩ :=
        step_during running enabled alive inv.established on.2 stepped
      exact ⟨same, still, present⟩
    cases called with
    | nothing same =>
      rw [sessionStep_eq [] stepped (by simpa using same)]
      refine ⟨orderly, ?_, inv.bound, fun on => (during on).2, destroyed⟩
      show c.context.isSome = true ↔ _
      rw [same]
      exact inv.context
    | down added =>
      rw [sessionStep_eq _ stepped added]
      refine ⟨orderly, ?_, inv.bound, ?_, destroyed⟩
      · show (none : Option (RpcChannel Message)).isSome = true ↔ _
        simp [added]
      · intro on
        have same := (during on).1
        rw [added] at same
        simp at same
    | closed added =>
      rw [sessionStep_eq _ stepped added]
      refine ⟨orderly, ?_, inv.bound, fun on => (during on).2, destroyed⟩
      show c.context.isSome = true ↔ _
      rw [added, inv.context]
      simp
    | message added running =>
      have up := up_before_message orderly added
      obtain ⟨channel, present⟩ := Option.isSome_iff_exists.mp (inv.context.mpr up)
      have entered : [Observation.messageCallback].foldlM (callback server)
          { c with session := t, receiving := c.receiving && !returns a } =
          .ok { c with session := t, receiving := true } := by
        simp [callback, inv.bound, present]
      rw [sessionStep_eq _ stepped added, entered]
      refine ⟨orderly, ?_, inv.bound, fun _ => ⟨running, ?_⟩, destroyed⟩
      · show c.context.isSome = true ↔ _
        rw [added, inv.context]
        simp
      · show c.context.isSome = true
        simp [present]

/-- `onRpcMessage` runs on a channel that is there. -/
theorem onRpcMessage_ends {channel : RpcChannel Message} {message : RpcMessage} (inv : Inv c)
    (present : c.context = some channel) :
    Ends (c.onRpcMessage reflection channel message) Inv Stopped := by
  unfold ServedConnection.onRpcMessage
  refine (mapError_ends _).bind ?_
  rintro ⟨later, reaction⟩ _ _
  have held : c.context.isSome = true := by simp [present]
  refine ⟨inv.orderly, ?_, inv.bound, fun on => ⟨(inv.receiving on).1, rfl⟩, inv.destroyed⟩
  exact ⟨fun _ => inv.context.mp held, fun _ => rfl⟩

/-- A `done` fails in the codec or the poller, or comes too late. -/
theorem doneCallback_ends {invocation : Invocation Message} {response : Message}
    {inLoopThread : Bool} {answers : Answers} (inv : Inv c)
    (turn : inLoopThread = true → c.session.UserTurn) :
    Ends (c.doneCallback reflection codec server invocation response inLoopThread answers)
      Inv Stopped := by
  unfold ServedConnection.doneCallback
  refine (mapError_ends _).bind fun message _ _ => ?_
  generalize codec.send message = sent
  refine (mapError_ends sent).bind fun frame _ _ => ?_
  have alive : Session.Act.call inLoopThread (.send frame) answers ≠ .destroyServer := by simp
  refine inv.sessionStep ⟨inv.established, turn⟩ alive ⟨?_, ?_, ?_, trivial⟩
  · simp [Session.Closes]
  · simp [Session.StartsReading]
  · simp [Session.StopsReading]

theorem perform_ends {a : Act Message} (inv : Inv c) (enabled : c.Enabled a)
    (proper : Proper c a) : Ends (c.perform reflection codec server a) Inv Stopped := by
  cases a with
  | session a => exact inv.sessionStep enabled.1 enabled.2 proper
  | message message =>
    simp only [perform]
    split
    · exact inv
    next channel present => exact onRpcMessage_ends inv present
  | done k response inLoopThread answers =>
    simp only [perform]
    split
    · exact inv
    · exact doneCallback_ends inv enabled.2

/-- What a step finds when the context is empty: it is not inside the channel, unless it is the
late call of a `done`. -/
theorem inChannel_of_empty (inv : Inv c) (empty : c.context = none) {a : Act Message} {line : Nat}
    (enabled : c.Enabled a) (inside : c.inChannel a = some line) :
    line = 132 ∧ ∃ k response inLoopThread answers, a = .done k response inLoopThread answers := by
  have idle : c.receiving = false := by
    by_contra on
    have present := (inv.receiving (by simpa using on)).2
    simp [empty] at present
  cases a with
  | session a => cases a <;> simp [inChannel, idle] at inside
  | message message =>
    rw [show c.receiving = true from enabled] at idle
    cases idle
  | done k response inLoopThread answers =>
    have line_eq : 132 = line := by simpa [inChannel] using inside
    exact ⟨line_eq.symm, k, response, inLoopThread, answers, rfl⟩

/-- Every proper step keeps channel and connection together. -/
theorem Inv.step {a : Act Message} (inv : Inv c) (enabled : c.Enabled a) (proper : Proper c a)
    (success : c.step reflection codec server a = .ok c') : Inv c' := by
  unfold ServedConnection.step at success
  split at success
  · cases success
  · exact (perform_ends inv enabled proper).of_ok success

/-! ## Runs -/

theorem established_inv {address sockfd : Nat} {poller : EpollPoller}
    {writeComplete highWater sameLoop : Bool}
    (unknown : poller.channels sockfd = none ∧ poller.epollSet sockfd = none)
    (success : (of (Session.fresh address sockfd poller writeComplete highWater sameLoop) :
      ServedConnection Message).sessionStep server .connectEstablished = .ok c) : Inv c := by
  cases stepped : (Session.fresh address sockfd poller writeComplete highWater sameLoop).step
      .connectEstablished with
  | error reason =>
    simp [ServedConnection.sessionStep, of, stepped, Except.mapError] at success
  | ok t =>
    obtain ⟨io, up, later⟩ := bind_eq_ok stepped
    have effect := (IoLoop.connectEstablished_ok up).2.effect
    have same : t.io = io := by cases later; rfl
    have added : t.io.callbacks = [.connectionCallback .kConnected] := by
      rw [same, effect]
      simp [callbacks, isCallback, Session.fresh]
    have entered := @sessionStep_eq Message server
      (of (Session.fresh address sockfd poller writeComplete highWater sameLoop)) _ _
      [.connectionCallback .kConnected] stepped added
    rw [entered] at success
    cases success
    refine ⟨established_orderly unknown stepped, ?_, rfl, ?_, ?_⟩
    · simp [added]
    · intro on
      simp [of] at on
    · intro member
      have member : .destroyed ∈ t.io.seen := member
      rw [same, effect] at member
      simp [Session.fresh] at member

/-- The channel is there as long as the connection is open, and then it is gone; only a late
`done` does not find it. -/
structure ServesWhileOpen (reflection : Reflection Message) (codec : ProtobufCodecLite RpcMessage)
    (server : RpcServer Message) (c : ServedConnection Message) : Prop where
  present : c.context.isSome = true ↔ c.session.io.conn.isOpen = true
  receiving : c.receiving = true → c.context.isSome = true
  /-- The connection has left its loop, and the cycle is broken. -/
  released : .destroyed ∈ c.session.io.seen → c.context = none
  stale : ∀ a line, c.Enabled a → Proper c a →
    (c.step reflection codec server a = .error (.channelDeleted line) ↔
      c.context = none ∧ line = 132 ∧
        ∃ k response inLoopThread answers, a = .done k response inLoopThread answers)

theorem Inv.serves (inv : Inv c) : ServesWhileOpen reflection codec server c := by
  have present := inv.context.trans (open_iff inv.orderly).symm
  refine ⟨present, fun on => (inv.receiving on).2, ?_, ?_⟩
  · intro member
    by_contra held
    have opened := present.mp (Option.isSome_iff_ne_none.mpr held)
    simp [TcpConnection.isOpen, inv.destroyed member] at opened
  · intro a line enabled proper
    constructor
    · intro failed
      unfold ServedConnection.step at failed
      split at failed
      next inside empty here =>
        cases failed
        exact ⟨empty, inChannel_of_empty inv empty enabled here⟩
      next =>
        obtain ⟨_, other⟩ := (perform_ends inv enabled proper).faults _ failed
        cases other
    · rintro ⟨empty, rfl, k, response, inLoopThread, answers, rfl⟩
      simp [ServedConnection.step, empty, inChannel]

/-- What `done` finds when it is called in a state of the run. -/
def Inv.doneCall (inv : Inv c) (inLoopThread : Bool) (stateInLoop : StateE) : DoneCall where
  channelDeleted := c.context.isNone
  state := c.session.io.conn.state
  inLoopThread := inLoopThread
  stateInLoop := stateInLoop
  deleted_down := by
    intro deleted
    have closed : ¬c.session.io.conn.isOpen = true := by
      rw [open_iff inv.orderly, ← inv.context]
      simp [Option.isNone_iff_eq_none.mp deleted]
    have established := inv.established
    cases state : c.session.io.conn.state <;> simp_all [TcpConnection.isOpen]

/-- A call of `send` on a connection that is not up does nothing. -/
theorem sessionStep_dropped (down : c.session.io.conn.state ≠ .kConnected) (frame : List UInt8)
    (inLoopThread : Bool) (answers : Answers) :
    c.sessionStep server (.call inLoopThread (.send frame) answers) = .ok c := by
  have stepped : c.session.step (.call inLoopThread (.send frame) answers) = .ok c.session := by
    simp [Session.step, IoLoop.call, IoLoop.send, down]
  rw [sessionStep_eq [] stepped (by simp)]
  simp [returns]

/-- The step of a `done` is `doneCallback` on what it finds, and a call of `send` for the message
that this sends, if any. -/
theorem done_agrees (inv : Inv c) {k : Nat} {invocation : Invocation Message}
    (found : c.invocations[k]? = some invocation) (response : Message) (inLoopThread : Bool)
    (answers : Answers) :
    c.step reflection codec server (.done k response inLoopThread answers) =
      if c.context.isNone then .error (.channelDeleted 132)
      else ((inv.doneCall inLoopThread .kConnected).doneCallback reflection codec
          invocation response).mapError .stopped >>=
        List.foldlM (fun c reply => c.sessionStep server (.call inLoopThread (.send reply.2) answers))
          c := by
  unfold ServedConnection.step
  cases present : c.context with
  | none => simp [inChannel]
  | some channel =>
    have alive : (inv.doneCall inLoopThread .kConnected).channelDeleted = false := by
      simp [Inv.doneCall, present]
    have sends : (inv.doneCall inLoopThread .kConnected).sends =
        decide (c.session.io.conn.state = .kConnected) := by
      by_cases up : c.session.io.conn.state = .kConnected <;>
        cases inLoopThread <;> simp [DoneCall.sends, Inv.doneCall, up]
    simp only [perform, found, ServedConnection.doneCallback, DoneCall.doneCallback,
      alive, Option.isNone_some, Bool.false_eq_true, if_false, sends, decide_eq_true_eq]
    cases RpcChannel.doneCallback reflection invocation response with
    | error reason => rfl
    | ok reply =>
      simp only [Except.mapError, ok_bind]
      cases codec.send reply with
      | error reason => rfl
      | ok frame =>
        simp only [ok_bind, pure_eq_ok]
        by_cases up : c.session.io.conn.state = .kConnected
        · rw [if_pos up]
          exact (bind_pure _).symm
        · rw [if_neg up]
          exact sessionStep_dropped up frame inLoopThread answers

/-- In every run of a connection that begins with `connectEstablished` and takes only tame steps,
whatever messages come and whenever the services answer. -/
theorem serves_while_open {address sockfd : Nat} {poller : EpollPoller}
    {writeComplete highWater sameLoop : Bool} {actions : List (Act Message)}
    (unknown : poller.channels sockfd = none ∧ poller.epollSet sockfd = none)
    (run : ((machine reflection codec server).restrict Proper).Run
      (of (Session.fresh address sockfd poller writeComplete highWater sameLoop))
      (.session .connectEstablished :: actions) c) :
    ServesWhileOpen reflection codec server c := by
  cases run with
  | next _ established rest =>
    have inv := @Machine.Run.invariant _ _ _ ((machine reflection codec server).restrict Proper)
      Inv _ _ _ (fun _ _ _ inv enabled stepped => inv.step enabled.1 enabled.2 stepped)
      (established_inv unknown established) rest
    exact inv.serves

instance (c : ServedConnection Message) (a : Act Message) : Decidable (Proper c a) :=
  match a with
  | .session a => inferInstanceAs (Decidable (Tame c.session a))
  | .message _ | .done _ _ _ _ => .isTrue trivial

def echoServer : RpcServer (List UInt8) :=
  .new ⟨"Echo", [⟨"echo", ⟨[], []⟩⟩], [("echo", id)]⟩

def echoRequest : RpcMessage := ⟨.REQUEST, 1, "Echo", "echo", [7], []⟩

/-- The kernel's answers in the run below. -/
def reads (data : List UInt8) : Answers := ⟨.bytes data, .wrote 0, none⟩

/-- A request comes and is answered at once, and then the peer closes. -/
def answeredOnce : List (Act (List UInt8)) :=
  [.session (.proceed atEnd), .session .doPendingFunctors, .session .iterate,
    .session (.poll (some EPOLLIN)), .session .handleEvent, .session (.proceed atEnd),
    .session (.proceed atEnd), .session (.proceed (reads [0])), .message echoRequest,
    .done 0 [8] true atEnd, .session (.retrieveInput 1), .session (.proceed atEnd),
    .session (.proceed atEnd), .session (.proceed atEnd), .session .doPendingFunctors,
    .session .iterate, .session (.poll (some EPOLLIN)), .session .handleEvent,
    .session (.proceed atEnd), .session (.proceed atEnd), .session (.proceed atEnd)]

/-- The service answers a second time. -/
theorem serves_while_open_late : ∃ c,
    ((machine RpcAgreement.rawReflection RpcWire.rpcMessageCodec echoServer).restrict Proper).Run
      (of (Session.fresh 1 7 EpollPoller.empty false false true))
      (.session .connectEstablished :: answeredOnce) c ∧
    c.session.io.callbacks = [.connectionCallback .kConnected, .messageCallback,
      .connectionCallback .kDisconnected] ∧
    c.step RpcAgreement.rawReflection RpcWire.rpcMessageCodec echoServer (.done 0 [9] false atEnd) =
      .error (.channelDeleted 132) := by
  obtain ⟨c, run, passes⟩ := ((machine RpcAgreement.rawReflection RpcWire.rpcMessageCodec
      echoServer).restrict Proper).exists_run_of_exec
    (of (Session.fresh 1 7 EpollPoller.empty false false true))
    (.session .connectEstablished :: answeredOnce)
    (fun c => decide (c.session.io.callbacks = [.connectionCallback .kConnected, .messageCallback,
      .connectionCallback .kDisconnected] ∧ c.context.isSome = false ∧
      0 < c.invocations.length)) (by decide +kernel)
  obtain ⟨called, empty, invoked⟩ := of_decide_eq_true passes
  refine ⟨c, run, called, ?_⟩
  have serves := serves_while_open ⟨rfl, rfl⟩ run
  exact (serves.stale (.done 0 [9] false atEnd) 132 ⟨invoked, by simp⟩ trivial).mpr
    ⟨by simpa using empty, rfl, 0, [9], false, atEnd, rfl⟩

/-- A hangup is reported with EPOLLPRI: the event, which is not tame, closes first and then reads,
and `onMessage` is called on the deleted channel. -/
example : ((machine RpcAgreement.rawReflection RpcWire.rpcMessageCodec echoServer).exec
    (of (Session.fresh 1 7 EpollPoller.empty false false true))
    [.session .connectEstablished, .session (.proceed atEnd), .session .doPendingFunctors,
      .session .iterate, .session (.poll (some (EPOLLHUP ||| EPOLLPRI))), .session .handleEvent,
      .session (.proceed atEnd), .session (.proceed atEnd), .session (.proceed atEnd),
      .session (.proceed atEnd)]).any
    (fun c => failsWith (c.step RpcAgreement.rawReflection RpcWire.rpcMessageCodec echoServer
      (.session (.proceed (reads [0])))) (.channelDeleted 56)) = true := by decide +kernel

end Starry.Guarantees.ServedChannels
