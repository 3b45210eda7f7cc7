import Starry.Foundation.Runs
import Starry.Source.TcpConnection

/-!
# One connection on its loop, under its server

The io loop of one connection, as `EventLoop::loop` runs it: wait in `poll`, handle the
active channels, run the functors queued until then. The functions of the connection that
invoke user code are cut where they do, and what is left of them is kept in `todo`, so
that a callback may make any calls before the function goes on, and other threads may
make theirs between any two steps. The owner is a `TcpServer` (`net/src/tcp_server.cpp`):
its base loop is the io loop itself or another one, `removeConnection` is the close
callback, and it may be destroyed while the connection is open.

The other channels of the loop show only as user calls of the loop thread. The answers of
the kernel to reads and writes are not constrained, so results about all runs cover more
than the kernel can do. Someone holds a pointer to the connection for the whole run:
functors bound to a raw `this` find it alive. A use of the destroyed server ends the run.
-/
namespace Starry.Source

open Starry.Foundation

/-- What the loop thread has left to do for the connection before it returns to the loop. -/
inductive Task where
  /-- The four tests of `Channel::handleEventWithGuard` and its end. -/
  | closeOnHangup
  | reportError
  | readEvent
  | writeEvent
  | leaveEvent
  /-- A callback of the user is running. -/
  | userCode
  /-- The last line of `handleClose`. -/
  | closeCallback
  /-- The last line of `connectDestroyed`. -/
  | removeChannel
  deriving DecidableEq, Repr

inductive Phase where
  | poll | events | functors
  deriving DecidableEq, Repr

/-- Where the connection's channel stands in the round over `activeChannels_`. -/
inductive Activity where
  | absent | waiting | current | handled
  deriving DecidableEq, Repr

structure Session where
  io : IoLoop
  phase : Phase
  activity : Activity
  /-- The local `functors` of `doPendingFunctors`. -/
  functors : List LoopFunctor
  todo : List Task
  /-- Whether the base loop of the server is the io loop. -/
  sameLoop : Bool
  serverAlive : Bool
  /-- Whether `connections_` still holds the connection. -/
  registered : Bool
  /-- `removeConnectionInLoop` functors queued at another base loop. -/
  removals : Nat

namespace Session

inductive Act where
  | connectEstablished
  | call (inLoopThread : Bool) (call : IoLoop.Call) (answers : Answers)
  /-- The message callback takes bytes off the input buffer. -/
  | retrieveInput (len : Nat)
  /-- `poll` returns, with the channel among the active ones or not. -/
  | poll (reported : Option EventMask)
  | handleEvent
  /-- The loop thread goes on with the next task. -/
  | proceed (answers : Answers)
  | doPendingFunctors
  | runFunctor (answers : Answers)
  | iterate
  /-- The base loop runs a queued `removeConnectionInLoop`. -/
  | removeConnectionInLoop
  /-- `~TcpServer`. -/
  | destroyServer
  deriving DecidableEq, Repr

/-! ## Functions -/

def close (s : Session) : Except Abort Session := do
  let io ← s.io.handleClose
  return { s with io := io, todo := .userCode :: .closeCallback :: s.todo }

def handleRead (s : Session) (result : ReadResult) : Except Abort Session := do
  let out ← s.io.conn.inputBuffer.readFd true result
  let io := { s.io with conn := { s.io.conn with inputBuffer := out.buffer } }
  let read := { s with io := io }
  if 0 < out.n then
    return { read with io := io.observe .messageCallback, todo := .userCode :: s.todo }
  else if out.n = 0 then read.close
  else return read

def connectDestroyed (s : Session) : Except Abort Session :=
  if s.io.conn.state = .kConnected then do
    let io ← s.io.beginDestroy
    return { s with io := io, todo := .userCode :: .removeChannel :: s.todo }
  else .ok { s with todo := .removeChannel :: s.todo }

/-- `TcpServer::removeConnectionInLoop`. -/
def removeConnectionInLoop (s : Session) : Except Abort Session := do
  cassert (s.registered = true) .tcpServerCpp 96
  return { s with registered := false, io := s.io.queueInLoop .connectDestroyed }

/-- `closeCallback_`, which is `TcpServer::removeConnection`. -/
def removeConnection (s : Session) : Except Abort Session :=
  let seen := { s with io := s.io.observe .closeCallback }
  if s.serverAlive = false then .error (.undefinedBehaviour .tcpServerCpp 86)
  else if s.sameLoop then seen.removeConnectionInLoop
  else .ok { seen with removals := s.removals + 1 }

/-- The loop is handling events and the channel is an active one, but not the current one:
the assertion of `EventLoop::removeChannel` would fail. -/
def inUse (s : Session) : Bool :=
  s.phase = .events && (s.activity = .waiting || s.activity = .handled)

def hangup (revents : EventMask) : Bool :=
  revents &&& EPOLLHUP != 0#32 && revents &&& EPOLLIN == 0#32

def readable (revents : EventMask) : Bool :=
  revents &&& (EPOLLIN ||| EPOLLPRI ||| EPOLLRDHUP) != 0#32

def setChannel (s : Session) (channel : Channel) : Session :=
  { s with io := { s.io with conn := { s.io.conn with channel := channel } } }

def perform (s : Session) (answers : Answers) : Task → Except Abort Session
  | .closeOnHangup => if hangup s.io.conn.channel.revents then s.close else .ok s
  | .reportError => .ok s
  | .readEvent =>
    if readable s.io.conn.channel.revents then s.handleRead answers.read else .ok s
  | .writeEvent =>
    if s.io.conn.channel.revents &&& EPOLLOUT != 0#32 then do
      return { s with io := ← s.io.handleWrite answers }
    else .ok s
  | .leaveEvent =>
    .ok { s.setChannel { s.io.conn.channel with eventHandling := false } with
      activity := .handled }
  | .userCode => .ok s
  | .closeCallback => s.removeConnection
  | .removeChannel => do
    return { s with io := ← s.io.removeChannel s.inUse }

def runFunctor (s : Session) (answers : Answers) : LoopFunctor → Except Abort Session
  | .sendInLoop message => do return { s with io := ← s.io.sendInLoop message answers.write }
  | .shutdownInLoop => do return { s with io := ← s.io.shutdownInLoop answers.shutdown }
  | .forceCloseInLoop => if s.io.conn.isOpen then s.close else .ok s
  | .startReadInLoop => do return { s with io := ← s.io.startReadInLoop }
  | .stopReadInLoop => do return { s with io := ← s.io.stopReadInLoop }
  | .writeCompleteCallback =>
    .ok { s with io := s.io.observe .writeCompleteCallback, todo := .userCode :: s.todo }
  | .highWaterMarkCallback backlog =>
    .ok { s with io := s.io.observe (.highWaterMarkCallback backlog)
                 todo := .userCode :: s.todo }
  | .connectDestroyed => s.connectDestroyed

/-- The loop of `~TcpServer`, for this connection. -/
def destroyServer (s : Session) : Except Abort Session :=
  let dead := { s with serverAlive := false, registered := false }
  if s.registered = false then .ok dead
  else if s.sameLoop then dead.connectDestroyed
  else .ok { dead with io := s.io.queueInLoop .connectDestroyed }

/-! ## Steps -/

def step (s : Session) : Act → Except Abort Session
  | .connectEstablished => do
    return { s with io := ← s.io.connectEstablished, todo := .userCode :: s.todo }
  | .call inLoopThread call answers => do
    return { s with io := ← s.io.call inLoopThread answers call }
  | .retrieveInput len => do
    let shorter ← s.io.conn.inputBuffer.retrieve len
    return { s with io := { s.io with conn := { s.io.conn with inputBuffer := shorter } } }
  | .poll none => .ok { s with phase := .events, activity := .absent }
  | .poll (some revents) =>
    .ok { s.setChannel { s.io.conn.channel with revents := revents } with
      phase := .events, activity := .waiting }
  | .handleEvent =>
    .ok { s.setChannel { s.io.conn.channel with eventHandling := true } with
      activity := .current
      todo := [.closeOnHangup, .reportError, .readEvent, .writeEvent, .leaveEvent] }
  | .proceed answers =>
    match s.todo with
    | [] => .ok s
    | task :: rest => { s with todo := rest }.perform answers task
  | .doPendingFunctors =>
    .ok { s with phase := .functors, functors := s.io.pendingFunctors
                 io := { s.io with pendingFunctors := [] } }
  | .runFunctor answers =>
    match s.functors with
    | [] => .ok s
    | functor :: rest => { s with functors := rest }.runFunctor answers functor
  | .iterate => .ok { s with phase := .poll }
  | .removeConnectionInLoop =>
    if s.serverAlive = false then .error (.undefinedBehaviour .tcpServerCpp 90)
    else { s with removals := s.removals - 1 }.removeConnectionInLoop
  | .destroyServer => s.destroyServer

/-- The loop thread is running code of the user: a callback of this connection, or
anything else it runs while it is not waiting in `poll`. -/
def UserTurn (s : Session) : Prop :=
  s.todo.head? = some .userCode ∨ (s.todo = [] ∧ s.phase ≠ .poll)

/-- The kernel may report what was asked for, and EPOLLERR and EPOLLHUP unasked. -/
def Deliverable (s : Session) (revents : EventMask) : Prop :=
  ∃ mask address, s.io.poller.epollSet s.io.conn.channel.fd = some (mask, address) ∧
    revents &&& ~~~ (mask ||| EPOLLERR ||| EPOLLHUP) = 0#32

def Enabled (s : Session) : Act → Prop
  | .connectEstablished => s.io.conn.state = .kConnecting
  | .call inLoopThread _ _ => s.io.conn.state ≠ .kConnecting ∧ (inLoopThread = true → s.UserTurn)
  | .retrieveInput len => s.todo.head? = some .userCode ∧ len ≤ s.io.conn.inputBuffer.readableBytes
  | .poll none => s.phase = .poll ∧ s.todo = []
  | .poll (some revents) => s.phase = .poll ∧ s.todo = [] ∧ s.Deliverable revents
  | .handleEvent => s.phase = .events ∧ s.activity = .waiting ∧ s.todo = []
  | .proceed _ => s.todo ≠ []
  | .doPendingFunctors => s.phase = .events ∧ s.activity ≠ .waiting ∧ s.todo = []
  | .runFunctor _ => s.phase = .functors ∧ s.todo = [] ∧ s.functors ≠ []
  | .iterate => s.phase = .functors ∧ s.todo = [] ∧ s.functors = []
  | .removeConnectionInLoop => 0 < s.removals
  | .destroyServer => s.io.conn.state ≠ .kConnecting ∧ s.serverAlive = true ∧
      (s.sameLoop = true → s.UserTurn)

instance (s : Session) : Decidable s.UserTurn := inferInstanceAs (Decidable (_ ∨ _))

instance (s : Session) (revents : EventMask) : Decidable (s.Deliverable revents) :=
  match found : s.io.poller.epollSet s.io.conn.channel.fd with
  | none => isFalse (by simp [Deliverable, found])
  | some (mask, _) =>
    decidable_of_iff (revents &&& ~~~ (mask ||| EPOLLERR ||| EPOLLHUP) = 0#32)
      (by simp [Deliverable, found])

instance (s : Session) (a : Act) : Decidable (s.Enabled a) :=
  match a with
  | .connectEstablished => inferInstanceAs (Decidable (_ = _))
  | .call _ _ _ => inferInstanceAs (Decidable (_ ∧ _))
  | .retrieveInput _ => inferInstanceAs (Decidable (_ ∧ _))
  | .poll none => inferInstanceAs (Decidable (_ ∧ _))
  | .poll (some _) => inferInstanceAs (Decidable (_ ∧ _))
  | .handleEvent => inferInstanceAs (Decidable (_ ∧ _))
  | .proceed _ => inferInstanceAs (Decidable (_ ≠ _))
  | .doPendingFunctors => inferInstanceAs (Decidable (_ ∧ _))
  | .runFunctor _ => inferInstanceAs (Decidable (_ ∧ _))
  | .iterate => inferInstanceAs (Decidable (_ ∧ _))
  | .removeConnectionInLoop => inferInstanceAs (Decidable (_ < _))
  | .destroyServer => inferInstanceAs (Decidable (_ ∧ _))

def machine : Machine Session Act Abort where
  enabled := Enabled
  step := step

instance (s : Session) (a : Act) : Decidable (machine.enabled s a) :=
  inferInstanceAs (Decidable (s.Enabled a))

/-- A connection that `newConnection` has just made; its fd is new to the poller. -/
def fresh (address sockfd : Nat) (poller : EpollPoller) (writeComplete highWater sameLoop : Bool) :
    Session where
  io := ⟨TcpConnection.new address sockfd writeComplete highWater, poller, [], []⟩
  phase := if sameLoop then .events else .functors
  activity := .absent
  functors := []
  todo := []
  sameLoop := sameLoop
  serverAlive := true
  registered := true
  removals := 0

end Session

end Starry.Source
