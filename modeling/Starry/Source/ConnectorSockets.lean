import Starry.Source.Connector

/-!
# The sockets of a `starry::Connector`

`net/src/connector.cpp` once more, with `start` and `stop` called by any threads and with a
record of what is done with each socket: it is created by `connect`, closed by `sockets::close`
or given to `newConnectionCallback_`. A socket is the number of its creation, so a descriptor
that the kernel gives out again is another socket.

Another thread stores `connect_` and then queues its functor; what it has still to queue is in
`calls`. Channel events, timers and functors of the loop thread run to their end, and so does a
`start` made by it. `restart`, which no code calls, and the end of the connector are left out.
-/
namespace Starry.Source

open Starry.Foundation

inductive ConnectorFunctor where
  | startInLoop | stopInLoop | resetChannel
  deriving DecidableEq, Repr

inductive SocketEvent where
  | opened (socket : Nat)
  | closed (socket : Nat)
  | handedOver (socket : Nat)
  deriving DecidableEq, Repr

structure ConnectorLoop where
  connector : Connector
  pending : List ConnectorFunctor
  /-- Functors of `start` and `stop` calls that have stored `connect_`. -/
  calls : List ConnectorFunctor
  /-- The retry timers that have not fired, with their delays. -/
  timers : List Nat
  /-- The number of sockets created. -/
  sockets : Nat
  ledger : List SocketEvent
  deriving DecidableEq, Repr

namespace ConnectorLoop

def new : ConnectorLoop where
  connector := .new
  pending := []
  calls := []
  timers := []
  sockets := 0
  ledger := []

def setState (l : ConnectorLoop) (state : ConnectorState) : ConnectorLoop :=
  { l with connector := { l.connector with state := state } }

/-- The store to `connect_`. -/
def setConnect (l : ConnectorLoop) (connectFlag : Bool) : ConnectorLoop :=
  { l with connector := { l.connector with connectFlag := connectFlag } }

def queueInLoop (l : ConnectorLoop) (functor : ConnectorFunctor) : ConnectorLoop :=
  { l with pending := l.pending ++ [functor] }

def note (l : ConnectorLoop) (event : SocketEvent) : ConnectorLoop :=
  { l with ledger := l.ledger ++ [event] }

/-- `sockets::createNonBlockingOrDie` succeeded. -/
def createSocket (l : ConnectorLoop) : ConnectorLoop :=
  { l.note (.opened l.sockets) with sockets := l.sockets + 1 }

def retry (l : ConnectorLoop) (socket : Nat) : ConnectorLoop :=
  let closed := (l.note (.closed socket)).setState .kDisconnected
  if closed.connector.connectFlag then
    { closed with
      timers := closed.timers ++ [closed.connector.retryDelayMs]
      connector := { closed.connector with
        retryDelayMs := min (closed.connector.retryDelayMs * 2) Connector.kMaxRetryDelayMs } }
  else closed

def connecting (l : ConnectorLoop) (socket : Nat) : Except Abort ConnectorLoop := do
  let l := l.setState .KConnecting
  cassert (l.connector.channel = none) .connectorCpp 116
  return { l with connector := { l.connector with channel := some ⟨socket, true⟩ } }

def connect (l : ConnectorLoop) (answers : ConnectAnswers) : Except Abort ConnectorLoop :=
  match answers.socket with
  | some _ => .error (.logFatal .socketsOpsCpp 45)
  | none =>
    match answers.connect with
    | none | some .EINPROGRESS | some .EINTR | some .EISCONN => l.createSocket.connecting l.sockets
    | some .EWOULDBLOCK | some .EADDRINUSE | some .EADDRNOTAVAIL | some .ECONNREFUSED
    | some .ENETUNREACH => .ok (l.createSocket.retry l.sockets)
    | some .EACCES | some .EPERM | some .EAFNOSUPPORT | some .EALREADY | some .EBADF
    | some .EFAULT | some .ENOTSOCK => .error (.logFatal .connectorCpp 92)
    | some _ => .error (.logFatal .connectorCpp 97)

def startInLoop (l : ConnectorLoop) (answers : ConnectAnswers) : Except Abort ConnectorLoop := do
  cassert (l.connector.state = .kDisconnected) .connectorCpp 40
  if l.connector.connectFlag then l.connect answers else return l

/-- The socket of the channel, which is no longer watched. -/
def removeAndResetChannel (l : ConnectorLoop) : Except Abort (Nat × ConnectorLoop) :=
  match l.connector.channel with
  | none => .error (.undefinedBehaviour .connectorCpp 125)
  | some channel =>
    .ok (channel.socket, queueInLoop
      { l with connector := { l.connector with channel := some { channel with watched := false } } }
      .resetChannel)

/-- `~Channel` wants the channel removed from the loop. -/
def resetChannel (l : ConnectorLoop) : Except Abort ConnectorLoop := do
  cassert (∀ channel ∈ l.connector.channel, channel.watched = false) .channelCpp 32
  return { l with connector := { l.connector with channel := none } }

def stopInLoop (l : ConnectorLoop) : Except Abort ConnectorLoop :=
  if l.connector.state = .KConnecting then do
    let (socket, l) ← (l.setState .KConnected).removeAndResetChannel
    return l.retry socket
  else .ok l

/-- `soError` says that `SO_ERROR` is not 0. -/
def handleWrite (l : ConnectorLoop) (soError selfConnect : Bool) : Except Abort ConnectorLoop :=
  if l.connector.state = .KConnecting then do
    let (socket, l) ← l.removeAndResetChannel
    if soError then return l.retry socket
    else if selfConnect then return l.retry socket
    else
      let l := l.setState .KConnected
      if l.connector.connectFlag then return l.note (.handedOver socket)
      else return l.note (.closed socket)
  else do
    cassert (l.connector.state = .kDisconnected) .connectorCpp 160
    return l

def handleError (l : ConnectorLoop) : Except Abort ConnectorLoop :=
  if l.connector.state = .KConnecting then do
    let (socket, l) ← l.removeAndResetChannel
    return l.retry socket
  else .ok l

/-- `Channel::handleEventWithGuard` with these two callbacks set. -/
def handleEvent (l : ConnectorLoop) (revents : EventMask) (soError selfConnect : Bool) :
    Except Abort ConnectorLoop := do
  let l ← (if revents &&& EPOLLERR ≠ 0#32 then l.handleError else .ok l)
  if revents &&& EPOLLOUT ≠ 0#32 then l.handleWrite soError selfConnect else return l

/-! ## Steps -/

inductive Act where
  /-- `start` on the loop thread. -/
  | start (answers : ConnectAnswers)
  /-- The first statement of `start` on another thread, and of `stop` on any. -/
  | storeStart
  | storeStop
  /-- Their second statement. -/
  | queue (index : Nat)
  | timer (index : Nat) (answers : ConnectAnswers)
  | event (revents : EventMask) (soError selfConnect : Bool)
  | functor (answers : ConnectAnswers)
  deriving DecidableEq

def runFunctor (l : ConnectorLoop) (answers : ConnectAnswers) :
    ConnectorFunctor → Except Abort ConnectorLoop
  | .startInLoop => l.startInLoop answers
  | .stopInLoop => l.stopInLoop
  | .resetChannel => l.resetChannel

def step (l : ConnectorLoop) : Act → Except Abort ConnectorLoop
  | .start answers => (l.setConnect true).startInLoop answers
  | .storeStart => .ok { l.setConnect true with calls := l.calls ++ [.startInLoop] }
  | .storeStop => .ok { l.setConnect false with calls := l.calls ++ [.stopInLoop] }
  | .queue index =>
    match l.calls[index]? with
    | none => .ok l
    | some functor => .ok (queueInLoop { l with calls := l.calls.eraseIdx index } functor)
  | .timer index answers => startInLoop { l with timers := l.timers.eraseIdx index } answers
  | .event revents soError selfConnect => l.handleEvent revents soError selfConnect
  | .functor answers =>
    match l.pending with
    | [] => .ok l
    | functor :: rest => runFunctor { l with pending := rest } answers functor

def channelWatched (l : ConnectorLoop) : Bool :=
  match l.connector.channel with
  | some channel => channel.watched
  | none => false

def Enabled (l : ConnectorLoop) : Act → Prop
  | .start _ | .storeStart | .storeStop => True
  | .queue index => index < l.calls.length
  | .timer index _ => index < l.timers.length
  | .event _ _ _ => l.channelWatched = true
  | .functor _ => l.pending ≠ []

def machine : Machine ConnectorLoop Act Abort where
  enabled := Enabled
  step := step

instance (l : ConnectorLoop) (a : Act) : Decidable (l.Enabled a) :=
  match a with
  | .start _ | .storeStart | .storeStop => isTrue trivial
  | .queue _ | .timer _ _ => inferInstanceAs (Decidable (_ < _))
  | .event _ _ _ => inferInstanceAs (Decidable (_ = _))
  | .functor _ => inferInstanceAs (Decidable (_ ≠ _))

instance (l : ConnectorLoop) (a : Act) : Decidable (machine.enabled l a) :=
  inferInstanceAs (Decidable (l.Enabled a))

end ConnectorLoop

end Starry.Source
