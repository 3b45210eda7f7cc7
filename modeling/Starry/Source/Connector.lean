import Starry.Foundation.Runs
import Starry.Source.EpollPoller
import Starry.Source.SocketsOps

/-!
# `starry::Connector` and `starry::TcpClient`

`net/src/connector.cpp` and `net/src/tcp_client.cpp` on one loop, all calls made by its
thread: what one call, channel event, retry timer or functor does runs to its end. The order
of these is free, but for the functors, which run in the order in which they were queued.

A socket is the number of its creation, and `sockets` records what has become of it. Of the
channel there is left whether the poller watches it. Of a connection only that it is open:
it closes when its close callback is called. Functors hold `this`, so one that runs after
the connector is gone is undefined behaviour; a retry timer keeps the connector alive.
-/
namespace Starry.Source

open Starry.Foundation

inductive ConnectorState where
  | kDisconnected | KConnecting | KConnected
  deriving DecidableEq, Repr

structure ConnectorChannel where
  socket : Nat
  /-- Between `enableWriting` and `disableAll`. -/
  watched : Bool
  deriving DecidableEq, Repr

structure Connector where
  /-- `connect_` -/
  connectFlag : Bool
  state : ConnectorState
  channel : Option ConnectorChannel
  retryDelayMs : Nat
  deriving DecidableEq, Repr

structure TcpClient where
  /-- `connector_` is not null. -/
  connector : Bool
  retry : Bool
  /-- `connect_` -/
  connectFlag : Bool
  connection : Option Nat
  deriving DecidableEq, Repr

inductive ClientFunctor where
  | stopInLoop | resetChannel | connectDestroyed
  deriving DecidableEq, Repr

inductive SocketFate where
  | connecting | closed | handedOver
  deriving DecidableEq, Repr

structure ClientLoop where
  client : TcpClient
  connector : Connector
  pending : List ClientFunctor
  /-- The retry timers that have not fired, with their delays. -/
  timers : List Nat
  sockets : List SocketFate
  deriving DecidableEq, Repr

/-- What `::socket` and `::connect` answer; `none` for success. -/
structure ConnectAnswers where
  socket : Option Errno
  connect : Option Errno
  deriving DecidableEq, Repr

namespace Connector

def kMaxRetryDelayMs : Nat := 30 * 1000
def kInitRetryDelayMs : Nat := 500

def new : Connector where
  connectFlag := false
  state := .kDisconnected
  channel := none
  retryDelayMs := kInitRetryDelayMs

def setState (l : ClientLoop) (state : ConnectorState) : ClientLoop :=
  { l with connector := { l.connector with state := state } }

def queueInLoop (l : ClientLoop) (functor : ClientFunctor) : ClientLoop :=
  { l with pending := l.pending ++ [functor] }

/-- `~Connector`, unless something still points to the connector. -/
def release (l : ClientLoop) : Except Abort ClientLoop := do
  if l.client.connector = false ∧ l.timers = [] then
    cassert (l.connector.channel = none) .connectorCpp 28
  return l

def retry (l : ClientLoop) (socket : Nat) : ClientLoop :=
  let closed := setState { l with sockets := l.sockets.set socket .closed } .kDisconnected
  if closed.connector.connectFlag then
    { closed with
      timers := closed.timers ++ [closed.connector.retryDelayMs]
      connector := { closed.connector with
        retryDelayMs := min (closed.connector.retryDelayMs * 2) kMaxRetryDelayMs } }
  else closed

def connecting (l : ClientLoop) (socket : Nat) : Except Abort ClientLoop := do
  let l := setState l .KConnecting
  cassert (l.connector.channel = none) .connectorCpp 116
  return { l with connector := { l.connector with channel := some ⟨socket, true⟩ } }

def connect (l : ClientLoop) (answers : ConnectAnswers) : Except Abort ClientLoop :=
  match answers.socket with
  | some _ => .error (.logFatal .socketsOpsCpp 45)
  | none =>
    let socket := l.sockets.length
    let l := { l with sockets := l.sockets ++ [.connecting] }
    match answers.connect with
    | none | some .EINPROGRESS | some .EINTR | some .EISCONN => connecting l socket
    | some .EWOULDBLOCK | some .EADDRINUSE | some .EADDRNOTAVAIL | some .ECONNREFUSED
    | some .ENETUNREACH => .ok (retry l socket)
    | some .EACCES | some .EPERM | some .EAFNOSUPPORT | some .EALREADY | some .EBADF
    | some .EFAULT | some .ENOTSOCK => .error (.logFatal .connectorCpp 92)
    | some _ => .error (.logFatal .connectorCpp 97)

def startInLoop (l : ClientLoop) (answers : ConnectAnswers) : Except Abort ClientLoop := do
  cassert (l.connector.state = .kDisconnected) .connectorCpp 40
  if l.connector.connectFlag then connect l answers else return l

/-- On the loop thread `runInLoop` calls `startInLoop` at once. -/
def start (l : ClientLoop) (answers : ConnectAnswers) : Except Abort ClientLoop :=
  startInLoop { l with connector := { l.connector with connectFlag := true } } answers

def stop (l : ClientLoop) : ClientLoop :=
  queueInLoop { l with connector := { l.connector with connectFlag := false } } .stopInLoop

/-- The socket of the channel, which is no longer watched. -/
def removeAndResetChannel (l : ClientLoop) : Except Abort (Nat × ClientLoop) :=
  match l.connector.channel with
  | none => .error (.undefinedBehaviour .connectorCpp 125)
  | some channel =>
    .ok (channel.socket, queueInLoop
      { l with connector := { l.connector with channel := some { channel with watched := false } } }
      .resetChannel)

/-- `~Channel` wants the channel removed from the loop. -/
def resetChannel (l : ClientLoop) : Except Abort ClientLoop := do
  cassert (∀ channel ∈ l.connector.channel, channel.watched = false) .channelCpp 32
  return { l with connector := { l.connector with channel := none } }

def stopInLoop (l : ClientLoop) : Except Abort ClientLoop :=
  if l.connector.state = .KConnecting then do
    let (socket, l) ← removeAndResetChannel (setState l .KConnected)
    return retry l socket
  else .ok l

end Connector

/-- `TcpClient::newConnection`, as `newConnectionCallback_`. -/
def TcpClient.newConnection (l : ClientLoop) (socket : Nat) : ClientLoop :=
  { l with
    sockets := l.sockets.set socket .handedOver
    client := { l.client with connection := some socket } }

namespace Connector

/-- `soError` says that `SO_ERROR` is not 0. -/
def handleWrite (l : ClientLoop) (soError selfConnect : Bool) : Except Abort ClientLoop :=
  if l.connector.state = .KConnecting then do
    let (socket, l) ← removeAndResetChannel l
    if soError then return retry l socket
    else if selfConnect then return retry l socket
    else
      let l := setState l .KConnected
      if l.connector.connectFlag then return TcpClient.newConnection l socket
      else return { l with sockets := l.sockets.set socket .closed }
  else do
    cassert (l.connector.state = .kDisconnected) .connectorCpp 160
    return l

def handleError (l : ClientLoop) : Except Abort ClientLoop :=
  if l.connector.state = .KConnecting then do
    let (socket, l) ← removeAndResetChannel l
    return retry l socket
  else .ok l

/-- `Channel::handleEventWithGuard` with these two callbacks set. -/
def handleEvent (l : ClientLoop) (revents : EventMask) (soError selfConnect : Bool) :
    Except Abort ClientLoop := do
  let l ← (if revents &&& EPOLLERR ≠ 0#32 then handleError l else .ok l)
  if revents &&& EPOLLOUT ≠ 0#32 then handleWrite l soError selfConnect else return l

end Connector

namespace TcpClient

def new : TcpClient where
  connector := true
  retry := false
  connectFlag := true
  connection := none

def connect (l : ClientLoop) (answers : ConnectAnswers) : Except Abort ClientLoop :=
  if l.client.connector = false then .error (.undefinedBehaviour .tcpClientCpp 70)
  else Connector.start { l with client := { l.client with connectFlag := true } } answers

/-- `shutdown` of the connection is left to the connection. -/
def disconnect (l : ClientLoop) : ClientLoop :=
  { l with client := { l.client with connectFlag := false } }

def stop (l : ClientLoop) : Except Abort ClientLoop :=
  if l.client.connector = false then .error (.undefinedBehaviour .tcpClientCpp 87)
  else .ok (Connector.stop { l with client := { l.client with connectFlag := false } })

def enableRetry (l : ClientLoop) : ClientLoop :=
  { l with client := { l.client with retry := true } }

def removeConnection (l : ClientLoop) : Except Abort ClientLoop :=
  let l := Connector.queueInLoop
    { l with client := { l.client with connection := none } } .connectDestroyed
  if l.client.retry ∧ l.client.connectFlag then
    if l.client.connector = false then .error (.undefinedBehaviour .tcpClientCpp 122)
    else Connector.release { l with client := { l.client with connector := false } }
  else .ok l

end TcpClient

namespace ClientLoop

def new : ClientLoop where
  client := .new
  connector := .new
  pending := []
  timers := []
  sockets := []

inductive Act where
  | connect (answers : ConnectAnswers)
  | disconnect
  | stop
  | enableRetry
  | timer (index : Nat) (answers : ConnectAnswers)
  | event (revents : EventMask) (soError selfConnect : Bool)
  | functor
  /-- The close callback of the connection. -/
  | close
  deriving DecidableEq

/-- A functor bound to the connector needs the connector. -/
def runFunctor (l : ClientLoop) : ClientFunctor → Except Abort ClientLoop
  | .connectDestroyed => .ok l
  | .stopInLoop =>
    if l.client.connector = false ∧ l.timers = [] then .error (.undefinedBehaviour .connectorCpp 57)
    else Connector.stopInLoop l
  | .resetChannel =>
    if l.client.connector = false ∧ l.timers = [] then .error (.undefinedBehaviour .connectorCpp 134)
    else Connector.resetChannel l

def step (l : ClientLoop) : Act → Except Abort ClientLoop
  | .connect answers => TcpClient.connect l answers
  | .disconnect => .ok (TcpClient.disconnect l)
  | .stop => TcpClient.stop l
  | .enableRetry => .ok (TcpClient.enableRetry l)
  | .timer index answers => do
    let l ← Connector.startInLoop { l with timers := l.timers.eraseIdx index } answers
    Connector.release l
  | .event revents soError selfConnect => Connector.handleEvent l revents soError selfConnect
  | .functor =>
    match l.pending with
    | [] => .ok l
    | functor :: rest => runFunctor { l with pending := rest } functor
  | .close => TcpClient.removeConnection l

def channelWatched (l : ClientLoop) : Bool :=
  match l.connector.channel with
  | some channel => channel.watched
  | none => false

def Enabled (l : ClientLoop) : Act → Prop
  | .connect _ | .disconnect | .stop | .enableRetry => True
  | .timer index _ => index < l.timers.length
  | .event _ _ _ => l.channelWatched = true
  | .functor => l.pending ≠ []
  | .close => l.client.connection ≠ none

def machine : Machine ClientLoop Act Abort where
  enabled := Enabled
  step := step

instance (l : ClientLoop) (a : Act) : Decidable (l.Enabled a) :=
  match a with
  | .connect _ | .disconnect | .stop | .enableRetry => isTrue trivial
  | .timer index _ => inferInstanceAs (Decidable (index < l.timers.length))
  | .event _ _ _ => inferInstanceAs (Decidable (_ = _))
  | .functor | .close => inferInstanceAs (Decidable (_ ≠ _))

instance (l : ClientLoop) (a : Act) : Decidable (machine.enabled l a) :=
  inferInstanceAs (Decidable (l.Enabled a))

end ClientLoop

end Starry.Source
