import Starry.Foundation.Runs
import Starry.Source.TcpConnection

/-!
# `starry::TcpServer`

`net/src/tcp_server.cpp`, with `Acceptor::handleRead`, `sockets::accept`,
`EventLoopThreadPool::getNextLoop` and `InetAddress::toIpPort`, over any number of loops.
Loop 0 is the base loop; the io loops are numbered from 1, and without them connections
live on the base loop. Each loop has its poller and its queue of functors, which its thread
runs in order; functions of a connection run in the thread of its loop and queue there.

A connection is its number in the order of acceptance, which also serves as the address of
its channel. `log` records what happened in the life of each. The handlers of a channel run
for channels the poller has been given; which events the kernel reports, and when, is left
open. User code has a connection from `connectionCallback_` on, and may call it at any time
from any thread. What is left of `handleClose` after its `connectionCallback_` only queues or
erases, so user code of that callback may as well run before or after the step. The server
outlives the run, and a connection is not destructed in it.
-/
namespace Starry.Source

open Starry.Foundation

/-! ## Texts -/

/-- The text that `snprintf` leaves in a buffer of `size` bytes. -/
def snprintf (size : Nat) (text : List Char) : List Char := text.take (size - 1)

/-- `%d`. -/
def decimal : Int → List Char
  | .ofNat n => Nat.toDigits 10 n
  | .negSucc n => '-' :: Nat.toDigits 10 (n + 1)

structure InetAddress where
  ipv6 : Bool
  /-- What `inet_ntop` writes: dotted bytes, or up to eight groups of four digits. -/
  ip : List Char
  port : UInt16
  ip_length : ip.length ≤ if ipv6 then 39 else 15

/-- `InetAddress(port, true)`. -/
def InetAddress.loopback (port : UInt16) : InetAddress where
  ipv6 := false
  ip := ['1', '2', '7', '.', '0', '.', '0', '.', '1']
  port := port
  ip_length := by decide

/-- A text of `toIpPort`. -/
abbrev IpPort := { text : List Char // text.length ≤ 47 }

namespace InetAddress

def toIpPortText (addr : InetAddress) : List Char :=
  let front := if addr.ipv6 then '[' :: addr.ip else addr.ip
  front ++ snprintf (64 - front.length)
    ((if addr.ipv6 then [']', ':'] else [':']) ++ Nat.toDigits 10 addr.port.toNat)

theorem toIpPortText_length (addr : InetAddress) : addr.toIpPortText.length ≤ 47 := by
  have port : (Nat.toDigits 10 addr.port.toNat).length ≤ 5 :=
    (Nat.length_toDigits_le_iff (by decide) (by decide)).mpr
      (Nat.lt_of_lt_of_le addr.port.toNat_lt (by decide))
  have ip := addr.ip_length
  unfold toIpPortText snprintf
  cases version : addr.ipv6 with
  | true =>
    simp only [version, if_true, List.length_append, List.length_cons, List.length_take] at ip ⊢
    simp only [List.length_nil]
    omega
  | false =>
    simp only [version, Bool.false_eq_true, if_false, List.length_append, List.length_cons,
      List.length_take] at ip ⊢
    simp only [List.length_nil]
    omega

def toIpPort (addr : InetAddress) : IpPort := ⟨addr.toIpPortText, addr.toIpPortText_length⟩

end InetAddress

/-! ## The server -/

structure TcpServer where
  name : List Char
  ipPort : IpPort
  /-- Whether `writeCompleteCallback_` is set. -/
  writeCompleteCallback : Bool
  nextConnId : Int
  connections : List Char → Option Nat
  /-- `loops_.size()` and `next_` of the thread pool. -/
  numLoops : Nat
  next : Nat

namespace TcpServer

/-- `EventLoopThreadPool::getNextLoop`: the number of the loop, and `next_` afterwards. -/
def getNextLoop (s : TcpServer) : Nat × Nat :=
  if s.numLoops = 0 then (0, s.next) else (s.next + 1, (s.next + 1) % s.numLoops)

def connName (s : TcpServer) (id : Int) : List Char :=
  s.name ++ snprintf 64 ('-' :: (s.ipPort.val ++ '#' :: decimal id))

/-- `connections_.erase(name)`: the number of entries erased, and what is left. -/
def erase (s : TcpServer) (name : List Char) : Nat × TcpServer :=
  match s.connections name with
  | none => (0, s)
  | some _ => (1, { s with connections := Function.update s.connections name none })

end TcpServer

inductive ServerFunctor where
  | connectEstablished (conn : Nat)
  | removeConnectionInLoop (conn : Nat)
  | ofConnection (conn : Nat) (functor : LoopFunctor)
  deriving DecidableEq, Repr

structure LoopState where
  poller : EpollPoller
  pendingFunctors : List ServerFunctor

structure ServerConnection where
  name : List Char
  ioLoop : Nat
  conn : TcpConnection

/-- What happens to a connection: `newConnection`, `connectEstablished`, `handleClose`, the
erase of `removeConnectionInLoop`, `connectDestroyed`. -/
inductive Life where
  | accepted | established | closed | erased | destroyed
  deriving DecidableEq, Repr

structure ServerWorld where
  server : TcpServer
  loops : Nat → LoopState
  conns : List ServerConnection
  log : List (Nat × Life)

/-- `connectDestroyed`, run from the queue of its loop. -/
def IoLoop.connectDestroyed (l : IoLoop) : Except Abort IoLoop := do
  let left ← (if l.conn.state = .kConnected then l.beginDestroy else .ok l)
  left.removeChannel false

namespace ServerWorld

def queueInLoop (w : ServerWorld) (loop : Nat) (functors : List ServerFunctor) : ServerWorld :=
  { w with
    loops := Function.update w.loops loop
      { w.loops loop with pendingFunctors := (w.loops loop).pendingFunctors ++ functors } }

def note (w : ServerWorld) (c : Nat) (event : Life) : ServerWorld :=
  { w with log := w.log ++ [(c, event)] }

/-- What a connection sees of its loop. -/
def loopOf (w : ServerWorld) (sc : ServerConnection) : IoLoop where
  conn := sc.conn
  poller := (w.loops sc.ioLoop).poller
  pendingFunctors := []
  seen := []

/-- The world after a function of connection `c` has left its loop as `l`. -/
def put (w : ServerWorld) (c : Nat) (sc : ServerConnection) (l : IoLoop) : ServerWorld :=
  { w with
    conns := w.conns.set c { sc with conn := l.conn }
    loops := Function.update w.loops sc.ioLoop
      { poller := l.poller
        pendingFunctors := (w.loops sc.ioLoop).pendingFunctors ++
          l.pendingFunctors.map (.ofConnection c) } }

/-- A function of connection `c`. -/
def onConnection (w : ServerWorld) (c : Nat) (run : IoLoop → Except Abort IoLoop) :
    Except Abort ServerWorld :=
  match w.conns[c]? with
  | none => .ok w
  | some sc => do
    let l ← run (w.loopOf sc)
    return w.put c sc l

/-! ## Functions -/

def connectEstablished (w : ServerWorld) (c : Nat) : Except Abort ServerWorld := do
  let established ← w.onConnection c IoLoop.connectEstablished
  return established.note c .established

def removeConnectionInLoop (w : ServerWorld) (c : Nat) : Except Abort ServerWorld :=
  match w.conns[c]? with
  | none => .ok w
  | some sc => do
    let (n, server) := w.server.erase sc.name
    cassert (n = 1) .tcpServerCpp 96
    let erased := { w with server := server }.note c .erased
    return erased.queueInLoop sc.ioLoop [.ofConnection c .connectDestroyed]

/-- `removeConnection`, called in the thread of the io loop. -/
def removeConnection (w : ServerWorld) (c : Nat) : Except Abort ServerWorld :=
  match w.conns[c]? with
  | none => .ok w
  | some sc =>
    if sc.ioLoop = 0 then w.removeConnectionInLoop c
    else .ok (w.queueInLoop 0 [.removeConnectionInLoop c])

def handleClose (w : ServerWorld) (c : Nat) : Except Abort ServerWorld := do
  let closed ← w.onConnection c IoLoop.handleClose
  (closed.note c .closed).removeConnection c

def handleRead (w : ServerWorld) (c : Nat) (result : ReadResult) : Except Abort ServerWorld :=
  match w.conns[c]? with
  | none => .ok w
  | some sc => do
    let out ← sc.conn.inputBuffer.readFd true result
    let read := { w with
      conns := w.conns.set c { sc with conn := { sc.conn with inputBuffer := out.buffer } } }
    if out.n = 0 then read.handleClose c else return read

def forceCloseInLoop (w : ServerWorld) (c : Nat) : Except Abort ServerWorld :=
  match w.conns[c]? with
  | none => .ok w
  | some sc => if sc.conn.isOpen then w.handleClose c else .ok w

def connectDestroyed (w : ServerWorld) (c : Nat) : Except Abort ServerWorld := do
  let destroyed ← w.onConnection c IoLoop.connectDestroyed
  return destroyed.note c .destroyed

/-- `newConnection` up to its last line: the connection is named, made and entered. -/
def enter (w : ServerWorld) (sockfd : Nat) : ServerWorld :=
  let (ioLoop, next) := w.server.getNextLoop
  let connName := w.server.connName w.server.nextConnId
  let c := w.conns.length
  let conn := TcpConnection.new c sockfd w.server.writeCompleteCallback false
  { w with
    server := { w.server with
      next := next
      -- `int` wraps around
      nextConnId := (w.server.nextConnId + 1).bmod (2 ^ 32)
      connections := Function.update w.server.connections connName (some c) }
    conns := w.conns ++ [⟨connName, ioLoop, conn⟩]
    log := w.log ++ [(c, .accepted)] }

def newConnection (w : ServerWorld) (sockfd : Nat) : Except Abort ServerWorld :=
  let ioLoop := w.server.getNextLoop.1
  let c := w.conns.length
  if ioLoop = 0 then (w.enter sockfd).connectEstablished c
  else .ok ((w.enter sockfd).queueInLoop ioLoop [.connectEstablished c])

/-- `sockets::accept`. The logger aborts before the `switch` on the errno. -/
def accept : Except Errno Nat → Except Abort Nat
  | .ok connfd => .ok connfd
  | .error _ => .error (.logFatal .socketsOpsCpp 74)

/-- `Acceptor::handleRead`. A failure never comes back from `accept`, so the branch that
falls back on `idleFd_` is not reached. -/
def acceptorHandleRead (w : ServerWorld) (result : Except Errno Nat) : Except Abort ServerWorld := do
  let connfd ← accept result
  w.newConnection connfd

def runConnectionFunctor (w : ServerWorld) (c : Nat) (answers : Answers) :
    LoopFunctor → Except Abort ServerWorld
  | .sendInLoop message => w.onConnection c fun l => l.sendInLoop message answers.write
  | .shutdownInLoop => w.onConnection c fun l => l.shutdownInLoop answers.shutdown
  | .forceCloseInLoop => w.forceCloseInLoop c
  | .startReadInLoop => w.onConnection c IoLoop.startReadInLoop
  | .stopReadInLoop => w.onConnection c IoLoop.stopReadInLoop
  | .writeCompleteCallback | .highWaterMarkCallback _ => .ok w
  | .connectDestroyed => w.connectDestroyed c

def runFunctor (w : ServerWorld) (answers : Answers) : ServerFunctor → Except Abort ServerWorld
  | .connectEstablished c => w.connectEstablished c
  | .removeConnectionInLoop c => w.removeConnectionInLoop c
  | .ofConnection c functor => w.runConnectionFunctor c answers functor

/-- The first functor is taken off the queue of a loop. -/
def pop (w : ServerWorld) (loop : Nat) (rest : List ServerFunctor) : ServerWorld :=
  { w with loops := Function.update w.loops loop { w.loops loop with pendingFunctors := rest } }

/-! ## Steps -/

inductive Act where
  | accept (result : Except Errno Nat)
  /-- The read, write and close callbacks of the channel of a connection. -/
  | handleRead (conn : Nat) (result : ReadResult)
  | handleWrite (conn : Nat) (answers : Answers)
  | handleClose (conn : Nat)
  | runFunctor (loop : Nat) (answers : Answers)
  /-- User code. -/
  | call (conn : Nat) (inLoopThread : Bool) (call : IoLoop.Call) (answers : Answers)
  | retrieveInput (conn : Nat) (len : Nat)
  | setHighWaterMarkCallback (conn : Nat) (highWaterMark : Nat)

def step (w : ServerWorld) : Act → Except Abort ServerWorld
  | .accept result => w.acceptorHandleRead result
  | .handleRead c result => w.handleRead c result
  | .handleWrite c answers => w.onConnection c fun l => l.handleWrite answers
  | .handleClose c => w.handleClose c
  | .runFunctor loop answers =>
    match (w.loops loop).pendingFunctors with
    | [] => .ok w
    | functor :: rest => (w.pop loop rest).runFunctor answers functor
  | .call c inLoopThread call answers =>
    w.onConnection c fun l => l.call inLoopThread answers call
  | .retrieveInput c len => w.onConnection c fun l => do
    let shorter ← l.conn.inputBuffer.retrieve len
    return { l with conn := { l.conn with inputBuffer := shorter } }
  | .setHighWaterMarkCallback c highWaterMark => w.onConnection c fun l =>
    .ok { l with conn := { l.conn with
      highWaterMarkCallback := true, highWaterMark := highWaterMark } }

/-- The poller has been given the channel of the connection. -/
def Polled (w : ServerWorld) (c : Nat) : Prop :=
  (w.conns[c]?).any (fun sc => decide (sc.conn.channel.index ≠ .kNew)) = true

/-- The connection has been given to user code. -/
def Announced (w : ServerWorld) (c : Nat) : Prop :=
  (w.conns[c]?).any (fun sc => decide (sc.conn.state ≠ .kConnecting)) = true

def Enabled (w : ServerWorld) : Act → Prop
  | .accept _ => True
  | .handleRead c _ | .handleWrite c _ | .handleClose c => w.Polled c
  | .runFunctor loop _ => (w.loops loop).pendingFunctors ≠ []
  | .call c _ _ _ | .retrieveInput c _ | .setHighWaterMarkCallback c _ => w.Announced c

def machine : Machine ServerWorld Act Abort where
  enabled := Enabled
  step := step

instance (w : ServerWorld) (a : Act) : Decidable (w.Enabled a) :=
  match a with
  | .accept _ => isTrue trivial
  | .handleRead _ _ | .handleWrite _ _ | .handleClose _ => inferInstanceAs (Decidable (_ = true))
  | .runFunctor _ _ => inferInstanceAs (Decidable (_ ≠ _))
  | .call _ _ _ _ | .retrieveInput _ _ | .setHighWaterMarkCallback _ _ =>
    inferInstanceAs (Decidable (_ = true))

instance (w : ServerWorld) (a : Act) : Decidable (machine.enabled w a) :=
  inferInstanceAs (Decidable (w.Enabled a))

/-- A server that has been started. -/
def start (name : List Char) (listenAddr : InetAddress) (writeCompleteCallback : Bool)
    (numThreads : Nat) : ServerWorld where
  server :=
    { name := name
      ipPort := listenAddr.toIpPort
      writeCompleteCallback := writeCompleteCallback
      nextConnId := 1
      connections := fun _ => none
      numLoops := numThreads
      next := 0 }
  loops := fun _ => ⟨.empty, []⟩
  conns := []
  log := []

end ServerWorld

end Starry.Source
