import Starry.Source.Buffer
import Starry.Source.EpollPoller

/-!
# `starry::TcpConnection`

`net/include/tcp_connection.h` and `net/src/tcp_connection.cpp`, over the part of the io
loop that a connection reaches: the poller and the queue of pending functors. System
calls take the kernel's answer as an argument. `seen` records, in order, what leaves the
connection: callbacks with the state they find, bytes the kernel accepts, and
`shutdownWrite` with the output still buffered at that moment.

A user callback is not run here. Functions that invoke one in the middle are cut there:
`handleClose` and `beginDestroy` end with the invocation of `connectionCallback_`, and the
machine of `Starry.Source.ConnectionLoop` lets user code run before it goes on. The check
of `state_` and the store that follows it in `shutdown` and `forceClose` are one step. A
message sent from another thread is taken to be still intact when its functor runs;
`Starry.Source.CallerStorage` is about what becomes of it otherwise.
-/
namespace Starry.Source

open Starry.Foundation

inductive StateE where
  | kDisconnected | kConnecting | kConnected | kDisconnecting
  deriving DecidableEq, Repr

structure TcpConnection where
  state : StateE
  reading : Bool
  channel : Channel
  inputBuffer : Buffer
  outputBuffer : Buffer
  highWaterMark : Nat
  /-- Whether `writeCompleteCallback_` and `highWaterMarkCallback_` are set. -/
  writeCompleteCallback : Bool
  highWaterMarkCallback : Bool

inductive LoopFunctor where
  | sendInLoop (message : List UInt8)
  | shutdownInLoop
  | forceCloseInLoop
  | startReadInLoop
  | stopReadInLoop
  | writeCompleteCallback
  | highWaterMarkCallback (backlog : Nat)
  | connectDestroyed
  deriving DecidableEq, Repr

inductive Observation where
  | connectionCallback (state : StateE)
  | messageCallback
  | closeCallback
  | writeCompleteCallback
  | highWaterMarkCallback (backlog : Nat)
  | accepted (bytes : List UInt8)
  | shutdownWrite (backlog : Nat)
  /-- `connectDestroyed` ran to its end. -/
  | destroyed
  deriving DecidableEq, Repr

structure IoLoop where
  conn : TcpConnection
  poller : EpollPoller
  pendingFunctors : List LoopFunctor
  seen : List Observation

def TcpConnection.new (address sockfd : Nat) (writeComplete highWater : Bool) :
    TcpConnection where
  state := .kConnecting
  reading := true
  channel := Channel.new address sockfd
  inputBuffer := Buffer.new Buffer.kInitialSize
  outputBuffer := Buffer.new Buffer.kInitialSize
  highWaterMark := 64 * 1024 * 1024
  writeCompleteCallback := writeComplete
  highWaterMarkCallback := highWater

/-- `state_` is `kConnected` or `kDisconnecting`. -/
def TcpConnection.isOpen (conn : TcpConnection) : Bool :=
  conn.state = .kConnected || conn.state = .kDisconnecting

namespace IoLoop

def queueInLoop (l : IoLoop) (functor : LoopFunctor) : IoLoop :=
  { l with pendingFunctors := l.pendingFunctors ++ [functor] }

/-- `runInLoop` of a functor bound to a function of the connection. -/
def runInLoop (inLoopThread : Bool) (l : IoLoop) (functor : LoopFunctor)
    (run : IoLoop → Except Abort IoLoop) : Except Abort IoLoop :=
  if inLoopThread then run l else .ok (l.queueInLoop functor)

def observe (l : IoLoop) (observation : Observation) : IoLoop :=
  { l with seen := l.seen ++ [observation] }

def setState (l : IoLoop) (state : StateE) : IoLoop :=
  { l with conn := { l.conn with state := state } }

def onChannel (l : IoLoop) (op : Channel.Op) : Except Abort IoLoop := do
  let (channel, poller) ← op l.conn.channel l.poller
  return { l with conn := { l.conn with channel := channel }, poller := poller }

/-! ## Output -/

/-- The direct write of `sendInLoop` and the number of bytes it took. -/
def writeDirectly (l : IoLoop) (data : List UInt8) : WriteResult → Except Abort (IoLoop × Nat)
  | .wrote nwrote =>
    let written := l.observe (.accepted (data.take nwrote))
    if data.length - nwrote = 0 ∧ l.conn.writeCompleteCallback = true then
      .ok (written.queueInLoop .writeCompleteCallback, nwrote)
    else
      .ok (written, nwrote)
  | .failed .EWOULDBLOCK => .ok (l, 0)
  | .failed _ => .error (.logFatal .tcpConnectionCpp 135)

/-- The second half of `sendInLoop`: what was not written is appended to `outputBuffer_`. -/
def bufferOutput (l : IoLoop) (rest : List UInt8) : Except Abort IoLoop := do
  let oldLen := l.conn.outputBuffer.readableBytes
  let crosses := l.conn.highWaterMark ≤ oldLen + rest.length ∧ oldLen < l.conn.highWaterMark ∧
    l.conn.highWaterMarkCallback = true
  let noted := if crosses then l.queueInLoop (.highWaterMarkCallback (oldLen + rest.length)) else l
  let longer ← l.conn.outputBuffer.append true rest
  let buffered := { noted with conn := { l.conn with outputBuffer := longer } }
  if l.conn.channel.isWriting then return buffered
  else buffered.onChannel Channel.enableWriting

def sendInLoop (l : IoLoop) (data : List UInt8) (result : WriteResult) : Except Abort IoLoop :=
  if l.conn.state = .kDisconnected then .ok l
  else do
    let (written, nwrote) ←
      (if l.conn.channel.isWriting = false ∧ l.conn.outputBuffer.readableBytes = 0 then
        l.writeDirectly data result
      else .ok (l, 0))
    let remaining := data.length - nwrote
    cassert (remaining ≤ data.length) .tcpConnectionCpp 145
    if 0 < remaining then written.bufferOutput (data.drop nwrote)
    else return written

def shutdownInLoop (l : IoLoop) (result : Option Errno) : Except Abort IoLoop :=
  if l.conn.channel.isWriting then .ok l
  else
    match result with
    | none => .ok (l.observe (.shutdownWrite l.conn.outputBuffer.readableBytes))
    | some _ => .error (.logFatal .socketsOpsCpp 133)

/-- The end of `handleWrite`, when `outputBuffer_` has been emptied. -/
def drained (l : IoLoop) (answers : Answers) : Except Abort IoLoop := do
  let quiet ← l.onChannel Channel.disableWriting
  let noted := if l.conn.writeCompleteCallback then quiet.queueInLoop .writeCompleteCallback
    else quiet
  if l.conn.state = .kDisconnecting then noted.shutdownInLoop answers.shutdown
  else return noted

def handleWrite (l : IoLoop) (answers : Answers) : Except Abort IoLoop :=
  if l.conn.channel.isWriting then
    match answers.write with
    | .failed _ => .error (.logFatal .tcpConnectionCpp 302)
    | .wrote n =>
      if n = 0 then .error (.logFatal .tcpConnectionCpp 302)
      else do
        let written := l.observe (.accepted (l.conn.outputBuffer.readable.take n))
        let shorter ← l.conn.outputBuffer.retrieve n
        let sent := { written with conn := { l.conn with outputBuffer := shorter } }
        if shorter.readableBytes = 0 then sent.drained answers
        else return sent
  else .ok l

/-! ## Reading -/

def startReadInLoop (l : IoLoop) : Except Abort IoLoop :=
  if l.conn.reading = false ∨ l.conn.channel.isReading = false then do
    let enabled ← l.onChannel Channel.enableReading
    return { enabled with conn := { enabled.conn with reading := true } }
  else .ok l

def stopReadInLoop (l : IoLoop) : Except Abort IoLoop :=
  if l.conn.reading = true ∨ l.conn.channel.isReading = true then do
    let disabled ← l.onChannel Channel.disableReading
    return { disabled with conn := { disabled.conn with reading := false } }
  else .ok l

/-! ## Establishing and closing -/

def connectEstablished (l : IoLoop) : Except Abort IoLoop := do
  cassert (l.conn.state = .kConnecting) .tcpConnectionCpp 247
  let connected := l.setState .kConnected
  let tied := { connected with
    conn := { connected.conn with channel := { connected.conn.channel with tied := true } } }
  let enabled ← tied.onChannel Channel.enableReading
  return enabled.observe (.connectionCallback enabled.conn.state)

/-- `handleClose` up to the invocation of `connectionCallback_`. -/
def handleClose (l : IoLoop) : Except Abort IoLoop := do
  cassert (l.conn.state = .kConnected ∨ l.conn.state = .kDisconnecting) .tcpConnectionCpp 314
  let disabled ← (l.setState .kDisconnected).onChannel Channel.disableAll
  return disabled.observe (.connectionCallback disabled.conn.state)

/-- `connectDestroyed` in `kConnected`, up to the invocation of `connectionCallback_`. -/
def beginDestroy (l : IoLoop) : Except Abort IoLoop := do
  let disabled ← (l.setState .kDisconnected).onChannel Channel.disableAll
  return disabled.observe (.connectionCallback disabled.conn.state)

/-- The last line of `connectDestroyed`. -/
def removeChannel (inUse : Bool) (l : IoLoop) : Except Abort IoLoop := do
  let removed ← l.onChannel (Channel.remove inUse)
  return removed.observe .destroyed

/-! ## Calls of the user -/

inductive Call where
  | send (message : List UInt8)
  | shutdown
  | forceClose
  | startRead
  | stopRead
  deriving DecidableEq, Repr

def send (inLoopThread : Bool) (l : IoLoop) (message : List UInt8) (result : WriteResult) :
    Except Abort IoLoop :=
  if l.conn.state = .kConnected then
    l.runInLoop inLoopThread (.sendInLoop message) fun l => l.sendInLoop message result
  else .ok l

def shutdown (inLoopThread : Bool) (l : IoLoop) (result : Option Errno) : Except Abort IoLoop :=
  if l.conn.state = .kConnected then
    (l.setState .kDisconnecting).runInLoop inLoopThread .shutdownInLoop fun l =>
      l.shutdownInLoop result
  else .ok l

def forceClose (l : IoLoop) : IoLoop :=
  if l.conn.state = .kConnected ∨ l.conn.state = .kDisconnecting then
    (l.setState .kDisconnecting).queueInLoop .forceCloseInLoop
  else l

def startRead (inLoopThread : Bool) (l : IoLoop) : Except Abort IoLoop :=
  l.runInLoop inLoopThread .startReadInLoop startReadInLoop

def stopRead (inLoopThread : Bool) (l : IoLoop) : Except Abort IoLoop :=
  l.runInLoop inLoopThread .stopReadInLoop stopReadInLoop

/-- A call of the user, made by the loop thread or by another thread. -/
def call (inLoopThread : Bool) (l : IoLoop) (answers : Answers) : Call → Except Abort IoLoop
  | .send message => l.send inLoopThread message answers.write
  | .shutdown => l.shutdown inLoopThread answers.shutdown
  | .forceClose => .ok l.forceClose
  | .startRead => l.startRead inLoopThread
  | .stopRead => l.stopRead inLoopThread

end IoLoop

end Starry.Source
