import Starry.Foundation.Memory
import Starry.Foundation.Runs
import Starry.Source.TcpConnection

/-!
# The three overloads of `TcpConnection::send` and the storage of their caller

`net/src/tcp_connection.cpp`, lines 78 to 112. The callers' storage is a memory of bytes, to
which pointers and `std::string_view`s point, and a number of `Buffer` objects. Callers write to
it between any two steps.

A `send` of the loop thread ends in `sendInLoop`. One of another thread binds `sendInLoop` to its
argument and queues it: `send(std::string_view)`, and through it `send(void*, int)`, binds the
view, and `send(Buffer*)` the string that it has taken out of the buffer. The functor reads what a
view points at when it runs. A call is one step, and the loop thread runs the queued functors one
by one, in their order (the batch of `doPendingFunctors` and `pendingFunctors_` are one queue
here); `collect` moves to it what the functions of `IoLoop` have queued.

With a functor goes what its caller's storage held at the call, and `due` lists that for the
`sendInLoop`s that have run on a connection that was not yet down.
-/
namespace Starry.Source

open Starry.Foundation
open Starry.Foundation.Memory

/-- `std::string_view` -/
structure StringView where
  data : Nat
  size : Nat
  deriving DecidableEq, Repr

/-- What `std::bind` keeps for the argument of `sendInLoop`. -/
inductive BoundArgument where
  | view (message : StringView)
  | string (message : List UInt8)
  deriving DecidableEq, Repr

inductive BoundFunctor where
  | sendInLoop (message : BoundArgument) (held : List UInt8)
  | other (functor : LoopFunctor)
  deriving DecidableEq, Repr

structure CallerStorage where
  io : IoLoop
  queue : List BoundFunctor
  memory : List UInt8
  buffers : Nat → Buffer
  due : List (List UInt8)

namespace CallerStorage

/-- The argument of one of the three overloads. -/
inductive Message where
  | pointer (data len : Nat)
  | view (message : StringView)
  | buffer (index : Nat)
  deriving DecidableEq, Repr

inductive Act where
  | send (inLoopThread : Bool) (message : Message) (answers : Answers)
  | shutdown (inLoopThread : Bool) (answers : Answers)
  | forceClose
  /-- A caller writes to its memory, or does anything to one of its buffers. -/
  | store (position : Nat) (data : List UInt8)
  | change (index : Nat) (buffer : Buffer)
  | runFunctor (answers : Answers)
  | handleWrite (answers : Answers)
  | handleClose
  deriving DecidableEq, Repr

/-- The bytes that a view points at. -/
def contents (s : CallerStorage) (message : StringView) : List UInt8 :=
  window s.memory message.data (message.data + message.size)

/-- What the argument of a call stands for when it is made. -/
def held (s : CallerStorage) : Message → List UInt8
  | .pointer data len => s.contents ⟨data, len⟩
  | .view message => s.contents message
  | .buffer index => (s.buffers index).readable

def collect (s : CallerStorage) : CallerStorage :=
  { s with queue := s.queue ++ s.io.pendingFunctors.map .other
           io := { s.io with pendingFunctors := [] } }

def onLoop (s : CallerStorage) (f : IoLoop → Except Abort IoLoop) : Except Abort CallerStorage := do
  let io ← f s.io
  return { s with io := io }.collect

def noteDue (s : CallerStorage) (held : List UInt8) : CallerStorage :=
  if s.io.conn.state = .kDisconnected then s else { s with due := s.due ++ [held] }

/-- `sendInLoop` with the bytes `data`, for a call at which the storage held `held`. -/
def sendInLoop (s : CallerStorage) (data held : List UInt8) (result : WriteResult) :
    Except Abort CallerStorage :=
  (s.noteDue held).onLoop fun io => io.sendInLoop data result

def queueInLoop (s : CallerStorage) (functor : BoundFunctor) : CallerStorage :=
  { s with queue := s.queue ++ [functor] }

def sendView (inLoopThread : Bool) (s : CallerStorage) (message : StringView)
    (result : WriteResult) : Except Abort CallerStorage :=
  if s.io.conn.state = .kConnected then
    if inLoopThread then s.sendInLoop (s.contents message) (s.held (.view message)) result
    else .ok (s.queueInLoop (.sendInLoop (.view message) (s.held (.view message))))
  else .ok s

def sendPointer (inLoopThread : Bool) (s : CallerStorage) (data len : Nat) (result : WriteResult) :
    Except Abort CallerStorage :=
  s.sendView inLoopThread ⟨data, len⟩ result

def setBuffer (s : CallerStorage) (index : Nat) (buffer : Buffer) : CallerStorage :=
  { s with buffers := Function.update s.buffers index buffer }

def sendBuffer (inLoopThread : Bool) (s : CallerStorage) (index : Nat) (result : WriteResult) :
    Except Abort CallerStorage :=
  let buf := s.buffers index
  if s.io.conn.state = .kConnected then
    if inLoopThread then do
      let sent ← s.sendInLoop (window buf.buffer buf.readerIndex (buf.readerIndex + buf.readableBytes))
        (s.held (.buffer index)) result
      return sent.setBuffer index buf.retrieveAll
    else do
      let (message, rest) ← buf.retrieveAllAsString
      return (s.queueInLoop (.sendInLoop (.string message) (s.held (.buffer index)))).setBuffer index rest
  else .ok s

def send (inLoopThread : Bool) (s : CallerStorage) (result : WriteResult) :
    Message → Except Abort CallerStorage
  | .pointer data len => s.sendPointer inLoopThread data len result
  | .view message => s.sendView inLoopThread message result
  | .buffer index => s.sendBuffer inLoopThread index result

/-- The conversion of the bound argument to `const std::string_view&`, and what that shows. -/
def argument (s : CallerStorage) : BoundArgument → List UInt8
  | .view message => s.contents message
  | .string message => message

def runFunctor (s : CallerStorage) (answers : Answers) : BoundFunctor → Except Abort CallerStorage
  | .sendInLoop message held => s.sendInLoop (s.argument message) held answers.write
  | .other .shutdownInLoop => s.onLoop fun io => io.shutdownInLoop answers.shutdown
  | .other .forceCloseInLoop =>
    if s.io.conn.isOpen then s.onLoop IoLoop.handleClose else .ok s
  | .other .writeCompleteCallback => .ok { s with io := s.io.observe .writeCompleteCallback }
  | .other (.highWaterMarkCallback backlog) =>
    .ok { s with io := s.io.observe (.highWaterMarkCallback backlog) }
  -- None of the calls here queues another functor.
  | .other (.sendInLoop _) | .other .startReadInLoop | .other .stopReadInLoop
  | .other .connectDestroyed => .ok s

def step (s : CallerStorage) : Act → Except Abort CallerStorage
  | .send inLoopThread message answers => s.send inLoopThread answers.write message
  | .shutdown inLoopThread answers => s.onLoop fun io => io.shutdown inLoopThread answers.shutdown
  | .forceClose => s.onLoop fun io => .ok io.forceClose
  | .store position data => .ok { s with memory := store s.memory position data }
  | .change index buffer => .ok (s.setBuffer index buffer)
  | .runFunctor answers =>
    match s.queue with
    | [] => .ok s
    | functor :: rest => { s with queue := rest }.runFunctor answers functor
  | .handleWrite answers => s.onLoop fun io => io.handleWrite answers
  | .handleClose => s.onLoop IoLoop.handleClose

/-- Pointers and views are those of the memory, and `handleClose` finds an open connection. -/
def Enabled (s : CallerStorage) : Act → Prop
  | .send _ (.pointer data len) _ => data + len ≤ s.memory.length
  | .send _ (.view message) _ => message.data + message.size ≤ s.memory.length
  | .store position data => position + data.length ≤ s.memory.length
  | .runFunctor _ => s.queue ≠ []
  | .handleClose => s.io.conn.isOpen = true
  | .send _ (.buffer _) _ | .shutdown _ _ | .forceClose | .change _ _ | .handleWrite _ => True

def machine : Machine CallerStorage Act Abort where
  enabled := Enabled
  step := step

instance (s : CallerStorage) (a : Act) : Decidable (s.Enabled a) :=
  match a with
  | .send _ (.pointer _ _) _ | .send _ (.view _) _ | .store _ _ => inferInstanceAs (Decidable (_ ≤ _))
  | .runFunctor _ => inferInstanceAs (Decidable (_ ≠ _))
  | .handleClose => inferInstanceAs (Decidable (_ = _))
  | .send _ (.buffer _) _ | .shutdown _ _ | .forceClose | .change _ _ | .handleWrite _ => isTrue trivial

instance (s : CallerStorage) (a : Act) : Decidable (machine.enabled s a) :=
  inferInstanceAs (Decidable (s.Enabled a))

/-- Nothing has been called yet. -/
def of (io : IoLoop) (memory : List UInt8) (buffers : Nat → Buffer) : CallerStorage where
  io := io
  queue := []
  memory := memory
  buffers := buffers
  due := []

end CallerStorage

end Starry.Source
