import Starry.Foundation.Runs
import Starry.Source.TcpConnection

/-!
# One connection used by many threads

`send` and `shutdown` of an open connection, called by its loop thread and by any number of
other threads. In the loop thread a call runs to its end. In another thread it is cut where
it can be overtaken: a `send` after the test of `state_`, before `queueInLoop`; a `shutdown`
after the test, and again after `setState`. The loop thread runs the queued functors in
their order (the batch of `doPendingFunctors` and `pendingFunctors_` are one queue here), and
handles writability of the channel, at any time.

`given` records the messages with which `sendInLoop` ran, `called` that `shutdown` has been
called by some thread, and `early` the messages whose `send` passed the test of `state_`
before that.
-/
namespace Starry.Source

open Starry.Foundation

/-- How far a `shutdown` of another thread is, once it has passed the test. -/
inductive ShutdownStage where
  | tested | stored
  deriving DecidableEq, Repr

structure SharedConnection where
  io : IoLoop
  /-- Messages of other threads between the test and `queueInLoop`. -/
  sends : List (List UInt8)
  shutdowns : List ShutdownStage
  called : Bool
  early : List (List UInt8)
  given : List (List UInt8)

namespace SharedConnection

inductive Act where
  | sendInLoopThread (message : List UInt8) (result : WriteResult)
  | shutdownInLoopThread (result : Option Errno)
  | send (message : List UInt8)
  | queueSend (index : Nat)
  | shutdown
  | setDisconnecting (index : Nat)
  | queueShutdown (index : Nat)
  | runFunctor (answers : Answers)
  | handleWrite (answers : Answers)
  deriving DecidableEq, Repr

/-- The test of `state_` in `send` succeeded. -/
def noteEarly (s : SharedConnection) (message : List UInt8) : SharedConnection :=
  if s.called then s else { s with early := s.early ++ [message] }

def sendInLoop (s : SharedConnection) (message : List UInt8) (result : WriteResult) :
    Except Abort SharedConnection := do
  return { s with io := ← s.io.sendInLoop message result, given := s.given ++ [message] }

def runFunctor (s : SharedConnection) (answers : Answers) :
    LoopFunctor → Except Abort SharedConnection
  | .sendInLoop message => s.sendInLoop message answers.write
  | .shutdownInLoop => do return { s with io := ← s.io.shutdownInLoop answers.shutdown }
  | .writeCompleteCallback => .ok { s with io := s.io.observe .writeCompleteCallback }
  | .highWaterMarkCallback backlog =>
    .ok { s with io := s.io.observe (.highWaterMarkCallback backlog) }
  -- None of the calls above queues another functor.
  | .forceCloseInLoop | .startReadInLoop | .stopReadInLoop | .connectDestroyed => .ok s

def step (s : SharedConnection) : Act → Except Abort SharedConnection
  | .sendInLoopThread message result =>
    if s.io.conn.state = .kConnected then (s.noteEarly message).sendInLoop message result
    else .ok s
  | .shutdownInLoopThread result => do
    return { s with io := ← s.io.shutdown true result, called := true }
  | .send message =>
    if s.io.conn.state = .kConnected then
      .ok { s.noteEarly message with sends := s.sends ++ [message] }
    else .ok s
  | .queueSend index =>
    match s.sends[index]? with
    | none => .ok s
    | some message =>
      .ok { s with sends := s.sends.eraseIdx index, io := s.io.queueInLoop (.sendInLoop message) }
  | .shutdown =>
    if s.io.conn.state = .kConnected then
      .ok { s with called := true, shutdowns := s.shutdowns ++ [.tested] }
    else .ok { s with called := true }
  | .setDisconnecting index =>
    .ok { s with io := s.io.setState .kDisconnecting, shutdowns := s.shutdowns.set index .stored }
  | .queueShutdown index =>
    .ok { s with io := s.io.queueInLoop .shutdownInLoop, shutdowns := s.shutdowns.eraseIdx index }
  | .runFunctor answers =>
    match s.io.pendingFunctors with
    | [] => .ok s
    | functor :: rest =>
      { s with io := { s.io with pendingFunctors := rest } }.runFunctor answers functor
  | .handleWrite answers => do return { s with io := ← s.io.handleWrite answers }

def Enabled (s : SharedConnection) : Act → Prop
  | .sendInLoopThread _ _ | .shutdownInLoopThread _ | .send _ | .shutdown | .handleWrite _ => True
  | .queueSend index => index < s.sends.length
  | .setDisconnecting index => s.shutdowns[index]? = some .tested
  | .queueShutdown index => s.shutdowns[index]? = some .stored
  | .runFunctor _ => s.io.pendingFunctors ≠ []

def machine : Machine SharedConnection Act Abort where
  enabled := Enabled
  step := step

instance (s : SharedConnection) (a : Act) : Decidable (s.Enabled a) :=
  match a with
  | .sendInLoopThread _ _ | .shutdownInLoopThread _ | .send _ | .shutdown | .handleWrite _ =>
    isTrue trivial
  | .queueSend index => inferInstanceAs (Decidable (index < s.sends.length))
  | .setDisconnecting _ | .queueShutdown _ => inferInstanceAs (Decidable (_ = _))
  | .runFunctor _ => inferInstanceAs (Decidable (_ ≠ _))

instance (s : SharedConnection) (a : Act) : Decidable (machine.enabled s a) :=
  inferInstanceAs (Decidable (s.Enabled a))

/-- A connection on which nothing has been called yet. -/
def of (io : IoLoop) : SharedConnection where
  io := io
  sends := []
  shutdowns := []
  called := false
  early := []
  given := []

end SharedConnection

end Starry.Source
