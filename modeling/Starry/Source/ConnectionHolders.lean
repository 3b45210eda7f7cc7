import Starry.Source.ConnectionLoop

/-!
# Who holds a `TcpConnection`

The connection of `Starry.Source.ConnectionLoop` with the copies of its `shared_ptr`: in
`connections_`, in the functors that `shared_from_this()` or `conn` was bound to, in the guard
of `Channel::handleEvent`, on the stack of the loop thread while it is inside a function of the
connection, and in the hands of user code. The functors of `send`, `shutdown`, `startRead` and
`stopRead` are bound to a raw `this` and hold nothing. The vector of `doPendingFunctors` keeps
its functors until the end of the batch, also those that have run.

A call from another thread is cut between the test of `state_` and `queueInLoop`; its thread
holds a copy all the while. When the last copy goes, `~TcpConnection` and `~Channel` run; the
assertion of `~Channel` on `hasChannel` is left out, since it repeats the one on
`addedToLoop_`.
-/
namespace Starry.Source

open Starry.Foundation

/-- The functor was bound to a `shared_ptr`. -/
def LoopFunctor.holds : LoopFunctor → Bool
  | .forceCloseInLoop | .writeCompleteCallback | .highWaterMarkCallback _ | .connectDestroyed => true
  | .sendInLoop _ | .shutdownInLoop | .startReadInLoop | .stopReadInLoop => false

structure HeldConnection where
  session : Session
  /-- The functors of the current batch, those that have run included. -/
  batch : List LoopFunctor
  /-- The copies in the hands of user code. -/
  copies : Nat
  /-- What other threads, each with a copy, are about to queue. -/
  calls : List LoopFunctor
  deleted : Bool

namespace HeldConnection

inductive Act where
  | session (a : Session.Act)
  | copy
  | drop
  /-- A call of another thread, up to `queueInLoop`. -/
  | call (call : IoLoop.Call)
  | queue (index : Nat)
  deriving DecidableEq, Repr

/-- Some copy of the `shared_ptr` exists. -/
def held (s : HeldConnection) : Bool :=
  s.session.registered || 0 < s.session.removals || !s.session.todo.isEmpty ||
    s.session.activity = .current || s.session.io.pendingFunctors.any LoopFunctor.holds ||
    s.batch.any LoopFunctor.holds || 0 < s.copies || !s.calls.isEmpty

/-- The destructors of a connection that nobody holds any more. -/
def settle (s : HeldConnection) : Except Abort HeldConnection :=
  if s.deleted || s.held then .ok s
  else do
    cassert (s.session.io.conn.state = .kDisconnected) .tcpConnectionCpp 61
    cassert (s.session.io.conn.channel.eventHandling = false) .channelCpp 31
    cassert (s.session.io.conn.channel.addedToLoop = false) .channelCpp 32
    return { s with deleted := true }

/-- The first line of the function that a functor calls. -/
def functorLine : LoopFunctor → Nat
  | .sendInLoop _ => 110
  | .shutdownInLoop => 170
  | .forceCloseInLoop => 188
  | .startReadInLoop => 222
  | .stopReadInLoop => 236
  | .connectDestroyed => 256
  | .writeCompleteCallback | .highWaterMarkCallback _ => 0

/-- What the step does with the connection or its channel once they are deleted. -/
def useAfterDeletion (s : Session) : Session.Act → Option Abort
  | .runFunctor _ => s.functors.head?.map fun functor =>
    .undefinedBehaviour .tcpConnectionCpp (functorLine functor)
  | .poll (some _) => some (.undefinedBehaviour .epollPollerCpp 65)
  | .handleEvent | .proceed _ => some (.undefinedBehaviour .channelCpp 54)
  | .connectEstablished => some (.undefinedBehaviour .tcpConnectionCpp 245)
  | .call _ _ _ => some (.undefinedBehaviour .tcpConnectionCpp 110)
  | .retrieveInput _ => some (.undefinedBehaviour .bufferH 0)
  | .poll none | .doPendingFunctors | .iterate | .removeConnectionInLoop | .destroyServer => none

/-- The vector of `doPendingFunctors` after a step. -/
def nextBatch (s : HeldConnection) : Session.Act → List LoopFunctor
  | .doPendingFunctors => s.session.io.pendingFunctors
  | .iterate => []
  | _ => s.batch

def sessionStep (s : HeldConnection) (a : Session.Act) : Except Abort HeldConnection :=
  match s.deleted, useAfterDeletion s.session a with
  | true, some reason => .error reason
  | _, _ => do
    let session ← s.session.step a
    { s with session := session, batch := s.nextBatch a }.settle

/-- What a call from another thread does before it queues its functor. -/
def enter (l : IoLoop) : IoLoop.Call → Option (IoLoop × LoopFunctor)
  | .send message => if l.conn.state = .kConnected then some (l, .sendInLoop message) else none
  | .shutdown =>
    if l.conn.state = .kConnected then some (l.setState .kDisconnecting, .shutdownInLoop) else none
  | .forceClose =>
    if l.conn.state = .kConnected ∨ l.conn.state = .kDisconnecting then
      some (l.setState .kDisconnecting, .forceCloseInLoop)
    else none
  | .startRead => some (l, .startReadInLoop)
  | .stopRead => some (l, .stopReadInLoop)

def step (s : HeldConnection) : Act → Except Abort HeldConnection
  | .session a => s.sessionStep a
  | .copy => .ok { s with copies := s.copies + 1 }
  | .drop => { s with copies := s.copies - 1 }.settle
  | .call call =>
    match enter s.session.io call with
    | none => .ok s
    | some (io, functor) =>
      .ok { s with
        session := { s.session with io := io }
        copies := s.copies - 1
        calls := s.calls ++ [functor] }
  | .queue index =>
    match s.calls[index]? with
    | none => .ok s
    | some functor =>
      .ok { s with
        session := { s.session with io := s.session.io.queueInLoop functor }
        copies := s.copies + 1
        calls := s.calls.eraseIdx index }

/-- User code of the loop thread has the connection, as an argument of its callback or as a
copy of its own. -/
def InHand (s : HeldConnection) : Prop :=
  s.session.todo.head? = some .userCode ∨ 0 < s.copies

/-- The calls of other threads are `call` and `queue`. -/
def Enabled (s : HeldConnection) : Act → Prop
  | .session (.call inLoopThread call answers) =>
    s.session.Enabled (.call inLoopThread call answers) ∧ inLoopThread = true ∧ s.InHand
  | .session a => s.session.Enabled a
  | .copy => s.InHand
  | .drop => 0 < s.copies
  | .call _ => 0 < s.copies ∧ s.session.io.conn.state ≠ .kConnecting
  | .queue index => index < s.calls.length

def machine : Machine HeldConnection Act Abort where
  enabled := Enabled
  step := step

instance (s : HeldConnection) : Decidable s.InHand := inferInstanceAs (Decidable (_ ∨ _))

instance (s : HeldConnection) (a : Act) : Decidable (s.Enabled a) :=
  match a with
  | .session (.call _ _ _) => inferInstanceAs (Decidable (_ ∧ _ ∧ _))
  | .session .connectEstablished => inferInstanceAs (Decidable (s.session.Enabled .connectEstablished))
  | .session (.retrieveInput len) => inferInstanceAs (Decidable (s.session.Enabled (.retrieveInput len)))
  | .session (.poll reported) => inferInstanceAs (Decidable (s.session.Enabled (.poll reported)))
  | .session .handleEvent => inferInstanceAs (Decidable (s.session.Enabled .handleEvent))
  | .session (.proceed answers) => inferInstanceAs (Decidable (s.session.Enabled (.proceed answers)))
  | .session .doPendingFunctors => inferInstanceAs (Decidable (s.session.Enabled .doPendingFunctors))
  | .session (.runFunctor answers) =>
    inferInstanceAs (Decidable (s.session.Enabled (.runFunctor answers)))
  | .session .iterate => inferInstanceAs (Decidable (s.session.Enabled .iterate))
  | .session .removeConnectionInLoop =>
    inferInstanceAs (Decidable (s.session.Enabled .removeConnectionInLoop))
  | .session .destroyServer => inferInstanceAs (Decidable (s.session.Enabled .destroyServer))
  | .copy => inferInstanceAs (Decidable s.InHand)
  | .drop => inferInstanceAs (Decidable (0 < s.copies))
  | .call _ => inferInstanceAs (Decidable (_ ∧ _))
  | .queue index => inferInstanceAs (Decidable (index < s.calls.length))

instance (s : HeldConnection) (a : Act) : Decidable (machine.enabled s a) :=
  inferInstanceAs (Decidable (s.Enabled a))

/-- A connection that only `connections_` holds. -/
def of (session : Session) : HeldConnection where
  session := session
  batch := []
  copies := 0
  calls := []
  deleted := false

end HeldConnection

end Starry.Source
