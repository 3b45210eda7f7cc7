import Starry.Source.ConnectionLoop
import Starry.Source.RpcServer
import Starry.Source.TcpConnectionSpec

/-!
# The channel of a served connection

`RpcServer::onConnection` (`net/rpc/rpc_server.cpp`) makes an `RpcChannel` the context of a
connection that comes up, and empties the context when the connection goes down. Nothing else
holds the channel: the message callback is bound to `channel.get()`, and the `done` that
`callServiceMethod` gives to a service is bound to a raw `this`.

The connection is the one of `Starry.Source.ConnectionLoop`, under a server that stays. What the
codec finds in the input buffer is left open: as long as `onMessage` runs, any message may be
handed to `onRpcMessage`. A service may call `done` from any thread, at any time, and more than
once. A `done` of another thread is one step: it finds the channel there or deleted, where in the
code one that is still running can also be overtaken by the deletion.
-/
namespace Starry.Source

open Starry.Foundation

inductive ServedEnd where
  | stopped (reason : Abort)
  /-- A member function of a channel that is deleted, by its line. -/
  | channelDeleted (line : Nat)
  deriving DecidableEq, Repr

structure ServedConnection (Message : Type) where
  session : Session
  /-- The context of the connection. -/
  context : Option (RpcChannel Message)
  /-- The message callback is bound to a channel. -/
  bound : Bool
  /-- `RpcChannel::onMessage` is running. -/
  receiving : Bool
  invocations : List (Invocation Message)

namespace ServedConnection

variable {Message : Type} (reflection : Reflection Message) (codec : ProtobufCodecLite RpcMessage)
  (server : RpcServer Message)

inductive Act (Message : Type) where
  | session (a : Session.Act)
  /-- The codec hands a message to `onRpcMessage`. -/
  | message (message : RpcMessage)
  /-- The `done` of the invocation numbered `k` is called. -/
  | done (k : Nat) (response : Message) (inLoopThread : Bool) (answers : Answers)

/-- What the connection calls: `onConnection` of the server and, once it is bound, `onMessage` of
the channel. -/
def callback (s : ServedConnection Message) :
    Observation → Except ServedEnd (ServedConnection Message)
  | .connectionCallback .kConnected =>
    .ok { s with context := some server.channel, bound := true }
  | .connectionCallback _ => .ok { s with context := none }
  | .messageCallback =>
    if s.bound = false then .ok s
    else match s.context with
      | none => .error (.channelDeleted 56)
      | some _ => .ok { s with receiving := true }
  | _ => .ok s

/-- The loop thread returns from the callback that it is in. -/
def returns : Session.Act → Bool
  | .proceed _ => true
  | _ => false

/-- A step of the connection, and the callbacks that it makes. -/
def sessionStep (s : ServedConnection Message) (a : Session.Act) :
    Except ServedEnd (ServedConnection Message) := do
  let session ← (s.session.step a).mapError .stopped
  let called := session.io.callbacks.drop s.session.io.callbacks.length
  called.foldlM (callback server)
    { s with session := session, receiving := s.receiving && !returns a }

/-- The member function of the channel that runs in the step. -/
def inChannel (s : ServedConnection Message) : Act Message → Option Nat
  | .session (.retrieveInput _) | .session (.proceed _) => if s.receiving then some 56 else none
  | .session _ => none
  | .message _ => some 63
  | .done _ _ _ _ => some 132

/-- `RpcChannel::onRpcMessage`. -/
def onRpcMessage (s : ServedConnection Message) (channel : RpcChannel Message)
    (message : RpcMessage) : Except ServedEnd (ServedConnection Message) := do
  let (channel, reaction) ← (channel.onRpcMessage reflection message).mapError .stopped
  return { s with
    context := some channel
    invocations := s.invocations ++ match reaction with
      | .invoked invocation => [invocation]
      | _ => [] }

/-- `RpcChannel::doneCallback`, whose last line is `codec_.send(conn_, message)`. -/
def doneCallback (s : ServedConnection Message) (invocation : Invocation Message)
    (response : Message) (inLoopThread : Bool) (answers : Answers) :
    Except ServedEnd (ServedConnection Message) := do
  let message ← (RpcChannel.doneCallback reflection invocation response).mapError .stopped
  let frame ← (codec.send message).mapError .stopped
  s.sessionStep server (.call inLoopThread (.send frame) answers)

def perform (s : ServedConnection Message) :
    Act Message → Except ServedEnd (ServedConnection Message)
  | .session a => s.sessionStep server a
  | .message message =>
    match s.context with
    | none => .ok s
    | some channel => s.onRpcMessage reflection channel message
  | .done k response inLoopThread answers =>
    match s.invocations[k]? with
    | none => .ok s
    | some invocation =>
      s.doneCallback reflection codec server invocation response inLoopThread answers

def step (s : ServedConnection Message) (a : Act Message) :
    Except ServedEnd (ServedConnection Message) :=
  match s.context, s.inChannel a with
  | none, some line => .error (.channelDeleted line)
  | _, _ => s.perform reflection codec server a

def Enabled (s : ServedConnection Message) : Act Message → Prop
  | .session a => s.session.Enabled a ∧ a ≠ .destroyServer
  | .message _ => s.receiving = true
  | .done k _ inLoopThread _ =>
    k < s.invocations.length ∧ (inLoopThread = true → s.session.UserTurn)

def machine : Machine (ServedConnection Message) (Act Message) ServedEnd where
  enabled := Enabled
  step := step reflection codec server

instance (s : ServedConnection Message) (a : Act Message) : Decidable (s.Enabled a) :=
  match a with
  | .session _ => inferInstanceAs (Decidable (_ ∧ _))
  | .message _ => inferInstanceAs (Decidable (_ = _))
  | .done _ _ _ _ => inferInstanceAs (Decidable (_ ∧ _))

instance (s : ServedConnection Message) (a : Act Message) :
    Decidable ((machine reflection codec server).enabled s a) :=
  inferInstanceAs (Decidable (s.Enabled a))

def of (session : Session) : ServedConnection Message where
  session := session
  context := none
  bound := false
  receiving := false
  invocations := []

end ServedConnection

end Starry.Source
