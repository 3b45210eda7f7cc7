import Starry.Source.RpcServer
import Starry.Source.TcpConnection

/-!
# A client's `starry::RpcChannel` and its connections

`CallMethod` of `net/rpc/rpc_channel.cpp` down to `TcpConnection::send`. As before a call is
cut into the increment of `id_`, the registration under `mutex_` and the send, and calls from
any threads interleave; here the send goes to the connection in `conn_`, which may be in any
state, or be null. In the loop thread `send` ends in `sendInLoop`, in another one it queues
that as a functor of the connection. `sendInLoop` gives up when the connection is
disconnected by then.

Connections change their states at any time, and any message may come in from the connection
in `conn_`. A connection is a number and is not deleted. For each call the entry that its id
had in `outstandings_` before the call is kept, for the results only.
-/
namespace Starry.Source

open Starry.Foundation

structure ClientCall (Message : Type) extends Call Message where
  /-- The entry of the id when the call was made. -/
  before : Option (OutstandingCall Message)

structure QueuedSend where
  connection : Nat
  call : Nat
  bytes : List UInt8
  deriving DecidableEq, Repr

structure RpcClient (Message : Type) where
  channel : RpcChannel Message
  /-- The `state_` of every connection. -/
  connections : List StateE
  /-- `conn_` -/
  conn : Option Nat
  calls : List (ClientCall Message)
  /-- The `sendInLoop` functors that have not run. -/
  queued : List QueuedSend
  /-- What `sendInLoop` has passed on to the socket or the output buffer. -/
  output : List QueuedSend

/-- The body is empty. -/
def RpcChannel.onDisconnect {Message : Type} (channel : RpcChannel Message) : RpcChannel Message :=
  channel

namespace RpcClient

variable {Message : Type} (reflection : Reflection Message) (codec : ProtobufCodecLite RpcMessage)

def new (services : Option (ServiceMap Message)) : RpcClient Message where
  channel := .new services
  connections := []
  conn := none
  calls := []
  queued := []
  output := []

def setStage (s : RpcClient Message) (k : Nat) (call : ClientCall Message) (stage : CallStage) :
    RpcClient Message :=
  { s with calls := s.calls.set k { call with stage := stage } }

/-- `int64_t id = ++id_` -/
def allocate (s : RpcClient Message) (service method : String) (request : Message)
    (response : Option Message) (done : Bool) : RpcClient Message :=
  let id := s.channel.id + 1
  { s with
    channel := { s.channel with id := id }
    calls := s.calls ++ [
      ⟨⟨service, method, request, response, done, id, .allocated⟩, s.channel.outstandings id⟩] }

def register (s : RpcClient Message) (k : Nat) (call : ClientCall Message) : RpcClient Message :=
  { s.setStage k call .registered with channel := s.channel.register call.id (call.out k) }

def sendInLoop (s : RpcClient Message) (functor : QueuedSend) : RpcClient Message :=
  if s.connections[functor.connection]? = some .kDisconnected then s
  else { s with output := s.output ++ [functor] }

/-- `TcpConnection::send` -/
def sendOn (s : RpcClient Message) (functor : QueuedSend) (state : StateE) (inLoopThread : Bool) :
    RpcClient Message :=
  if state = .kConnected then
    if inLoopThread then s.sendInLoop functor
    else { s with queued := s.queued ++ [functor] }
  else s

/-- `codec_.send(conn_, message)` -/
def send (s : RpcClient Message) (k : Nat) (call : ClientCall Message) (inLoopThread : Bool) :
    Except Abort (RpcClient Message) := do
  let bytes ← codec.send (RpcSystem.requestMessage reflection call.toCall)
  match s.conn with
  | none => .error (.undefinedBehaviour .protobufCodecLiteCpp 26)
  | some connection =>
    match s.connections[connection]? with
    | none => .error (.undefinedBehaviour .protobufCodecLiteCpp 26)
    | some state =>
      return (s.setStage k call .sent).sendOn ⟨connection, k, bytes⟩ state inLoopThread

inductive Act (Message : Type) where
  /-- A new connection, in this state. -/
  | connection (state : StateE)
  | stateChanges (connection : Nat) (state : StateE)
  | setConnection (conn : Option Nat)
  | call (service method : String) (request : Message) (response : Option Message) (done : Bool)
  | register (k : Nat)
  | send (k : Nat) (inLoopThread : Bool)
  /-- The first functor that is queued runs. -/
  | sendInLoop
  | receive (message : RpcMessage)
  | onDisconnect

def step (s : RpcClient Message) : Act Message → Except Abort (RpcClient Message)
  | .connection state => .ok { s with connections := s.connections ++ [state] }
  | .stateChanges connection state => .ok { s with connections := s.connections.set connection state }
  | .setConnection conn => .ok { s with conn := conn }
  | .call service method request response done =>
    .ok (s.allocate service method request response done)
  | .register k =>
    match s.calls[k]? with
    | none => .ok s
    | some call => .ok (s.register k call)
  | .send k inLoopThread =>
    match s.calls[k]? with
    | none => .ok s
    | some call => s.send reflection codec k call inLoopThread
  | .sendInLoop =>
    match s.queued with
    | [] => .ok s
    | functor :: rest => .ok ({ s with queued := rest }.sendInLoop functor)
  | .receive message => do
    let (channel, _) ← s.channel.onRpcMessage reflection message
    return { s with channel := channel }
  | .onDisconnect => .ok { s with channel := s.channel.onDisconnect }

def stageIs (s : RpcClient Message) (k : Nat) (stage : CallStage) : Bool :=
  match s.calls[k]? with
  | none => false
  | some call => call.stage = stage

def Enabled (s : RpcClient Message) : Act Message → Prop
  | .connection _ | .call _ _ _ _ _ | .onDisconnect => True
  | .stateChanges connection _ => connection < s.connections.length
  | .setConnection conn => ∀ connection ∈ conn, connection < s.connections.length
  | .register k => s.stageIs k .allocated = true
  | .send k _ => s.stageIs k .registered = true
  | .sendInLoop => s.queued ≠ []
  | .receive _ => s.conn ≠ none

def machine : Machine (RpcClient Message) (Act Message) Abort where
  enabled := Enabled
  step := step reflection codec

instance (s : RpcClient Message) (a : Act Message) : Decidable (s.Enabled a) :=
  match a with
  | .connection _ | .call _ _ _ _ _ | .onDisconnect => isTrue trivial
  | .stateChanges connection _ => inferInstanceAs (Decidable (connection < s.connections.length))
  | .setConnection conn =>
    inferInstanceAs (Decidable (∀ connection ∈ conn, connection < s.connections.length))
  | .register _ | .send _ _ => inferInstanceAs (Decidable (_ = _))
  | .sendInLoop => inferInstanceAs (Decidable (s.queued ≠ []))
  | .receive _ => inferInstanceAs (Decidable (s.conn ≠ none))

instance (s : RpcClient Message) (a : Act Message) :
    Decidable ((machine reflection codec).enabled s a) :=
  inferInstanceAs (Decidable (s.Enabled a))

end RpcClient

end Starry.Source
