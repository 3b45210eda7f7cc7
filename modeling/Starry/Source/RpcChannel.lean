import Mathlib.Logic.Function.Basic
import Mathlib.Data.List.Basic
import Starry.Foundation.Runs
import Starry.Source.Abort

/-!
# `starry::RpcChannel`

`net/rpc/rpc_channel.cpp`, and two channels connected by FIFO links that deliver whole
`RpcMessage`s. `CallMethod` is three steps of the thread it runs in: the atomic increment of
`id_`, the registration under `mutex_`, and the send. The service of an invocation may call
its `done` at any time, and more than once; and RESPONSE messages that the server did not
send may reach the client. Messages of the generated classes are values of any type that
protobuf's reflection knows. Left out are the assertion that a message comes from `conn_`,
the `error` field, which no function reads, and the texts that are only logged.
-/
namespace Starry.Source

open Starry.Foundation

inductive MessageType where
  | UNKNOWN | REQUEST | RESPONSE | ERROR
  deriving DecidableEq, Repr

/-- `RpcMessage`; a field that is not set has its default. -/
structure RpcMessage where
  type : MessageType
  id : UInt64
  service : String
  method : String
  request : List UInt8
  response : List UInt8
  deriving DecidableEq

/-- What the channel uses of a protobuf message. -/
structure Reflection (Message : Type) where
  descriptor : Message → String
  serializeAsString : Message → List UInt8
  /-- `prototype.New()` filled by `ParseFromString`, whose result is ignored. -/
  parsed : (prototype : Message) → List UInt8 → Message

structure Prototypes (Message : Type) where
  request : Message
  response : Message

/-- `Service` with `FindMethodByName` of its descriptor. -/
abbrev Service (Message : Type) := String → Option (Prototypes Message)

/-- The inner `none` is a null pointer in the map. -/
abbrev ServiceMap (Message : Type) := String → Option (Option (Service Message))

structure OutstandingCall (Message : Type) where
  /-- `none` for a null prototype. -/
  response : Option Message
  /-- The call whose callback it is; `none` for an empty `std::function`. -/
  done : Option Nat

structure RpcChannel (Message : Type) where
  id : Int64
  outstandings : Int64 → Option (OutstandingCall Message)
  services : Option (ServiceMap Message)

/-- `Service::CallMethod` has been called with these. -/
structure Invocation (Message : Type) where
  service : String
  method : String
  requestBytes : List UInt8
  request : Message
  responsePrototype : Message
  id : Int64

inductive Reaction (Message : Type) where
  | nothing
  /-- A `done` callback is invoked. -/
  | completed (call : Nat) (received : Message)
  | invoked (invocation : Invocation Message)

namespace RpcChannel

variable {Message : Type} (reflection : Reflection Message)

def new (services : Option (ServiceMap Message)) : RpcChannel Message where
  id := 0
  outstandings := fun _ => none
  services := services

/-- `outstandings_[id] = out` -/
def register (channel : RpcChannel Message) (id : Int64) (out : OutstandingCall Message) :
    RpcChannel Message :=
  { channel with outstandings := Function.update channel.outstandings id (some out) }

def callServiceMethod (channel : RpcChannel Message) (message : RpcMessage) :
    Except Abort (Reaction Message) :=
  match channel.services with
  | none => .ok .nothing
  | some services =>
    match services message.service with
    | none => .ok .nothing
    | some none => .error (.assertion .rpcChannelCpp 109)
    | some (some service) =>
      match service message.method with
      | none => .ok .nothing
      | some prototypes => .ok (.invoked {
          service := message.service
          method := message.method
          requestBytes := message.request
          request := reflection.parsed prototypes.request message.request
          responsePrototype := prototypes.response
          id := message.id.toInt64 })

/-- The branch of `onRpcMessage` for a RESPONSE. -/
def onResponse (channel : RpcChannel Message) (message : RpcMessage) :
    RpcChannel Message × Reaction Message :=
  match channel.outstandings message.id.toInt64 with
  | none => (channel, .nothing)
  | some out =>
    ({ channel with
        outstandings := Function.update channel.outstandings message.id.toInt64 none },
      match out.response, out.done with
      | some prototype, some call =>
        .completed call (reflection.parsed prototype message.response)
      | _, _ => .nothing)

def onRpcMessage (channel : RpcChannel Message) (message : RpcMessage) :
    Except Abort (RpcChannel Message × Reaction Message) :=
  match message.type with
  | .RESPONSE => .ok (channel.onResponse reflection message)
  | .REQUEST => do
    let reaction ← channel.callServiceMethod reflection message
    return (channel, reaction)
  | .ERROR => .ok (channel, .nothing)
  | .UNKNOWN => .ok (channel, .nothing)

/-- The message that `doneCallback` sends. -/
def doneCallback (invocation : Invocation Message) (response : Message) :
    Except Abort RpcMessage := do
  cassert (reflection.descriptor response = reflection.descriptor invocation.responsePrototype)
    .rpcChannelCpp 136
  return {
    type := .RESPONSE
    id := invocation.id.toUInt64
    service := ""
    method := ""
    request := []
    response := reflection.serializeAsString response }

end RpcChannel

/-! ## A client and a server -/

inductive CallStage where
  | allocated | registered | sent
  deriving DecidableEq, Repr

/-- A `CallMethod` that has incremented `id_`, in whatever thread it runs. -/
structure Call (Message : Type) where
  service : String
  method : String
  request : Message
  response : Option Message
  /-- A callback was given. -/
  done : Bool
  id : Int64
  stage : CallStage

/-- `OutstandingCall out = {response, done}` in the call numbered `k`. -/
def Call.out {Message : Type} (call : Call Message) (k : Nat) : OutstandingCall Message where
  response := call.response
  done := if call.done then some k else none

inductive RpcEvent (Message : Type) where
  | registered (call : Nat)
  /-- A RESPONSE with this id has reached the client. -/
  | response (id : Int64)
  | completed (call : Nat) (received : Message)
  deriving DecidableEq

structure RpcSystem (Message : Type) where
  client : RpcChannel Message
  server : RpcChannel Message
  calls : List (Call Message)
  toServer : List RpcMessage
  toClient : List RpcMessage
  invocations : List (Invocation Message)
  /-- The responses given to `done`, with the invocation they are for. -/
  produced : List (Nat × Message)
  events : List (RpcEvent Message)

namespace RpcSystem

variable {Message : Type} (reflection : Reflection Message)

def start (services : ServiceMap Message) : RpcSystem Message where
  client := .new none
  server := .new (some services)
  calls := []
  toServer := []
  toClient := []
  invocations := []
  produced := []
  events := []

/-- The message that `CallMethod` sends. -/
def requestMessage (call : Call Message) : RpcMessage where
  type := .REQUEST
  id := call.id.toUInt64
  service := call.service
  method := call.method
  request := reflection.serializeAsString call.request
  response := []

def setStage (s : RpcSystem Message) (k : Nat) (call : Call Message) (stage : CallStage) :
    RpcSystem Message :=
  { s with calls := s.calls.set k { call with stage := stage } }

inductive Act (Message : Type) where
  | call (service method : String) (request : Message) (response : Option Message) (done : Bool)
  | register (k : Nat)
  | send (k : Nat)
  | deliverToServer
  | done (k : Nat) (response : Message)
  | forge (message : RpcMessage)
  | deliverToClient

/-- `int64_t id = ++id_` -/
def allocate (s : RpcSystem Message) (service method : String) (request : Message)
    (response : Option Message) (done : Bool) : RpcSystem Message :=
  { s with
    client := { s.client with id := s.client.id + 1 }
    calls := s.calls ++ [⟨service, method, request, response, done, s.client.id + 1, .allocated⟩] }

def register (s : RpcSystem Message) (k : Nat) (call : Call Message) : RpcSystem Message :=
  { s.setStage k call .registered with
    client := s.client.register call.id (call.out k)
    events := s.events ++ [.registered k] }

def send (s : RpcSystem Message) (k : Nat) (call : Call Message) : RpcSystem Message :=
  { s.setStage k call .sent with toServer := s.toServer ++ [requestMessage reflection call] }

/-- What `onRpcMessage` of the client adds to the events. -/
def reported (message : RpcMessage) : Reaction Message → List (RpcEvent Message)
  | .completed k received => [.response message.id.toInt64, .completed k received]
  | _ => if message.type = .RESPONSE then [.response message.id.toInt64] else []

def step (s : RpcSystem Message) : Act Message → Except Abort (RpcSystem Message)
  | .call service method request response done =>
    .ok (s.allocate service method request response done)
  | .register k =>
    match s.calls[k]? with
    | none => .ok s
    | some call => .ok (s.register k call)
  | .send k =>
    match s.calls[k]? with
    | none => .ok s
    | some call => .ok (s.send reflection k call)
  | .deliverToServer =>
    match s.toServer with
    | [] => .ok s
    | message :: rest => do
      let (server, reaction) ← s.server.onRpcMessage reflection message
      return { s with
        server := server
        toServer := rest
        invocations := s.invocations ++ match reaction with
          | .invoked invocation => [invocation]
          | _ => [] }
  | .done k response =>
    match s.invocations[k]? with
    | none => .ok s
    | some invocation => do
      let message ← RpcChannel.doneCallback reflection invocation response
      return { s with
        toClient := s.toClient ++ [message]
        produced := s.produced ++ [(k, response)] }
  | .forge message => .ok { s with toClient := s.toClient ++ [message] }
  | .deliverToClient =>
    match s.toClient with
    | [] => .ok s
    | message :: rest => do
      let (client, reaction) ← s.client.onRpcMessage reflection message
      return { s with
        client := client
        toClient := rest
        events := s.events ++ reported message reaction }

def stageIs (s : RpcSystem Message) (k : Nat) (stage : CallStage) : Bool :=
  match s.calls[k]? with
  | none => false
  | some call => call.stage = stage

def Enabled (s : RpcSystem Message) : Act Message → Prop
  | .call _ _ _ _ _ => True
  | .register k => s.stageIs k .allocated = true
  | .send k => s.stageIs k .registered = true
  | .deliverToServer => s.toServer.isEmpty = false
  | .done k _ => k < s.invocations.length
  | .forge message => message.type = .RESPONSE
  | .deliverToClient => s.toClient.isEmpty = false

def machine : Machine (RpcSystem Message) (Act Message) Abort where
  enabled := Enabled
  step := step reflection

instance (s : RpcSystem Message) (a : Act Message) : Decidable (s.Enabled a) :=
  match a with
  | .call _ _ _ _ _ => isTrue trivial
  | .register _ | .send _ | .deliverToServer | .forge _ | .deliverToClient =>
    inferInstanceAs (Decidable (_ = _))
  | .done k _ => inferInstanceAs (Decidable (k < s.invocations.length))

instance (s : RpcSystem Message) (a : Act Message) :
    Decidable ((machine reflection).enabled s a) :=
  inferInstanceAs (Decidable (s.Enabled a))

end RpcSystem

end Starry.Source
