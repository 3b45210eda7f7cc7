import Starry.Source.ProtobufCodecLite
import Starry.Source.RpcChannel
import Starry.Source.TcpConnection

/-!
# `starry::RpcServer`

`net/rpc/rpc_server.cpp` with the class `RpcServiceImpl` of `net/rpc/rpc_service.h`, and the
code that `net/rpc/tool/cpp_service.cpp` generates for a service: `CallMethod` switches on the
index of the method and calls the virtual function of the method's name. A class that has a
member function of that name overrides it; for one that has not, the generated body is an
assertion. A line of a generated file is the line that prints it.

A member function is represented by the response it gives to `done`, which it calls once, in
any thread and at any time. `doneCallback` sends the response with the `codec_` and over the
`conn_` that it finds in the channel then: a `DoneCall` says whether the channel is still there,
and in which state its connection is. That `DoneCall`s are what a run of the connection gives is
shown in `Starry.Guarantees.ServedChannels`.
-/
namespace Starry.Source

open Starry.Foundation

structure MethodDescriptor (Message : Type) where
  name : String
  prototypes : Prototypes Message

/-- An object of a class derived from a generated one: the descriptor of the service, and the
member functions that the class itself declares, by name. -/
structure ServiceObject (Message : Type) where
  fullName : String
  methods : List (MethodDescriptor Message)
  members : List (String × (Message → Message))

namespace ServiceObject

variable {Message : Type} (o : ServiceObject Message)

/-- The index of the method found. -/
def FindMethodByName (name : String) : Option Nat := o.methods.findIdx? (·.name == name)

/-- `GetRequestPrototype` and `GetResponsePrototype`. -/
def service : Service Message := fun name =>
  (o.FindMethodByName name).bind fun index => (o.methods[index]?).map (·.prototypes)

/-- The response that the function called gives to `done`. -/
def CallMethod (index : Nat) (request : Message) : Except Abort Message :=
  match o.methods[index]? with
  | none => .error (.assertion .generatedPbCc 260)
  | some method =>
    match o.members.lookup method.name with
    | none => .error (.assertion .generatedPbCc 220)
    | some member => .ok (member request)

end ServiceObject

/-- The meta service. Its methods are those of `rpcservice.proto`. -/
def RpcServiceImpl {Message : Type} (listRpcTypes getServiceTypes : Prototypes Message)
    (listRpc getService : Message → Message) : ServiceObject Message where
  fullName := "starry.RpcService"
  methods := [⟨"ListRpc", listRpcTypes⟩, ⟨"GetService", getServiceTypes⟩]
  members := [("listRpc", listRpc), ("getService", getService)]

structure RpcServer (Message : Type) where
  services : String → Option (ServiceObject Message)

/-- `codec_.send`: the bytes given to the connection. -/
def ProtobufCodecLite.send {Msg : Type} (c : ProtobufCodecLite Msg) (message : Msg) :
    Except Abort (List UInt8) := do
  let buf ← c.fillEmptyBuffer (Buffer.new Buffer.kInitialSize) message
  return buf.readable

/-- What the function behind `done` finds when it is called. -/
structure DoneCall where
  /-- The channel is the context of the connection, and is deleted when that goes down. -/
  channelDeleted : Bool
  /-- `state_` of the connection. -/
  state : StateE
  inLoopThread : Bool
  /-- `state_` when the functor runs that `TcpConnection::send` queues in another thread. -/
  stateInLoop : StateE
  deleted_down : channelDeleted = true → state = .kDisconnected
  deriving DecidableEq

namespace DoneCall

/-- `TcpConnection::send` and the first test of `sendInLoop`: whether the message goes on to the
socket or the output buffer. -/
def sends (done : DoneCall) : Bool :=
  if done.state = .kConnected then
    if done.inLoopThread then done.state ≠ .kDisconnected else done.stateInLoop ≠ .kDisconnected
  else false

/-- `RpcChannel::doneCallback`: the message sent and its bytes. -/
def doneCallback {Message : Type} (reflection : Reflection Message)
    (codec : ProtobufCodecLite RpcMessage) (done : DoneCall) (invocation : Invocation Message)
    (response : Message) : Except Abort (List (RpcMessage × List UInt8)) :=
  if done.channelDeleted then .error (.undefinedBehaviour .rpcChannelCpp 132)
  else do
    let reply ← RpcChannel.doneCallback reflection invocation response
    let bytes ← codec.send reply
    return if done.sends then [(reply, bytes)] else []

end DoneCall

namespace RpcServer

variable {Message : Type}

def registerService (server : RpcServer Message) (o : ServiceObject Message) :
    RpcServer Message :=
  ⟨Function.update server.services o.fullName (some o)⟩

def new (metaService : ServiceObject Message) : RpcServer Message :=
  registerService ⟨fun _ => none⟩ metaService

/-- The channel of a connection, as `onConnection` sets it up. -/
def channel (server : RpcServer Message) : RpcChannel Message :=
  .new (some fun name => (server.services name).map fun o => some o.service)

/-- What is sent for a message that reaches `onRpcMessage` of the channel, when the service gives
its response to `done` in the call `done`. -/
def onRpcMessage (reflection : Reflection Message) (codec : ProtobufCodecLite RpcMessage)
    (server : RpcServer Message) (done : DoneCall) (message : RpcMessage) :
    Except Abort (List (RpcMessage × List UInt8)) := do
  let (_, reaction) ← server.channel.onRpcMessage reflection message
  match reaction with
  | .invoked invocation =>
    match server.services invocation.service with
    | none => return []
    | some o =>
      match o.FindMethodByName invocation.method with
      | none => return []
      | some index => do
        let response ← o.CallMethod index invocation.request
        done.doneCallback reflection codec invocation response
  | _ => return []

end RpcServer

end Starry.Source
