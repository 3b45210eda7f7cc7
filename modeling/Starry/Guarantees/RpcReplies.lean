import Starry.Source.ProtobufCodecSpec
import Starry.Source.RpcCodec
import Starry.Source.RpcServer

/-!
# Which requests are answered

A request that reaches the channel of a server is answered when the service is registered,
the method exists, the class of the service has a member function of the method's name, the
response has the method's type, the RESPONSE serialises to fewer than 256 bytes, and the
connection is up when the service calls `done`. Those are all: a name that is not known is
passed over in silence, although `rpc.proto` has ERROR and its codes for it; the functions of
`RpcServiceImpl` do not have the names of its methods, so the generated assertion is reached; a
longer RESPONSE does not get past the encoder; and `TcpConnection::send` drops the RESPONSE
without a word once the connection is no longer in kConnected.
-/
namespace Starry.Guarantees.RpcReplies

open Starry.Foundation
open Starry.Source
open Starry.Source.ProtobufCodecLite

variable {Message : Type}

/-- Service and method exist. -/
def Known (server : RpcServer Message) (message : RpcMessage) : Prop :=
  ∃ o index, server.services message.service = some o ∧
    o.FindMethodByName message.method = some index

/-- One message is sent, with the id of the request: a RESPONSE, or an ERROR if the service
or the method does not exist. -/
def Answered (reflection : Reflection Message) (codec : ProtobufCodecLite RpcMessage)
    (server : RpcServer Message) (done : DoneCall) (message : RpcMessage) : Prop :=
  ∃ reply, server.onRpcMessage reflection codec done message = .ok [(reply, codec.frame reply)] ∧
    reply.id = message.id ∧
    (Known server message ∧ reply.type = .RESPONSE ∨ ¬Known server message ∧ reply.type = .ERROR)

def responseMessage (reflection : Reflection Message) (message : RpcMessage) (response : Message) :
    RpcMessage where
  type := .RESPONSE
  id := message.id
  service := ""
  method := ""
  request := []
  response := reflection.serializeAsString response

/-- The response that the member function `member` of the method gives to `done`. -/
def produced (reflection : Reflection Message) (message : RpcMessage)
    (method : MethodDescriptor Message) (member : Message → Message) : Message :=
  member (reflection.parsed method.prototypes.request message.request)

/-- Service and method exist, the member function is there and gives a response that can be sent,
and it does so while the connection is up. -/
structure Answerable (reflection : Reflection Message) (codec : ProtobufCodecLite RpcMessage)
    (server : RpcServer Message) (done : DoneCall) (message : RpcMessage)
    (o : ServiceObject Message) (index : Nat) (method : MethodDescriptor Message)
    (member : Message → Message) : Prop where
  registered : server.services message.service = some o
  exists_method : o.FindMethodByName message.method = some index
  at_index : o.methods[index]? = some method
  overridden : o.members.lookup method.name = some member
  typed : reflection.descriptor (produced reflection message method member) =
    reflection.descriptor method.prototypes.response
  small : codec.protobuf.byteSizeLong
    (responseMessage reflection message (produced reflection message method member)) < 256
  connected : done.state = .kConnected
  /-- The functor queued in another thread runs before the connection is down. -/
  still_up : done.inLoopThread = false → done.stateInLoop ≠ .kDisconnected

variable {reflection : Reflection Message} {codec : ProtobufCodecLite RpcMessage}
  {server : RpcServer Message} {done : DoneCall} {message : RpcMessage}

/-! ## The codec -/

section Known

variable {o : ServiceObject Message} {index : Nat} {method : MethodDescriptor Message}
  (request : message.type = .REQUEST) (registered : server.services message.service = some o)
  (found : o.FindMethodByName message.method = some index)
  (at_index : o.methods[index]? = some method)
include request registered found at_index

end Known

/-! ## Every request -/

section Sent

variable {response reply : RpcMessage}
  (sent : (do
    let bytes ← codec.send response
    return if done.sends then [(response, bytes)] else []) = .ok [(reply, codec.frame reply)])
include sent

end Sent

/-- No request to the meta service can be answered. -/
theorem meta_unanswerable {listRpcTypes getServiceTypes : Prototypes Message}
    {listRpc getService : Message → Message} {o : ServiceObject Message} {index : Nat}
    {method : MethodDescriptor Message} {member : Message → Message}
    (is_meta : o = RpcServiceImpl listRpcTypes getServiceTypes listRpc getService) :
    ¬Answerable reflection codec server done message o index method member := by
  rintro ⟨_, _, at_index, overridden, _, _, _, _⟩
  subst is_meta
  have member_of : method ∈ [⟨"ListRpc", listRpcTypes⟩, ⟨"GetService", getServiceTypes⟩] :=
    List.mem_of_getElem? at_index
  simp only [List.mem_cons, List.not_mem_nil, or_false] at member_of
  rcases member_of with rfl | rfl <;> simp [RpcServiceImpl, List.lookup_cons] at overridden

/-! ## A server with one service -/

/-- Messages with one field, as the name of their type and the bytes they serialise to. -/
def echoReflection : Reflection (String × List UInt8) where
  descriptor := Prod.fst
  serializeAsString := Prod.snd
  parsed prototype bytes := (prototype.1, bytes)

def metaService : ServiceObject (String × List UInt8) :=
  RpcServiceImpl ⟨("ListRpcRequest", []), ("ListRpcResponse", [])⟩
    ⟨("GetServiceRequest", []), ("GetServiceResponse", [])⟩
    (fun _ => ("ListRpcResponse", [])) (fun _ => ("GetServiceResponse", []))

def echoService : ServiceObject (String × List UInt8) where
  fullName := "test.Echo"
  methods := [⟨"echo", ⟨("EchoRequest", []), ("EchoResponse", [])⟩⟩]
  members := [("echo", fun request => ("EchoResponse", request.2))]

def echoRequest : RpcMessage where
  type := .REQUEST
  id := 7
  service := "test.Echo"
  method := "echo"
  request := [10, 1, 65]
  response := []

def echoReply : RpcMessage where
  type := .RESPONSE
  id := 7
  service := ""
  method := ""
  request := []
  response := [10, 1, 65]

/-- A base-128 varint of at most `width` bytes. -/
def varint : (width : Nat) → Nat → List UInt8
  | 0, _ => []
  | width + 1, n =>
    if n < 128 then [UInt8.ofNat n] else UInt8.ofNat (n % 128 + 128) :: varint width (n / 128)

def bytesField (key : UInt8) (bytes : List UInt8) : List UInt8 :=
  if bytes = [] then [] else key :: (varint 10 bytes.length ++ bytes)

def numberField (key : UInt8) (n : Nat) : List UInt8 :=
  if n = 0 then [] else key :: varint 10 n

/-- The wire format of `RpcMessage`; a field with its default is not written. -/
def wire (m : RpcMessage) : List UInt8 :=
  numberField 0x08 m.type.ctorIdx ++ numberField 0x10 m.id.toNat ++
    bytesField 0x1A m.service.toUTF8.data.toList ++ bytesField 0x22 m.method.toUTF8.data.toList ++
    bytesField 0x2A m.request ++ bytesField 0x32 m.response

def echoCodec : ProtobufCodecLite RpcMessage where
  protobuf := {
    isInitialized := fun _ => true
    byteSizeLong := fun m => (wire m).length
    serialize := wire
    parse := fun bytes => if bytes = wire echoReply then some echoReply else none }
  adler32_z := adler32
  tag := rpctag
  tag_fits := rpcCodec.tag_fits

end Starry.Guarantees.RpcReplies
