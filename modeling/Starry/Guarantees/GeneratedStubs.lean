import Starry.Guarantees.RpcOverTcp
import Starry.Source.GeneratedService

/-!
# A stub call runs the member function of its name

The client calls functions of generated stub classes, the server has registered objects of
classes derived from generated ones, and both come from the same `.proto` files. A stub function
knows its method by its index in the descriptor, the request carries the names of the service and
of the method, the server finds an index by the name, and the generated `CallMethod` switches on
that index to the virtual function. The end of this chain is the function the stub stands for:
what the callback of a stub call receives is a response that this function may give to the
request of that call, both having gone through the bytes of `SerializeAsString`.
-/
namespace Starry.Guarantees.GeneratedStubs

open Starry.Foundation
open Starry.Source
open Starry.Source.ProtobufCodecLite (kMaxMessageLen)
open Starry.Source.RpcSystem
open Starry.Guarantees.MessageDelivery
open Starry.Guarantees.RpcAgreement
open Starry.Guarantees.RpcOverTcp
open Starry.Guarantees.RpcWire (rpcMessageCodec)
open Starry.Guarantees.SendBeforeShutdown (Established)

variable {Message : Type}

/-! ## Programs that use generated classes -/

inductive Act (Message : Type) where
  /-- `$classname$_Stub::$name$` -/
  | stub (call : StubCall Message)
  | register (k : Nat)
  | send (k : Nat) (sender : Sender)
  /-- The function that serves invocation `k` gives a response to `done`. -/
  | answer (k : Nat) (response : Message) (sender : Sender)
  | requests (a : MessagePipe.Act RpcMessage)
  | responses (a : MessagePipe.Act RpcMessage)

section Machine

variable (reflection : Reflection Message) (codec : ProtobufCodecLite RpcMessage)
  (services : Registered Message)

/-- `CallMethod` of what has just been invoked. -/
def enter : List (Invocation Message) → Except Abort Unit
  | [] => .ok ()
  | invocation :: _ => do
    let _ ← services.entered invocation
    return ()

def step (r : RemoteCalls Message) : Act Message → Except Abort (RemoteCalls Message)
  | .stub call =>
    match call.stub.methods[call.index]? with
    | none => .ok r
    | some method =>
      r.step reflection codec (.call call.stub.fullName method.name call.request
        (some method.prototypes.response) true)
  | .register k => r.step reflection codec (.register k)
  | .send k sender => r.step reflection codec (.send k sender)
  | .answer k response sender => r.step reflection codec (.done k response sender)
  | .requests a => do
    let after ← r.step reflection codec (.requests a)
    enter services (after.rpc.invocations.drop r.rpc.invocations.length)
    return after
  | .responses a => r.step reflection codec (.responses a)

/-- The stub class has a function of this index, and is of the `.proto` file of the server. -/
def Shared (call : StubCall Message) : Prop :=
  call.index < call.stub.methods.length ∧
  ∀ o ∈ services call.stub.fullName, o.descriptor.methods = call.stub.methods

def Enabled (r : RemoteCalls Message) : Act Message → Prop
  | .stub call => Shared services call
  | .register k => r.Enabled (.register k)
  | .send k sender => r.Enabled (.send k sender)
  | .answer k response sender => r.Enabled (.done k response sender) ∧
      ∀ invocation ∈ r.rpc.invocations[k]?, services.mayAnswer invocation response = true
  | .requests a => r.Enabled (.requests a)
  | .responses a => r.Enabled (.responses a)

def machine : Machine (RemoteCalls Message) (Act Message) Abort where
  enabled := Enabled services
  step := step reflection codec services

instance [DecidableEq Message] (call : StubCall Message) : Decidable (Shared services call) :=
  inferInstanceAs (Decidable (_ ∧ _))

instance [DecidableEq Message] (r : RemoteCalls Message) (a : Act Message) :
    Decidable ((machine reflection codec services).enabled r a) :=
  match a with
  | .stub call => inferInstanceAs (Decidable (Shared services call))
  | .register k => inferInstanceAs (Decidable (r.Enabled (.register k)))
  | .send k sender => inferInstanceAs (Decidable (r.Enabled (.send k sender)))
  | .answer k response sender =>
    inferInstanceAs (Decidable (r.Enabled (.done k response sender) ∧ _))
  | .requests a => inferInstanceAs (Decidable (r.Enabled (.requests a)))
  | .responses a => inferInstanceAs (Decidable (r.Enabled (.responses a)))

end Machine

/-- The stub calls of a run, in order. -/
def stubCalls (actions : List (Act Message)) : List (StubCall Message) :=
  actions.filterMap fun
    | .stub call => some call
    | _ => none

variable {reflection : Reflection Message} {codec : ProtobufCodecLite RpcMessage}
  {services : Registered Message} {r r' : RemoteCalls Message}

/-- Every step is one of the two channels over their connections. -/
theorem step_lower {a : Act Message} (allowed : Enabled services r a)
    (stepped : step reflection codec services r a = .ok r') :
    ∃ b, r.Enabled b ∧ r.step reflection codec b = .ok r' := by
  cases a with
  | stub call =>
    simp only [step, List.getElem?_eq_getElem allowed.1] at stepped
    exact ⟨.call call.stub.fullName _ call.request _ true, trivial, stepped⟩
  | register k => exact ⟨.register k, allowed, stepped⟩
  | send k sender => exact ⟨.send k sender, allowed, stepped⟩
  | answer k response sender => exact ⟨.done k response sender, allowed.1, stepped⟩
  | requests a =>
    obtain ⟨after, moved, stepped⟩ := bind_eq_ok stepped
    obtain ⟨_, _, stepped⟩ := bind_eq_ok stepped
    cases stepped
    exact ⟨.requests a, allowed, moved⟩
  | responses a => exact ⟨.responses a, allowed, stepped⟩

/-! ## What calls and invocations are for -/

/-- The call was made by this stub call. -/
def Makes (services : Registered Message) (made : StubCall Message) (call : Call Message) : Prop :=
  Shared services made ∧ ∃ method, made.stub.methods[made.index]? = some method ∧
    call.service = made.stub.fullName ∧ call.method = method.name ∧
    call.request = made.request ∧ call.response = some method.prototypes.response

/-- The method of the invocation exists, and its request was parsed as one of that method. -/
def Looked (reflection : Reflection Message) (services : Registered Message)
    (invocation : Invocation Message) : Prop :=
  ∃ o index method, services invocation.service = some o ∧
    o.descriptor.FindMethodByName invocation.method = some index ∧
    o.descriptor.methods[index]? = some method ∧
    invocation.request = reflection.parsed method.prototypes.request invocation.requestBytes

structure Served (reflection : Reflection Message) (services : Registered Message)
    (past : List (StubCall Message)) (s : RpcSystem Message) : Prop where
  count : s.calls.length = past.length
  calls : ∀ {k : Nat} {call : Call Message}, s.calls[k]? = some call →
    ∃ made, past[k]? = some made ∧ Makes services made call
  server : s.server.services = some services.serviceMap
  invocations : ∀ invocation ∈ s.invocations, Looked reflection services invocation
  produced : ∀ i response, (i, response) ∈ s.produced → ∃ invocation,
    s.invocations[i]? = some invocation ∧ services.mayAnswer invocation response = true

variable {past : List (StubCall Message)} {s t : RpcSystem Message}

theorem served_start (services : Registered Message) :
    Served reflection services [] (RpcSystem.start services.serviceMap) := by
  refine ⟨rfl, ?_, rfl, ?_, ?_⟩
  all_goals simp [RpcSystem.start]

/-- The links do not matter. -/
theorem Served.frame (served : Served reflection services past s) (calls : t.calls = s.calls)
    (server : t.server.services = s.server.services) (invocations : t.invocations = s.invocations)
    (produced : t.produced = s.produced) : Served reflection services past t := by
  refine ⟨?_, ?_, ?_, ?_, ?_⟩
  all_goals simp only [calls, server, invocations, produced]
  · exact served.count
  · exact served.calls
  · exact served.server
  · exact served.invocations
  · exact served.produced

theorem Served.stub (served : Served reflection services past s) {made : StubCall Message}
    {method : MethodDescriptor Message} (shared : Shared services made)
    (listed : made.stub.methods[made.index]? = some method) :
    Served reflection services (past ++ [made]) (s.allocate made.stub.fullName method.name
      made.request (some method.prototypes.response) true) := by
  refine ⟨?_, ?_, served.server, served.invocations, served.produced⟩
  · simp [allocate, served.count]
  · intro k call found
    rcases allocate_lookup found with old | ⟨rfl, rfl⟩
    · obtain ⟨before, member, makes⟩ := served.calls old
      have inside := (List.getElem?_eq_some_iff.mp member).1
      exact ⟨before, by rw [List.getElem?_append_left inside]; exact member, makes⟩
    · exact ⟨made, by simp [served.count], shared, method, listed, rfl, rfl, rfl, rfl⟩

theorem Makes.same {made : StubCall Message} {call call' : Call Message}
    (makes : Makes services made call) (same : SameCall call call') :
    Makes services made call' := by
  rw [same]
  exact makes

/-- A call of a known index moves on to its next stage. -/
theorem Served.setStage (served : Served reflection services past s) {k : Nat}
    {call : Call Message} (found : s.calls[k]? = some call) (stage : CallStage) :
    Served reflection services past (s.setStage k call stage) := by
  refine ⟨?_, ?_, served.server, served.invocations, served.produced⟩
  · simp [RpcSystem.setStage, served.count]
  · intro j after listed
    obtain ⟨before, old, same, _⟩ := setStage_before found listed
    obtain ⟨made, member, makes⟩ := served.calls old
    exact ⟨made, member, makes.same same⟩

theorem Served.done (served : Served reflection services past s) {k : Nat} {response : Message}
    (answers : ∀ invocation ∈ s.invocations[k]?, services.mayAnswer invocation response = true)
    (inside : k < s.invocations.length) (stepped : s.step reflection (.done k response) = .ok t) :
    Served reflection services past t := by
  have found := List.getElem?_eq_getElem inside
  simp only [RpcSystem.step, found] at stepped
  obtain ⟨message, _, stepped⟩ := bind_eq_ok stepped
  cases stepped
  refine ⟨served.count, served.calls, served.server, served.invocations, ?_⟩
  intro i produced member
  rcases List.mem_append.mp member with old | new
  · exact served.produced i produced old
  · obtain ⟨rfl, rfl⟩ := Prod.mk.inj (List.mem_singleton.mp new)
    exact ⟨_, found, answers _ (by rw [found]; rfl)⟩

/-- What a server invokes, it has looked up. -/
theorem callServiceMethod_looked {channel : RpcChannel Message} {message : RpcMessage}
    {invocation : Invocation Message} (known : channel.services = some services.serviceMap)
    (success : channel.callServiceMethod reflection message = .ok (.invoked invocation)) :
    Looked reflection services invocation := by
  unfold RpcChannel.callServiceMethod at success
  rw [known] at success
  dsimp only at success
  split at success
  · cases success
  · cases success
  next service registered =>
    obtain ⟨o, object, same⟩ := Option.map_eq_some_iff.mp registered
    cases same
    split at success
    · cases success
    next prototypes looked =>
      cases success
      obtain ⟨index, method, found, listed, rfl⟩ := ServiceDescriptor.service_eq_some looked
      exact ⟨o, index, method, object, found, listed, rfl⟩

/-- A REQUEST that invokes a service is dispatched by `callServiceMethod`. -/
theorem onRpcMessage_invoked {channel channel' : RpcChannel Message} {message : RpcMessage}
    {invocation : Invocation Message}
    (success : channel.onRpcMessage reflection message = .ok (channel', .invoked invocation)) :
    channel.callServiceMethod reflection message = .ok (.invoked invocation) := by
  unfold RpcChannel.onRpcMessage at success
  split at success
  · have completes := congrArg Prod.snd (Except.ok.inj success)
    rcases @onResponse_reaction _ reflection channel message with
      quiet | ⟨k, received, answers⟩
    · rw [quiet] at completes
      cases completes
    · rw [answers] at completes
      cases completes
  · obtain ⟨reaction, invoked, success⟩ := bind_eq_ok success
    cases success
    exact invoked
  · cases success
  · cases success

theorem Served.deliverToServer (served : Served reflection services past s) {message : RpcMessage}
    (stepped : { s with toServer := [message] }.step reflection .deliverToServer = .ok t) :
    Served reflection services past t := by
  obtain ⟨⟨server, reaction⟩, handled, stepped⟩ := bind_eq_ok stepped
  cases stepped
  have same : server.services = s.server.services := by
    rcases onRpcMessage_ok handled with ⟨_, outcome⟩ | ⟨_, rfl, _⟩
    · have first := congrArg Prod.fst outcome
      rw [onResponse_client] at first
      rw [show server = _ from first]
    · rfl
  refine ⟨served.count, served.calls, same.trans served.server, ?_, ?_⟩
  · intro invocation member
    rcases List.mem_append.mp member with old | new
    · exact served.invocations invocation old
    · cases reaction with
      | nothing => cases new
      | completed k received => cases new
      | invoked invoked =>
        cases List.mem_singleton.mp new
        exact callServiceMethod_looked served.server (onRpcMessage_invoked handled)
  · intro i response member
    obtain ⟨invocation, found, answers⟩ := served.produced i response member
    have inside := (List.getElem?_eq_some_iff.mp found).1
    exact ⟨invocation, by rw [List.getElem?_append_left inside]; exact found, answers⟩

theorem Served.deliverToClient (served : Served reflection services past s) {message : RpcMessage}
    (stepped : { s with toClient := [message] }.step reflection .deliverToClient = .ok t) :
    Served reflection services past t := by
  obtain ⟨⟨client, reaction⟩, _, stepped⟩ := bind_eq_ok stepped
  cases stepped
  exact served.frame rfl rfl rfl rfl

theorem Served.step {a : Act Message} (served : Served reflection services past r.rpc)
    (allowed : Enabled services r a) (stepped : step reflection codec services r a = .ok r') :
    Served reflection services (past ++ stubCalls [a]) r'.rpc := by
  have quiet {t : RpcSystem Message} (later : Served reflection services past t) :
      Served reflection services (past ++ []) t := by rwa [List.append_nil]
  cases a with
  | stub call =>
    have listed := List.getElem?_eq_getElem allowed.1
    simp only [GeneratedStubs.step, listed] at stepped
    obtain ⟨rpc, called, stepped⟩ := bind_eq_ok stepped
    cases called
    cases stepped
    exact served.stub allowed listed
  | register k =>
    obtain ⟨rpc, registered, stepped⟩ := bind_eq_ok stepped
    cases stepped
    obtain ⟨call, found, _⟩ := stageIs_iff.mp allowed
    simp only [RpcSystem.step, found] at registered
    cases registered
    exact quiet ((served.setStage found .registered).frame rfl rfl rfl rfl)
  | send k sender =>
    obtain ⟨rpc, sent, stepped⟩ := bind_eq_ok stepped
    obtain ⟨pipe, _, stepped⟩ := bind_eq_ok stepped
    cases stepped
    obtain ⟨call, found, _⟩ := stageIs_iff.mp allowed
    simp only [RpcSystem.step, found] at sent
    cases sent
    exact quiet ((served.setStage found .sent).frame rfl rfl rfl rfl)
  | answer k response sender =>
    obtain ⟨inside, answers⟩ := allowed
    obtain ⟨rpc, answered, stepped⟩ := bind_eq_ok stepped
    obtain ⟨pipe, _, stepped⟩ := bind_eq_ok stepped
    cases stepped
    exact quiet ((served.done answers inside answered).frame rfl rfl rfl rfl)
  | requests a =>
    obtain ⟨after, moved, stepped⟩ := bind_eq_ok stepped
    obtain ⟨_, _, stepped⟩ := bind_eq_ok stepped
    cases stepped
    obtain ⟨⟨pipe, delivered⟩, _, moved⟩ := bind_eq_ok moved
    cases delivered with
    | none =>
      cases moved
      exact quiet served
    | some message =>
      obtain ⟨rpc, handled, moved⟩ := bind_eq_ok moved
      cases moved
      exact quiet <| served.deliverToServer handled
  | responses a =>
    obtain ⟨⟨pipe, delivered⟩, _, moved⟩ := bind_eq_ok stepped
    cases delivered with
    | none =>
      cases moved
      exact quiet served
    | some message =>
      obtain ⟨rpc, handled, moved⟩ := bind_eq_ok moved
      cases moved
      exact quiet <| served.deliverToClient handled

/-! ## The result -/

/-- The callback of the `k`-th stub call received this: a response that the function of the
stub's name may give to the request of that call. -/
def Answered (reflection : Reflection Message) (services : Registered Message)
    (made : List (StubCall Message)) (k : Nat) (received : Message) : Prop :=
  ∃ call method o function response, made[k]? = some call ∧
    call.stub.methods[call.index]? = some method ∧
    services call.stub.fullName = some o ∧
    o.overrides.lookup method.name = some function ∧
    function (reflection.parsed method.prototypes.request
      (reflection.serializeAsString call.request)) response = true ∧
    received = reflection.parsed method.prototypes.response
      (reflection.serializeAsString response)

/-- A response that the server produced for a call came from the function of the stub's name. -/
theorem Served.answered (served : Served reflection services past s)
    (own : OwnResponses reflection s) {k : Nat} {received : Message}
    (completed : .completed k received ∈ s.events) :
    Answered reflection services past k received := by
  obtain ⟨call, prototype, found, expected, i, invocation, response, invoked, forCall, produced, rfl⟩ :=
    own.received k received completed
  obtain ⟨made, member, shared, method, listed, service, name, request, prototypes⟩ :=
    served.calls found
  obtain ⟨same, invoked', answers⟩ := served.produced i response produced
  rw [invoked] at invoked'
  cases invoked'
  obtain ⟨o, index, method', function, registered, looked, listed', overridden, given⟩ :=
    Registered.mayAnswer_iff.mp answers
  obtain ⟨o', index', method'', registered', looked', listed'', parsed⟩ :=
    served.invocations invocation (List.mem_of_getElem? invoked)
  rw [forCall.service, service] at registered registered'
  rw [registered] at registered'
  cases registered'
  rw [looked] at looked'
  cases looked'
  rw [listed'] at listed''
  cases listed''
  -- the index that the server finds by the name is the index in the stub
  rw [forCall.method, name] at looked
  have agreed := shared.2 o registered
  have position := ServiceDescriptor.FindMethodByName_name (agreed ▸ listed)
  rw [looked] at position
  cases position
  rw [agreed, listed] at listed'
  cases listed'
  rw [expected] at prototypes
  cases prototypes
  refine ⟨made, method, o, function, response, member, listed, registered, overridden, ?_, rfl⟩
  rw [parsed, forCall.request, request] at given
  exact given

/-- In every run of clients and a server built from generated classes, over two established
connections, the callback of a stub call receives what the member function of the stub's name
answers to the request of that call. -/
theorem stubs_call_members {client server : IoLoop} {actions : List (Act Message)}
    (inverts : Inverts codec.protobuf) (short : codec.tag.length + 259 ≤ kMaxMessageLen)
    (clientReady : Established client) (serverReady : Established server)
    (run : (machine reflection codec services).Run
      (.of services.serviceMap client server) actions r)
    (few : (stubCalls actions).length < 2 ^ 63) :
    ∀ k received, .completed k received ∈ r.rpc.events →
      Answered reflection services (stubCalls actions) k received := by
  have held : Served reflection services (stubCalls actions) r.rpc ∧
      ∃ toServer toClient, Inv reflection codec r toServer toClient := by
    refine @Machine.Run.history _ _ _ (machine reflection codec services) (fun past r =>
      Served reflection services (stubCalls past) r.rpc ∧
        ∃ toServer toClient, Inv reflection codec r toServer toClient) _ _ [] _ ?_
      ⟨served_start services, [], [], inv_start clientReady serverReady⟩ run
    rintro past r a r' ⟨served, toServer, toClient, inv⟩ allowed stepped
    obtain ⟨b, enabled, lowered⟩ := step_lower allowed stepped
    refine ⟨?_, inv.step inverts short enabled lowered⟩
    have later := served.step allowed stepped
    unfold stubCalls at later ⊢
    rwa [← List.filterMap_append] at later
  obtain ⟨served, toServer, toClient, inv⟩ := held
  obtain ⟨_, honest⟩ := inv.tracked (by rw [← served.count] at few; exact few)
  obtain ⟨received, single⟩ := own_of_honest honest
  exact fun k value completed => served.answered ⟨received, single⟩ completed

/-! ## Echo -/

/-- `echo.EchoService`, over messages that are their bytes. -/
def echoService : ServiceDescriptor (List UInt8) where
  fullName := "echo.EchoService"
  methods := [⟨"Echo", ⟨[], []⟩⟩, ⟨"EchoWithPrefix", ⟨[], []⟩⟩]
  distinct := by decide

/-- The echo repeats the request, with any byte for the time behind it. -/
def echoServiceImpl : ServiceImpl (List UInt8) where
  descriptor := echoService
  overrides := [
    ("EchoWithPrefix", fun request response => response.dropLast = 0x50 :: request),
    ("Echo", fun request response => response.dropLast = request)]

def registered : Registered (List UInt8) := fun name =>
  if name = "echo.EchoService" then some echoServiceImpl else none

/-- Both functions are called from another thread, the second request is sent first, and the
server answers in the order in which they come. -/
def bothFunctions : List (Act (List UInt8)) :=
  [.stub ⟨echoService, 0, [1]⟩, .stub ⟨echoService, 1, [2]⟩, .register 0, .register 1,
    .send 1 .otherThread, .send 0 .otherThread, .requests (.connection (.queueSend 0)),
    .requests (.connection (.queueSend 0)),
    .requests (.connection (.runFunctor ⟨.bytes [], .wrote 53, none⟩)),
    .requests (.connection (.runFunctor ⟨.bytes [], .wrote 43, none⟩)),
    .requests (.handleRead 70), .requests .turn, .requests .turn, .requests (.handleRead 26),
    .requests .turn, .requests .turn, .answer 0 [0x50, 2, 8] (.loopThread (.wrote 21)),
    .answer 1 [1, 9] (.loopThread (.wrote 20)), .responses (.handleRead 41), .responses .turn,
    .responses .turn, .responses .turn]

/-- Both functions of the service are called, and answered in the other order. -/
theorem stubs_call_members_both : ∃ r,
    (machine rawReflection rpcMessageCodec registered).Run
      (.of registered.serviceMap OutputIntegrity.smallConnection OutputIntegrity.smallConnection)
      bothFunctions r ∧
    r.rpc.events = [.registered 0, .registered 1, .response 2, .completed 1 [0x50, 2, 8],
      .response 1, .completed 0 [1, 9]] ∧
    Answered rawReflection registered (stubCalls bothFunctions) 0 [1, 9] ∧
    Answered rawReflection registered (stubCalls bothFunctions) 1 [0x50, 2, 8] := by
  obtain ⟨r, run, passes⟩ := Machine.exists_run_of_exec
    (M := machine rawReflection rpcMessageCodec registered)
    (.of registered.serviceMap OutputIntegrity.smallConnection OutputIntegrity.smallConnection)
    bothFunctions
    (fun r => decide (r.rpc.events = [.registered 0, .registered 1, .response 2,
      .completed 1 [0x50, 2, 8], .response 1, .completed 0 [1, 9]]))
    (by decide +kernel)
  have events := of_decide_eq_true passes
  have answered := stubs_call_members rpcMessage_inverts (by decide)
    SendBeforeShutdown.smallConnection_established SendBeforeShutdown.smallConnection_established
    run (by decide)
  exact ⟨r, run, events, answered 0 _ (by simp [events]), answered 1 _ (by simp [events])⟩

end Starry.Guarantees.GeneratedStubs
