import Starry.Guarantees.MessageDelivery
import Starry.Guarantees.RpcAgreement
import Starry.Guarantees.RpcWire

/-!
# Calls and responses agree over TCP

The client and the server of `Starry.Source.RpcChannel`, joined by two connections' worth of
bytes instead of links that carry whole messages: what a channel sends goes through
`RpcCodec::send`, `TcpConnection`, the kernel and the decoder of the other side, as in
`Starry.Guarantees.MessageDelivery`. Calls and answers come from any threads; a request is
served, and a response handed to its call, in the iteration of `onMessage` that takes it off.

The connection reorders what different threads send, so the links are no queues any more: what
is on its way is a bag of messages, and each message leaves it at most once. That is enough for
the agreement of `Starry.Guarantees.RpcAgreement`, with nothing assumed about who sends a
RESPONSE, since no bytes but those of the server reach the client.
-/
namespace Starry.Guarantees.RpcOverTcp

open Starry.Foundation
open Starry.Source
open Starry.Source.ProtobufCodecLite
open Starry.Source.RpcSystem
open Starry.Guarantees.FrameChunking (messagesOf)
open Starry.Guarantees.MessageDelivery
open Starry.Guarantees.RpcAgreement
open Starry.Guarantees.RpcWire (parseWire_wire rpcMessageCodec)
open Starry.Guarantees.SendBeforeShutdown (Established)

structure RemoteCalls (Message : Type) where
  /-- The two channels. Its links hold only what a step has in its hand. -/
  rpc : RpcSystem Message
  /-- The output of the client's connection, and the input of the server's. -/
  requests : MessagePipe RpcMessage
  responses : MessagePipe RpcMessage

/-- The thread that calls `send`, with the answer of the kernel if it is the loop thread. -/
inductive Sender where
  | loopThread (result : WriteResult)
  | otherThread

def Sender.act (message : RpcMessage) : Sender → MessagePipe.Act RpcMessage
  | .loopThread result => .sendInLoopThread message result
  | .otherThread => .send message

/-- The step moves bytes that are already on their way. -/
def isTransport : MessagePipe.Act RpcMessage → Bool
  | .connection _ | .handleRead _ | .turn => true
  | .sendInLoopThread _ _ | .send _ => false

namespace RemoteCalls

variable {Message : Type} (reflection : Reflection Message) (codec : ProtobufCodecLite RpcMessage)

inductive Act (Message : Type) where
  | call (service method : String) (request : Message) (response : Option Message) (done : Bool)
  | register (k : Nat)
  | send (k : Nat) (sender : Sender)
  | done (k : Nat) (response : Message) (sender : Sender)
  | requests (a : MessagePipe.Act RpcMessage)
  | responses (a : MessagePipe.Act RpcMessage)

/-- `codec_.send` of what the channel has in its hand. -/
def give (sender : Sender) (pipe : MessagePipe RpcMessage) :
    List RpcMessage → Except Abort (MessagePipe RpcMessage)
  | [] => .ok pipe
  | message :: _ => do
    let (after, _) ← pipe.advance codec (sender.act message)
    return after

def step (s : RemoteCalls Message) : Act Message → Except Abort (RemoteCalls Message)
  | .call service method request response done => do
    let rpc ← s.rpc.step reflection (.call service method request response done)
    return { s with rpc := rpc }
  | .register k => do
    let rpc ← s.rpc.step reflection (.register k)
    return { s with rpc := rpc }
  | .send k sender => do
    let rpc ← s.rpc.step reflection (.send k)
    let requests ← give codec sender s.requests rpc.toServer
    return { s with rpc := { rpc with toServer := [] }, requests := requests }
  | .done k response sender => do
    let rpc ← s.rpc.step reflection (.done k response)
    let responses ← give codec sender s.responses rpc.toClient
    return { s with rpc := { rpc with toClient := [] }, responses := responses }
  | .requests a => do
    let (requests, delivered) ← s.requests.advance codec a
    match delivered with
    | none => return { s with requests := requests }
    | some message => do
      let rpc ← { s.rpc with toServer := [message] }.step reflection .deliverToServer
      return { s with rpc := rpc, requests := requests }
  | .responses a => do
    let (responses, delivered) ← s.responses.advance codec a
    match delivered with
    | none => return { s with responses := responses }
    | some message => do
      let rpc ← { s.rpc with toClient := [message] }.step reflection .deliverToClient
      return { s with rpc := rpc, responses := responses }

def Enabled (s : RemoteCalls Message) : Act Message → Prop
  | .call _ _ _ _ _ => True
  | .register k => s.rpc.Enabled (.register k)
  | .send k _ => s.rpc.Enabled (.send k)
  | .done k response _ => s.rpc.Enabled (.done k response)
  | .requests a => isTransport a = true ∧ s.requests.Enabled a
  | .responses a => isTransport a = true ∧ s.responses.Enabled a

def machine : Machine (RemoteCalls Message) (Act Message) Abort where
  enabled := Enabled
  step := step reflection codec

instance (s : RemoteCalls Message) (a : Act Message) : Decidable (s.Enabled a) :=
  match a with
  | .call _ _ _ _ _ => isTrue trivial
  | .register k => inferInstanceAs (Decidable (s.rpc.Enabled (.register k)))
  | .send k _ => inferInstanceAs (Decidable (s.rpc.Enabled (.send k)))
  | .done k response _ => inferInstanceAs (Decidable (s.rpc.Enabled (.done k response)))
  | .requests _ | .responses _ => inferInstanceAs (Decidable (_ ∧ _))

instance (s : RemoteCalls Message) (a : Act Message) :
    Decidable ((machine reflection codec).enabled s a) :=
  inferInstanceAs (Decidable (s.Enabled a))

/-- A client and a server whose connections have just been established. -/
def of (services : ServiceMap Message) (client server : IoLoop) : RemoteCalls Message where
  rpc := .start services
  requests := .of client
  responses := .of server

end RemoteCalls

/-! ## What is on its way -/

variable {codec : ProtobufCodecLite RpcMessage} {p p' : MessagePipe RpcMessage}
  {bag : List RpcMessage}

/-- The messages of the bag are those that have passed and not arrived. -/
def Linked (codec : ProtobufCodecLite RpcMessage) (p : MessagePipe RpcMessage)
    (bag : List RpcMessage) : Prop :=
  ∃ line arrived, Flow codec p line arrived ∧ p.passed.Perm (arrived ++ bag)

theorem linked_start {io : IoLoop} (established : Established io) : Linked codec (.of io) [] :=
  ⟨_, _, flow_start established, .refl _⟩

section Steps

variable (inverts : Inverts codec.protobuf) (short : codec.tag.length + 259 ≤ kMaxMessageLen)
include inverts short

/-- What is sent joins the bag, unless the connection was not connected. -/
theorem Linked.give {sender : Sender} {messages : List RpcMessage} (linked : Linked codec p bag)
    (given : RemoteCalls.give codec sender p messages = .ok p') :
    ∃ bag', Linked codec p' bag' ∧ bag'.Subperm (bag ++ messages) := by
  cases messages with
  | nil =>
    cases given
    exact ⟨bag, linked, by simp [List.Subperm.refl]⟩
  | cons message others =>
    obtain ⟨line, arrived, flow, passed⟩ := linked
    obtain ⟨⟨after, delivered⟩, advanced, returned⟩ := bind_eq_ok given
    cases returned
    have enabled : p.Enabled (sender.act message) := by cases sender <;> exact trivial
    obtain ⟨line', later⟩ := flow.advance inverts short enabled advanced
    obtain ⟨rfl, noted⟩ : delivered = none ∧ p'.passed = p.note message := by
      cases sender with
      | loopThread result | otherThread =>
        obtain ⟨bytes, _, advanced⟩ := bind_eq_ok advanced
        obtain ⟨connection, _, advanced⟩ := bind_eq_ok advanced
        cases advanced
        exact ⟨rfl, rfl⟩
    rw [Option.toList_none, List.append_nil] at later
    unfold MessagePipe.note at noted
    split at noted
    · refine ⟨bag ++ [message], ⟨line', arrived, later, ?_⟩, ?_⟩
      · rw [noted, ← List.append_assoc]
        exact passed.append_right _
      · simpa using (List.subperm_append_left _).mpr
          (List.singleton_subperm_iff.mpr (List.mem_cons_self (a := message) (l := others)))
    · refine ⟨bag, ⟨line', arrived, later, ?_⟩, (List.sublist_append_left _ _).subperm⟩
      rw [noted]
      exact passed

/-- What arrives was in the bag. -/
theorem Linked.transport {a : MessagePipe.Act RpcMessage} {delivered : Option RpcMessage}
    (linked : Linked codec p bag) (moves : isTransport a = true) (enabled : p.Enabled a)
    (advanced : p.advance codec a = .ok (p', delivered)) :
    ∃ bag', Linked codec p' bag' ∧ bag.Perm (delivered.toList ++ bag') := by
  obtain ⟨line, arrived, flow, passed⟩ := linked
  obtain ⟨line', later⟩ := flow.advance inverts short enabled advanced
  have same : p'.passed = p.passed := by
    cases a with
    | sendInLoopThread _ _ | send _ => cases moves
    | connection a =>
      obtain ⟨connection, _, advanced⟩ := bind_eq_ok advanced
      cases advanced
      rfl
    | handleRead count =>
      obtain ⟨read, handled, advanced⟩ := bind_eq_ok advanced
      obtain ⟨out, _, handled⟩ := bind_eq_ok handled
      cases handled
      cases advanced
      rfl
    | turn =>
      obtain ⟨turn, _, advanced⟩ := bind_eq_ok advanced
      cases turn with
      | stop | refuse code | deliver message rest =>
        cases advanced
        rfl
  have among : (arrived ++ delivered.toList).Subperm (arrived ++ bag) := by
    refine (later.passed.trans ?_).subperm_left.mp
      (later.ordered.sublist.trans (List.sublist_append_left _ _)).subperm
    rw [same]
    exact passed
  obtain ⟨arriving, same_messages, inside⟩ := (List.subperm_append_left _).mp among
  obtain ⟨bag', left⟩ := inside.exists_perm_append
  have split : bag.Perm (delivered.toList ++ bag') := left.trans (same_messages.append_right _)
  refine ⟨bag', ⟨line', _, later, ?_⟩, split⟩
  rw [same, List.append_assoc]
  exact passed.trans (split.append_left _)

end Steps

/-! ## The channels over other links -/

variable {Message : Type} {reflection : Reflection Message} {s t : RpcSystem Message}
  {toServer toClient : List RpcMessage}

/-- The same channels, with these messages on their way. -/
def relink (s : RpcSystem Message) (toServer toClient : List RpcMessage) : RpcSystem Message :=
  { s with toServer := toServer, toClient := toClient }

/-- A step that delivers nothing does the same over other links, and adds what it sends. -/
theorem step_relink {a : RpcSystem.Act Message} (idle : s.toServer = [] ∧ s.toClient = [])
    (keeps : a ≠ .deliverToServer ∧ a ≠ .deliverToClient) (stepped : s.step reflection a = .ok t)
    (toServer toClient : List RpcMessage) :
    (relink s toServer toClient).step reflection a =
      .ok (relink t (toServer ++ t.toServer) (toClient ++ t.toClient)) := by
  obtain ⟨noRequest, noResponse⟩ := idle
  cases a with
  | call service method request response done =>
    cases stepped
    simp [RpcSystem.step, relink, allocate, noRequest, noResponse]
  | register k =>
    simp only [RpcSystem.step, relink] at stepped ⊢
    split at stepped
    next =>
      cases stepped
      simp [noRequest, noResponse]
    next =>
      cases stepped
      simp [RpcSystem.register, setStage, noRequest, noResponse]
  | send k =>
    simp only [RpcSystem.step, relink] at stepped ⊢
    split at stepped
    next =>
      cases stepped
      simp [noRequest, noResponse]
    next =>
      cases stepped
      simp [RpcSystem.send, setStage, noRequest, noResponse]
  | done k response =>
    simp only [RpcSystem.step, relink] at stepped ⊢
    split at stepped
    next =>
      cases stepped
      simp [noRequest, noResponse]
    next =>
      obtain ⟨message, built, stepped⟩ := bind_eq_ok stepped
      cases stepped
      simp [noRequest, noResponse, built]
  | forge message =>
    cases stepped
    simp [RpcSystem.step, relink, noRequest, noResponse]
  | deliverToServer => exact absurd rfl keeps.1
  | deliverToClient => exact absurd rfl keeps.2

/-- A request is served alike, whatever else is on the links. -/
theorem deliverToServer_relink {message : RpcMessage} (idle : s.toClient = [])
    (stepped : { s with toServer := [message] }.step reflection .deliverToServer = .ok t)
    (rest toClient : List RpcMessage) : (t.toServer = [] ∧ t.toClient = []) ∧
      (relink s (message :: rest) toClient).step reflection .deliverToServer =
        .ok (relink t rest toClient) := by
  obtain ⟨⟨server, reaction⟩, handled, stepped⟩ := bind_eq_ok stepped
  cases stepped
  refine ⟨⟨rfl, idle⟩, ?_⟩
  simp only [RpcSystem.step, relink]
  rw [handled]
  rfl

theorem deliverToClient_relink {message : RpcMessage} (idle : s.toServer = [])
    (stepped : { s with toClient := [message] }.step reflection .deliverToClient = .ok t)
    (toServer rest : List RpcMessage) : (t.toServer = [] ∧ t.toClient = []) ∧
      (relink s toServer (message :: rest)).step reflection .deliverToClient =
        .ok (relink t toServer rest) := by
  obtain ⟨⟨client, reaction⟩, handled, stepped⟩ := bind_eq_ok stepped
  cases stepped
  refine ⟨⟨idle, rfl⟩, ?_⟩
  simp only [RpcSystem.step, relink]
  rw [handled]
  rfl

/-- Messages may change their order on the way, and be lost. -/
theorem honest_relink {fewer fewer' : List RpcMessage}
    (honest : Honest reflection (relink s toServer toClient)) (requests : fewer.Subperm toServer)
    (responses : fewer'.Subperm toClient) : Honest reflection (relink s fewer fewer') := by
  refine ⟨fun message member => honest.requests message (requests.subset member), honest.invoked,
    ?_, fun message member => honest.responses message (responses.subset member), honest.received⟩
  obtain ⟨left, reordered, inside⟩ := requests
  have single := honest.single.sublist ((inside.map RpcMessage.id).append_right _)
  exact ((reordered.map _).append_right _).nodup_iff.mp single

/-- The state of two channels with these messages on their way. -/
def Tracked (reflection : Reflection Message) (s : RpcSystem Message) : Prop :=
  s.calls.length < 2 ^ 63 → Ledger s ∧ Honest reflection s

theorem Tracked.relink {fewer fewer' : List RpcMessage}
    (tracked : Tracked reflection (relink s toServer toClient))
    (requests : fewer.Subperm toServer) (responses : fewer'.Subperm toClient) :
    Tracked reflection (RpcOverTcp.relink s fewer fewer') := by
  intro few
  obtain ⟨ledger, honest⟩ := tracked few
  exact ⟨ledger.frame rfl rfl rfl, honest_relink honest requests responses⟩

theorem Tracked.step {a : RpcSystem.Act Message} (tracked : Tracked reflection s)
    (genuine : ∀ message, a ≠ .forge message) (enabled : s.Enabled a)
    (stepped : s.step reflection a = .ok t) : Tracked reflection t := by
  have effect := step_effect enabled stepped
  intro bounded
  have few : s.calls.length < 2 ^ 63 := Nat.lt_of_le_of_lt (calls_mono effect) bounded
  obtain ⟨ledger, honest⟩ := tracked few
  exact ⟨ledger.effect few effect, honest.effect ledger few genuine effect⟩

/-- The links that a step leaves alone. -/
theorem step_links {a : RpcSystem.Act Message} (stepped : s.step reflection a = .ok t) :
    match a with
    | .call _ _ _ _ _ | .register _ => t.toServer = s.toServer ∧ t.toClient = s.toClient
    | .send _ => t.toClient = s.toClient
    | .done _ _ => t.toServer = s.toServer
    | .deliverToServer | .deliverToClient | .forge _ => True := by
  cases a with
  | call service method request response done =>
    cases stepped
    exact ⟨rfl, rfl⟩
  | register k =>
    simp only [RpcSystem.step] at stepped
    split at stepped
    all_goals
      cases stepped
      exact ⟨rfl, rfl⟩
  | send k =>
    simp only [RpcSystem.step] at stepped
    split at stepped
    all_goals
      cases stepped
      rfl
  | done k response =>
    simp only [RpcSystem.step] at stepped
    split at stepped
    next =>
      cases stepped
      rfl
    next =>
      obtain ⟨message, _, stepped⟩ := bind_eq_ok stepped
      cases stepped
      rfl
  | deliverToServer | deliverToClient | forge _ => trivial

/-! ## The invariant -/

structure Inv (reflection : Reflection Message) (codec : ProtobufCodecLite RpcMessage)
    (s : RemoteCalls Message) (toServer toClient : List RpcMessage) : Prop where
  idle : s.rpc.toServer = [] ∧ s.rpc.toClient = []
  requests : Linked codec s.requests toServer
  responses : Linked codec s.responses toClient
  tracked : Tracked reflection (relink s.rpc toServer toClient)

variable {r r' : RemoteCalls Message}

theorem inv_start {services : ServiceMap Message} {client server : IoLoop}
    (clientReady : Established client) (serverReady : Established server) :
    Inv reflection codec (.of services client server) [] [] :=
  ⟨⟨rfl, rfl⟩, linked_start clientReady, linked_start serverReady,
    fun _ => ⟨ledger_start services, honest_start services⟩⟩

/-- A step of a channel that delivers nothing. -/
theorem Inv.channel {a : RpcSystem.Act Message} (inv : Inv reflection codec r toServer toClient)
    (keeps : a ≠ .deliverToServer ∧ a ≠ .deliverToClient) (genuine : ∀ message, a ≠ .forge message)
    (enabled : (relink r.rpc toServer toClient).Enabled a)
    (stepped : r.rpc.step reflection a = .ok t) :
    Tracked reflection (relink t (toServer ++ t.toServer) (toClient ++ t.toClient)) :=
  inv.tracked.step genuine enabled (step_relink inv.idle keeps stepped toServer toClient)

section Steps

variable (inverts : Inverts codec.protobuf) (short : codec.tag.length + 259 ≤ kMaxMessageLen)
include inverts short

theorem Inv.requestsStep {a : MessagePipe.Act RpcMessage}
    (inv : Inv reflection codec r toServer toClient) (moves : isTransport a = true)
    (enabled : r.requests.Enabled a) (stepped : r.step reflection codec (.requests a) = .ok r') :
    ∃ toServer', Inv reflection codec r' toServer' toClient := by
  obtain ⟨idle, requests, responses, tracked⟩ := inv
  obtain ⟨⟨pipe, delivered⟩, advanced, stepped⟩ := bind_eq_ok stepped
  obtain ⟨bag, linked, split⟩ := requests.transport inverts short moves enabled advanced
  refine ⟨bag, ?_⟩
  cases delivered with
  | none =>
    cases stepped
    exact ⟨idle, linked, responses, tracked.relink split.symm.subperm (.refl _)⟩
  | some message =>
    obtain ⟨rpc, handled, stepped⟩ := bind_eq_ok stepped
    cases stepped
    obtain ⟨idle', relinked⟩ := deliverToServer_relink idle.2 handled bag toClient
    have front : Tracked reflection (relink r.rpc (message :: bag) toClient) :=
      tracked.relink split.symm.subperm (.refl _)
    exact ⟨idle', linked, responses, front.step (a := .deliverToServer) (by simp) rfl relinked⟩

theorem Inv.responsesStep {a : MessagePipe.Act RpcMessage}
    (inv : Inv reflection codec r toServer toClient) (moves : isTransport a = true)
    (enabled : r.responses.Enabled a) (stepped : r.step reflection codec (.responses a) = .ok r') :
    ∃ toClient', Inv reflection codec r' toServer toClient' := by
  obtain ⟨idle, requests, responses, tracked⟩ := inv
  obtain ⟨⟨pipe, delivered⟩, advanced, stepped⟩ := bind_eq_ok stepped
  obtain ⟨bag, linked, split⟩ := responses.transport inverts short moves enabled advanced
  refine ⟨bag, ?_⟩
  cases delivered with
  | none =>
    cases stepped
    exact ⟨idle, requests, linked, tracked.relink (.refl _) split.symm.subperm⟩
  | some message =>
    obtain ⟨rpc, handled, stepped⟩ := bind_eq_ok stepped
    cases stepped
    obtain ⟨idle', relinked⟩ := deliverToClient_relink idle.1 handled toServer bag
    have front : Tracked reflection (relink r.rpc toServer (message :: bag)) :=
      tracked.relink (.refl _) split.symm.subperm
    exact ⟨idle', requests, linked, front.step (a := .deliverToClient) (by simp) rfl relinked⟩

/-- Every step of the channels and the connections under them. -/
theorem Inv.step {a : RemoteCalls.Act Message} (inv : Inv reflection codec r toServer toClient)
    (enabled : r.Enabled a) (stepped : r.step reflection codec a = .ok r') :
    ∃ toServer' toClient', Inv reflection codec r' toServer' toClient' := by
  cases a with
  | call service method request response done =>
    obtain ⟨rpc, called, stepped⟩ := bind_eq_ok stepped
    cases stepped
    obtain ⟨noRequest, noResponse⟩ := step_links called
    have tracked := inv.channel (a := .call service method request response done) ⟨by simp, by simp⟩
      (by simp) enabled called
    rw [noRequest, noResponse, inv.idle.1, inv.idle.2, List.append_nil, List.append_nil] at tracked
    exact ⟨_, _, ⟨noRequest.trans inv.idle.1, noResponse.trans inv.idle.2⟩, inv.requests,
      inv.responses, tracked⟩
  | register k =>
    obtain ⟨rpc, called, stepped⟩ := bind_eq_ok stepped
    cases stepped
    obtain ⟨noRequest, noResponse⟩ := step_links called
    have tracked := inv.channel (a := .register k) ⟨by simp, by simp⟩ (by simp) enabled called
    rw [noRequest, noResponse, inv.idle.1, inv.idle.2, List.append_nil, List.append_nil] at tracked
    exact ⟨_, _, ⟨noRequest.trans inv.idle.1, noResponse.trans inv.idle.2⟩, inv.requests,
      inv.responses, tracked⟩
  | send k sender =>
    obtain ⟨rpc, sent, stepped⟩ := bind_eq_ok stepped
    obtain ⟨pipe, given, stepped⟩ := bind_eq_ok stepped
    cases stepped
    have noResponse : rpc.toClient = [] := (step_links sent).trans inv.idle.2
    have tracked := inv.channel (a := .send k) ⟨by simp, by simp⟩ (by simp) enabled sent
    obtain ⟨bag, linked, fewer⟩ := inv.requests.give inverts short given
    exact ⟨bag, toClient, ⟨rfl, noResponse⟩, linked, inv.responses,
      tracked.relink fewer (List.sublist_append_left _ _).subperm⟩
  | done k response sender =>
    obtain ⟨rpc, sent, stepped⟩ := bind_eq_ok stepped
    obtain ⟨pipe, given, stepped⟩ := bind_eq_ok stepped
    cases stepped
    have noRequest : rpc.toServer = [] := (step_links sent).trans inv.idle.1
    have tracked := inv.channel (a := .done k response) ⟨by simp, by simp⟩ (by simp) enabled sent
    obtain ⟨bag, linked, fewer⟩ := inv.responses.give inverts short given
    exact ⟨toServer, bag, ⟨noRequest, rfl⟩, inv.requests, linked,
      tracked.relink (List.sublist_append_left _ _).subperm fewer⟩
  | requests a =>
    obtain ⟨bag, later⟩ := inv.requestsStep inverts short enabled.1 enabled.2 stepped
    exact ⟨bag, toClient, later⟩
  | responses a =>
    obtain ⟨bag, later⟩ := inv.responsesStep inverts short enabled.1 enabled.2 stepped
    exact ⟨toServer, bag, later⟩

end Steps

/-- Fewer than 2^63 calls agree with their callbacks. -/
theorem agreement_of_ledger (ledger : Ledger (relink s toServer toClient))
    (few : s.calls.length < 2 ^ 63) : Agreement s := by
  refine ⟨ledger.once, fun k received member => ?_, ledger.distinct few, ledger.outstanding⟩
  obtain ⟨call, found, _, handled⟩ := ledger.answered member
  exact ⟨call, found, handled⟩

/-- Neither decoder reports an error, calls and responses agree, and each callback has received
what the service produced for its own call. -/
theorem calls_agree_over_tcp {services : ServiceMap Message} {client server : IoLoop}
    {actions : List (RemoteCalls.Act Message)} (inverts : Inverts codec.protobuf)
    (short : codec.tag.length + 259 ≤ kMaxMessageLen) (clientReady : Established client)
    (serverReady : Established server)
    (run : (RemoteCalls.machine reflection codec).Run (.of services client server) actions r)
    (few : r.rpc.calls.length < 2 ^ 63) :
    Delivery codec r.requests ∧ Delivery codec r.responses ∧ Agreement r.rpc ∧
      OwnResponses reflection r.rpc := by
  obtain ⟨toServer, toClient, inv⟩ : ∃ toServer toClient, Inv reflection codec r toServer toClient := by
    refine @Machine.Run.invariant _ _ _ (RemoteCalls.machine reflection codec)
      (fun r => ∃ toServer toClient, Inv reflection codec r toServer toClient) _ _ _ ?_
      ⟨_, _, inv_start clientReady serverReady⟩ run
    rintro r a r' ⟨toServer, toClient, inv⟩ enabled stepped
    exact inv.step inverts short enabled stepped
  obtain ⟨_, _, requests, _⟩ := inv.requests
  obtain ⟨_, _, responses, _⟩ := inv.responses
  obtain ⟨ledger, honest⟩ := inv.tracked few
  obtain ⟨received, single⟩ := own_of_honest honest
  exact ⟨requests.delivery, responses.delivery, agreement_of_ledger ledger few, received, single⟩

theorem rpcMessage_inverts : Inverts rpcMessageCodec.protobuf where
  serialize_size _ := rfl
  parse_serialize m _ small := parseWire_wire (Nat.lt_trans small (by norm_num))

/-- Two calls from other threads, of which the second is sent first; the requests are read in
two pieces, both are answered by the loop thread of the server, and the answers come together. -/
def swapped : List (RemoteCalls.Act (List UInt8)) :=
  [.call "Echo" "echo" [1] (some []) true, .call "Echo" "echo" [2] (some []) true,
    .register 0, .register 1, .send 1 .otherThread, .send 0 .otherThread,
    .requests (.connection (.queueSend 0)), .requests (.connection (.queueSend 0)),
    .requests (.connection (.runFunctor ⟨.bytes [], .wrote 20, none⟩)),
    .requests (.connection (.runFunctor ⟨.bytes [], .wrote 0, none⟩)),
    .requests (.handleRead 20), .requests .turn,
    .requests (.connection (.handleWrite ⟨.bytes [], .wrote 42, none⟩)),
    .requests (.handleRead 42), .requests .turn, .requests .turn, .requests .turn,
    .done 0 [2, 2] (.loopThread (.wrote 20)), .done 1 [1, 1] (.loopThread (.wrote 20)),
    .responses (.handleRead 40), .responses .turn, .responses .turn, .responses .turn]

theorem calls_agree_over_tcp_swapped : ∃ r,
    (RemoteCalls.machine rawReflection rpcMessageCodec).Run
      (.of echoServices OutputIntegrity.smallConnection OutputIntegrity.smallConnection) swapped r ∧
    decide (r.rpc.calls.length < 2 ^ 63 ∧ r.rpc.events = [.registered 0, .registered 1,
      .response 2, .completed 1 [2, 2], .response 1, .completed 0 [1, 1]]) = true ∧
    Agreement r.rpc ∧ OwnResponses rawReflection r.rpc := by
  obtain ⟨r, run, passes⟩ := Machine.exists_run_of_exec
    (M := RemoteCalls.machine rawReflection rpcMessageCodec)
    (.of echoServices OutputIntegrity.smallConnection OutputIntegrity.smallConnection) swapped
    (fun r => decide (r.rpc.calls.length < 2 ^ 63 ∧ r.rpc.events = [.registered 0, .registered 1,
      .response 2, .completed 1 [2, 2], .response 1, .completed 0 [1, 1]]))
    (by decide +kernel)
  obtain ⟨_, _, agreement, own⟩ := calls_agree_over_tcp rpcMessage_inverts (by decide)
    SendBeforeShutdown.smallConnection_established SendBeforeShutdown.smallConnection_established
    run (of_decide_eq_true passes).1
  exact ⟨r, run, passes, agreement, own⟩

end Starry.Guarantees.RpcOverTcp
