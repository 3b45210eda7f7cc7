import Starry.Foundation.Traces
import Starry.Source.RpcChannelSpec

/-!
# Calls and responses agree

For a client and a server channel, calls from any number of threads, any delivery schedule,
services that answer late and in any order, and fewer than 2^63 calls. Whatever RESPONSE
messages reach the client, each callback is invoked at most once and `outstandings_` holds
the calls that wait for an answer. When the server has sent all of them, a callback receives
what the service produced for its own call. That a call is answered at all is not claimed.
-/
namespace Starry.Guarantees.RpcAgreement

open Starry.Foundation
open Starry.Source
open Starry.Source.RpcSystem

variable {Message : Type}

/-- Call `k` is registered, and no RESPONSE with its id has arrived since. -/
def Unanswered (events : List (RpcEvent Message)) (k : Nat) (id : Int64) : Prop :=
  .registered k ∈ events ∧ ¬ [.registered k, .response id].Sublist events

/-- The service was called for exactly this call. -/
structure ForCall (reflection : Reflection Message) (invocation : Invocation Message)
    (call : Call Message) : Prop where
  id : invocation.id = call.id
  service : invocation.service = call.service
  method : invocation.method = call.method
  request : invocation.requestBytes = reflection.serializeAsString call.request
  parsed : ∃ prototype, invocation.request =
    reflection.parsed prototype (reflection.serializeAsString call.request)

/-- What holds whatever RESPONSE messages reach the client. -/
structure Agreement (s : RpcSystem Message) : Prop where
  once : ∀ k received received',
    ¬ [.completed k received, .completed k received'].Sublist s.events
  /-- A callback is invoked in the handling of a RESPONSE with the id of its own call. -/
  own : ∀ k received, .completed k received ∈ s.events → ∃ call, s.calls[k]? = some call ∧
    [.response call.id, .completed k received] <:+: s.events
  /-- Distinct calls have distinct ids. -/
  distinct : ∀ {j k : Nat} {call call' : Call Message}, s.calls[j]? = some call →
    s.calls[k]? = some call' → call.id = call'.id → j = k
  outstanding : ∀ id out, s.client.outstandings id = some out ↔ ∃ k call,
    s.calls[k]? = some call ∧ call.id = id ∧ out = call.out k ∧ Unanswered s.events k id

/-- What holds when the server has sent every RESPONSE. -/
structure OwnResponses (reflection : Reflection Message) (s : RpcSystem Message) : Prop where
  /-- The callback of a call receives a response that the service produced for that call. -/
  received : ∀ k received, .completed k received ∈ s.events → ∃ call prototype,
    s.calls[k]? = some call ∧ call.response = some prototype ∧
    ∃ (i : Nat) (invocation : Invocation Message) (response : Message),
      s.invocations[i]? = some invocation ∧ ForCall reflection invocation call ∧
      (i, response) ∈ s.produced ∧
      received = reflection.parsed prototype (reflection.serializeAsString response)
  /-- No service is called twice for one call. -/
  single : ∀ {i j : Nat} {invocation invocation' : Invocation Message},
    s.invocations[i]? = some invocation → s.invocations[j]? = some invocation' →
    invocation.id = invocation'.id → i = j

/-! ## The client -/

variable {reflection : Reflection Message} {s s' : RpcSystem Message}

structure Ledger (s : RpcSystem Message) : Prop where
  next : s.client.id = Int64.ofNat s.calls.length
  ids : ∀ {k : Nat} {call : Call Message}, s.calls[k]? = some call →
    call.id = Int64.ofNat (k + 1)
  registered : ∀ k, .registered k ∈ s.events ↔
    ∃ call, s.calls[k]? = some call ∧ call.stage ≠ .allocated
  outstanding : ∀ id out, s.client.outstandings id = some out ↔ ∃ k call,
    s.calls[k]? = some call ∧ call.id = id ∧ out = call.out k ∧ Unanswered s.events k id
  answered : ∀ {k received}, .completed k received ∈ s.events → ∃ call,
    s.calls[k]? = some call ∧ [.registered k, .response call.id].Sublist s.events ∧
      [.response call.id, .completed k received] <:+: s.events
  once : ∀ k received received',
    ¬ [.completed k received, .completed k received'].Sublist s.events

theorem ledger_start (services : ServiceMap Message) : Ledger (start services) := by
  refine ⟨rfl, ?_, ?_, ?_, ?_, ?_⟩
  all_goals simp [start, RpcChannel.new]

namespace Ledger

theorem distinct (ledger : Ledger s) (few : s.calls.length < 2 ^ 63) {j k : Nat}
    {call call' : Call Message} (found : s.calls[j]? = some call)
    (found' : s.calls[k]? = some call') (same : call.id = call'.id) : j = k := by
  have inside := (List.getElem?_eq_some_iff.mp found).1
  have inside' := (List.getElem?_eq_some_iff.mp found').1
  rw [ledger.ids found, ledger.ids found'] at same
  have equal := id_inj (by omega) (by omega) same
  omega

/-- Nothing that the client knows has changed. -/
theorem frame (ledger : Ledger s) (client : s'.client = s.client) (calls : s'.calls = s.calls)
    (events : s'.events = s.events) : Ledger s' := by
  refine ⟨?_, ?_, ?_, ?_, ?_, ?_⟩
  all_goals
    simp only [client, calls, events]
  · exact ledger.next
  · exact ledger.ids
  · exact ledger.registered
  · exact ledger.outstanding
  · exact ledger.answered
  · exact ledger.once

theorem allocate (ledger : Ledger s) (service method : String) (request : Message)
    (response : Option Message) (done : Bool) :
    Ledger (s.allocate service method request response done) := by
  have unregistered : RpcEvent.registered s.calls.length ∉ s.events := by
    intro member
    obtain ⟨call, found, _⟩ := (ledger.registered _).mp member
    have inside := (List.getElem?_eq_some_iff.mp found).1
    omega
  refine ⟨?_, ?_, ?_, ?_, ?_, ledger.once⟩
  · simp only [RpcSystem.allocate, List.length_append, List.length_singleton, Int64.ofNat_add,
      ledger.next]
    rfl
  · intro k call found
    rcases allocate_lookup found with old | ⟨rfl, rfl⟩
    · exact ledger.ids old
    · simp only [ledger.next, Int64.ofNat_add]
      rfl
  · intro k
    change _ ∈ s.events ↔ _
    rw [ledger.registered]
    constructor
    · rintro ⟨call, found, stage⟩
      exact ⟨call, allocate_lookup_old found, stage⟩
    · rintro ⟨call, found, stage⟩
      rcases allocate_lookup found with old | ⟨_, rfl⟩
      · exact ⟨call, old, stage⟩
      · exact absurd rfl stage
  · intro id out
    change s.client.outstandings id = some out ↔ _
    rw [ledger.outstanding]
    constructor
    · rintro ⟨k, call, found, rest⟩
      exact ⟨k, call, allocate_lookup_old found, rest⟩
    · rintro ⟨k, call, found, same, out_eq, waiting⟩
      rcases allocate_lookup found with old | ⟨rfl, _⟩
      · exact ⟨k, call, old, same, out_eq, waiting⟩
      · exact absurd waiting.1 unregistered
  · intro k received member
    obtain ⟨call, found, after⟩ := ledger.answered member
    exact ⟨call, allocate_lookup_old found, after⟩

/-- The request of a call leaves after the call was registered. -/
theorem send (ledger : Ledger s) {k : Nat} {call : Call Message}
    (found : s.calls[k]? = some call) (stage : call.stage = .registered) :
    Ledger (s.send reflection k call) := by
  refine ⟨?_, ?_, ?_, ?_, ?_, ledger.once⟩
  · simp only [RpcSystem.send, setStage, List.length_set, ledger.next]
  · intro j later listed
    obtain ⟨old, listed', same, _⟩ := setStage_before found listed
    rw [same.id, ledger.ids listed']
  · intro j
    change _ ∈ s.events ↔ _
    rw [ledger.registered]
    constructor
    · rintro ⟨old, listed, registered⟩
      obtain ⟨later, listed', _, ⟨_, sent⟩ | ⟨_, rfl⟩⟩ := setStage_after .sent found listed
      · exact ⟨later, listed', by simp [sent]⟩
      · exact ⟨later, listed', registered⟩
    · rintro ⟨later, listed, registered⟩
      obtain ⟨old, listed', _, ⟨rfl, _⟩ | ⟨_, rfl⟩⟩ := setStage_before found listed
      · rw [found] at listed'
        cases listed'
        exact ⟨call, found, by simp [stage]⟩
      · exact ⟨later, listed', registered⟩
  · intro id out
    change s.client.outstandings id = some out ↔ _
    rw [ledger.outstanding]
    constructor
    · rintro ⟨j, old, listed, rfl, rfl, waiting⟩
      obtain ⟨later, listed', same, _⟩ := setStage_after .sent found listed
      exact ⟨j, later, listed', same.id, (same.out j).symm, waiting⟩
    · rintro ⟨j, later, listed, rfl, rfl, waiting⟩
      obtain ⟨old, listed', same, _⟩ := setStage_before found listed
      exact ⟨j, old, listed', same.id.symm, same.out j, waiting⟩
  · intro j received member
    obtain ⟨old, listed, answered⟩ := ledger.answered member
    obtain ⟨later, listed', same, _⟩ := setStage_after .sent found listed
    refine ⟨later, listed', ?_⟩
    rw [same.id]
    exact answered

theorem unregistered (ledger : Ledger s) {k : Nat} {call : Call Message}
    (found : s.calls[k]? = some call) (stage : call.stage = .allocated) :
    RpcEvent.registered k ∉ s.events := by
  intro member
  obtain ⟨old, listed, registered⟩ := (ledger.registered k).mp member
  rw [found] at listed
  cases listed
  exact registered stage

theorem register_answers {k j : Nat} {call : Call Message} {id : Int64} :
    [.registered j, .response id].Sublist (s.register k call).events ↔
      [.registered j, .response id].Sublist s.events := by
  change List.Sublist _ (s.events ++ [_]) ↔ _
  rw [pair_sublist]
  simp

/-- `outstandings_[id] = out` overwrites nothing, since no other call has the id. -/
theorem register_outstanding (ledger : Ledger s) (few : s.calls.length < 2 ^ 63) {k : Nat}
    {call : Call Message} (found : s.calls[k]? = some call) (stage : call.stage = .allocated)
    (id : Int64) (out : OutstandingCall Message) :
    (s.register k call).client.outstandings id = some out ↔ ∃ j later,
      (s.register k call).calls[j]? = some later ∧ later.id = id ∧ out = later.out j ∧
      Unanswered (s.register k call).events j id := by
  change Function.update s.client.outstandings call.id (some (call.out k)) id = some out ↔ _
  by_cases own : id = call.id
  · subst own
    rw [Function.update_self]
    constructor
    · intro same
      cases same
      obtain ⟨later, listed, same, _⟩ := setStage_after .registered found found
      refine ⟨k, later, listed, same.id, (same.out k).symm, ?_, ?_⟩
      · exact List.mem_append_right _ List.mem_cons_self
      · rw [register_answers]
        exact fun answered =>
          ledger.unregistered found stage (answered.subset List.mem_cons_self)
    · rintro ⟨j, later, listed, same, rfl, _⟩
      obtain ⟨old, listed', old_same, _⟩ := setStage_before found listed
      have equal := ledger.distinct few listed' found (old_same.id.symm.trans same)
      subst equal
      rw [found] at listed'
      cases listed'
      rw [old_same.out]
  · rw [Function.update_of_ne own, ledger.outstanding]
    constructor
    · rintro ⟨j, old, listed, rfl, rfl, waiting⟩
      obtain ⟨later, listed', same, _⟩ := setStage_after .registered found listed
      refine ⟨j, later, listed', same.id, (same.out j).symm, ?_, ?_⟩
      · exact List.mem_append_left _ waiting.1
      · rw [register_answers]
        exact waiting.2
    · rintro ⟨j, later, listed, rfl, rfl, waiting⟩
      obtain ⟨old, listed', same, _⟩ := setStage_before found listed
      refine ⟨j, old, listed', same.id.symm, same.out j, ?_, ?_⟩
      · rcases List.mem_append.mp waiting.1 with earlier | new
        · exact earlier
        · cases List.mem_singleton.mp new
          rw [found] at listed'
          cases listed'
          exact absurd same.id own
      · rw [← register_answers]
        exact waiting.2

/-- The id of a new call is free, so no other call is overwritten. -/
theorem register (ledger : Ledger s) (few : s.calls.length < 2 ^ 63) {k : Nat}
    {call : Call Message} (found : s.calls[k]? = some call) (stage : call.stage = .allocated) :
    Ledger (s.register k call) := by
  refine ⟨?_, ?_, ?_, ledger.register_outstanding few found stage, ?_, ?_⟩
  · simp only [RpcSystem.register, setStage, RpcChannel.register, List.length_set, ledger.next]
  · intro j later listed
    obtain ⟨old, listed', same, _⟩ := setStage_before found listed
    rw [same.id, ledger.ids listed']
  · intro j
    change _ ∈ s.events ++ [_] ↔ _
    rw [List.mem_append, ledger.registered]
    constructor
    · rintro (⟨old, listed, registered⟩ | new)
      · obtain ⟨later, listed', _, ⟨_, now⟩ | ⟨_, rfl⟩⟩ := setStage_after .registered found listed
        · exact ⟨later, listed', by simp [now]⟩
        · exact ⟨later, listed', registered⟩
      · cases List.mem_singleton.mp new
        obtain ⟨later, listed', _, ⟨_, now⟩ | ⟨different, _⟩⟩ :=
          setStage_after .registered found found
        · exact ⟨later, listed', by simp [now]⟩
        · exact absurd rfl different
    · rintro ⟨later, listed, registered⟩
      obtain ⟨old, listed', _, ⟨rfl, _⟩ | ⟨_, rfl⟩⟩ := setStage_before found listed
      · exact .inr List.mem_cons_self
      · exact .inl ⟨later, listed', registered⟩
  · intro j received member
    have member' : .completed j received ∈ s.events := by
      simpa [RpcSystem.register] using member
    obtain ⟨old, listed, answered, handled⟩ := ledger.answered member'
    obtain ⟨later, listed', same, _⟩ := setStage_after .registered found listed
    refine ⟨later, listed', ?_, ?_⟩
    · rw [register_answers, same.id]
      exact answered
    · rw [same.id]
      exact handled.trans (List.prefix_append _ _).isInfix
  · intro j received received' twice
    rcases pair_sublist.mp twice with old | ⟨clash, _⟩
    · exact ledger.once j received received' old
    · cases clash

/-- A RESPONSE answers the call that waits under its id, if there is one. -/
theorem response (ledger : Ledger s) (id : Int64) : Ledger { s with
    client := { s.client with outstandings := Function.update s.client.outstandings id none }
    events := s.events ++ [.response id] } := by
  refine ⟨ledger.next, ledger.ids, ?_, ?_, ?_, ?_⟩
  · intro k
    simp only [List.mem_append, List.mem_singleton, reduceCtorEq, or_false]
    exact ledger.registered k
  · intro id' out
    change Function.update s.client.outstandings id none id' = some out ↔ _
    by_cases own : id' = id
    · subst own
      rw [Function.update_self]
      constructor
      · intro impossible
        cases impossible
      · rintro ⟨k, call, found, rfl, rfl, registered, unanswered⟩
        refine absurd (pair_sublist.mpr (.inr ⟨rfl, ?_⟩)) unanswered
        simpa using registered
    · rw [Function.update_of_ne own, ledger.outstanding]
      have same : ∀ k, Unanswered (s.events ++ [.response id]) k id' ↔
          Unanswered s.events k id' := by
        intro k
        unfold Unanswered
        rw [pair_sublist]
        simp [own]
      simp only [same]
  · intro k received member
    have before : .completed k received ∈ s.events := by simpa using member
    obtain ⟨call, found, answered, handled⟩ := ledger.answered before
    exact ⟨call, found, answered.trans (List.sublist_append_left _ _),
      handled.trans (List.prefix_append _ _).isInfix⟩
  · intro k received received' twice
    rcases pair_sublist.mp twice with old | ⟨clash, _⟩
    · exact ledger.once k received received' old
    · cases clash

/-- The callback of an answered call is invoked for the first time. -/
theorem completed (ledger : Ledger s) {k : Nat} {call : Call Message} (received : Message)
    (found : s.calls[k]? = some call)
    (answered : [.registered k, .response call.id].Sublist s.events)
    (last : ∃ before, s.events = before ++ [.response call.id])
    (first : ∀ earlier, .completed k earlier ∉ s.events) :
    Ledger { s with events := s.events ++ [.completed k received] } := by
  have pairs : ∀ {j : Nat} {id : Int64},
      [.registered j, .response id].Sublist (s.events ++ [.completed k received]) ↔
        [.registered j, .response id].Sublist s.events := by
    intro j id
    rw [pair_sublist]
    simp
  refine ⟨ledger.next, ledger.ids, ?_, ?_, ?_, ?_⟩
  · intro j
    simp only [List.mem_append, List.mem_singleton, reduceCtorEq, or_false]
    exact ledger.registered j
  · intro id out
    change s.client.outstandings id = some out ↔ _
    rw [ledger.outstanding]
    simp only [Unanswered, pairs, List.mem_append, List.mem_singleton, reduceCtorEq, or_false]
  · intro j earlier member
    rcases List.mem_append.mp member with old | new
    · obtain ⟨call', found', answered', handled⟩ := ledger.answered old
      exact ⟨call', found', pairs.mpr answered',
        handled.trans (List.prefix_append _ _).isInfix⟩
    · cases List.mem_singleton.mp new
      obtain ⟨before, events⟩ := last
      refine ⟨call, found, pairs.mpr answered, before, [], ?_⟩
      simp [events]
  · intro j earlier later twice
    rcases pair_sublist.mp twice with old | ⟨same, member⟩
    · exact ledger.once j earlier later old
    · cases same
      exact first earlier member

/-- A callback is invoked for the call whose entry was in `outstandings_`. -/
theorem waiting (ledger : Ledger s) {id : Int64} {out : OutstandingCall Message} {k : Nat}
    (known : s.client.outstandings id = some out) (done : out.done = some k) :
    ∃ call, s.calls[k]? = some call ∧ call.id = id ∧ out = call.out k ∧
      Unanswered s.events k id := by
  obtain ⟨j, call, found, same, rfl, unanswered⟩ := (ledger.outstanding id out).mp known
  have number : j = k := by
    unfold Call.out at done
    simp only at done
    split at done
    · exact Option.some.inj done
    · cases done
  subst number
  exact ⟨call, found, same, rfl, unanswered⟩

theorem arrived (ledger : Ledger s) {message : RpcMessage} (type : message.type = .RESPONSE)
    (rest : List RpcMessage) : Ledger { s with
      client := (s.client.onResponse reflection message).1
      toClient := rest
      events := s.events ++ reported message (s.client.onResponse reflection message).2 } := by
  have taken := ledger.response message.id.toInt64
  rw [onResponse_client]
  rcases @onResponse_reaction _ reflection s.client message with quiet | ⟨k, received, completes⟩
  · rw [quiet]
    simp only [reported, type, if_true]
    exact taken.frame rfl rfl rfl
  · obtain ⟨out, prototype, known, _, done, _⟩ := onResponse_completed completes
    obtain ⟨call, found, same, _, registered, unanswered⟩ := ledger.waiting known done
    rw [completes]
    have step := taken.completed received found ?_ ⟨s.events, by rw [same]⟩ ?_
    · refine step.frame rfl rfl ?_
      simp [reported]
    · rw [same]
      exact pair_sublist.mpr (.inr ⟨rfl, registered⟩)
    · intro earlier member
      have before : .completed k earlier ∈ s.events := by simpa using member
      obtain ⟨call', found', answered, _⟩ := ledger.answered before
      rw [found] at found'
      cases found'
      rw [same] at answered
      exact unanswered answered

theorem effect {a : Act Message} (ledger : Ledger s) (few : s.calls.length < 2 ^ 63)
    (effect : Effect reflection s a s') : Ledger s' := by
  cases effect with
  | called => exact ledger.allocate _ _ _ _ _
  | registered found stage => exact ledger.register few found stage
  | sent found stage => exact ledger.send found stage
  | unserved => exact ledger.frame rfl rfl rfl
  | invoked => exact ledger.frame rfl rfl rfl
  | produced => exact ledger.frame rfl rfl rfl
  | forged => exact ledger.frame rfl rfl rfl
  | ignored => exact ledger.frame rfl rfl rfl
  | arrived _ type => exact ledger.arrived type _

end Ledger

/-! ## The links and the server -/

/-- What an invocation is for does not depend on how far the call has come. -/
theorem ForCall.same {invocation : Invocation Message} {call call' : Call Message}
    (own : ForCall reflection invocation call) (same : SameCall call call') :
    ForCall reflection invocation call' := by
  rw [same]
  exact ⟨own.id, own.service, own.method, own.request, own.parsed⟩

structure Honest (reflection : Reflection Message) (s : RpcSystem Message) : Prop where
  requests : ∀ message ∈ s.toServer, ∃ (k : Nat) (call : Call Message),
    s.calls[k]? = some call ∧ call.stage = .sent ∧ message = requestMessage reflection call
  invoked : ∀ invocation ∈ s.invocations, ∃ (k : Nat) (call : Call Message),
    s.calls[k]? = some call ∧ call.stage = .sent ∧ ForCall reflection invocation call
  /-- A request is in the link or has been handed to a service, not both. -/
  single : (s.toServer.map RpcMessage.id ++
    s.invocations.map fun invocation => invocation.id.toUInt64).Nodup
  responses : ∀ message ∈ s.toClient, ∃ (i : Nat) (invocation : Invocation Message)
    (response : Message), s.invocations[i]? = some invocation ∧ (i, response) ∈ s.produced ∧
      message.id = invocation.id.toUInt64 ∧
      message.response = reflection.serializeAsString response
  received : ∀ k received, .completed k received ∈ s.events → ∃ call prototype,
    s.calls[k]? = some call ∧ call.response = some prototype ∧
    ∃ (i : Nat) (invocation : Invocation Message) (response : Message),
      s.invocations[i]? = some invocation ∧ ForCall reflection invocation call ∧
      (i, response) ∈ s.produced ∧
      received = reflection.parsed prototype (reflection.serializeAsString response)

theorem honest_start (services : ServiceMap Message) : Honest reflection (start services) := by
  refine ⟨?_, ?_, ?_, ?_, ?_⟩
  all_goals simp [start]

namespace Honest

/-- The calls go on, and nothing that was sent is taken back. -/
theorem progress (honest : Honest reflection s)
    (calls : ∀ {k : Nat} {call : Call Message}, s.calls[k]? = some call → ∃ call',
      s'.calls[k]? = some call' ∧ SameCall call call' ∧
      (call.stage = .sent → call'.stage = .sent))
    (links : s'.toServer = s.toServer ∧ s'.toClient = s.toClient)
    (server : s'.invocations = s.invocations ∧ s'.produced = s.produced)
    (events : ∀ k received, .completed k received ∈ s'.events →
      .completed k received ∈ s.events) : Honest reflection s' := by
  refine ⟨?_, ?_, ?_, ?_, ?_⟩
  · intro message member
    rw [links.1] at member
    obtain ⟨k, call, found, sent, rfl⟩ := honest.requests message member
    obtain ⟨call', found', same, still⟩ := calls found
    refine ⟨k, call', found', still sent, ?_⟩
    rw [same]
    rfl
  · intro invocation member
    rw [server.1] at member
    obtain ⟨k, call, found, sent, own⟩ := honest.invoked invocation member
    obtain ⟨call', found', same, still⟩ := calls found
    exact ⟨k, call', found', still sent, own.same same⟩
  · rw [links.1, server.1]
    exact honest.single
  · rw [links.2, server.1, server.2]
    exact honest.responses
  · intro k received member
    obtain ⟨call, prototype, found, expects, i, invocation, response, listed, own, produced, rfl⟩ :=
      honest.received k received (events k received member)
    obtain ⟨call', found', same, _⟩ := calls found
    rw [server.1, server.2]
    refine ⟨call', prototype, found', ?_, i, invocation, response, listed, own.same same,
      produced, rfl⟩
    rw [same]
    exact expects

/-- A call that has only been allocated has nothing on the links. -/
theorem called (honest : Honest reflection s) (service method : String) (request : Message)
    (response : Option Message) (done : Bool) :
    Honest reflection (s.allocate service method request response done) := by
  refine honest.progress ?_ ⟨rfl, rfl⟩ ⟨rfl, rfl⟩ fun _ _ member => member
  intro k call found
  exact ⟨call, allocate_lookup_old found, rfl, id⟩

theorem registered (honest : Honest reflection s) {k : Nat} {call : Call Message}
    (found : s.calls[k]? = some call) (stage : call.stage = .allocated) :
    Honest reflection (s.register k call) := by
  refine honest.progress ?_ ⟨rfl, rfl⟩ ⟨rfl, rfl⟩ ?_
  · intro j before listed
    obtain ⟨after, listed', same, place⟩ := setStage_after .registered found listed
    refine ⟨after, listed', same, fun sent => ?_⟩
    rcases place with ⟨rfl, _⟩ | ⟨_, rfl⟩
    · rw [found] at listed
      cases listed
      rw [stage] at sent
      cases sent
    · exact sent
  · intro j received member
    simpa [RpcSystem.register] using member

/-- The request of a call that was not sent before has an id that is on neither side. -/
theorem sent (honest : Honest reflection s) (ledger : Ledger s)
    (few : s.calls.length < 2 ^ 63) {k : Nat} {call : Call Message}
    (found : s.calls[k]? = some call) (stage : call.stage = .registered) :
    Honest reflection (s.send reflection k call) := by
  have fresh : ∀ {j : Nat} {other : Call Message}, s.calls[j]? = some other →
      other.stage = .sent → other.id ≠ call.id := by
    intro j other listed already same
    have equal := ledger.distinct few listed found same
    subst equal
    rw [found] at listed
    cases listed
    rw [stage] at already
    cases already
  have marked : Honest reflection (s.setStage k call .sent) := by
    refine honest.progress ?_ ⟨rfl, rfl⟩ ⟨rfl, rfl⟩ fun _ _ member => member
    intro j before listed
    obtain ⟨after, listed', same, place⟩ := setStage_after .sent found listed
    refine ⟨after, listed', same, fun already => ?_⟩
    rcases place with ⟨_, now⟩ | ⟨_, rfl⟩
    · exact now
    · exact already
  refine ⟨?_, marked.invoked, ?_, marked.responses, marked.received⟩
  · intro message member
    rcases List.mem_append.mp member with old | new
    · exact marked.requests message old
    · cases List.mem_singleton.mp new
      refine ⟨k, { call with stage := .sent }, ?_, rfl, rfl⟩
      have listed := setStage_lookup .sent k found
      rw [if_pos rfl] at listed
      exact listed
  · have absent : call.id.toUInt64 ∉ s.toServer.map RpcMessage.id ++
        s.invocations.map fun invocation => invocation.id.toUInt64 := by
      intro member
      rcases List.mem_append.mp member with linked | served
      · obtain ⟨message, queued, same⟩ := List.mem_map.mp linked
        obtain ⟨j, other, listed, already, rfl⟩ := honest.requests message queued
        exact fresh listed already (toUInt64_inj same)
      · obtain ⟨invocation, started, same⟩ := List.mem_map.mp served
        obtain ⟨j, other, listed, already, own⟩ := honest.invoked invocation started
        exact fresh listed already (own.id.symm.trans (toUInt64_inj same))
    change ((s.toServer ++ [requestMessage reflection call]).map RpcMessage.id ++ _).Nodup
    rw [List.map_append, List.append_assoc]
    refine (List.perm_middle.nodup_iff).mpr ?_
    exact List.nodup_cons.mpr ⟨absent, honest.single⟩

theorem unserved (honest : Honest reflection s) {message : RpcMessage} {rest : List RpcMessage}
    (server : RpcChannel Message) (queue : s.toServer = message :: rest) :
    Honest reflection { s with server := server, toServer := rest } := by
  refine ⟨?_, honest.invoked, ?_, honest.responses, honest.received⟩
  · intro other member
    exact honest.requests other (by rw [queue]; exact List.mem_cons_of_mem _ member)
  · have single := honest.single
    rw [queue, List.map_cons, List.cons_append, List.nodup_cons] at single
    exact single.2

theorem lookup_append {invocation added : Invocation Message} {i : Nat}
    (listed : s.invocations[i]? = some invocation) :
    (s.invocations ++ [added])[i]? = some invocation := by
  rw [List.getElem?_append_left (List.getElem?_eq_some_iff.mp listed).1]
  exact listed

/-- What the service is called with is the request of one call. -/
theorem served (honest : Honest reflection s) {message : RpcMessage} {rest : List RpcMessage}
    {server : RpcChannel Message} {invocation : Invocation Message}
    (queue : s.toServer = message :: rest) (invokes : Invokes reflection message invocation) :
    Honest reflection { s with
      server := server, toServer := rest, invocations := s.invocations ++ [invocation] } := by
  obtain ⟨_, service, method, request, ⟨prototype, parsed⟩, id⟩ := invokes
  obtain ⟨k, call, found, sent, rfl⟩ :=
    honest.requests message (by rw [queue]; exact List.mem_cons_self)
  have own : invocation.id = call.id := id.trans (Int64.toInt64_toUInt64 _)
  refine ⟨(honest.unserved server queue).requests, ?_, ?_, ?_, ?_⟩
  · intro other member
    rcases List.mem_append.mp member with old | new
    · exact honest.invoked other old
    · cases List.mem_singleton.mp new
      exact ⟨k, call, found, sent, own, service, method, request, prototype, parsed⟩
  · have single := honest.single
    rw [queue, List.map_cons, List.cons_append] at single
    change (rest.map RpcMessage.id ++ (s.invocations ++ [invocation]).map _).Nodup
    rw [List.map_append, ← List.append_assoc]
    refine (List.perm_append_singleton _ _).nodup_iff.mpr ?_
    change (invocation.id.toUInt64 :: _).Nodup
    rw [own]
    exact single
  · intro answer member
    obtain ⟨i, other, response, listed, produced, same, bytes⟩ := honest.responses answer member
    exact ⟨i, other, response, lookup_append listed, produced, same, bytes⟩
  · intro j received member
    obtain ⟨call', wanted, found', expects, i, other, response, listed, own', produced, rfl⟩ :=
      honest.received j received member
    exact ⟨call', wanted, found', expects, i, other, response, lookup_append listed, own',
      produced, rfl⟩

/-- The response of a service carries the id of its invocation. -/
theorem produced (honest : Honest reflection s) {k : Nat} {invocation : Invocation Message}
    (response : Message) (found : s.invocations[k]? = some invocation) :
    Honest reflection { s with
      toClient := s.toClient ++ [⟨.RESPONSE, invocation.id.toUInt64, "", "", [],
        reflection.serializeAsString response⟩]
      produced := s.produced ++ [(k, response)] } := by
  refine ⟨honest.requests, honest.invoked, honest.single, ?_, ?_⟩
  · intro message member
    rcases List.mem_append.mp member with old | new
    · obtain ⟨i, other, earlier, listed, before, same⟩ := honest.responses message old
      exact ⟨i, other, earlier, listed, List.mem_append_left _ before, same⟩
    · cases List.mem_singleton.mp new
      exact ⟨k, invocation, response, found, List.mem_append_right _ List.mem_cons_self, rfl, rfl⟩
  · intro j received member
    obtain ⟨call, wanted, listed, expects, i, other, earlier, started, own, before, rfl⟩ :=
      honest.received j received member
    exact ⟨call, wanted, listed, expects, i, other, earlier, started, own,
      List.mem_append_left _ before, rfl⟩

theorem ignored (honest : Honest reflection s) {message : RpcMessage} {rest : List RpcMessage}
    (queue : s.toClient = message :: rest) : Honest reflection { s with toClient := rest } := by
  refine ⟨honest.requests, honest.invoked, honest.single, ?_, honest.received⟩
  intro other member
  exact honest.responses other (by rw [queue]; exact List.mem_cons_of_mem _ member)

/-- The id of a RESPONSE leads back to the call whose request started the invocation. -/
theorem arrived (honest : Honest reflection s) (ledger : Ledger s)
    (few : s.calls.length < 2 ^ 63) {message : RpcMessage} {rest : List RpcMessage}
    (queue : s.toClient = message :: rest) : Honest reflection { s with
      client := (s.client.onResponse reflection message).1
      toClient := rest
      events := s.events ++ reported message (s.client.onResponse reflection message).2 } := by
  refine ⟨honest.requests, honest.invoked, honest.single, (honest.ignored queue).responses, ?_⟩
  intro k received member
  rcases List.mem_append.mp member with old | new
  · exact honest.received k received old
  · rcases @onResponse_reaction _ reflection s.client message with
      quiet | ⟨k', received', completes⟩
    · rw [quiet] at new
      simp only [reported] at new
      split at new <;> simp at new
    · rw [completes] at new
      obtain ⟨rfl, rfl⟩ : k = k' ∧ received = received' := by simpa [reported] using new
      obtain ⟨out, prototype, known, expects, done, rfl⟩ := onResponse_completed completes
      obtain ⟨call, found, same, rfl, _⟩ := ledger.waiting known done
      obtain ⟨i, invocation, response, started, produced, id, bytes⟩ :=
        honest.responses message (by rw [queue]; exact List.mem_cons_self)
      obtain ⟨j, origin, listed, _, own⟩ :=
        honest.invoked invocation (List.mem_of_getElem? started)
      -- the id crosses to `uint64` and back on its way to the server and on its way here
      have back : message.id.toInt64 = invocation.id := by rw [id, Int64.toInt64_toUInt64]
      have number : j = k := by
        refine ledger.distinct few listed found ?_
        rw [← own.id, ← back, same]
      subst number
      rw [found] at listed
      cases listed
      exact ⟨call, prototype, found, expects, i, invocation, response, started, own, produced,
        by rw [bytes]⟩

theorem effect {a : Act Message} (honest : Honest reflection s) (ledger : Ledger s)
    (few : s.calls.length < 2 ^ 63) (genuine : ∀ message, a ≠ .forge message)
    (effect : Effect reflection s a s') : Honest reflection s' := by
  cases effect with
  | called => exact honest.called _ _ _ _ _
  | registered found stage => exact honest.registered found stage
  | sent found stage => exact honest.sent ledger few found stage
  | unserved queue => exact honest.unserved _ queue
  | invoked queue invokes => exact honest.served queue invokes
  | produced found => exact honest.produced _ found
  | @forged message => exact absurd rfl (genuine message)
  | ignored queue => exact honest.ignored queue
  | arrived queue _ => exact honest.arrived ledger few queue

end Honest

/-! ## Every run -/

theorem calls_mono {a : Act Message} (effect : Effect reflection s a s') :
    s.calls.length ≤ s'.calls.length := by
  cases effect with
  | called => simp [allocate]
  | registered => simp [register, setStage]
  | sent => simp [send, setStage]
  | unserved => exact le_refl _
  | invoked => exact le_refl _
  | produced => exact le_refl _
  | forged => exact le_refl _
  | ignored => exact le_refl _
  | arrived => exact le_refl _

/-- What the actions taken so far and the state have in common. -/
def Tracked (reflection : Reflection Message) (past : List (Act Message))
    (s : RpcSystem Message) : Prop :=
  s.calls.length < 2 ^ 63 →
    Ledger s ∧ ((∀ message, .forge message ∉ past) → Honest reflection s)

/-- As long as fewer than 2^63 calls have been made, both parts hold after every step. -/
theorem step_tracked (past : List (Act Message)) (s : RpcSystem Message) (a : Act Message)
    (s' : RpcSystem Message) (tracked : Tracked reflection past s)
    (allowed : (machine reflection).enabled s a)
    (stepped : (machine reflection).step s a = .ok s') : Tracked reflection (past ++ [a]) s' := by
  have effect := step_effect allowed stepped
  intro bounded
  have few : s.calls.length < 2 ^ 63 := Nat.lt_of_le_of_lt (calls_mono effect) bounded
  obtain ⟨ledger, honest⟩ := tracked few
  refine ⟨ledger.effect few effect, fun genuine => ?_⟩
  have before : ∀ message, Act.forge message ∉ past := fun message member =>
    genuine message (List.mem_append_left _ member)
  refine (honest before).effect ledger few ?_ effect
  intro message same
  exact genuine message (same ▸ List.mem_append_right _ List.mem_cons_self)

theorem run_tracked {services : ServiceMap Message} {actions : List (Act Message)}
    (run : (machine reflection).Run (start services) actions s) :
    Tracked reflection actions s := by
  have start_tracked : Tracked reflection [] (start services) := fun _ =>
    ⟨ledger_start services, fun _ => honest_start services⟩
  simpa using run.history step_tracked start_tracked

/-- With an honest link, a callback gets the response to its own call. -/
theorem own_of_honest (honest : Honest reflection s) : OwnResponses reflection s := by
  refine ⟨honest.received, ?_⟩
  intro i j invocation invocation' listed listed' same
  have single := (List.nodup_append.mp honest.single).2.1
  have inside := (List.getElem?_eq_some_iff.mp listed).1
  refine (List.getElem?_inj (by simpa using inside) single).mp ?_
  rw [List.getElem?_map, List.getElem?_map, listed, listed']
  simp [same]

/-- In every state of every run calls and responses agree, and when no RESPONSE was forged
each callback has received what was produced for its own call. -/
theorem calls_and_responses_agree {services : ServiceMap Message} {actions : List (Act Message)}
    (run : (machine reflection).Run (start services) actions s)
    (few : s.calls.length < 2 ^ 63) :
    Agreement s ∧ ((∀ message, .forge message ∉ actions) → OwnResponses reflection s) := by
  obtain ⟨ledger, honest⟩ := run_tracked run few
  refine ⟨⟨ledger.once, ?_, ledger.distinct few, ledger.outstanding⟩, fun genuine => ?_⟩
  · intro k received member
    obtain ⟨call, found, _, handled⟩ := ledger.answered member
    exact ⟨call, found, handled⟩
  · exact own_of_honest (honest genuine)

/-- Messages that are their own serialisation. -/
def rawReflection : Reflection (List UInt8) where
  descriptor _ := "raw"
  serializeAsString bytes := bytes
  parsed _ bytes := bytes

def echoServices : ServiceMap (List UInt8) := fun service =>
  if service = "Echo" then
    some (some fun method => if method = "echo" then some ⟨[], []⟩ else none)
  else none

/-- Two calls are sent in the opposite order of their ids, answered in that order, and the
first answer comes twice. -/
theorem calls_and_responses_agree_swapped : ∃ s, (machine rawReflection).Run (start echoServices)
      [.call "Echo" "echo" [1] (some []) true, .call "Echo" "echo" [2] (some []) true, .register 1,
        .register 0, .send 1, .send 0, .deliverToServer, .deliverToServer, .done 0 [2, 2],
        .done 0 [9], .done 1 [1, 1], .deliverToClient, .deliverToClient, .deliverToClient] s ∧
    decide (s.calls.length < 2 ^ 63 ∧ s.events = [.registered 1, .registered 0, .response 2,
      .completed 1 [2, 2], .response 2, .response 1, .completed 0 [1, 1]]) = true ∧
    Agreement s ∧ OwnResponses rawReflection s := by
  obtain ⟨s, run, passes⟩ := Machine.exists_run_of_exec (M := machine rawReflection)
      (start echoServices)
      [.call "Echo" "echo" [1] (some []) true, .call "Echo" "echo" [2] (some []) true, .register 1,
        .register 0, .send 1, .send 0, .deliverToServer, .deliverToServer, .done 0 [2, 2],
        .done 0 [9], .done 1 [1, 1], .deliverToClient, .deliverToClient, .deliverToClient]
      (fun s => decide (s.calls.length < 2 ^ 63 ∧ s.events = [.registered 1, .registered 0,
        .response 2, .completed 1 [2, 2], .response 2, .response 1, .completed 0 [1, 1]]))
      (by decide +kernel)
  obtain ⟨agreement, own⟩ := calls_and_responses_agree run (of_decide_eq_true passes).1
  exact ⟨s, run, passes, agreement, own (by simp)⟩

end Starry.Guarantees.RpcAgreement
