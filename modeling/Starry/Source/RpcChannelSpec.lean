import Mathlib.Tactic
import Starry.Source.RpcChannel

/-!
# One step of two connected channels

What a step of the client, of the server or of a link does, one case for each way the code
can go; and that the ids of fewer than 2^63 calls differ, on both sides of the conversions
between `int64_t` and `uint64_t`.
-/
namespace Starry.Source.RpcSystem

open Starry.Foundation

variable {Message : Type} {reflection : Reflection Message} {s s' : RpcSystem Message}

/-! ## Ids -/

/-- Fewer than 2^63 ids do not repeat. -/
theorem id_inj {i j : Nat} (first : i < 2 ^ 63) (second : j < 2 ^ 63)
    (same : Int64.ofNat i = Int64.ofNat j) : i = j := by
  have values := congrArg Int64.toInt same
  rw [Int64.toInt_ofNat_of_lt first, Int64.toInt_ofNat_of_lt second] at values
  exact_mod_cast values

theorem toUInt64_inj {i j : Int64} (same : i.toUInt64 = j.toUInt64) : i = j := by
  have back := congrArg UInt64.toInt64 same
  rwa [Int64.toInt64_toUInt64, Int64.toInt64_toUInt64] at back

/-! ## Calls -/

/-- A call is the new one, or was there before. -/
theorem allocate_lookup {service method : String} {request : Message} {response : Option Message}
    {done : Bool} {k : Nat} {call : Call Message}
    (found : (s.allocate service method request response done).calls[k]? = some call) :
    s.calls[k]? = some call ∨ (k = s.calls.length ∧
      call = ⟨service, method, request, response, done, s.client.id + 1, .allocated⟩) := by
  simp only [allocate] at found
  by_cases old : k < s.calls.length
  · left
    rwa [List.getElem?_append_left old] at found
  · right
    rw [List.getElem?_append_right (Nat.le_of_not_lt old), List.getElem?_singleton] at found
    split at found
    · cases found
      exact ⟨by omega, rfl⟩
    · cases found

theorem allocate_lookup_old {service method : String} {request : Message}
    {response : Option Message} {done : Bool} {k : Nat} {call : Call Message}
    (found : s.calls[k]? = some call) :
    (s.allocate service method request response done).calls[k]? = some call := by
  have inside : k < s.calls.length := (List.getElem?_eq_some_iff.mp found).1
  simp only [allocate]
  rw [List.getElem?_append_left inside]
  exact found

/-- Only the stage of one call changes. -/
theorem setStage_lookup (stage : CallStage) (j : Nat) {k : Nat} {call : Call Message}
    (found : s.calls[k]? = some call) : (s.setStage k call stage).calls[j]? =
      if j = k then some { call with stage := stage } else s.calls[j]? := by
  have inside : k < s.calls.length := (List.getElem?_eq_some_iff.mp found).1
  simp only [setStage, List.getElem?_set]
  by_cases same : k = j
  · subst same
    simp [inside]
  · simp [same, Ne.symm same]

/-- The same call, but for its stage. -/
def SameCall (call call' : Call Message) : Prop := call' = { call with stage := call'.stage }

theorem SameCall.id {call call' : Call Message} (same : SameCall call call') :
    call'.id = call.id := by rw [same]

theorem SameCall.out {call call' : Call Message} (same : SameCall call call') (k : Nat) :
    call'.out k = call.out k := by rw [same]; rfl

/-- A call after the step was the same call before it. -/
theorem setStage_before {k j : Nat} {call after : Call Message} {stage : CallStage}
    (found : s.calls[k]? = some call)
    (listed : (s.setStage k call stage).calls[j]? = some after) : ∃ before,
      s.calls[j]? = some before ∧ SameCall before after ∧
      ((j = k ∧ after.stage = stage) ∨ (j ≠ k ∧ after = before)) := by
  rw [setStage_lookup stage j found] at listed
  split at listed
  next same =>
    cases listed
    exact ⟨call, same ▸ found, rfl, .inl ⟨same, rfl⟩⟩
  next different => exact ⟨after, listed, rfl, .inr ⟨different, rfl⟩⟩

theorem setStage_after (stage : CallStage) {k j : Nat} {call before : Call Message}
    (found : s.calls[k]? = some call) (listed : s.calls[j]? = some before) : ∃ after,
      (s.setStage k call stage).calls[j]? = some after ∧ SameCall before after ∧
      ((j = k ∧ after.stage = stage) ∨ (j ≠ k ∧ after = before)) := by
  rw [setStage_lookup stage j found]
  by_cases same : j = k
  · subst same
    rw [found] at listed
    cases listed
    exact ⟨_, if_pos rfl, rfl, .inl ⟨rfl, rfl⟩⟩
  · exact ⟨before, by rw [if_neg same, listed], rfl, .inr ⟨same, rfl⟩⟩

theorem stageIs_iff {k : Nat} {stage : CallStage} :
    s.stageIs k stage = true ↔ ∃ call, s.calls[k]? = some call ∧ call.stage = stage := by
  unfold stageIs
  cases s.calls[k]? with
  | none => simp
  | some call => simp

/-! ## Steps -/

/-- The message makes the server call a service. -/
def Invokes (reflection : Reflection Message) (message : RpcMessage)
    (invocation : Invocation Message) : Prop :=
  message.type = .REQUEST ∧ invocation.service = message.service ∧
    invocation.method = message.method ∧ invocation.requestBytes = message.request ∧
    (∃ prototype, invocation.request = reflection.parsed prototype message.request) ∧
    invocation.id = message.id.toInt64

/-- Everything that an enabled step can do. -/
inductive Effect (reflection : Reflection Message) (s : RpcSystem Message) :
    Act Message → RpcSystem Message → Prop
  | called {service method request response done} :
      Effect reflection s (.call service method request response done)
        (s.allocate service method request response done)
  | registered {k call} (found : s.calls[k]? = some call) (stage : call.stage = .allocated) :
      Effect reflection s (.register k) (s.register k call)
  | sent {k call} (found : s.calls[k]? = some call) (stage : call.stage = .registered) :
      Effect reflection s (.send k) (s.send reflection k call)
  | unserved {message rest server} (queue : s.toServer = message :: rest) :
      Effect reflection s .deliverToServer { s with server := server, toServer := rest }
  | invoked {message rest server invocation} (queue : s.toServer = message :: rest)
      (invokes : Invokes reflection message invocation) :
      Effect reflection s .deliverToServer { s with
        server := server
        toServer := rest
        invocations := s.invocations ++ [invocation] }
  | produced {k invocation response} (found : s.invocations[k]? = some invocation) :
      Effect reflection s (.done k response) { s with
        toClient := s.toClient ++ [⟨.RESPONSE, invocation.id.toUInt64, "", "", [],
          reflection.serializeAsString response⟩]
        produced := s.produced ++ [(k, response)] }
  | forged {message} : Effect reflection s (.forge message)
      { s with toClient := s.toClient ++ [message] }
  | ignored {message rest} (queue : s.toClient = message :: rest) :
      Effect reflection s .deliverToClient { s with toClient := rest }
  | arrived {message rest} (queue : s.toClient = message :: rest)
      (type : message.type = .RESPONSE) :
      Effect reflection s .deliverToClient { s with
        client := (s.client.onResponse reflection message).1
        toClient := rest
        events := s.events ++ reported message (s.client.onResponse reflection message).2 }

/-- A request invokes the service and the method that it names, or nothing. -/
theorem callServiceMethod_ok {channel : RpcChannel Message} {message : RpcMessage}
    {reaction : Reaction Message} (type : message.type = .REQUEST)
    (success : channel.callServiceMethod reflection message = .ok reaction) :
    reaction = .nothing ∨ ∃ invocation, reaction = .invoked invocation ∧
      Invokes reflection message invocation := by
  unfold RpcChannel.callServiceMethod at success
  split at success
  · cases success
    exact .inl rfl
  · split at success
    · cases success
      exact .inl rfl
    · cases success
    · split at success
      · cases success
        exact .inl rfl
      next prototypes _ =>
        cases success
        exact .inr ⟨_, rfl, type, rfl, rfl, rfl, ⟨prototypes.request, rfl⟩, rfl⟩

theorem onRpcMessage_ok {channel channel' : RpcChannel Message} {message : RpcMessage}
    {reaction : Reaction Message}
    (success : channel.onRpcMessage reflection message = .ok (channel', reaction)) :
    (message.type = .RESPONSE ∧ (channel', reaction) = channel.onResponse reflection message) ∨
      (message.type ≠ .RESPONSE ∧ channel' = channel ∧ (reaction = .nothing ∨
        ∃ invocation, reaction = .invoked invocation ∧ Invokes reflection message invocation)) := by
  unfold RpcChannel.onRpcMessage at success
  split at success
  next type =>
    left
    exact ⟨type, (Except.ok.inj success).symm⟩
  next type =>
    right
    obtain ⟨served, returned, rest⟩ := bind_eq_ok success
    cases rest
    exact ⟨by simp [type], rfl, callServiceMethod_ok type returned⟩
  next type =>
    cases success
    exact .inr ⟨by simp [type], rfl, .inl rfl⟩
  next type =>
    cases success
    exact .inr ⟨by simp [type], rfl, .inl rfl⟩

theorem onResponse_reaction (channel : RpcChannel Message) (message : RpcMessage) :
    (channel.onResponse reflection message).2 = .nothing ∨ ∃ k received,
      (channel.onResponse reflection message).2 = .completed k received := by
  unfold RpcChannel.onResponse
  split
  · exact .inl rfl
  · simp only
    split
    next prototype call _ _ => exact .inr ⟨call, _, rfl⟩
    next => exact .inl rfl

/-- A RESPONSE takes its id out of `outstandings_`, whether it was there or not. -/
theorem onResponse_client (channel : RpcChannel Message) (message : RpcMessage) :
    (channel.onResponse reflection message).1 = { channel with
      outstandings := Function.update channel.outstandings message.id.toInt64 none } := by
  unfold RpcChannel.onResponse
  split
  next unknown =>
    have same : Function.update channel.outstandings message.id.toInt64 none =
        channel.outstandings := Function.update_eq_self_iff.mpr unknown.symm
    rw [same]
  next => rfl

/-- A response completes the call that waits under its id. -/
theorem onResponse_completed {channel : RpcChannel Message} {message : RpcMessage} {k : Nat}
    {received : Message}
    (completed : (channel.onResponse reflection message).2 = .completed k received) :
    ∃ out prototype, channel.outstandings message.id.toInt64 = some out ∧
      out.response = some prototype ∧ out.done = some k ∧
      received = reflection.parsed prototype message.response := by
  unfold RpcChannel.onResponse at completed
  split at completed
  · cases completed
  next out known =>
    simp only at completed
    split at completed
    next prototype call response done =>
      cases completed
      exact ⟨out, prototype, known, response, done, rfl⟩
    next => cases completed

/-- What one step can do, guards included. -/
theorem step_effect {a : Act Message} (allowed : s.Enabled a)
    (stepped : s.step reflection a = .ok s') : Effect reflection s a s' := by
  cases a with
  | call service method request response done =>
    cases stepped
    exact .called
  | register k =>
    obtain ⟨call, found, stage⟩ := stageIs_iff.mp allowed
    simp only [step, found] at stepped
    cases stepped
    exact .registered found stage
  | send k =>
    obtain ⟨call, found, stage⟩ := stageIs_iff.mp allowed
    simp only [step, found] at stepped
    cases stepped
    exact .sent found stage
  | deliverToServer =>
    cases queue : s.toServer with
    | nil => simp [Enabled, queue] at allowed
    | cons message rest =>
      simp only [step, queue] at stepped
      obtain ⟨⟨server, reaction⟩, handled, success⟩ := bind_eq_ok stepped
      cases success
      rcases onRpcMessage_ok handled with ⟨_, outcome⟩ | ⟨_, _, reacted⟩
      · have answer : reaction = (s.server.onResponse reflection message).2 :=
          congrArg Prod.snd outcome
        rcases @onResponse_reaction _ reflection s.server message with
          quiet | ⟨k, received, completes⟩
        · rw [answer, quiet]
          simpa using Effect.unserved queue
        · rw [answer, completes]
          simpa using Effect.unserved queue
      · rcases reacted with rfl | ⟨invocation, rfl, invokes⟩
        · simpa using Effect.unserved queue
        · exact .invoked queue invokes
  | done k response =>
    cases found : s.invocations[k]? with
    | none =>
      have outside : s.invocations.length ≤ k := List.getElem?_eq_none_iff.mp found
      have inside : k < s.invocations.length := allowed
      omega
    | some invocation =>
      simp only [step, found] at stepped
      obtain ⟨message, sent, success⟩ := bind_eq_ok stepped
      obtain ⟨_, _, built⟩ := bind_eq_ok sent
      cases success
      cases built
      exact .produced found
  | forge message =>
    cases stepped
    exact .forged
  | deliverToClient =>
    cases queue : s.toClient with
    | nil => simp [Enabled, queue] at allowed
    | cons message rest =>
      simp only [step, queue] at stepped
      obtain ⟨⟨client, reaction⟩, handled, success⟩ := bind_eq_ok stepped
      cases success
      rcases onRpcMessage_ok handled with ⟨type, outcome⟩ | ⟨type, rfl, reacted⟩
      · have same : Effect reflection s .deliverToClient _ := .arrived queue type
        rw [← outcome] at same
        exact same
      · rcases reacted with rfl | ⟨invocation, rfl, _⟩
        · simpa [reported, type] using Effect.ignored queue
        · simpa [reported, type] using Effect.ignored queue

end Starry.Source.RpcSystem
