import Starry.Guarantees.RpcReplies
import Starry.Source.RpcClient

/-!
# Calls that nobody answers any more

A call is taken out of `outstandings_` by a RESPONSE with its id, and by nothing else: the
branch of `onRpcMessage` for an ERROR and the body of `onDisconnect` are empty, and
`CallMethod` registers the call before a send that drops the request without a word when the
connection is not there.

`unorphaned_iff` names the steps after which a call is left behind: an ERROR for a call that
waits, a disconnection while calls wait, and a send that is dropped while its call waits.
-/
namespace Starry.Guarantees.OrphanedCalls

open Starry.Foundation
open Starry.Source
open Starry.Source.RpcClient

variable {Message : Type}

/-- The state of the connection in `conn_`. -/
def connectionState (s : RpcClient Message) : Option StateE :=
  s.conn.bind fun connection => s.connections[connection]?

/-- The call whose request this step drops because of the state of the connection. -/
def discardedBy (s : RpcClient Message) : Act Message → Option (ClientCall Message)
  | .send k _ => if connectionState s = some .kConnected then none else s.calls[k]?
  | .sendInLoop =>
    match s.queued with
    | [] => none
    | functor :: _ =>
      if s.connections[functor.connection]? = some .kDisconnected then s.calls[functor.call]?
      else none
  | _ => none

structure Unorphaned (s : RpcClient Message) (a : Act Message) (t : RpcClient Message) : Prop where
  answered : ∀ message, a = .receive message → message.type = .RESPONSE ∨ message.type = .ERROR →
    t.channel.outstandings message.id.toInt64 = none
  disconnected : a = .onDisconnect → ∀ id, t.channel.outstandings id = none
  discarded : ∀ call, discardedBy s a = some call → t.channel.outstandings call.id = call.before

/-- No ERROR comes for a call that waits, no calls wait at a disconnection, and a request that
is dropped belongs to a call that no longer waits. -/
def Settled (s : RpcClient Message) (a : Act Message) : Prop :=
  match a with
  | .receive message => message.type = .ERROR → s.channel.outstandings message.id.toInt64 = none
  | .onDisconnect => ∀ id, s.channel.outstandings id = none
  | a => ∀ call, discardedBy s a = some call → s.channel.outstandings call.id = call.before

variable {reflection : Reflection Message} {codec : ProtobufCodecLite RpcMessage}
  {s t : RpcClient Message}

/-! ## One step -/

theorem onResponse_erases (channel : RpcChannel Message) (message : RpcMessage) :
    (channel.onResponse reflection message).1.outstandings message.id.toInt64 = none := by
  unfold RpcChannel.onResponse
  split
  next missing => exact missing
  next => exact Function.update_self _ _ _

/-- Only a RESPONSE changes the table. -/
theorem onRpcMessage_outstandings {channel : RpcChannel Message} {message : RpcMessage}
    {out : RpcChannel Message × Reaction Message}
    (success : channel.onRpcMessage reflection message = .ok out) :
    (message.type = .RESPONSE ∧ out.1.outstandings message.id.toInt64 = none) ∨
      (message.type ≠ .RESPONSE ∧ out.1.outstandings = channel.outstandings) := by
  unfold RpcChannel.onRpcMessage at success
  split at success
  next response =>
    cases success
    exact .inl ⟨response, onResponse_erases channel message⟩
  next request =>
    obtain ⟨reaction, _, returned⟩ := bind_eq_ok success
    cases returned
    exact .inr ⟨by simp [request], rfl⟩
  next error =>
    cases success
    exact .inr ⟨by simp [error], rfl⟩
  next unknown =>
    cases success
    exact .inr ⟨by simp [unknown], rfl⟩

theorem sendInLoop_channel (functor : QueuedSend) : (s.sendInLoop functor).channel = s.channel := by
  unfold RpcClient.sendInLoop
  split <;> rfl

theorem sendOn_channel (functor : QueuedSend) (state : StateE) (inLoopThread : Bool) :
    (s.sendOn functor state inLoopThread).channel = s.channel := by
  unfold RpcClient.sendOn
  split
  · split
    · exact sendInLoop_channel functor
    · rfl
  · rfl

/-- Whatever becomes of the request, `send` does not look at the table again. -/
theorem send_channel {k : Nat} {call : ClientCall Message} {inLoopThread : Bool}
    (success : s.send reflection codec k call inLoopThread = .ok t) : t.channel = s.channel := by
  obtain ⟨bytes, _, rest⟩ := bind_eq_ok success
  split at rest
  next => cases rest
  next =>
    split at rest
    next => cases rest
    next =>
      cases rest
      exact sendOn_channel _ _ _

theorem receive_unorphaned {message : RpcMessage}
    (stepped : s.step reflection codec (.receive message) = .ok t) :
    Settled s (.receive message) ↔ Unorphaned s (.receive message) t := by
  obtain ⟨⟨channel, reaction⟩, success, returned⟩ := bind_eq_ok stepped
  cases returned
  have only : ∀ call, discardedBy s (.receive message) ≠ some call := fun _ => by
    simp [discardedBy]
  constructor
  · intro settled
    refine ⟨?_, fun impossible => (by cases impossible), fun call gone => absurd gone (only call)⟩
    intro received same kind
    cases same
    rcases onRpcMessage_outstandings success with ⟨_, erased⟩ | ⟨other, unchanged⟩
    · exact erased
    · simp only at unchanged
      rw [unchanged]
      exact settled (kind.resolve_left other)
  · intro unorphaned error
    rcases onRpcMessage_outstandings success with ⟨response, _⟩ | ⟨_, unchanged⟩
    · rw [error] at response
      cases response
    · have gone := unorphaned.answered message rfl (.inr error)
      simp only at unchanged gone
      rwa [unchanged] at gone

/-- A step that does not touch the table, and is neither a message nor a disconnection. -/
theorem unorphaned_of_same {a : Act Message} (same : t.channel.outstandings = s.channel.outstandings)
    (silent : ∀ message, a ≠ .receive message) (present : a ≠ .onDisconnect) :
    (∀ call, discardedBy s a = some call → s.channel.outstandings call.id = call.before) ↔
      Unorphaned s a t := by
  constructor
  · intro settled
    refine ⟨fun message received => absurd received (silent message),
      fun leaving => absurd leaving present, ?_⟩
    rw [same]
    exact settled
  · intro unorphaned call gone
    rw [← same]
    exact unorphaned.discarded call gone

/-- A step that drops no request, and is neither a message nor a disconnection. -/
theorem unorphaned_of_kept {a : Act Message} (kept : discardedBy s a = none)
    (silent : ∀ message, a ≠ .receive message) (present : a ≠ .onDisconnect) : Unorphaned s a t := by
  refine ⟨fun message received => absurd received (silent message),
    fun leaving => absurd leaving present, ?_⟩
  intro call gone
  rw [kept] at gone
  cases gone

theorem step_unorphaned {a : Act Message} (stepped : s.step reflection codec a = .ok t) :
    Settled s a ↔ Unorphaned s a t := by
  cases a with
  | receive message => exact receive_unorphaned stepped
  | onDisconnect =>
    cases stepped
    constructor
    · intro settled
      exact ⟨fun message impossible => (by cases impossible), fun _ => settled,
        fun call gone => (by simp [discardedBy] at gone)⟩
    · intro unorphaned
      exact unorphaned.disconnected rfl
  | send k inLoopThread =>
    refine unorphaned_of_same ?_ (by simp) (by simp)
    simp only [RpcClient.step] at stepped
    split at stepped
    next =>
      cases stepped
      rfl
    next => rw [send_channel stepped]
  | sendInLoop =>
    refine unorphaned_of_same ?_ (by simp) (by simp)
    simp only [RpcClient.step] at stepped
    split at stepped
    next =>
      cases stepped
      rfl
    next =>
      cases stepped
      rw [sendInLoop_channel]
  | connection | stateChanges | setConnection | call | register =>
    refine iff_of_true ?_ (unorphaned_of_kept rfl (by simp) (by simp))
    simp [Settled, discardedBy]

/-! ## Every run -/

/-- The runs in which no call is left behind are those in which no ERROR comes for a call that
waits, no calls wait at a disconnection, and no request of a call that waits is dropped. -/
theorem unorphaned_iff (reflection : Reflection Message) (codec : ProtobufCodecLite RpcMessage)
    (services : Option (ServiceMap Message)) {actions : List (Act Message)} :
    ((machine reflection codec).restrict Settled).Run (.new services) actions s ↔
      ((machine reflection codec).ensuring Unorphaned).Run (.new services) actions s := by
  refine @Machine.restrict_iff_ensuring _ _ _ (machine reflection codec) _ _ (fun _ => True) _ _ _
    ?_ ?_ trivial
  · intro s a t _ _ stepped
    exact step_unorphaned stepped
  · intro s a t _ _ _ _
    trivial

/-- A call over a connection in this state, up to the registration. -/
def echoCall (state : StateE) : List (Act (String × List UInt8)) :=
  [.connection state, .setConnection (some 0),
    .call "test.Echo" "echo" ("EchoRequest", [10, 1, 65]) (some ("EchoResponse", [])) true,
    .register 0]

def echoError : RpcMessage where
  type := .ERROR
  id := 1
  service := ""
  method := ""
  request := []
  response := []

/-- The request of a new call is dropped, and its entry is there. -/
def leavesEntry (s : RpcClient (String × List UInt8)) : Bool :=
  match discardedBy s (.send 0 false),
    s.step RpcReplies.echoReflection RpcReplies.echoCodec (.send 0 false) with
  | some call, .ok t => call.before.isNone && (t.channel.outstandings call.id).isSome
  | _, _ => false

/-- A call is answered by an ERROR, or the connection goes down, and its entry stays; and a call
over a connection that is down leaves an entry. -/
theorem calls_left_behind :
    (∃ s, (machine RpcReplies.echoReflection RpcReplies.echoCodec).Run (.new none)
        (echoCall .kConnected ++ [.send 0 true, .receive echoError]) s ∧
      ∀ before, ¬ Unorphaned before (.receive echoError) s) ∧
    (∃ s, (machine RpcReplies.echoReflection RpcReplies.echoCodec).Run (.new none)
        (echoCall .kConnected ++ [.send 0 true, .stateChanges 0 .kDisconnected, .onDisconnect]) s ∧
      ∀ before, ¬ Unorphaned before .onDisconnect s) ∧
    ∃ s t, (machine RpcReplies.echoReflection RpcReplies.echoCodec).Run (.new none)
        (echoCall .kDisconnected) s ∧
      s.step RpcReplies.echoReflection RpcReplies.echoCodec (.send 0 false) = .ok t ∧
      ¬ Unorphaned s (.send 0 false) t := by
  refine ⟨?_, ?_, ?_⟩
  · obtain ⟨s, run, holds⟩ :=
      (machine RpcReplies.echoReflection RpcReplies.echoCodec).exists_run_of_exec (.new none)
        (echoCall .kConnected ++ ([.send 0 true, .receive echoError] : List (Act _)))
        (fun s => (s.channel.outstandings 1).isSome) (by decide +kernel)
    refine ⟨s, run, fun before unorphaned => ?_⟩
    have gone := unorphaned.answered echoError rfl (.inr rfl)
    rw [show echoError.id.toInt64 = 1 from rfl] at gone
    simp [gone] at holds
  · obtain ⟨s, run, holds⟩ :=
      (machine RpcReplies.echoReflection RpcReplies.echoCodec).exists_run_of_exec (.new none)
        (echoCall .kConnected ++
          ([.send 0 true, .stateChanges 0 .kDisconnected, .onDisconnect] : List (Act _)))
        (fun s => (s.channel.outstandings 1).isSome) (by decide +kernel)
    refine ⟨s, run, fun before unorphaned => ?_⟩
    simp [unorphaned.disconnected rfl 1] at holds
  · obtain ⟨s, run, holds⟩ :=
      (machine RpcReplies.echoReflection RpcReplies.echoCodec).exists_run_of_exec (.new none)
        (echoCall .kDisconnected) leavesEntry (by decide +kernel)
    unfold leavesEntry at holds
    split at holds
    next call t dropped stepped =>
      refine ⟨s, t, run, stepped, fun unorphaned => ?_⟩
      rw [unorphaned.discarded call dropped, Bool.and_eq_true, Option.isNone_iff_eq_none] at holds
      simp [holds.1] at holds
    next => cases holds

end Starry.Guarantees.OrphanedCalls
