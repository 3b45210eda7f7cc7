import Starry.Foundation.Handover
import Starry.Guarantees.FrameChunking
import Starry.Guarantees.SendBeforeShutdown
import Starry.Source.RpcServer

/-!
# Messages from one codec to another

One direction of a connection between two processes: `ProtobufCodecLite::send` gives the frame
of a message to `TcpConnection::send`, in the loop thread or in another one; what the kernel
has accepted on this side can be read on the other, in order and in pieces of any size; there
`handleRead` appends a piece to `inputBuffer_` and the loop of `onMessage` takes messages off.
The loop is one step for each of its iterations, so that whatever the message callback does
stands between two of them. Left out are the end of the stream and what follows a reported
error; none is reported.

A message whose `send` found `kConnected` is delivered at most once and unchanged, in the order
in which `sendInLoop` ran; once nothing is waiting anywhere, every one has been delivered.
-/
namespace Starry.Guarantees.MessageDelivery

open Starry.Foundation
open Starry.Source
open Starry.Source.ProtobufCodecLite
open Starry.Guarantees.FrameChunking (messagesOf)
open Starry.Guarantees.OutputIntegrity (accepted accepted_append Carries)
open Starry.Guarantees.SendBeforeShutdown (Emits Established queuedSends queuedSends_append)

structure MessagePipe (Msg : Type) where
  sender : SharedConnection
  /-- How many of the accepted bytes have been read. -/
  delivered : Nat
  /-- `inputBuffer_` of the connection on the other side. -/
  inputBuffer : Buffer
  /-- The loop of `onMessage` is running. -/
  decoding : Bool
  events : List (Event Msg)
  /-- The messages whose `send` found `kConnected`, in the order of those tests. -/
  passed : List Msg

namespace MessagePipe

variable {Msg : Type} (c : ProtobufCodecLite Msg)

/-- The bytes on their way. -/
def unread (p : MessagePipe Msg) : List UInt8 :=
  (accepted p.sender.io.seen).drop p.delivered

inductive Act (Msg : Type) where
  | sendInLoopThread (message : Msg) (result : WriteResult)
  | send (message : Msg)
  /-- Any other step of the sending connection. -/
  | connection (a : SharedConnection.Act)
  | handleRead (count : Nat)
  /-- An iteration of the loop of `onMessage`. -/
  | turn

/-- The step gives bytes to the connection. -/
def isSend : SharedConnection.Act → Bool
  | .sendInLoopThread _ _ | .send _ => true
  | _ => false

/-- The test of `state_` in `send`. -/
def note (p : MessagePipe Msg) (message : Msg) : List Msg :=
  if p.sender.io.conn.state = .kConnected then p.passed ++ [message] else p.passed

def handleRead (p : MessagePipe Msg) (count : Nat) : Except Abort (MessagePipe Msg) := do
  let out ← p.inputBuffer.readFd true (.bytes (p.unread.take count))
  return { p with delivered := p.delivered + count, inputBuffer := out.buffer, decoding := true }

/-- One iteration, with the message given to `messageCallback_`. -/
def turn (p : MessagePipe Msg) : Except Abort (MessagePipe Msg × Option Msg) := do
  match ← c.turn p.inputBuffer with
  | .stop => return ({ p with decoding := false }, none)
  | .refuse code => return ({ p with decoding := false, events := p.events ++ [.error code] }, none)
  | .deliver message rest =>
    return ({ p with inputBuffer := rest, events := p.events ++ [.message message] }, some message)

/-- A step, with the message it delivers. -/
def advance (p : MessagePipe Msg) : Act Msg → Except Abort (MessagePipe Msg × Option Msg)
  | .sendInLoopThread message result => do
    let bytes ← c.send message
    let sender ← p.sender.step (.sendInLoopThread bytes result)
    return ({ p with sender := sender, passed := p.note message }, none)
  | .send message => do
    let bytes ← c.send message
    let sender ← p.sender.step (.send bytes)
    return ({ p with sender := sender, passed := p.note message }, none)
  | .connection a => do
    let sender ← p.sender.step a
    return ({ p with sender := sender }, none)
  | .handleRead count => do
    let read ← p.handleRead count
    return (read, none)
  | .turn => p.turn c

/-- `read(2)` returns at most what is there and what the iovecs have room for, and at least
one byte. -/
def Enabled (p : MessagePipe Msg) : Act Msg → Prop
  | .sendInLoopThread _ _ | .send _ => True
  | .connection a => isSend a = false ∧ p.sender.Enabled a
  | .handleRead count => p.decoding = false ∧ 0 < count ∧ count ≤ p.unread.length ∧
      count ≤ p.inputBuffer.offered
  | .turn => p.decoding = true

def machine : Machine (MessagePipe Msg) (Act Msg) Abort where
  enabled := Enabled
  step p a := do
    let (after, _) ← p.advance c a
    return after

instance (p : MessagePipe Msg) (a : Act Msg) : Decidable (p.Enabled a) :=
  match a with
  | .sendInLoopThread _ _ | .send _ => isTrue trivial
  | .connection _ | .handleRead _ => inferInstanceAs (Decidable (_ ∧ _))
  | .turn => inferInstanceAs (Decidable (_ = _))

instance (p : MessagePipe Msg) (a : Act Msg) : Decidable ((machine c).enabled p a) :=
  inferInstanceAs (Decidable (p.Enabled a))

/-- Nothing has been sent, and nothing read. -/
def of (io : IoLoop) : MessagePipe Msg where
  sender := .of io
  delivered := 0
  inputBuffer := Buffer.new Buffer.kInitialSize
  decoding := false
  events := []
  passed := []

end MessagePipe

open MessagePipe

variable {Msg : Type} {c : ProtobufCodecLite Msg} {p p' : MessagePipe Msg}

/-- What is assumed of protobuf: a message is written in as many bytes as it reports, and
parsing inverts writing for the messages that the encoder lets pass. -/
structure Inverts (p : Protobuf Msg) : Prop where
  serialize_size : ∀ m, (p.serialize m).length = p.byteSizeLong m
  parse_serialize : ∀ m, p.isInitialized m = true → p.byteSizeLong m < 256 →
    p.parse (p.serialize m) = some m

/-- Nothing is on its way between `send` and the message callback. -/
structure Settled (p : MessagePipe Msg) : Prop where
  waiting : p.sender.sends = []
  queued : queuedSends p.sender.io.pendingFunctors = []
  buffered : p.sender.io.conn.outputBuffer.readable = []
  unread : p.unread = []
  stopped : p.decoding = false

structure Delivery (c : ProtobufCodecLite Msg) (p : MessagePipe Msg) : Prop where
  faultless : ∀ code, .error code ∉ p.events
  /-- What is delivered is a beginning of what `sendInLoop` was given. -/
  ordered : ∃ given, p.sender.given = given.map c.frame ∧ messagesOf p.events <+: given
  once : (messagesOf p.events).Subperm p.passed
  complete : Settled p → (messagesOf p.events).Perm p.passed

/-! ## The encoder -/

/-- The decoder takes the frame off. -/
def Framed (c : ProtobufCodecLite Msg) (m : Msg) : Prop :=
  ∀ later, c.look (c.frame m ++ later) = .frame m (c.frame m).length

/-- What the encoder lets pass is a frame that the decoder takes off: an uninitialised message
and one of 256 bytes or more do not get past the assertion of line 49. -/
theorem send_framed (inverts : Inverts c.protobuf) (short : c.tag.length + 259 ≤ kMaxMessageLen)
    {m : Msg} {bytes : List UInt8} (sent : c.send m = .ok bytes) :
    bytes = c.frame m ∧ Framed c m := by
  have sized := inverts.serialize_size m
  obtain ⟨buf, filled, sent⟩ := bind_eq_ok sent
  cases sent
  have initialized : c.protobuf.isInitialized m = true := by
    by_contra uninitialized
    rw [fillEmptyBuffer_refused (refuses_uninitialized (by simpa using uninitialized))] at filled
    cases filled
  have small : c.protobuf.byteSizeLong m < 256 := by
    by_contra large
    rw [fillEmptyBuffer_large sized initialized (by omega)] at filled
    cases filled
  have fits : (c.body m).length + kChecksumLen ≤ kMaxMessageLen := by
    rw [ProtobufCodecLite.body, List.length_append, sized]
    simp only [kChecksumLen]
    omega
  have holds := (fillEmptyBuffer_small sized initialized small fits Buffer.kInitialSize).of_ok filled
  exact ⟨holds.readable_eq, c.look_frame (inverts.parse_serialize m initialized small) fits⟩

/-! ## The sending connection -/

variable {s s' : SharedConnection}

/-- The messages of a connection that is used by many threads. -/
def onTheWay (s : SharedConnection) : Handover (List UInt8) where
  given := s.given
  queued := queuedSends s.io.pendingFunctors
  waiting := s.sends

/-- The message that a step takes in. -/
def entering (s : SharedConnection) : SharedConnection.Act → Option (List UInt8)
  | .sendInLoopThread message _ | .send message =>
    if s.io.conn.state = .kConnected then some message else none
  | _ => none

/-- The connection is open, and carries the messages given to `sendInLoop`. -/
structure Sending (s : SharedConnection) : Prop where
  isOpen : s.io.conn.isOpen = true
  carries : Carries s.given.flatten s.io

/-- What a step of the connection does to its messages. -/
structure Passes (s : SharedConnection) (message : Option (List UInt8)) (s' : SharedConnection) :
    Prop where
  sending : Sending s'
  moves : (onTheWay s).Moves message (onTheWay s')
  seen : ∃ observed, s'.io.seen = s.io.seen ++ observed

theorem Sending.emits {io : IoLoop} {observed : List Observation} (sending : Sending s)
    (emits : Emits s.io io observed) (carries : Carries s.given.flatten io) :
    Passes s none { s with io := io } := by
  refine ⟨⟨emits.isOpen sending.isOpen, carries⟩, ?_, observed, emits.seen⟩
  have same : onTheWay { s with io := io } = onTheWay s := by
    unfold onTheWay
    rw [emits.sends]
  rw [same]
  exact .rest _

/-- A message comes to `sendInLoop`. -/
theorem sendInLoop_gives {message : List UInt8} {result : WriteResult} (sending : Sending s)
    (success : s.sendInLoop message result = .ok s') : Sending s' ∧
      onTheWay s' = { onTheWay s with given := s.given ++ [message] } ∧
      ∃ observed, s'.io.seen = s.io.seen ++ observed := by
  obtain ⟨io, ran, success⟩ := bind_eq_ok success
  cases success
  obtain ⟨observed, emits, _⟩ := SendBeforeShutdown.sendInLoop_emits ran
  have carries := OutputIntegrity.sendInLoop_carries sending.carries sending.isOpen ran
  refine ⟨⟨emits.isOpen sending.isOpen, by simpa using carries⟩, ?_, observed, emits.seen⟩
  unfold onTheWay
  rw [emits.sends]

theorem shutdownInLoop_passes {io : IoLoop} {result : Option Errno} (sending : Sending s)
    (success : s.io.shutdownInLoop result = .ok io) : Passes s none { s with io := io } := by
  have carries := OutputIntegrity.shutdownInLoop_carries sending.carries success
  rcases SendBeforeShutdown.shutdownInLoop_emits success with ⟨_, rfl⟩ | ⟨_, _, backlog, emits⟩
  · exact sending.emits (.refl _) carries
  · exact sending.emits emits carries

theorem handleWrite_passes {io : IoLoop} {answers : Answers} (sending : Sending s)
    (success : s.io.handleWrite answers = .ok io) : Passes s none { s with io := io } := by
  have carries := OutputIntegrity.handleWrite_carries sending.carries success
  rcases SendBeforeShutdown.handleWrite_emits sending.carries success with
    rfl | ⟨_, ⟨bytes, emits⟩ | finished⟩
  · exact sending.emits (.refl _) carries
  · exact sending.emits emits carries
  · obtain ⟨bytes, backlog, emits⟩ := finished.emits
    exact sending.emits emits carries

/-- Nothing but the state, the flag and the stages of `shutdown` has changed. -/
theorem Sending.disconnect (sending : Sending s) :
    Sending { s with io := s.io.setState .kDisconnecting } :=
  ⟨rfl, sending.carries.intact, sending.carries.quiet⟩

theorem noteEarly_eq (s : SharedConnection) (message : List UInt8) :
    ∃ early, s.noteEarly message = { s with early := early } := by
  unfold SharedConnection.noteEarly
  split
  · exact ⟨s.early, rfl⟩
  · exact ⟨_, rfl⟩

/-- The queue of the loop without its first functor. -/
theorem popped_line {functor : LoopFunctor} {rest : List LoopFunctor}
    (front : s.io.pendingFunctors = functor :: rest) :
    queuedSends s.io.pendingFunctors =
      (SendBeforeShutdown.sendOf functor).toList ++ queuedSends rest := by
  rw [front, queuedSends, List.filterMap_cons]
  cases SendBeforeShutdown.sendOf functor with
  | none => rfl
  | some message => rfl

theorem runFunctor_passes {answers : Answers} (sending : Sending s)
    (stepped : s.step (.runFunctor answers) = .ok s') : Passes s none s' := by
  simp only [SharedConnection.step] at stepped
  cases front : s.io.pendingFunctors with
  | nil =>
    rw [front] at stepped
    cases stepped
    exact ⟨sending, .rest _, [], by simp⟩
  | cons functor rest =>
    rw [front] at stepped
    have split := popped_line front
    have popped : Sending { s with io := { s.io with pendingFunctors := rest } } :=
      ⟨sending.isOpen, sending.carries.intact, sending.carries.quiet⟩
    -- a functor that is no message leaves the queue of messages as it was
    have other (plain : SendBeforeShutdown.sendOf functor = none)
        (later : Passes { s with io := { s.io with pendingFunctors := rest } } none s') :
        Passes s none s' := by
      refine ⟨later.sending, ?_, later.seen⟩
      have same : onTheWay { s with io := { s.io with pendingFunctors := rest } } = onTheWay s := by
        unfold onTheWay
        rw [split, plain]
        rfl
      rw [← same]
      exact later.moves
    cases functor with
    | sendInLoop message =>
      obtain ⟨still, given, seen⟩ := sendInLoop_gives popped stepped
      refine ⟨still, ?_, seen⟩
      rw [given]
      exact @Handover.Moves.take _ (onTheWay s) _ _ split
    | shutdownInLoop =>
      obtain ⟨io, ran, stepped⟩ := bind_eq_ok stepped
      cases stepped
      exact other rfl (shutdownInLoop_passes popped ran)
    | writeCompleteCallback | highWaterMarkCallback backlog =>
      cases stepped
      refine other rfl (popped.emits (SendBeforeShutdown.observe_emits _ _) ⟨?_, ?_⟩)
      · simpa [IoLoop.observe, accepted_append, accepted] using popped.carries.intact
      · simpa [IoLoop.observe] using popped.carries.quiet
    | forceCloseInLoop | startReadInLoop | stopReadInLoop | connectDestroyed =>
      cases stepped
      exact other rfl ⟨popped, .rest _, [], by simp⟩

/-- In every step, one message enters at most, and what passes on has entered before. -/
theorem step_passes {a : SharedConnection.Act} (sending : Sending s) (enabled : s.Enabled a)
    (stepped : s.step a = .ok s') : Passes s (entering s a) s' := by
  cases a with
  | sendInLoopThread message result =>
    simp only [SharedConnection.step] at stepped
    split at stepped
    next connected =>
      obtain ⟨early, noted⟩ := noteEarly_eq s message
      rw [noted] at stepped
      obtain ⟨still, given, seen⟩ := @sendInLoop_gives { s with early := early } _ _ _
        ⟨sending.isOpen, sending.carries⟩ stepped
      refine ⟨still, ?_, seen⟩
      rw [given, entering, if_pos connected]
      exact .give (onTheWay s) message
    next closing =>
      cases stepped
      rw [entering, if_neg closing]
      exact ⟨sending, .rest _, [], by simp⟩
  | send message =>
    simp only [SharedConnection.step] at stepped
    split at stepped
    next connected =>
      obtain ⟨early, noted⟩ := noteEarly_eq s message
      rw [noted] at stepped
      cases stepped
      rw [entering, if_pos connected]
      exact ⟨⟨sending.isOpen, sending.carries⟩, .wait (onTheWay s) message, [], by simp⟩
    next closing =>
      cases stepped
      rw [entering, if_neg closing]
      exact ⟨sending, .rest _, [], by simp⟩
  | queueSend index =>
    simp only [SharedConnection.step] at stepped
    split at stepped
    next =>
      cases stepped
      exact ⟨sending, .rest _, [], by simp⟩
    next message found =>
      cases stepped
      obtain ⟨inside, rfl⟩ := List.getElem?_eq_some_iff.mp found
      refine ⟨⟨sending.isOpen, sending.carries.intact, sending.carries.quiet⟩, ?_, [], by
        simp [IoLoop.queueInLoop]⟩
      have split : (onTheWay s).waiting =
          s.sends.take index ++ s.sends[index] :: s.sends.drop (index + 1) := by
        rw [← List.drop_eq_getElem_cons inside, List.take_append_drop]
        rfl
      have queued := Handover.Moves.queue split
      rw [← List.eraseIdx_eq_take_drop_succ] at queued
      simpa [onTheWay, IoLoop.queueInLoop, queuedSends, SendBeforeShutdown.sendOf, entering]
        using queued
  | shutdownInLoopThread result =>
    obtain ⟨io, ran, stepped⟩ := bind_eq_ok stepped
    cases stepped
    simp only [IoLoop.shutdown, IoLoop.runInLoop, if_true] at ran
    split at ran
    next =>
      obtain ⟨still, moves, seen⟩ := shutdownInLoop_passes sending.disconnect ran
      exact ⟨⟨still.isOpen, still.carries⟩, moves, seen⟩
    next =>
      cases ran
      exact ⟨⟨sending.isOpen, sending.carries⟩, .rest _, [], by simp⟩
  | shutdown =>
    simp only [SharedConnection.step] at stepped
    split at stepped
    all_goals
      cases stepped
      exact ⟨⟨sending.isOpen, sending.carries⟩, .rest _, [], by simp⟩
  | setDisconnecting index =>
    cases stepped
    exact ⟨⟨rfl, sending.disconnect.carries⟩, .rest _, [], by simp [IoLoop.setState]⟩
  | queueShutdown index =>
    cases stepped
    refine ⟨⟨sending.isOpen, sending.carries.intact, sending.carries.quiet⟩, ?_, [], by
      simp [IoLoop.queueInLoop]⟩
    have same : queuedSends (s.io.pendingFunctors ++ [.shutdownInLoop]) =
        queuedSends s.io.pendingFunctors := by
      rw [queuedSends_append]
      exact List.append_nil _
    unfold onTheWay
    dsimp only [IoLoop.queueInLoop]
    rw [same]
    exact .rest _
  | runFunctor answers => exact runFunctor_passes sending stepped
  | handleWrite answers =>
    obtain ⟨io, ran, stepped⟩ := bind_eq_ok stepped
    cases stepped
    exact handleWrite_passes sending ran

/-! ## The invariant -/

/-- What the reader has made of the bytes it has read. -/
structure Reading (c : ProtobufCodecLite Msg) (p : MessagePipe Msg) (done : List Msg) : Prop where
  events : p.events = done.map .message
  read : p.delivered ≤ (accepted p.sender.io.seen).length
  content : ∃ content, p.inputBuffer.Represents content ∧
    (done.map c.frame).flatten ++ content = (accepted p.sender.io.seen).take p.delivered ∧
    (p.decoding = false → c.look content = .more)

structure Flow (c : ProtobufCodecLite Msg) (p : MessagePipe Msg) (line : Handover Msg)
    (done : List Msg) : Prop where
  sending : Sending p.sender
  coded : onTheWay p.sender = line.map c.frame
  passed : line.all.Perm p.passed
  framed : ∀ m ∈ line.all, Framed c m
  reading : Reading c p done
  ordered : done <+: line.given

/-- Nothing was sent before the connection was established. -/
theorem Established.sending {io : IoLoop} (established : Established io) : Sending (.of io) := by
  refine ⟨?_, established.unused.carries⟩
  change io.conn.isOpen = true
  simp [TcpConnection.isOpen, established.connected]

theorem flow_start {io : IoLoop} (established : Established io) :
    Flow c (.of io) ⟨[], [], []⟩ [] := by
  have empty : c.look [] = .more := by simp [look, kChecksumLen]
  refine ⟨Established.sending established, ?_, .refl _, by simp [Handover.all], ?_, List.prefix_refl _⟩
  · simp [onTheWay, MessagePipe.of, SharedConnection.of, established.pending, queuedSends,
      Handover.map]
  · exact ⟨rfl, Nat.zero_le _, [], Buffer.new_represents _, rfl, fun _ => empty⟩

/-- More bytes accepted make no difference to what has been read. -/
theorem Reading.grow {done passed : List Msg} {sender : SharedConnection} {observed : List Observation}
    (reading : Reading c p done) (seen : sender.io.seen = p.sender.io.seen ++ observed) :
    Reading c { p with sender := sender, passed := passed } done := by
  obtain ⟨events, read, content, rep, whole, waits⟩ := reading
  refine ⟨events, ?_, content, rep, ?_, waits⟩
  · dsimp only
    rw [seen, accepted_append, List.length_append]
    omega
  · dsimp only
    rw [seen, accepted_append, List.take_append_of_le_length read]
    exact whole

theorem Flow.passes {line : Handover Msg} {done : List Msg} {message : Option Msg}
    {sender : SharedConnection} (flow : Flow c p line done)
    (passes : Passes p.sender (message.map c.frame) sender) (framed : ∀ m ∈ message, Framed c m) :
    ∃ line', Flow c { p with sender := sender, passed := p.passed ++ message.toList } line' done := by
  obtain ⟨sending, moves, observed, seen⟩ := passes
  rw [flow.coded] at moves
  obtain ⟨line', moved, coded⟩ := moves.of_map
  have all := moved.all
  refine ⟨line', sending, coded, all.trans (flow.passed.append_right _), ?_,
    flow.reading.grow seen, flow.ordered.trans moved.given_prefix⟩
  intro m member
  rcases List.mem_append.mp (all.mem_iff.mp member) with old | new
  · exact flow.framed m old
  · exact framed m (by simpa using new)

/-- A message is encoded and given to the connection. -/
theorem Flow.sends {line : Handover Msg} {done : List Msg} {m : Msg} {bytes : List UInt8}
    {sender : SharedConnection} {a : SharedConnection.Act} (inverts : Inverts c.protobuf)
    (short : c.tag.length + 259 ≤ kMaxMessageLen) (flow : Flow c p line done)
    (encoded : c.send m = .ok bytes) (enabled : p.sender.Enabled a)
    (takes : entering p.sender a = if p.sender.io.conn.state = .kConnected then some bytes else none)
    (stepped : p.sender.step a = .ok sender) :
    ∃ line', Flow c { p with sender := sender, passed := p.note m } line' done := by
  obtain ⟨rfl, framed⟩ := send_framed inverts short encoded
  have passes := step_passes flow.sending enabled stepped
  rw [takes] at passes
  unfold MessagePipe.note
  split at passes
  next connected =>
    rw [if_pos connected]
    exact @Flow.passes _ _ _ _ _ (some m) _ flow passes (by simpa using framed)
  next closing =>
    rw [if_neg closing]
    have same := @Flow.passes _ _ _ _ _ none _ flow passes (by simp)
    simpa using same

/-- Bytes that are read leave the socket for the input buffer, in order. -/
theorem Flow.handleRead {line : Handover Msg} {done : List Msg} {count : Nat}
    (flow : Flow c p line done) (there : count ≤ p.unread.length)
    (success : p.handleRead count = .ok p') : Flow c p' line done := by
  obtain ⟨sending, coded, passed, framed, ⟨events, read, content, rep, whole, _⟩, ordered⟩ := flow
  obtain ⟨out, filled, success⟩ := bind_eq_ok success
  cases success
  refine ⟨sending, coded, passed, framed, ⟨events, ?_, content ++ p.unread.take count, ?_, ?_, ?_⟩,
    ordered⟩
  · rw [MessagePipe.unread, List.length_drop] at there
    dsimp only
    omega
  · exact Buffer.readFd_ok rep filled
  · rw [← List.append_assoc, whole, MessagePipe.unread]
    exact List.take_add.symm
  · exact fun impossible => by cases impossible

/-- The reader holds a beginning of the frames still to be taken off. -/
theorem Flow.ahead {line : Handover Msg} {done content : List Msg} {bytes : List UInt8}
    (flow : Flow c p line done) (later : line.given = done ++ content)
    (whole : (done.map c.frame).flatten ++ bytes = (accepted p.sender.io.seen).take p.delivered) :
    bytes <+: (content.map c.frame).flatten := by
  obtain ⟨pending, _, sent, _⟩ := flow.sending.carries.intact
  have given : p.sender.given = line.given.map c.frame := congrArg Handover.given flow.coded
  rw [given, later, List.map_append, List.flatten_append] at sent
  have front : (done.map c.frame).flatten ++ bytes <+:
      (done.map c.frame).flatten ++ (content.map c.frame).flatten := by
    rw [whole, ← sent]
    exact (List.take_prefix _ _).trans (List.prefix_append _ _)
  exact (List.prefix_append_right_inj _).mp front

/-- What an iteration finds at the front is nothing yet, or the next message. -/
theorem look_ahead {content : List Msg} {bytes : List UInt8} (framed : ∀ m ∈ content, Framed c m)
    (ahead : bytes <+: (content.map c.frame).flatten) : c.look bytes = .more ∨
      ∃ m later, content = m :: later ∧ c.look bytes = .frame m (c.frame m).length := by
  by_cases waits : c.look bytes = .more
  · exact .inl waits
  · right
    obtain ⟨rest, whole⟩ := ahead
    have same := c.look_stable rest waits
    rw [whole] at same
    cases content with
    | nil =>
      have empty : bytes = [] := (List.append_eq_nil_iff.mp whole).1
      rw [empty] at waits
      exact absurd (by simp [look, kChecksumLen]) waits
    | cons m later =>
      refine ⟨m, later, rfl, ?_⟩
      rw [← same]
      exact framed m List.mem_cons_self _

theorem Flow.turn {line : Handover Msg} {done : List Msg} {delivered : Option Msg}
    (flow : Flow c p line done) (running : p.decoding = true)
    (success : p.turn c = .ok (p', delivered)) : Flow c p' line (done ++ delivered.toList) := by
  obtain ⟨content, later⟩ := flow.ordered
  obtain ⟨bytes, rep, whole, waits⟩ := flow.reading.content
  have ahead := flow.ahead later.symm whole
  have framed : ∀ m ∈ content, Framed c m := fun m member => flow.framed m (by
    rw [Handover.all, ← later]
    simp [member])
  obtain ⟨turn, turned, success⟩ := bind_eq_ok success
  have agrees := (c.turn_yields rep).of_ok turned
  obtain ⟨sending, coded, passed, allFramed, ⟨events, read, _⟩, ordered⟩ := flow
  rcases look_ahead framed ahead with more | ⟨m, rest, rfl, taken⟩
  · rw [more] at agrees
    cases turn with
    | stop =>
      cases success
      simp only [Option.toList_none, List.append_nil]
      exact ⟨sending, coded, passed, allFramed, ⟨events, read, bytes, rep, whole, fun _ => more⟩,
        ordered⟩
    | refuse code => exact agrees.elim
    | deliver message left => exact agrees.elim
  · rw [taken] at agrees
    cases turn with
    | stop => exact agrees.elim
    | refuse code => exact agrees.elim
    | deliver message left =>
      obtain ⟨rfl, dropped⟩ := agrees
      cases success
      have inside := (c.look_frame_size taken).2
      -- the frame stands whole at the front of what has been read
      have front : bytes = c.frame message ++ bytes.drop (c.frame message).length := by
        have start : c.frame message <+: bytes := by
          refine List.prefix_of_prefix_length_le ?_ ahead inside
          rw [List.map_cons, List.flatten_cons]
          exact List.prefix_append _ _
        rw [← List.prefix_iff_eq_append.mp start]
        simp
      refine ⟨sending, coded, passed, allFramed, ⟨?_, read, _, dropped, ?_, ?_⟩, ?_⟩
      · simp [events]
      · dsimp only
        rw [← whole]
        simp only [Option.toList_some, List.map_append, List.map_singleton, List.flatten_append,
          List.flatten_singleton, List.append_assoc]
        rw [← front]
      · intro stopped
        cases running.symm.trans stopped
      · rw [← later]
        exact ⟨rest, by simp⟩

/-! ## Every step -/

variable (inverts : Inverts c.protobuf) (short : c.tag.length + 259 ≤ kMaxMessageLen)
include inverts short

theorem Flow.advance {line : Handover Msg} {done : List Msg} {delivered : Option Msg} {a : Act Msg}
    (flow : Flow c p line done) (enabled : p.Enabled a)
    (stepped : p.advance c a = .ok (p', delivered)) :
    ∃ line', Flow c p' line' (done ++ delivered.toList) := by
  cases a with
  | sendInLoopThread message result =>
    obtain ⟨bytes, encoded, stepped⟩ := bind_eq_ok stepped
    obtain ⟨sender, moved, returned⟩ := bind_eq_ok stepped
    cases returned
    simpa using flow.sends (a := .sendInLoopThread bytes result) inverts short encoded trivial rfl
      moved
  | send message =>
    obtain ⟨bytes, encoded, stepped⟩ := bind_eq_ok stepped
    obtain ⟨sender, moved, returned⟩ := bind_eq_ok stepped
    cases returned
    simpa using flow.sends (a := .send bytes) inverts short encoded trivial rfl moved
  | connection a =>
    obtain ⟨sender, moved, returned⟩ := bind_eq_ok stepped
    cases returned
    have passes := step_passes flow.sending enabled.2 moved
    have nothing : entering p.sender a = none := by
      cases a with
      | sendInLoopThread _ _ | send _ => cases enabled.1
      | _ => rfl
    rw [nothing] at passes
    simpa using @Flow.passes _ _ _ _ _ none _ flow passes (by simp)
  | handleRead count =>
    obtain ⟨read, success, returned⟩ := bind_eq_ok stepped
    cases returned
    exact ⟨line, by simpa using flow.handleRead enabled.2.2.1 success⟩
  | turn => exact ⟨line, flow.turn enabled stepped⟩

theorem run_flow {io : IoLoop} {actions : List (Act Msg)} (established : Established io)
    (run : (machine c).Run (.of io) actions p) : ∃ line done, Flow c p line done := by
  refine @Machine.Run.invariant _ _ _ (machine c) (fun p => ∃ line done, Flow c p line done) _ _ _
    ?_ ⟨_, _, flow_start established⟩ run
  rintro p a p' ⟨line, done, flow⟩ enabled stepped
  obtain ⟨⟨after, delivered⟩, advanced, returned⟩ := bind_eq_ok stepped
  cases returned
  obtain ⟨line', later⟩ := flow.advance inverts short enabled advanced
  exact ⟨line', _, later⟩

omit inverts short

/-- The decoder has delivered the messages that are done. -/
theorem Reading.messages {done : List Msg} (reading : Reading c p done) :
    messagesOf p.events = done := by
  rw [reading.events]
  clear reading
  induction done with
  | nil => rfl
  | cons m done ih => simp [messagesOf, ih]

/-- Once nothing is on its way, the reader has been given every message. -/
theorem Flow.all_done {line : Handover Msg} {done : List Msg} (flow : Flow c p line done)
    (settled : Settled p) : done = line.all := by
  obtain ⟨content, later⟩ := flow.ordered
  obtain ⟨bytes, _, whole, waits⟩ := flow.reading.content
  obtain ⟨pending, rep, sent, _⟩ := flow.sending.carries.intact
  have given : p.sender.given = line.given.map c.frame := congrArg Handover.given flow.coded
  have queued : line.queued = [] := by
    have same : queuedSends p.sender.io.pendingFunctors = line.queued.map c.frame :=
      congrArg Handover.queued flow.coded
    exact List.map_eq_nil_iff.mp (same.symm.trans settled.queued)
  have waiting : line.waiting = [] := by
    have same : p.sender.sends = line.waiting.map c.frame := congrArg Handover.waiting flow.coded
    exact List.map_eq_nil_iff.mp (same.symm.trans settled.waiting)
  have all_read : (accepted p.sender.io.seen).take p.delivered = accepted p.sender.io.seen :=
    List.take_of_length_le (List.drop_eq_nil_iff.mp settled.unread)
  have nothing : pending = [] := rep.readable_eq.symm.trans settled.buffered
  have bytes_eq : bytes = (content.map c.frame).flatten := by
    rw [all_read] at whole
    rw [nothing, List.append_nil, given, ← later, List.map_append, List.flatten_append] at sent
    exact List.append_cancel_left (whole.trans sent)
  have none_left : content = [] := by
    cases content with
    | nil => rfl
    | cons m rest =>
      have taken := flow.framed m (by simp [Handover.all, ← later]) (rest.map c.frame).flatten
      have more := waits settled.stopped
      rw [bytes_eq, List.map_cons, List.flatten_cons, taken] at more
      cases more
  rw [Handover.all, queued, waiting, ← later, none_left]
  simp

theorem Flow.delivery {line : Handover Msg} {done : List Msg} (flow : Flow c p line done) :
    Delivery c p := by
  have messages := flow.reading.messages
  refine ⟨?_, ⟨line.given, congrArg Handover.given flow.coded, ?_⟩, ?_, ?_⟩
  · intro code member
    rw [flow.reading.events] at member
    simp at member
  · rw [messages]
    exact flow.ordered
  · rw [messages]
    refine flow.passed.subperm_left.mp ?_
    exact (flow.ordered.sublist.trans (List.sublist_append_left _ _)).subperm
  · intro settled
    rw [messages, flow.all_done settled]
    exact flow.passed

/-- For every codec over a conforming protobuf, every established connection, every order of
the calls of any threads, of the writes and of the reads, and whatever sizes the kernel
chooses. -/
theorem messages_delivered {io : IoLoop} {actions : List (Act Msg)} (inverts : Inverts c.protobuf)
    (short : c.tag.length + 259 ≤ kMaxMessageLen) (established : Established io)
    (run : (machine c).Run (.of io) actions p) : Delivery c p := by
  obtain ⟨line, done, flow⟩ := run_flow inverts short established run
  exact flow.delivery

theorem rpc_inverts : Inverts RequestMessage.protobuf where
  serialize_size _ := rfl
  parse_serialize m _ _ := RequestMessage.parse_serialize m

def firstRequest : RequestMessage := ⟨[11, 12, 13], by decide⟩

def secondRequest : RequestMessage := ⟨[4], by decide⟩

/-- Another thread sends the first request, which the loop thread overtakes with the second;
the kernel takes them in three pieces, and they are read in three others. -/
def overtaking : List (Act RequestMessage) :=
  [.send firstRequest, .sendInLoopThread secondRequest (.wrote 5), .connection (.queueSend 0),
    .connection (.runFunctor ⟨.bytes [], .wrote 0, none⟩), .handleRead 4, .turn,
    .connection (.handleWrite ⟨.bytes [], .wrote 12, none⟩), .handleRead 12, .turn, .turn,
    .connection (.handleWrite ⟨.bytes [], .wrote 15, none⟩), .handleRead 16, .turn, .turn]

/-- A message of the loop thread overtakes one of another thread, and both arrive in the order in
which they were passed. -/
theorem messages_delivered_overtaking : ∃ p,
    (machine rpcCodec).Run (.of OutputIntegrity.smallConnection) overtaking p ∧
    messagesOf p.events = [secondRequest, firstRequest] ∧ p.passed = [firstRequest, secondRequest] ∧
    Delivery rpcCodec p := by
  obtain ⟨p, run, holds⟩ := (machine rpcCodec).exists_run_of_exec
    (.of OutputIntegrity.smallConnection) overtaking
    (fun p => decide (messagesOf p.events = [secondRequest, firstRequest] ∧
      p.passed = [firstRequest, secondRequest])) (by decide +kernel)
  obtain ⟨delivered, passed⟩ := of_decide_eq_true holds
  exact ⟨p, run, delivered, passed, messages_delivered rpc_inverts (by decide)
    SendBeforeShutdown.smallConnection_established run⟩

end Starry.Guarantees.MessageDelivery
