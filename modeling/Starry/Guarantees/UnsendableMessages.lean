import Starry.Guarantees.FrameRoundTrip
import Starry.Source.RpcServer

/-!
# Messages that cannot be sent

`serializeToBuffer` reports a failure by returning -1, after the tag has been appended.
`fillEmptyBuffer` does not look at the result: it goes on to the checksum and fails its own
assertion, which adds the -1 to the sizes. The length is compared with `kMaxMessageLen` by the
receiver only, so a frame that is too long is sent.

`emits_safely_iff` says for which messages `send` does what is wanted: hand over nothing of a
message that cannot be sent, and otherwise a frame that the peer decodes to the message.
-/
namespace Starry.Guarantees.UnsendableMessages

open Starry.Foundation
open Starry.Source
open Starry.Source.ProtobufCodecLite

variable {Msg : Type}

/-- What is assumed of protobuf, for messages with all required fields set. -/
structure Honest (p : Protobuf Msg) : Prop where
  serialize_size : ∀ m, p.isInitialized m = true → (p.serialize m).length = p.byteSizeLong m
  parse_serialize : ∀ m, p.isInitialized m = true → p.parse (p.serialize m) = some m

/-- `serializeToBuffer` returns -1 after the tag, or the frame would be longer than
`kMaxMessageLen`. -/
def Unsendable (c : ProtobufCodecLite Msg) (m : Msg) : Prop :=
  (∃ tagged buf, (Buffer.new Buffer.kInitialSize).append true c.tag = .ok tagged ∧
    c.serializeToBuffer m tagged = .ok (-1, buf)) ∨
  kMaxMessageLen < c.tag.length + c.protobuf.byteSizeLong m + kChecksumLen

structure EmitsSafely (c : ProtobufCodecLite Msg) (m : Msg) : Prop where
  nothing : Unsendable c m → c.send m = .ok []
  accepted : ∀ bytes, c.send m = .ok bytes → bytes ≠ [] → ∀ buf : Buffer, buf.Represents bytes →
    ∃ last, c.onMessage buf = .ok ([.message m], last) ∧ last.readable = []

variable {c : ProtobufCodecLite Msg} {m : Msg}

/-- The assertion of line 49 fails. -/
theorem send_refused (refuses : Refuses c m) :
    c.send m = .error (.assertion .protobufCodecLiteCpp 49) := by
  rw [ProtobufCodecLite.send, fillEmptyBuffer_refused refuses]
  rfl

/-- A message that is refused cannot be sent. -/
theorem unsendable_of_refuses (refuses : Refuses c m) : Unsendable c m := by
  obtain ⟨tagged, appended, held, reader⟩ := c.tagged_yields Buffer.kInitialSize
  obtain ⟨⟨result, buf⟩, serialized, returned, _⟩ := refuses tagged c.tag held (Nat.le_of_eq reader)
  dsimp only at returned
  subst returned
  exact .inl ⟨tagged, buf, appended, serialized⟩

/-- `send` never hands over nothing: it fails, or there is at least the length. -/
theorem send_ne_nil (honest : Honest c.protobuf) (m : Msg) : c.send m ≠ .ok [] := by
  intro sent
  cases initialized : c.protobuf.isInitialized m with
  | false =>
    rw [send_refused (refuses_uninitialized initialized)] at sent
    cases sent
  | true =>
    have sized := honest.serialize_size m initialized
    by_cases small : c.protobuf.byteSizeLong m < 256
    · obtain ⟨buf, filled, holds⟩ :=
        fillEmptyBuffer_yields sized initialized small Buffer.kInitialSize
      rw [ProtobufCodecLite.send, filled, ok_bind, holds.readable_eq] at sent
      have length := congrArg List.length (Except.ok.inj sent)
      rw [List.length_append, Buffer.networkBytes_length] at length
      simp at length
    · rw [send_refused (refuses_large sized initialized (by omega))] at sent
      cases sent

/-- A message that cannot be sent is not emitted safely. -/
theorem not_safe_of_unsendable (honest : Honest c.protobuf) (unsendable : Unsendable c m) :
    ¬EmitsSafely c m := by
  intro safe
  exact send_ne_nil honest m (safe.nothing unsendable)

section Sendable

variable (honest : Honest c.protobuf) (initialized : c.protobuf.isInitialized m = true)
  (small : c.protobuf.byteSizeLong m < 256)
  (fits : c.tag.length + c.protobuf.byteSizeLong m + kChecksumLen ≤ kMaxMessageLen)
include honest initialized

theorem body_length : (c.body m).length = c.tag.length + c.protobuf.byteSizeLong m := by
  rw [ProtobufCodecLite.body, List.length_append, honest.serialize_size m initialized]

include fits

/-- The receiver decodes the frame to the message. -/
theorem decodes_frame {buf : Buffer} (rep : buf.Represents (c.frame m)) :
    ∃ last, c.onMessage buf = .ok ([.message m], last) ∧ last.readable = [] := by
  have taken := c.look_frame (honest.parse_serialize m initialized)
    (by rw [body_length honest initialized]; exact fits) []
  rw [List.append_nil] at taken
  obtain ⟨⟨events, last⟩, returned, delivered, left⟩ := c.onMessage_yields rep
  rw [StreamDecoder.drain_of_frame (D := c.decoder) taken, List.drop_length, c.drain_nil]
    at delivered left
  dsimp only at delivered
  subst delivered
  exact ⟨last, returned, left.readable_eq⟩

include small

theorem sendable : ¬Unsendable c m := by
  rintro (⟨tagged, buf, appended, serialized⟩ | long)
  · obtain ⟨held, reader⟩ := (c.tagged_yields Buffer.kInitialSize).of_ok appended
    have returned := ((serializeToBuffer_small (honest.serialize_size m initialized) initialized
      small held (Nat.le_of_eq reader)).of_ok serialized).1
    omega
  · omega

theorem send_frame : c.send m = .ok (c.frame m) := by
  obtain ⟨buf, filled, holds⟩ := fillEmptyBuffer_small (honest.serialize_size m initialized)
    initialized small (by rw [body_length honest initialized]; exact fits) Buffer.kInitialSize
  rw [ProtobufCodecLite.send, filled, ok_bind, holds.readable_eq]
  rfl

theorem safe_of_sendable : EmitsSafely c m := by
  refine ⟨fun unsendable => absurd unsendable (sendable honest initialized small fits), ?_⟩
  intro bytes sent _ buf rep
  rw [send_frame honest initialized small fits] at sent
  cases sent
  exact decodes_frame honest initialized fits rep

end Sendable

/-- For every message of a codec whose serialiser keeps to the lengths that it announces. -/
theorem emits_safely_iff (honest : Honest c.protobuf) (m : Msg) :
    EmitsSafely c m ↔ c.protobuf.isInitialized m = true ∧ c.protobuf.byteSizeLong m < 256 ∧
      c.tag.length + c.protobuf.byteSizeLong m + kChecksumLen ≤ kMaxMessageLen := by
  constructor
  · intro safe
    have initialized : c.protobuf.isInitialized m = true := by
      by_contra uninitialized
      exact not_safe_of_unsendable honest (unsendable_of_refuses
        (refuses_uninitialized (Bool.eq_false_iff.mpr uninitialized))) safe
    refine ⟨initialized, ?_, ?_⟩
    · by_contra large
      exact not_safe_of_unsendable honest (unsendable_of_refuses
        (refuses_large (honest.serialize_size m initialized) initialized (by omega))) safe
    · by_contra long
      exact not_safe_of_unsendable honest (.inr (by omega)) safe
  · rintro ⟨initialized, small, fits⟩
    exact safe_of_sendable honest initialized small fits

theorem rpc_honest : Honest rpcCodec.protobuf where
  serialize_size _ _ := rfl
  parse_serialize m _ := RequestMessage.parse_serialize m

theorem emits_safely_iff_small_request : EmitsSafely rpcCodec ⟨[1, 2, 3], by decide⟩ :=
  (emits_safely_iff rpc_honest _).mpr
    ⟨rfl, by simp [rpcCodec, RequestMessage.protobuf, RequestMessage.serialize],
      by simp [rpcCodec, RequestMessage.protobuf, RequestMessage.serialize, rpctag, kChecksumLen,
        kMaxMessageLen]⟩

/-- A message with one required field, `bytes name = 1`; the name has fewer than 128 bytes. -/
structure NamedMessage where
  name : Option (List UInt8)
  short : ∀ bytes ∈ name, bytes.length < 128

def NamedMessage.protobuf : Protobuf NamedMessage where
  isInitialized m := m.name.isSome
  byteSizeLong m := match m.name with
    | some name => name.length + 2
    | none => 0
  serialize m := match m.name with
    | some name => 0x0A :: UInt8.ofNat name.length :: name
    | none => []
  parse
    | 0x0A :: length :: name =>
      if fits : name.length = length.toNat ∧ name.length < 128 then
        some ⟨some name, by rintro _ ⟨⟩; exact fits.2⟩
      else none
    | _ => none

def namedCodec : ProtobufCodecLite NamedMessage where
  protobuf := NamedMessage.protobuf
  adler32_z := adler32
  tag := rpctag
  tag_fits := rpcCodec.tag_fits

def unnamed : NamedMessage := ⟨none, by simp⟩

/-- A message without its required field, and a request of 256 bytes: both are refused by
`serializeToBuffer`, and `send` ends the process. -/
theorem refused_messages_abort :
    (namedCodec.send unnamed = .error (.assertion .protobufCodecLiteCpp 49) ∧
      ¬EmitsSafely namedCodec unnamed) ∧
    rpcCodec.send FrameRoundTrip.longRequest = .error (.assertion .protobufCodecLiteCpp 49) ∧
      ¬EmitsSafely rpcCodec FrameRoundTrip.longRequest := by
  have unset : Refuses namedCodec unnamed := refuses_uninitialized rfl
  have long : Refuses rpcCodec FrameRoundTrip.longRequest :=
    refuses_large (rpc_honest.serialize_size _ rfl) rfl (by rw [FrameRoundTrip.longRequest_size])
  have aborts := send_refused unset
  have aborts' := send_refused long
  refine ⟨⟨aborts, fun safe => ?_⟩, aborts', fun safe => ?_⟩
  · rw [safe.nothing (unsendable_of_refuses unset)] at aborts
    cases aborts
  · rw [safe.nothing (unsendable_of_refuses long)] at aborts'
    cases aborts'

end Starry.Guarantees.UnsendableMessages
