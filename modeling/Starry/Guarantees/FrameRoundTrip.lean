import Starry.Source.ProtobufCodecSpec
import Starry.Source.RpcCodec

/-!
# Round trip of whole streams of frames

Each message of a list is encoded by `fillEmptyBuffer` into a fresh buffer, the frames are
concatenated, and `onMessage` is run on a buffer that holds the concatenation. The round
trip holds for exactly the lists whose messages all serialise to fewer than 256 bytes:
`serializeToBuffer` compares the bytes written with `static_cast<uint8_t>(byte_size)`, so
from 256 on it reports a mismatch that is not there and the encoder's own assertion fails.
-/
namespace Starry.Guarantees.FrameRoundTrip

open Starry.Foundation
open Starry.Source
open Starry.Source.ProtobufCodecLite

variable {Msg : Type}

/-- What is assumed of protobuf: a message is written in as many bytes as it reports,
parsing inverts writing, and only initialised messages are ever the result of a parse. -/
structure Conforms (p : Protobuf Msg) : Prop where
  serialize_size : ∀ m, (p.serialize m).length = p.byteSizeLong m
  parse_serialize : ∀ m, p.parse (p.serialize m) = some m
  parse_initialized : ∀ bytes m, p.parse bytes = some m → p.isInitialized m = true

/-- The frames of the messages, each encoded into a fresh buffer. -/
def encodeAll (c : ProtobufCodecLite Msg) (initialSize : Nat) :
    List Msg → Except Abort (List (List UInt8))
  | [] => .ok []
  | m :: ms => do
    let buf ← c.fillEmptyBuffer (Buffer.new initialSize) m
    let frames ← encodeAll c initialSize ms
    return buf.readable :: frames

/-- Encoding succeeds, and decoding the concatenation delivers exactly the messages, in
order, with no error and no byte left. -/
def RoundTrip (c : ProtobufCodecLite Msg) (initialSize : Nat) (ms : List Msg) : Prop :=
  ∃ frames, encodeAll c initialSize ms = .ok frames ∧
    ∀ buf : Buffer, buf.Represents frames.flatten →
      ∃ last, c.onMessage buf = .ok (ms.map .message, last) ∧ last.readable = []

variable {c : ProtobufCodecLite Msg} {ms : List Msg}

/-- The payload sizes the frame format has room for. -/
def Fits (c : ProtobufCodecLite Msg) (m : Msg) : Prop :=
  c.protobuf.byteSizeLong m + c.tag.length + kChecksumLen ≤ kMaxMessageLen

theorem Conforms.initialized (conforms : Conforms c.protobuf) (m : Msg) :
    c.protobuf.isInitialized m = true :=
  conforms.parse_initialized _ _ (conforms.parse_serialize m)

theorem Fits.body {m : Msg} (fits : Fits c m) (conforms : Conforms c.protobuf) :
    (c.body m).length + kChecksumLen ≤ kMaxMessageLen := by
  have size : (c.body m).length = c.tag.length + c.protobuf.byteSizeLong m := by
    rw [ProtobufCodecLite.body, List.length_append, conforms.serialize_size]
  unfold Fits at fits
  omega

/-- Messages of fewer than 256 bytes are encoded to their frames. -/
theorem encodeAll_small (conforms : Conforms c.protobuf) (initialSize : Nat)
    (fits : ∀ m ∈ ms, Fits c m) (small : ∀ m ∈ ms, c.protobuf.byteSizeLong m < 256) :
    encodeAll c initialSize ms = .ok (ms.map c.frame) := by
  induction ms with
  | nil => rfl
  | cons m ms ih =>
    obtain ⟨buf, filled, rep⟩ := fillEmptyBuffer_small (conforms.serialize_size m)
      (conforms.initialized m) (small m (by simp)) ((fits m (by simp)).body conforms) initialSize
    have later := ih (fun m member => fits m (by simp [member]))
      (fun m member => small m (by simp [member]))
    rw [encodeAll, filled, ok_bind, later, ok_bind, rep.readable_eq]
    rfl

/-- One message of 256 bytes or more is enough for the encoder to abort. -/
theorem encodeAll_large (conforms : Conforms c.protobuf) (initialSize : Nat) {m : Msg}
    (member : m ∈ ms) (large : 256 ≤ c.protobuf.byteSizeLong m) (frames : List (List UInt8)) :
    encodeAll c initialSize ms ≠ .ok frames := by
  intro encoded
  induction ms generalizing frames with
  | nil => simp at member
  | cons head tail ih =>
    obtain ⟨buf, filled, encoded⟩ := bind_eq_ok encoded
    obtain ⟨rest, later, _⟩ := bind_eq_ok encoded
    rcases List.mem_cons.mp member with here | there
    · subst here
      rw [fillEmptyBuffer_large (conforms.serialize_size m) (conforms.initialized m) large]
        at filled
      cases filled
    · exact ih there rest later

theorem drain_frames (conforms : Conforms c.protobuf) (fits : ∀ m ∈ ms, Fits c m) :
    c.decoder.drain (ms.map c.frame).flatten = ⟨ms, none, []⟩ := by
  induction ms with
  | nil => exact c.drain_nil
  | cons m ms ih =>
    have taken := c.look_frame (conforms.parse_serialize m) ((fits m (by simp)).body conforms)
      (ms.map c.frame).flatten
    have later := ih (fun m member => fits m (by simp [member]))
    rw [List.map_cons, List.flatten_cons, StreamDecoder.drain_of_frame (D := c.decoder) taken,
      List.drop_left, later]

/-- For every list of messages within the frame format, over every codec and every
initial size of the buffers, the round trip holds if and only if each message serialises
to fewer than 256 bytes. -/
theorem roundTrip_iff (conforms : Conforms c.protobuf) (initialSize : Nat)
    (fits : ∀ m ∈ ms, Fits c m) :
    RoundTrip c initialSize ms ↔ ∀ m ∈ ms, c.protobuf.byteSizeLong m < 256 := by
  constructor
  · rintro ⟨frames, encoded, _⟩ m member
    by_contra large
    exact encodeAll_large conforms initialSize member (by omega) frames encoded
  · intro small
    refine ⟨ms.map c.frame, encodeAll_small conforms initialSize fits small, ?_⟩
    intro buf rep
    obtain ⟨⟨events, last⟩, returned, delivered, left⟩ := c.onMessage_yields rep
    rw [drain_frames conforms fits] at delivered left
    refine ⟨last, ?_, left.readable_eq⟩
    rw [returned]
    simp only [eventsOf, Option.toList_none, List.map_nil, List.append_nil] at delivered
    rw [delivered]

theorem rpc_conforms : Conforms RequestMessage.protobuf where
  serialize_size _ := rfl
  parse_serialize := RequestMessage.parse_serialize
  parse_initialized _ _ _ := rfl

/-- A request of three bytes followed by an empty one. -/
theorem roundTrip_iff_two_requests :
    RoundTrip rpcCodec Buffer.kInitialSize [⟨[1, 2, 3], by decide⟩, ⟨[], by decide⟩] :=
  (roundTrip_iff (c := rpcCodec) rpc_conforms Buffer.kInitialSize
    (by simp [Fits, rpcCodec, RequestMessage.protobuf, RequestMessage.serialize, rpctag,
      kChecksumLen, kMaxMessageLen])).mpr
    (by simp [rpcCodec, RequestMessage.protobuf, RequestMessage.serialize])

/-- A request whose payload has 253 bytes: 256 on the wire, far within the frame format. -/
def longRequest : RequestMessage :=
  ⟨List.replicate 253 0, by rw [List.length_replicate]; decide⟩

theorem longRequest_size : rpcCodec.protobuf.byteSizeLong longRequest = 256 := by
  have size : longRequest.request.length = 253 := List.length_replicate
  have nonempty : longRequest.request ≠ [] := by
    apply List.ne_nil_of_length_pos
    omega
  have serialized := RequestMessage.length_serialize_of_long longRequest nonempty
    (by rw [size]; decide)
  rw [rpcCodec_byteSizeLong, serialized, size]

/-- The long request is not carried. -/
theorem no_roundTrip_of_256_bytes :
    Fits rpcCodec longRequest ∧
      ¬ RoundTrip rpcCodec Buffer.kInitialSize [longRequest] := by
  constructor
  · rw [Fits, longRequest_size]
    simp [rpcCodec, rpctag, kChecksumLen, kMaxMessageLen]
  · rintro ⟨frames, encoded, _⟩
    exact encodeAll_large (c := rpcCodec) rpc_conforms _ List.mem_cons_self
      (by rw [longRequest_size]) frames encoded

end Starry.Guarantees.FrameRoundTrip
