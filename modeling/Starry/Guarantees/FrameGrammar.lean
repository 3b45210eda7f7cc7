import Starry.Source.CheckedDecoder
import Starry.Source.RpcCodec

/-!
# The decoder accepts the frame grammar

The grammar in its own terms: a length field, the tag, a payload that parses, and the
checksum of tag and payload, all integers unsigned and in network byte order. Whatever bytes
a buffer holds, `onMessage` ends, reads nothing outside them, delivers the frames they start
with and leaves the rest, which is the beginning of a frame or breaks the grammar; the error
reported then names the first check that fails.

The source compares a signed length; that the sign does not matter is `length_range`.
-/
namespace Starry.Guarantees.FrameGrammar

open Starry.Foundation
open Starry.Source
open Starry.Source.ProtobufCodecLite

variable {Msg : Type} (c : ProtobufCodecLite Msg)

/-! ## The grammar -/

def lengthField (s : List UInt8) : Nat := BigEndian.decode (s.take kHeaderLen)

def LengthValid (n : Nat) : Prop := c.tag.length + kChecksumLen ≤ n ∧ n ≤ kMaxMessageLen

instance (n : Nat) : Decidable (LengthValid c n) := inferInstanceAs (Decidable (_ ∧ _))

/-- Tag and payload of the frame that `s` starts with. -/
def covered (s : List UInt8) : List UInt8 :=
  (s.drop kHeaderLen).take (lengthField s - kChecksumLen)

def checksumField (s : List UInt8) : List UInt8 := (s.drop (lengthField s)).take kChecksumLen

def checksumOf (bytes : List UInt8) : List UInt8 :=
  BigEndian.encode kChecksumLen (c.adler32_z bytes).toNat

def ValidFrame (f : List UInt8) (m : Msg) : Prop :=
  ∃ n payload, LengthValid c n ∧ n = c.tag.length + payload.length + kChecksumLen ∧
    c.protobuf.parse payload = some m ∧
    f = BigEndian.encode kHeaderLen n ++ c.tag ++ payload ++ checksumOf c (c.tag ++ payload)

def Incomplete (s : List UInt8) : Prop :=
  s.length < c.tag.length + 8 ∨
    LengthValid c (lengthField s) ∧ s.length < kHeaderLen + lengthField s

/-- The bytes start with a whole frame, or at least with a header, that fails a check, and
passes those before it. -/
inductive InvalidFrame (s : List UInt8) : ErrorCode → Prop
  | length (header : c.tag.length + 8 ≤ s.length) (invalid : ¬LengthValid c (lengthField s)) :
      InvalidFrame s .kInvalidLength
  | checksum (valid : LengthValid c (lengthField s)) (whole : kHeaderLen + lengthField s ≤ s.length)
      (wrong : checksumField s ≠ checksumOf c (covered s)) : InvalidFrame s .kCheckSumError
  | tag (valid : LengthValid c (lengthField s)) (whole : kHeaderLen + lengthField s ≤ s.length)
      (summed : checksumField s = checksumOf c (covered s))
      (wrong : (covered s).take c.tag.length ≠ c.tag) : InvalidFrame s .kUnknownMessageType
  | payload (valid : LengthValid c (lengthField s)) (whole : kHeaderLen + lengthField s ≤ s.length)
      (summed : checksumField s = checksumOf c (covered s))
      (tagged : (covered s).take c.tag.length = c.tag)
      (wrong : c.protobuf.parse ((covered s).drop c.tag.length) = none) : InvalidFrame s .kParseError

/-- The callbacks and the bytes left are those of a split of `b` into frames and a rest. -/
def SplitsAs (b : List UInt8) (events : List (Event Msg)) (left : List UInt8) : Prop :=
  ∃ frames : List (List UInt8 × Msg), ∃ rest,
    b = (frames.map Prod.fst).flatten ++ rest ∧ (∀ frame ∈ frames, ValidFrame c frame.1 frame.2) ∧
    left = rest ∧
    ((Incomplete c rest ∧ events = frames.map fun frame => .message frame.2) ∨
      ∃ code, InvalidFrame c rest code ∧
        events = (frames.map fun frame => .message frame.2) ++ [.error code])

/-! ## The fields as the source reads them -/

variable {c}

theorem hostInt_eq (s : List UInt8) (header : 4 ≤ s.length) :
    asInt32 (s.take 4) = BigEndian.toSigned 32 (lengthField s) ∧ lengthField s < 2 ^ 32 := by
  refine ⟨rfl, ?_⟩
  have bound := BigEndian.decode_lt (s.take 4)
  rw [List.length_take, Nat.min_eq_left header] at bound
  exact bound

/-- The signed length is in range exactly when the length is, and is then the length. -/
theorem length_range {s : List UInt8} (header : 4 ≤ s.length) :
    (¬(asInt32 (s.take 4) > kMaxMessageLen ∨ asInt32 (s.take 4) < c.tag.length + kChecksumLen) ↔
      LengthValid c (lengthField s)) ∧
    (LengthValid c (lengthField s) → (asInt32 (s.take 4)).toNat = lengthField s) := by
  obtain ⟨read, bound⟩ := hostInt_eq s header
  rw [read]
  simp only [LengthValid, kMaxMessageLen, kChecksumLen]
  by_cases small : 2 * lengthField s < 2 ^ 32
  · rw [BigEndian.toSigned_of_small 32 _ small]
    omega
  · have negative : BigEndian.toSigned 32 (lengthField s) < 0 := by
      unfold BigEndian.toSigned
      rw [Int.bmod_def]
      omega
    omega

/-- The checksums agree as integers exactly if they do as bytes. -/
theorem checksum_eq_iff {bytes field : List UInt8} (width : field.length = kChecksumLen) :
    c.checksum bytes = asInt32 field ↔ field = checksumOf c bytes := by
  have small : BigEndian.decode field < 2 ^ 32 := by
    have bound := BigEndian.decode_lt field
    rw [width] at bound
    exact bound
  have sum : (c.adler32_z bytes).toNat < 2 ^ 32 := (c.adler32_z bytes).toNat_lt
  constructor
  · intro same
    have words : (c.adler32_z bytes).toNat = BigEndian.decode field :=
      BigEndian.toSigned_inj sum small same
    rw [checksumOf, words, ← width, BigEndian.encode_decode]
  · rintro rfl
    have read : BigEndian.decode (checksumOf c bytes) = (c.adler32_z bytes).toNat := by
      rw [checksumOf, BigEndian.decode_encode, show 256 ^ kChecksumLen = 2 ^ 32 by rfl]
      exact Nat.mod_eq_of_lt sum
    simp only [checksum, asInt32, Buffer.hostInt, read, Nat.reduceMul]

/-! ## The span behind the header -/

variable {s : List UInt8}

theorem span_length (whole : kHeaderLen + lengthField s ≤ s.length) :
    ((s.drop kHeaderLen).take (lengthField s)).length = lengthField s := by
  rw [List.length_take, List.length_drop]
  omega

theorem span_covered :
    ((s.drop kHeaderLen).take (lengthField s)).take (lengthField s - kChecksumLen) = covered s := by
  rw [List.take_take, Nat.min_eq_left (Nat.sub_le _ _)]
  rfl

theorem span_checksum (valid : LengthValid c (lengthField s)) :
    ((s.drop kHeaderLen).take (lengthField s)).drop (lengthField s - kChecksumLen) =
      checksumField s := by
  have low := valid.1
  simp only [kChecksumLen, kHeaderLen, checksumField] at *
  rw [List.drop_take, List.drop_drop, show lengthField s - (lengthField s - 4) = 4 by omega,
    show 4 + (lengthField s - 4) = lengthField s by omega]

theorem checksumField_length (whole : kHeaderLen + lengthField s ≤ s.length) :
    (checksumField s).length = kChecksumLen := by
  simp only [checksumField, List.length_take, List.length_drop, kChecksumLen, kHeaderLen] at whole ⊢
  omega

theorem encode_lengthField (header : kHeaderLen ≤ s.length) :
    BigEndian.encode kHeaderLen (lengthField s) = s.take kHeaderLen := by
  have width : (s.take kHeaderLen).length = kHeaderLen := by
    rw [List.length_take, Nat.min_eq_left header]
  have octets := BigEndian.encode_decode (s.take kHeaderLen)
  rwa [width] at octets

/-- The three parts of a frame. -/
theorem take_frame (valid : LengthValid c (lengthField s)) :
    s.take (kHeaderLen + lengthField s) = s.take kHeaderLen ++ covered s ++ checksumField s := by
  have low := valid.1
  have whole : lengthField s = (lengthField s - kChecksumLen) + kChecksumLen := by omega
  have offset : kHeaderLen + (lengthField s - kChecksumLen) = lengthField s := by
    simp only [kHeaderLen, kChecksumLen] at *
    omega
  rw [List.take_add, List.append_assoc, covered, checksumField]
  congr 1
  conv_lhs => rw [whole]
  rw [List.take_add, List.drop_drop, offset]

section Parse

variable (valid : LengthValid c (lengthField s)) (whole : kHeaderLen + lengthField s ≤ s.length)
include valid whole

/-- `validateChecksum` sums up what the checksum covers. -/
theorem span_summed :
    c.validateChecksum ((s.drop kHeaderLen).take (lengthField s)) =
      decide (checksumField s = checksumOf c (covered s)) := by
  have width := checksumField_length whole
  simp only [validateChecksum, span_length whole, span_checksum valid, span_covered]
  rw [← decide_eq_decide.mpr (checksum_eq_iff width)]
  rfl

/-- `parse` makes the checks of the grammar on the span, in its order. -/
theorem parse_span :
    c.parse ((s.drop kHeaderLen).take (lengthField s)) =
      if checksumField s = checksumOf c (covered s) then
        if (covered s).take c.tag.length = c.tag then
          match c.protobuf.parse ((covered s).drop c.tag.length) with
          | some m => .ok m
          | none => .error .kParseError
        else .error .kUnknownMessageType
      else .error .kCheckSumError := by
  have low := valid.1
  have front : ((s.drop kHeaderLen).take (lengthField s)).take c.tag.length =
      (covered s).take c.tag.length := by
    rw [covered, List.take_take, List.take_take, Nat.min_eq_left (by omega),
      Nat.min_eq_left (by omega)]
  have payload : (((s.drop kHeaderLen).take (lengthField s)).drop c.tag.length).take
      (lengthField s - kChecksumLen - c.tag.length) = (covered s).drop c.tag.length := by
    rw [covered, List.drop_take, List.drop_take, List.take_take, Nat.min_eq_left (by omega)]
  cases parsed : c.protobuf.parse ((covered s).drop c.tag.length) with
  | some m =>
    simp only [parse, span_summed valid whole, span_length whole, front, payload, parsed,
      decide_eq_true_eq]
  | none =>
    simp only [parse, span_summed valid whole, span_length whole, front, payload, parsed,
      decide_eq_true_eq]

end Parse

/-! ## The verdict on the front -/

/-- The verdict in the terms of the grammar. -/
theorem look_eq (s : List UInt8) :
    c.look s =
      if s.length < c.tag.length + 8 then .more
      else if LengthValid c (lengthField s) then
        if s.length < kHeaderLen + lengthField s then .more
        else if checksumField s = checksumOf c (covered s) then
          if (covered s).take c.tag.length = c.tag then
            match c.protobuf.parse ((covered s).drop c.tag.length) with
            | some m => .frame m (kHeaderLen + lengthField s)
            | none => .fail .kParseError
          else .fail .kUnknownMessageType
        else .fail .kCheckSumError
      else .fail .kInvalidLength := by
  unfold look
  by_cases short : s.length < c.tag.length + 8
  · rw [if_pos short, if_pos (by simpa only [kChecksumLen, kHeaderLen] using short)]
  · rw [if_neg short, if_neg (by simpa only [kChecksumLen, kHeaderLen] using short)]
    obtain ⟨range, same⟩ := length_range (c := c) (s := s) (by omega)
    dsimp only
    by_cases valid : LengthValid c (lengthField s)
    · rw [if_neg (range.mpr valid), if_pos valid, same valid]
      by_cases waits : s.length < kHeaderLen + lengthField s
      · rw [if_pos waits, if_pos waits]
      · rw [if_neg waits, if_neg waits, parse_span valid (Nat.not_lt.mp waits)]
        by_cases summed : checksumField s = checksumOf c (covered s)
        · rw [if_pos summed, if_pos summed]
          by_cases tagged : (covered s).take c.tag.length = c.tag
          · rw [if_pos tagged, if_pos tagged]
            cases c.protobuf.parse ((covered s).drop c.tag.length) <;> rfl
          · rw [if_neg tagged, if_neg tagged]
        · rw [if_neg summed, if_neg summed]
    · rw [if_pos (not_not.mp fun inside => valid (range.mp inside)), if_neg valid]

theorem look_more (waits : c.look s = .more) : Incomplete c s := by
  rw [look_eq] at waits
  split at waits
  next short => exact .inl short
  next =>
    split at waits
    next valid =>
      split at waits
      next short => exact .inr ⟨valid, short⟩
      next => grind
    next => cases waits

/-- Where it refuses, the frame is not well formed, with the error of the first check that fails. -/
theorem look_fail {code : ErrorCode} (refuses : c.look s = .fail code) : InvalidFrame c s code := by
  rw [look_eq] at refuses
  split at refuses
  next => cases refuses
  next header =>
    split at refuses
    next valid =>
      split at refuses
      next => cases refuses
      next enough =>
        have whole := Nat.not_lt.mp enough
        split at refuses
        next summed =>
          split at refuses
          next tagged =>
            split at refuses
            next => cases refuses
            next unparsed =>
              cases refuses
              exact .payload valid whole summed tagged unparsed
          next untagged =>
            cases refuses
            exact .tag valid whole summed untagged
        next unsummed =>
          cases refuses
          exact .checksum valid whole unsummed
    next invalid =>
      cases refuses
      exact .length (Nat.not_lt.mp header) invalid

theorem valid_of_checks {m : Msg} (valid : LengthValid c (lengthField s))
    (whole : kHeaderLen + lengthField s ≤ s.length)
    (summed : checksumField s = checksumOf c (covered s))
    (tagged : (covered s).take c.tag.length = c.tag)
    (parsed : c.protobuf.parse ((covered s).drop c.tag.length) = some m) :
    ValidFrame c (s.take (kHeaderLen + lengthField s)) m := by
  have body : c.tag ++ (covered s).drop c.tag.length = covered s := by
    have split := List.take_append_drop c.tag.length (covered s)
    rwa [tagged] at split
  have size : (covered s).length = lengthField s - kChecksumLen := by
    rw [covered, List.length_take, List.length_drop]
    omega
  refine ⟨lengthField s, (covered s).drop c.tag.length, valid, ?_, parsed, ?_⟩
  · have low := valid.1
    rw [List.length_drop, size]
    omega
  · rw [take_frame valid, encode_lengthField (by omega), summed, List.append_assoc, List.append_assoc,
      List.append_assoc, ← List.append_assoc c.tag, body]

/-- What is taken off the front is its length field, tag, payload and checksum. -/
theorem look_valid {m : Msg} {size : Nat} (takes : c.look s = .frame m size) :
    ValidFrame c (s.take size) m := by
  rw [look_eq] at takes
  split at takes
  next => cases takes
  next header =>
    split at takes
    next valid =>
      split at takes
      next => cases takes
      next enough =>
        have whole := Nat.not_lt.mp enough
        split at takes
        next summed =>
          split at takes
          next tagged =>
            split at takes
            next payload parsed =>
              cases takes
              exact valid_of_checks valid whole summed tagged parsed
            next => cases takes
          next => cases takes
        next => cases takes
    next => cases takes

/-! ## The whole stream -/

/-- The decoder splits the bytes into frames, up to the first that is refused. -/
theorem drain_splits (b : List UInt8) :
    SplitsAs c b (eventsOf (c.decoder.drain b)) (c.decoder.drain b).rest := by
  obtain ⟨frames, cut, delivered, taken⟩ := StreamDecoder.drain_split (D := c.decoder) b
  have rest := StreamDecoder.look_rest (D := c.decoder) b
  refine ⟨frames, (c.decoder.drain b).rest, cut, ?_, rfl, ?_⟩
  · intro frame member
    obtain ⟨later, takes⟩ := taken frame member
    have valid := look_valid (c := c) takes
    rwa [List.take_left] at valid
  · rw [eventsOf, delivered, List.map_map]
    cases reported : (c.decoder.drain b).error with
    | none =>
      rw [reported] at rest
      exact .inl ⟨look_more rest, by simp [Function.comp_def]⟩
    | some code =>
      rw [reported] at rest
      exact .inr ⟨code, look_fail rest, by simp [Function.comp_def]⟩

/-- For every buffer and every byte string in it. -/
theorem accepts_grammar {buf : Buffer} {b : List UInt8} (rep : buf.Represents b) :
    ∃ events last, c.onMessage buf = .ok (events, last) ∧ c.OnMessage buf events last ∧
      SplitsAs c b events last.readable := by
  obtain ⟨⟨events, last⟩, returned, made, left⟩ := c.onMessage_yields rep
  have ended := c.onMessageLoop_checked _ rep (by rw [rep.length_eq]; omega) returned
  refine ⟨events, last, returned, ended, ?_⟩
  simp only at made left
  rw [made, left.readable_eq]
  exact drain_splits b

/-- The frame of a request of three bytes, and the first bytes of another one. -/
def frameAndRest : List UInt8 := rpcCodec.frame ⟨[1, 2, 3], by decide⟩ ++ [0, 0, 0, 13, 0x52]

def frameBuffer : Buffer where
  buffer := List.replicate Buffer.kCheapPrepend 0 ++ frameAndRest
  readerIndex := Buffer.kCheapPrepend
  writerIndex := Buffer.kCheapPrepend + frameAndRest.length

theorem accepts_grammar_frame_and_rest :
    frameBuffer.Represents frameAndRest ∧
      ∃ events last, rpcCodec.onMessage frameBuffer = .ok (events, last) ∧
        rpcCodec.OnMessage frameBuffer events last ∧
        SplitsAs rpcCodec frameAndRest events last.readable := by
  have rep : frameBuffer.Represents frameAndRest :=
    ⟨by decide, by decide +kernel, by decide +kernel, by decide +kernel⟩
  exact ⟨rep, accepts_grammar rep⟩

end Starry.Guarantees.FrameGrammar
