import Starry.Source.ProtobufCodecSpec

/-!
# `ProtobufCodecLite::onMessage`, read by read

`net/rpc/protobuf_codec_lite.cpp` again, with the pointers it computes. Every access, the
`memcpy` of an integer, the bytes given to `adler32_z`, the `memcmp` with the tag and the
array given to `ParseFromArray`, goes through `load`, which is an error unless the positions
lie between the indices of the buffer. Sizes are `size_t` where the source has a `size_t`,
and wrap.

`OnMessage` is the loop without a bound: it relates a buffer to the callbacks made and the
buffer left by an execution that ends. `turn_checked` says that an iteration with checks is
an iteration without them, so `OnMessage` holds of what `onMessage` returns.
-/
namespace Starry.Source.ProtobufCodecLite

open Starry.Foundation
open Starry.Foundation.Memory

variable {Msg : Type} (c : ProtobufCodecLite Msg)

/-- The `len` bytes from `position` on, all of them readable. -/
def load (buf : Buffer) (file : SourceFile) (line position len : Nat) :
    Except Abort (List UInt8) :=
  if buf.readerIndex ≤ position ∧ position + len ≤ buf.writerIndex then
    .ok (window buf.buffer position (position + len))
  else .error (.undefinedBehaviour file line)

/-- `buf` of the source is the span of `size` bytes at `data`. -/
def validateChecksumAt (buf : Buffer) (data size : Nat) : Except Abort Bool := do
  let octets ← load buf .protobufCodecLiteCpp 177 (data + size - kChecksumLen) 4
  let expectedCheckSum := asInt32 octets
  let summed ← load buf .protobufCodecLiteCpp 124 data (BigEndian.ofSigned 64 (size - kChecksumLen))
  return c.checksum summed == expectedCheckSum

def parseAt (buf : Buffer) (data size : Nat) : Except Abort (Except ErrorCode Msg) := do
  if ← c.validateChecksumAt buf data size then
    let front ← load buf .protobufCodecLiteCpp 188 data c.tag.length
    if front = c.tag then
      let dataLen := BigEndian.toSigned 32
        (BigEndian.ofSigned 64 (size - kChecksumLen - c.tag.length))
      let payload ← load buf .protobufCodecLiteCpp 58 (data + c.tag.length)
        (BigEndian.ofSigned 64 dataLen)
      match c.protobuf.parse payload with
      | some m => return .ok m
      | none => return .error .kParseError
    else return .error .kUnknownMessageType
  else return .error .kCheckSumError

def turnAt (buf : Buffer) : Except Abort (Turn Msg) :=
  if BigEndian.ofSigned 32 (c.kMinMessageLen + kHeaderLen) ≤ buf.readableBytes then do
    cassert (4 ≤ buf.readableBytes) .bufferH 188
    let header ← load buf .bufferH 190 buf.readerIndex 4
    let len := Buffer.hostInt 4 header
    if len > kMaxMessageLen ∨ len < c.kMinMessageLen then
      return .refuse .kInvalidLength
    else if BigEndian.ofSigned 64 (kHeaderLen + len) ≤ buf.readableBytes then
      match ← c.parseAt buf (buf.readerIndex + kHeaderLen) (BigEndian.ofSigned 64 len) with
      | .ok m => do
        let rest ← buf.retrieve (BigEndian.ofSigned 64 (kHeaderLen + len))
        return .deliver m rest
      | .error code => return .refuse code
    else return .stop
  else return .stop

inductive OnMessage : Buffer → List (Event Msg) → Buffer → Prop
  | stop {buf : Buffer} (ends : c.turnAt buf = .ok .stop) : OnMessage buf [] buf
  | refuse {buf : Buffer} {code : ErrorCode} (ends : c.turnAt buf = .ok (.refuse code)) :
      OnMessage buf [.error code] buf
  | deliver {buf rest last : Buffer} {m : Msg} {events : List (Event Msg)}
      (goes : c.turnAt buf = .ok (.deliver m rest)) (later : OnMessage rest events last) :
      OnMessage buf (.message m :: events) last

/-! ## The checks are passed -/

variable {buf : Buffer} {s : List UInt8}

theorem load_eq (rep : buf.Represents s) (file : SourceFile) (line : Nat) {offset len : Nat}
    (inside : offset + len ≤ s.length) :
    load buf file line (buf.readerIndex + offset) len = .ok ((s.drop offset).take len) := by
  have length := rep.length_eq
  have ordered := rep.ordered
  simp only [Buffer.readableBytes] at length
  rw [load, if_pos ⟨by omega, by omega⟩, rep.window_eq inside]

theorem ofSigned_natCast {bits n : Nat} (small : n < 2 ^ bits) :
    BigEndian.ofSigned bits n = n := by
  have cast : ((2 ^ bits : Nat) : Int) = 2 ^ bits := by push_cast; rfl
  rw [BigEndian.ofSigned, Int.emod_eq_of_lt (by omega) (by omega), Int.toNat_natCast]

section Span

variable (rep : buf.Represents s) {n : Nat} (long : c.tag.length + kChecksumLen ≤ n)
  (small : n ≤ kMaxMessageLen) (inside : kHeaderLen + n ≤ s.length)
include rep long small inside

/-- The span holds its checksum, and the bytes it is of. -/
theorem validateChecksumAt_eq :
    c.validateChecksumAt buf (buf.readerIndex + kHeaderLen) n =
      .ok (c.validateChecksum ((s.drop kHeaderLen).take n)) := by
  simp only [kChecksumLen, kHeaderLen, kMaxMessageLen] at long small inside
  have size : ((s.drop 4).take n).length = n := by
    rw [List.length_take, List.length_drop]
    omega
  have at_sum : buf.readerIndex + 4 + n - 4 = buf.readerIndex + n := by omega
  have sum_eq : (s.drop n).take 4 = ((s.drop 4).take n).drop (n - 4) := by
    rw [List.drop_take, List.drop_drop, show n - (n - 4) = 4 by omega,
      show 4 + (n - 4) = n by omega]
  have covered : ((n : Int) - (4 : Nat)) = ((n - 4 : Nat) : Int) := by omega
  have body_eq : (s.drop 4).take (n - 4) = ((s.drop 4).take n).take (n - 4) := by
    rw [List.take_take, Nat.min_eq_left (by omega)]
  simp only [validateChecksumAt, kChecksumLen, kHeaderLen, at_sum, covered]
  rw [load_eq rep _ _ (by omega), ok_bind, ofSigned_natCast (by omega), load_eq rep _ _ (by omega),
    ok_bind, sum_eq, body_eq]
  simp only [validateChecksum, size, kChecksumLen]
  rfl

theorem parseAt_eq :
    c.parseAt buf (buf.readerIndex + kHeaderLen) n =
      .ok (c.parse ((s.drop kHeaderLen).take n)) := by
  have checked := c.validateChecksumAt_eq rep long small inside
  simp only [kChecksumLen, kHeaderLen, kMaxMessageLen] at long small inside checked
  have size : ((s.drop 4).take n).length = n := by
    rw [List.length_take, List.length_drop]
    omega
  have front : (s.drop 4).take c.tag.length = ((s.drop 4).take n).take c.tag.length := by
    rw [List.take_take, Nat.min_eq_left (by omega)]
  have at_payload : buf.readerIndex + 4 + c.tag.length = buf.readerIndex + (4 + c.tag.length) := by
    omega
  have dataLen : ((n : Int) - (4 : Nat) - c.tag.length) = ((n - 4 - c.tag.length : Nat) : Int) := by
    omega
  have payload : (s.drop (4 + c.tag.length)).take (n - 4 - c.tag.length) =
      (((s.drop 4).take n).drop c.tag.length).take (n - 4 - c.tag.length) := by
    rw [List.drop_take, List.drop_drop, List.take_take, Nat.min_eq_left (by omega)]
  simp only [parseAt, kChecksumLen, kHeaderLen]
  rw [checked, ok_bind]
  simp only [parse, size, kChecksumLen]
  split
  · rw [load_eq rep _ _ (by omega), ok_bind, front]
    split
    · rw [dataLen, ofSigned_natCast (by omega), BigEndian.toSigned_of_small 32 _ (by omega),
        ofSigned_natCast (by omega), at_payload, load_eq rep _ _ (by omega), ok_bind, payload]
      cases c.protobuf.parse _ <;> rfl
    · rfl
  · rfl

end Span

/-- An iteration with its reads checked is the iteration. -/
theorem turn_checked (rep : buf.Represents s) : c.turnAt buf = c.turn buf := by
  have length := rep.length_eq
  unfold turnAt turn
  rw [loop_condition, ← length]
  split
  next loops =>
    have header : 4 ≤ s.length := by
      simp only [kChecksumLen, kHeaderLen] at loops
      omega
    have loaded : load buf .bufferH 190 buf.readerIndex 4 = .ok (s.take 4) :=
      @load_eq _ _ rep .bufferH 190 0 4 (by omega)
    have peeked : buf.peekInt32 = .ok (Buffer.hostInt 4 (s.take 4)) :=
      Buffer.peekInt_eq rep 188 header
    rw [cassert_of header, ok_bind, peeked, ok_bind, loaded, ok_bind, kMinMessageLen_eq]
    obtain ⟨len, read⟩ : ∃ len, Buffer.hostInt 4 (s.take 4) = len := ⟨_, rfl⟩
    rw [read]
    by_cases invalid : len > kMaxMessageLen ∨ len < c.tag.length + kChecksumLen
    · rw [if_pos invalid, if_pos invalid]
    · have nonneg : 0 ≤ len := by omega
      obtain ⟨n, rfl⟩ := Int.eq_ofNat_of_zero_le nonneg
      have low : c.tag.length + kChecksumLen ≤ n := by omega
      have high : n ≤ kMaxMessageLen := by omega
      rw [if_neg invalid, if_neg invalid, frame_condition nonneg (by omega), Int.toNat_natCast]
      by_cases complete : kHeaderLen + n ≤ s.length
      · rw [if_pos complete, if_pos complete,
          ofSigned_natCast (by simp only [kMaxMessageLen] at high; omega),
          c.parseAt_eq rep low high complete, ok_bind]
        dsimp only
        cases parsed : c.parse ((s.drop kHeaderLen).take n) with
        | ok m => rw [rep.window_eq complete, parsed]
        | error code => rw [rep.window_eq complete, parsed]
      · rw [if_neg complete, if_neg complete]
  next => rfl

/-- `onMessage` ends, having read readable bytes only. -/
theorem onMessageLoop_checked (bound : Nat) {events : List (Event Msg)} {last : Buffer}
    (rep : buf.Represents s) (enough : s.length < bound)
    (returned : c.onMessageLoop bound buf = .ok (events, last)) : c.OnMessage buf events last := by
  induction bound generalizing buf s events with
  | zero => omega
  | succ bound ih =>
    unfold onMessageLoop at returned
    obtain ⟨turn, turned, agrees⟩ := c.turn_yields rep
    have checked := (c.turn_checked rep).trans turned
    rw [turned, ok_bind] at returned
    cases turn with
    | stop =>
      cases returned
      exact .stop checked
    | refuse code =>
      cases returned
      exact .refuse checked
    | deliver m rest =>
      obtain ⟨⟨later, final⟩, looped, returned⟩ := bind_eq_ok returned
      cases returned
      cases verdict : c.look s with
      | more | fail reason => rw [verdict] at agrees; exact agrees.elim
      | frame message size =>
        have bounds := c.look_frame_size verdict
        rw [verdict] at agrees
        refine .deliver checked (ih agrees.2 ?_ looped)
        rw [List.length_drop]
        omega

end Starry.Source.ProtobufCodecLite
