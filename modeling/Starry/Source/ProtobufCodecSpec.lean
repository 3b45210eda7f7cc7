import Starry.Foundation.StreamDecoder
import Starry.Source.BufferSpec
import Starry.Source.ProtobufCodecLite

/-!
# The codec as a stream decoder

`look` decides on the front of a byte string as one iteration of `onMessage` does, and
`onMessage_yields` says that the loop over a `Buffer` is the drain of that decoder over
the bytes the buffer holds. `frame` is the byte string of one message; `look_frame` says
that the decoder takes it off whatever follows.
-/
namespace Starry.Source.ProtobufCodecLite

open Starry.Foundation

variable {Msg : Type} (c : ProtobufCodecLite Msg)

theorem kMinMessageLen_eq : c.kMinMessageLen = c.tag.length + kChecksumLen := by
  have fits := c.tag_fits
  have word := BigEndian.toSigned_of_small 32 (c.tag.length + kChecksumLen) (by
    simp only [kChecksumLen]; omega)
  rw [kMinMessageLen, word]
  rfl

def look (s : List UInt8) : Verdict Msg ErrorCode :=
  if s.length < c.tag.length + kChecksumLen + kHeaderLen then .more
  else
    let len := asInt32 (s.take 4)
    if len > kMaxMessageLen ∨ len < c.tag.length + kChecksumLen then .fail .kInvalidLength
    else if s.length < kHeaderLen + len.toNat then .more
    else
      match c.parse ((s.drop kHeaderLen).take len.toNat) with
      | .ok m => .frame m (kHeaderLen + len.toNat)
      | .error code => .fail code

theorem look_frame_size {s : List UInt8} {m : Msg} {size : Nat} (taken : c.look s = .frame m size) :
    0 < size ∧ size ≤ s.length := by
  unfold look at taken
  simp only at taken
  split at taken
  · cases taken
  · split at taken
    · cases taken
    · split at taken
      · cases taken
      next enough =>
        split at taken
        · cases taken
          simp only [kHeaderLen] at enough ⊢
          omega
        · cases taken

/-- Later bytes change neither the length read nor the span parsed. -/
theorem look_stable {s : List UInt8} (t : List UInt8) (decided : c.look s ≠ .more) :
    c.look (s ++ t) = c.look s := by
  unfold look at decided ⊢
  simp only at decided ⊢
  by_cases short : s.length < c.tag.length + kChecksumLen + kHeaderLen
  · simp [short] at decided
  · have header : (s ++ t).take 4 = s.take 4 := by
      rw [List.take_append_of_le_length]
      simp only [kChecksumLen, kHeaderLen] at short
      omega
    have longer : ¬ (s ++ t).length < c.tag.length + kChecksumLen + kHeaderLen := by
      rw [List.length_append]
      omega
    rw [if_neg short] at decided ⊢
    rw [if_neg longer, header]
    split
    · rfl
    next valid =>
      rw [if_neg valid] at decided
      by_cases waits : s.length < kHeaderLen + (asInt32 (s.take 4)).toNat
      · simp [waits] at decided
      · have whole : ¬ (s ++ t).length < kHeaderLen + (asInt32 (s.take 4)).toNat := by
          rw [List.length_append]
          omega
        have span : ((s ++ t).drop kHeaderLen).take (asInt32 (s.take 4)).toNat =
            (s.drop kHeaderLen).take (asInt32 (s.take 4)).toNat := by
          rw [List.drop_append_of_le_length (by omega), List.take_append_of_le_length]
          rw [List.length_drop]
          omega
        rw [if_neg waits, if_neg whole, span]

def decoder : StreamDecoder UInt8 Msg ErrorCode where
  look := c.look
  frame_size := c.look_frame_size
  stable := c.look_stable

/-- The callbacks made while a drain is delivered. -/
def eventsOf (drained : Drained UInt8 Msg ErrorCode) : List (Event Msg) :=
  drained.messages.map .message ++ drained.error.toList.map .error

/-- The sum of `int` and `size_t` in the condition of the loop. -/
theorem loop_condition : BigEndian.ofSigned 32 (c.kMinMessageLen + kHeaderLen) =
    c.tag.length + kChecksumLen + kHeaderLen := by
  have fits := c.tag_fits
  rw [kMinMessageLen_eq, BigEndian.ofSigned, Int.emod_eq_of_lt]
  · rfl
  · omega
  · simp only [kChecksumLen, kHeaderLen]
    omega

theorem frame_condition {len : Int} (nonneg : 0 ≤ len) (small : len ≤ kMaxMessageLen) :
    BigEndian.ofSigned 64 (kHeaderLen + len) = kHeaderLen + len.toNat := by
  rw [BigEndian.ofSigned, Int.emod_eq_of_lt]
  · simp only [kHeaderLen]
    omega
  · simp only [kHeaderLen]
    omega
  · simp only [kHeaderLen, kMaxMessageLen] at small ⊢
    omega

/-- What an iteration on a buffer holding `s` does for each verdict on `s`. -/
def TurnAgrees (s : List UInt8) : Turn Msg → Verdict Msg ErrorCode → Prop
  | .stop, .more => True
  | .refuse code, .fail reason => code = reason
  | .deliver m rest, .frame message size => m = message ∧ rest.Represents (s.drop size)
  | _, _ => False

/-- One turn of the loop does what the decoder does with the front. -/
theorem turn_yields {buf : Buffer} {s : List UInt8} (rep : buf.Represents s) :
    Yields (c.turn buf) fun turn => TurnAgrees s turn (c.look s) := by
  have length := rep.length_eq
  unfold turn
  rw [loop_condition, ← length]
  split
  next loops =>
    have header : ¬ s.length < c.tag.length + kChecksumLen + kHeaderLen := by omega
    have peeked : buf.peekInt32 = .ok (asInt32 (s.take 4)) :=
      Buffer.peekInt_eq rep 188 (by simp only [kChecksumLen, kHeaderLen] at loops; omega)
    rw [peeked, ok_bind, kMinMessageLen_eq]
    simp only [look, if_neg header]
    generalize asInt32 (s.take 4) = len
    by_cases invalid : len > kMaxMessageLen ∨ len < c.tag.length + kChecksumLen
    · rw [if_pos invalid, if_pos invalid]
      exact .ok rfl
    · rw [if_neg invalid, if_neg invalid, frame_condition (by omega) (by omega)]
      by_cases complete : kHeaderLen + len.toNat ≤ s.length
      · rw [if_pos complete, if_neg (Nat.not_lt.mpr complete),
          @Buffer.Represents.window_eq _ _ rep kHeaderLen len.toNat complete]
        cases c.parse ((s.drop kHeaderLen).take len.toNat) with
        | error code => exact .ok rfl
        | ok m =>
          apply Yields.bind (Buffer.retrieve_yields rep complete)
          intro rest dropped
          exact .ok ⟨rfl, dropped⟩
      · rw [if_neg complete, if_pos (Nat.lt_of_not_le complete)]
        exact .ok trivial
  next stops =>
    simp only [look, if_pos (Nat.lt_of_not_le stops)]
    exact .ok trivial

theorem onMessageLoop_yields (bound : Nat) {buf : Buffer} {s : List UInt8}
    (rep : buf.Represents s) (enough : s.length < bound) :
    Yields (c.onMessageLoop bound buf) fun out =>
      out.1 = eventsOf (c.decoder.drain s) ∧ out.2.Represents (c.decoder.drain s).rest := by
  induction bound generalizing buf s with
  | zero => omega
  | succ bound ih =>
    unfold onMessageLoop
    apply Yields.bind (c.turn_yields rep)
    intro turn agrees
    cases verdict : c.look s with
    | more =>
      rw [verdict] at agrees
      rw [StreamDecoder.drain_of_more (D := c.decoder) verdict]
      cases turn with
      | stop => exact .ok ⟨rfl, rep⟩
      | refuse code => exact agrees.elim
      | deliver m rest => exact agrees.elim
    | fail reason =>
      rw [verdict] at agrees
      rw [StreamDecoder.drain_of_fail (D := c.decoder) verdict]
      cases turn with
      | stop => exact agrees.elim
      | refuse code => exact .ok ⟨by rw [show code = reason from agrees]; rfl, rep⟩
      | deliver m rest => exact agrees.elim
    | frame message size =>
      have bounds := c.look_frame_size verdict
      rw [verdict] at agrees
      rw [StreamDecoder.drain_of_frame (D := c.decoder) verdict]
      cases turn with
      | stop => exact agrees.elim
      | refuse code => exact agrees.elim
      | deliver m rest =>
        obtain ⟨same, dropped⟩ := agrees
        apply Yields.bind (ih dropped (by rw [List.length_drop]; omega))
        rintro ⟨events, last⟩ ⟨delivered, left⟩
        refine .ok ⟨?_, left⟩
        simp only at delivered
        simp [same, delivered, eventsOf]

/-- One call of `onMessage` returns, makes the callbacks of the drain and leaves its rest. -/
theorem onMessage_yields {buf : Buffer} {s : List UInt8} (rep : buf.Represents s) :
    Yields (c.onMessage buf) fun out =>
      out.1 = eventsOf (c.decoder.drain s) ∧ out.2.Represents (c.decoder.drain s).rest :=
  c.onMessageLoop_yields _ rep (by rw [rep.length_eq]; omega)

theorem drain_nil : c.decoder.drain [] = ⟨[], none, []⟩ := by
  have waits : c.look [] = .more := by simp [look, kChecksumLen]
  exact StreamDecoder.drain_of_more (D := c.decoder) waits

/-! ## Frames -/

def body (m : Msg) : List UInt8 := c.tag ++ c.protobuf.serialize m

/-- The length of what follows, the tag, the payload, and the checksum of tag and payload. -/
def frame (m : Msg) : List UInt8 :=
  Buffer.networkBytes 4 ((c.body m).length + kChecksumLen) ++
    (c.body m ++ Buffer.networkBytes 4 (c.checksum (c.body m)))

theorem frame_length (m : Msg) : (c.frame m).length = (c.body m).length + 8 := by
  simp only [frame, List.length_append, Buffer.networkBytes_length]
  omega

theorem checksum_wire (bytes : List UInt8) :
    asInt32 (Buffer.networkBytes 4 (c.checksum bytes)) = c.checksum bytes := by
  have range := BigEndian.toSigned_range 31 (c.adler32_z bytes).toNat
  exact Buffer.hostInt_networkBytes 4 _ range.1 range.2

theorem parse_body {m : Msg} (inverts : c.protobuf.parse (c.protobuf.serialize m) = some m) :
    c.parse (c.body m ++ Buffer.networkBytes 4 (c.checksum (c.body m))) = .ok m := by
  have cut : (c.body m ++ Buffer.networkBytes 4 (c.checksum (c.body m))).length - kChecksumLen =
      (c.body m).length := by
    simp [kChecksumLen]
  have valid : c.validateChecksum
      (c.body m ++ Buffer.networkBytes 4 (c.checksum (c.body m))) = true := by
    simp only [validateChecksum, cut, List.drop_left, List.take_left, checksum_wire, beq_self_eq_true]
  have tagged : (c.body m ++ Buffer.networkBytes 4 (c.checksum (c.body m))).take c.tag.length =
      c.tag := by
    rw [body, List.append_assoc, List.take_left]
  have payload : ((c.body m ++ Buffer.networkBytes 4 (c.checksum (c.body m))).drop
      c.tag.length).take ((c.body m).length - c.tag.length) = c.protobuf.serialize m := by
    have size : (c.body m).length - c.tag.length = (c.protobuf.serialize m).length := by
      simp [body]
    rw [size, body, List.append_assoc, List.drop_left, List.take_left]
  simp only [parse, valid, if_true, tagged, cut, payload, inverts]

/-- The decoder takes a frame off the front of any stream. -/
theorem look_frame {m : Msg} (inverts : c.protobuf.parse (c.protobuf.serialize m) = some m)
    (fits : (c.body m).length + kChecksumLen ≤ kMaxMessageLen) (later : List UInt8) :
    c.look (c.frame m ++ later) = .frame m (c.frame m).length := by
  have long : c.tag.length ≤ (c.body m).length := by simp [body]
  simp only [kMaxMessageLen, kChecksumLen] at fits
  have header : asInt32 ((c.frame m ++ later).take 4) = ((c.body m).length + 4 : Nat) := by
    rw [frame, List.append_assoc]
    rw [List.take_append_of_le_length (by simp), List.take_of_length_le (by simp)]
    have bound : ((2 : Int) ^ (8 * 4)) = 4294967296 := by norm_num
    exact Buffer.hostInt_networkBytes 4 _ (by omega) (by rw [bound]; simp only [kChecksumLen]; omega)
  have size : (c.frame m ++ later).length = (c.body m).length + 8 + later.length := by
    rw [List.length_append, frame_length]
  have span : ((c.frame m ++ later).drop kHeaderLen).take ((c.body m).length + 4) =
      c.body m ++ Buffer.networkBytes 4 (c.checksum (c.body m)) := by
    rw [frame, List.append_assoc]
    rw [show kHeaderLen = (Buffer.networkBytes 4 ((c.body m).length + kChecksumLen)).length by
      simp [kHeaderLen], List.drop_left, List.take_append_of_le_length (by simp),
      List.take_of_length_le (by simp)]
  unfold look
  rw [if_neg (by rw [size]; simp only [kChecksumLen, kHeaderLen]; omega), header]
  simp only [Int.toNat_natCast]
  rw [if_neg (by simp only [kMaxMessageLen, kChecksumLen]; omega),
    if_neg (by rw [size]; simp only [kHeaderLen]; omega), span, c.parse_body inverts,
    frame_length]
  simp only [kHeaderLen]
  rw [Nat.add_comm 4, Nat.add_assoc]

/-! ## Encoder -/

/-- The tag is in place when the payload is serialised, and nothing has moved. -/
theorem tagged_yields (initialSize : Nat) :
    Yields ((Buffer.new initialSize).append true c.tag) fun tagged =>
      tagged.Represents c.tag ∧ tagged.readerIndex = Buffer.kCheapPrepend := by
  have low : (Buffer.new initialSize).readerIndex ≤ Buffer.kCheapPrepend := Nat.le_refl _
  have appended := (@Buffer.append_yields _ _ (Buffer.new_represents initialSize) true c.tag
    fun _ => Buffer.not_moveTrips_of_low low).and_of_ok fun _ => Buffer.append_reader low
  exact appended

section Encoder

variable {c} {m : Msg} (sized : (c.protobuf.serialize m).length = c.protobuf.byteSizeLong m)
include sized

/-- Room for the payload is made by growing: with the reader index within the reserve nothing
moves. -/
theorem reserved_yields {buf : Buffer} {s : List UInt8} (rep : buf.Represents s)
    (low : buf.readerIndex ≤ Buffer.kCheapPrepend) :
    Yields (buf.ensureWritableBytes true (c.protobuf.byteSizeLong m)) fun roomy =>
      roomy.Represents s ∧ (c.protobuf.serialize m).length ≤ roomy.writableBytes ∧
        roomy.readerIndex = buf.readerIndex := by
  have reserved := (@Buffer.ensureWritableBytes_yields _ _ rep true (c.protobuf.byteSizeLong m)
    fun _ => Buffer.not_moveTrips_of_low low).and_of_ok fun _ =>
      Buffer.ensureWritableBytes_reader low
  apply reserved.imp
  rintro roomy ⟨⟨held, room⟩, reader⟩
  rw [← sized] at room
  exact ⟨held, room, reader⟩

variable (initialized : c.protobuf.isInitialized m = true)
include initialized

/-- Below 256 the truncated size is the size, and the payload is taken over. -/
theorem serializeToBuffer_small (small : c.protobuf.byteSizeLong m < 256) {buf : Buffer}
    {s : List UInt8} (rep : buf.Represents s) (low : buf.readerIndex ≤ Buffer.kCheapPrepend) :
    Yields (c.serializeToBuffer m buf) fun out => out.1 = c.protobuf.byteSizeLong m ∧
      out.2.Represents (s ++ c.protobuf.serialize m) ∧ out.2.readerIndex = buf.readerIndex := by
  rw [serializeToBuffer, if_neg (by simp [initialized])]
  apply Yields.bind (reserved_yields sized rep low)
  rintro roomy ⟨held, room, reader⟩
  rw [if_neg (Nat.not_lt.mpr room), sized, if_neg (by omega), ← sized]
  apply Yields.bind ((Buffer.hasWritten_yields held room).and_of_ok fun _ =>
    Buffer.hasWritten_reader)
  rintro longer ⟨⟨filled, _⟩, same⟩
  refine .ok ⟨?_, filled, same.trans reader⟩
  dsimp only
  rw [BigEndian.toSigned_of_small]
  omega

/-- From 256 on the size differs from its low byte: -1 is returned and the bytes written
stay outside the readable area. -/
theorem serializeToBuffer_large (large : 256 ≤ c.protobuf.byteSizeLong m) {buf : Buffer}
    {s : List UInt8} (rep : buf.Represents s) (low : buf.readerIndex ≤ Buffer.kCheapPrepend) :
    Yields (c.serializeToBuffer m buf) fun out => out.1 = -1 ∧ out.2.Represents s ∧
      out.2.readerIndex = buf.readerIndex := by
  rw [serializeToBuffer, if_neg (by simp [initialized])]
  apply Yields.bind (reserved_yields sized rep low)
  rintro roomy ⟨held, room, reader⟩
  have differ : (c.protobuf.serialize m).length ≠ c.protobuf.byteSizeLong m % 2 ^ 8 := by
    have low := Nat.mod_lt (c.protobuf.byteSizeLong m) (by decide : 0 < 2 ^ 8)
    omega
  rw [if_neg (Nat.not_lt.mpr room), if_pos differ]
  exact .ok ⟨rfl, Buffer.fill_represents held room, reader⟩

/-- What is put together: the `int32_t` of the length, whatever the length is. -/
theorem fillEmptyBuffer_yields (small : c.protobuf.byteSizeLong m < 256) (initialSize : Nat) :
    Yields (c.fillEmptyBuffer (Buffer.new initialSize) m) fun buf => buf.Represents
      (Buffer.networkBytes 4 (BigEndian.toSigned 32 ((c.body m).length + kChecksumLen)) ++
        (c.body m ++ Buffer.networkBytes 4 (c.checksum (c.body m)))) := by
  have short := c.tag_fits
  have size : (c.body m).length = c.tag.length + c.protobuf.byteSizeLong m := by
    simp [body, sized]
  apply yields_cassert (by simp [Buffer.readableBytes, Buffer.new])
  apply Yields.bind (c.tagged_yields initialSize)
  rintro tagged ⟨held, reader⟩
  apply Yields.bind (serializeToBuffer_small sized initialized small held (Nat.le_of_eq reader))
  rintro ⟨byteSize, filled⟩ ⟨returned, content, same⟩
  simp only at returned content same ⊢
  have low : filled.readerIndex ≤ Buffer.kCheapPrepend := Nat.le_of_eq (same.trans reader)
  rw [content.readable_eq, returned]
  apply Yields.bind ((@Buffer.append_yields _ _ content true _
    fun _ => Buffer.not_moveTrips_of_low low).and_of_ok fun _ => Buffer.append_reader low)
  rintro summed ⟨whole, last⟩
  have length : (c.body m).length + 4 = summed.readableBytes := by
    rw [← whole.length_eq, List.length_append, Buffer.networkBytes_length]
    rfl
  apply yields_cassert
  · simp only [kChecksumLen]
    omega
  · rw [kChecksumLen, length]
    have room : (Buffer.networkBytes 4 (BigEndian.toSigned 32 summed.readableBytes)).length ≤
        summed.prependableBytes := by
      rw [Buffer.networkBytes_length, Buffer.prependableBytes, last, same, reader]
      decide
    exact Buffer.prepend_yields whole room

theorem fillEmptyBuffer_small (small : c.protobuf.byteSizeLong m < 256)
    (fits : (c.body m).length + kChecksumLen ≤ kMaxMessageLen) (initialSize : Nat) :
    Yields (c.fillEmptyBuffer (Buffer.new initialSize) m) fun buf => buf.Represents (c.frame m) := by
  have filled := fillEmptyBuffer_yields sized initialized small initialSize
  simp only [kMaxMessageLen] at fits
  rw [BigEndian.toSigned_of_small 32 _ (by omega)] at filled
  exact filled

end Encoder

section Refused

variable {c} {m : Msg}

/-- `serializeToBuffer` refuses the message and leaves the readable area as it is. -/
def Refuses (c : ProtobufCodecLite Msg) (m : Msg) : Prop :=
  ∀ (buf : Buffer) (s : List UInt8), buf.Represents s → buf.readerIndex ≤ Buffer.kCheapPrepend →
    Yields (c.serializeToBuffer m buf) fun out => out.1 = -1 ∧ out.2.Represents s ∧
      out.2.readerIndex = buf.readerIndex

theorem refuses_uninitialized (uninitialized : c.protobuf.isInitialized m = false) :
    Refuses c m := by
  intro buf s rep _
  rw [serializeToBuffer, if_pos uninitialized]
  exact .ok ⟨rfl, rep, rfl⟩

theorem refuses_large (sized : (c.protobuf.serialize m).length = c.protobuf.byteSizeLong m)
    (initialized : c.protobuf.isInitialized m = true) (large : 256 ≤ c.protobuf.byteSizeLong m) :
    Refuses c m := by
  intro buf s rep low
  exact serializeToBuffer_large sized initialized large rep low

/-- The assertion after the checksum then compares with `tag_.size() - 1 + 4`. -/
theorem fillEmptyBuffer_refused (refuses : Refuses c m) (initialSize : Nat) :
    c.fillEmptyBuffer (Buffer.new initialSize) m =
      .error (.assertion .protobufCodecLiteCpp 49) := by
  have fits := c.tag_fits
  obtain ⟨tagged, appended, held, reader⟩ := c.tagged_yields initialSize
  obtain ⟨⟨byteSize, filled⟩, serialized, returned, content, same⟩ :=
    refuses tagged c.tag held (Nat.le_of_eq reader)
  simp only at returned content same
  have low : filled.readerIndex ≤ Buffer.kCheapPrepend := Nat.le_of_eq (same.trans reader)
  obtain ⟨summed, checked, whole⟩ := @Buffer.append_yields _ _ content true
    (Buffer.networkBytes 4 (c.checksum filled.readable)) fun _ => Buffer.not_moveTrips_of_low low
  have length : summed.readableBytes = c.tag.length + 4 := by
    rw [← whole.length_eq, List.length_append, Buffer.networkBytes_length]
  have fails : ¬ ((summed.readableBytes : Int) =
      (c.tag.length + byteSize + kChecksumLen) % 2 ^ 64) := by
    simp only [returned, kChecksumLen, length]
    omega
  rw [fillEmptyBuffer, cassert_of (by simp [Buffer.readableBytes, Buffer.new]), ok_bind, appended,
    ok_bind, serialized, ok_bind]
  simp only [Buffer.appendInt32, Buffer.appendInt]
  rw [checked, ok_bind, cassert_of_not fails]
  rfl

/-- The assertion of line 49 compares the whole size with one cast to `uint8_t`. -/
theorem fillEmptyBuffer_large (sized : (c.protobuf.serialize m).length = c.protobuf.byteSizeLong m)
    (initialized : c.protobuf.isInitialized m = true) (large : 256 ≤ c.protobuf.byteSizeLong m)
    (initialSize : Nat) : c.fillEmptyBuffer (Buffer.new initialSize) m =
      .error (.assertion .protobufCodecLiteCpp 49) :=
  fillEmptyBuffer_refused (refuses_large sized initialized large) initialSize

end Refused

end Starry.Source.ProtobufCodecLite
