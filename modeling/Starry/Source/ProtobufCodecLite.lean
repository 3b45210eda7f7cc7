import Starry.Source.Buffer

/-!
# `starry::ProtobufCodecLite`

`net/rpc/protobuf_codec_lite.h` and `.cpp`: the encoder `fillEmptyBuffer` and the decoder
loop `onMessage`. Protobuf and zlib are outside the repository, so a codec carries what
it calls of them: a message's size, its bytes, the parser, and `adler32_z` started at 1.

`kMinMessageLen` is an `int` initialised from a `size_t`; a codec carries the proof that
its tag is short enough for that and for the additions made with it.
-/
namespace Starry.Source

open Starry.Foundation

/-- What the codec calls of a protobuf message type. `serialize` is what
`SerializeWithCachedSizesToArray` writes, `parse` is `ParseFromArray` into a new message. -/
structure Protobuf (Msg : Type) where
  isInitialized : Msg → Bool
  byteSizeLong : Msg → Nat
  serialize : Msg → List UInt8
  parse : List UInt8 → Option Msg

structure ProtobufCodecLite (Msg : Type) where
  protobuf : Protobuf Msg
  adler32_z : List UInt8 → UInt32
  tag : List UInt8
  tag_fits : tag.length + 8 < 2 ^ 31

namespace ProtobufCodecLite

def kHeaderLen : Nat := 4
def kChecksumLen : Nat := 4
def kMaxMessageLen : Nat := 64 * 1024 * 1024

inductive ErrorCode where
  | kNoError | kInvalidLength | kCheckSumError | kInvalidNameLen | kUnknownMessageType
  | kParseError
  deriving DecidableEq, Repr

/-- The callbacks `onMessage` makes, in order. -/
inductive Event (Msg : Type) where
  | message (m : Msg)
  | error (code : ErrorCode)
  deriving DecidableEq

variable {Msg : Type} (c : ProtobufCodecLite Msg)

def kMinMessageLen : Int := BigEndian.toSigned 32 (c.tag.length + kChecksumLen)

def checksum (bytes : List UInt8) : Int := BigEndian.toSigned 32 (c.adler32_z bytes).toNat

def asInt32 (octets : List UInt8) : Int := Buffer.hostInt 4 octets

/-! ## Encoder -/

/-- The size check compares with `static_cast<uint8_t>(byte_size)`. -/
def serializeToBuffer (m : Msg) (buf : Buffer) : Except Abort (Int × Buffer) :=
  if c.protobuf.isInitialized m = false then .ok (-1, buf)
  else do
    let byteSize := c.protobuf.byteSizeLong m
    let roomy ← buf.ensureWritableBytes true byteSize
    let written := c.protobuf.serialize m
    if roomy.writableBytes < written.length then
      .error (.undefinedBehaviour .protobufCodecLiteCpp 75)
    else if written.length ≠ byteSize % 2 ^ 8 then .ok (-1, roomy.fill written)
    else do
      let longer ← (roomy.fill written).hasWritten byteSize
      return (BigEndian.toSigned 32 byteSize, longer)

/-- The assertion after the checksum adds in `size_t`. -/
def fillEmptyBuffer (buf : Buffer) (m : Msg) : Except Abort Buffer := do
  cassert (buf.readableBytes = 0) .protobufCodecLiteCpp 32
  let tagged ← buf.append true c.tag
  let (byteSize, filled) ← c.serializeToBuffer m tagged
  let checkSum := c.checksum filled.readable
  let summed ← filled.appendInt32 true checkSum
  cassert ((summed.readableBytes : Int) = (c.tag.length + byteSize + kChecksumLen) % 2 ^ 64)
    .protobufCodecLiteCpp 49
  let len := BigEndian.toSigned 32 summed.readableBytes
  summed.prependInt32 len

/-! ## Decoder -/

def validateChecksum (span : List UInt8) : Bool :=
  let expected := asInt32 (span.drop (span.length - kChecksumLen))
  c.checksum (span.take (span.length - kChecksumLen)) == expected

/-- `kNoError` comes with the parsed message. -/
def parse (span : List UInt8) : Except ErrorCode Msg :=
  if c.validateChecksum span then
    if span.take c.tag.length = c.tag then
      let data := (span.drop c.tag.length).take (span.length - kChecksumLen - c.tag.length)
      match c.protobuf.parse data with
      | some m => .ok m
      | none => .error .kParseError
    else .error .kUnknownMessageType
  else .error .kCheckSumError

/-- How one iteration of the `while` loop of `onMessage` ends: the loop stops, an error is
reported and the loop stops, or a message is delivered and its frame retrieved. -/
inductive Turn (Msg : Type) where
  | stop
  | refuse (code : ErrorCode)
  | deliver (m : Msg) (rest : Buffer)

def turn (buf : Buffer) : Except Abort (Turn Msg) :=
  if BigEndian.ofSigned 32 (c.kMinMessageLen + kHeaderLen) ≤ buf.readableBytes then do
    let len ← buf.peekInt32
    if len > kMaxMessageLen ∨ len < c.kMinMessageLen then
      return .refuse .kInvalidLength
    else if BigEndian.ofSigned 64 (kHeaderLen + len) ≤ buf.readableBytes then
      let first := buf.readerIndex + kHeaderLen
      match c.parse (Memory.window buf.buffer first (first + len.toNat)) with
      | .ok m => do
        let rest ← buf.retrieve (kHeaderLen + len.toNat)
        return .deliver m rest
      | .error code => return .refuse code
    else return .stop
  else return .stop

/-- The loop itself, with a bound on its iterations. -/
def onMessageLoop : Nat → Buffer → Except Abort (List (Event Msg) × Buffer)
  | 0, buf => .ok ([], buf)
  | bound + 1, buf => do
    match ← c.turn buf with
    | .stop => return ([], buf)
    | .refuse code => return ([.error code], buf)
    | .deliver m rest => do
      let (events, last) ← onMessageLoop bound rest
      return (.message m :: events, last)

/-- Every iteration but the last takes at least one byte off, so the bound is not met. -/
def onMessage (buf : Buffer) : Except Abort (List (Event Msg) × Buffer) :=
  c.onMessageLoop (buf.readableBytes + 1) buf

end ProtobufCodecLite

end Starry.Source
