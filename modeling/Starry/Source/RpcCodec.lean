import Starry.Source.ProtobufCodecLite

/-!
# `starry::RpcCodec` on concrete messages

The codec instantiated as the repository does, with the tag of `net/rpc/rpc_codec.cpp`,
and with zlib's `adler32`. Of `RpcMessage` (`net/rpc/protos/rpc.proto`) only messages with
no field but `request` set are represented, in protobuf's wire format: key 0x2A, the
length as a varint of at most two bytes, the bytes; nothing at all when it is empty.
-/
namespace Starry.Source

def rpctag : List UInt8 := [0x52, 0x50, 0x43, 0x30]

/-- RFC 1950: two sums modulo 65521, started at 1 and 0. -/
def adler32 (bytes : List UInt8) : UInt32 :=
  let sums := bytes.foldl (fun (sums : Nat × Nat) byte =>
    let a := (sums.1 + byte.toNat) % 65521
    (a, (sums.2 + a) % 65521)) (1, 0)
  UInt32.ofNat (sums.2 * 65536 + sums.1)

structure RequestMessage where
  request : List UInt8
  short : request.length < 2 ^ 14
  deriving DecidableEq

namespace RequestMessage

def serialize (m : RequestMessage) : List UInt8 :=
  if m.request = [] then []
  else if m.request.length < 128 then 0x2A :: UInt8.ofNat m.request.length :: m.request
  else 0x2A :: UInt8.ofNat (m.request.length % 128 + 128) ::
    UInt8.ofNat (m.request.length / 128) :: m.request

/-- Accept `bytes` as the field when the length read fits it exactly. -/
def ofField (length : Nat) (bytes : List UInt8) : Option RequestMessage :=
  if fits : bytes.length = length ∧ length < 2 ^ 14 then
    some ⟨bytes, by omega⟩
  else none

def parse : List UInt8 → Option RequestMessage
  | [] => some ⟨[], by decide⟩
  | key :: low :: rest =>
    if key ≠ 0x2A then none
    else if low.toNat < 128 then ofField low.toNat rest
    else
      match rest with
      | [] => none
      | high :: bytes => ofField (low.toNat - 128 + 128 * high.toNat) bytes
  | _ => none

theorem ofField_exact (m : RequestMessage) : ofField m.request.length m.request = some m := by
  have short := m.short
  simp only [ofField]
  rw [dif_pos ⟨trivial, short⟩]

theorem parse_serialize (m : RequestMessage) : parse m.serialize = some m := by
  have short := m.short
  have exact_field := ofField_exact m
  unfold serialize
  split
  next empty =>
    cases m
    simp_all [parse]
  next =>
    split
    next one =>
      have low : (UInt8.ofNat m.request.length).toNat = m.request.length := by
        rw [UInt8.toNat_ofNat']
        omega
      simp only [parse, low, if_pos one]
      simpa using exact_field
    next two =>
      have low : (UInt8.ofNat (m.request.length % 128 + 128)).toNat =
          m.request.length % 128 + 128 := by
        rw [UInt8.toNat_ofNat']
        omega
      have high : (UInt8.ofNat (m.request.length / 128)).toNat = m.request.length / 128 := by
        rw [UInt8.toNat_ofNat']
        omega
      have whole : m.request.length % 128 + 128 - 128 + 128 * (m.request.length / 128) =
          m.request.length := by omega
      simp only [parse, low, high, whole]
      rw [if_neg (by decide), if_neg (by omega)]
      exact exact_field

theorem length_serialize_of_long (m : RequestMessage) (nonempty : m.request ≠ [])
    (long : 128 ≤ m.request.length) : m.serialize.length = m.request.length + 3 := by
  unfold serialize
  rw [if_neg nonempty, if_neg (by omega)]
  simp only [List.length_cons]

def protobuf : Protobuf RequestMessage where
  isInitialized _ := true
  byteSizeLong m := m.serialize.length
  serialize := serialize
  parse := parse

end RequestMessage

def rpcCodec : ProtobufCodecLite RequestMessage where
  protobuf := RequestMessage.protobuf
  adler32_z := adler32
  tag := rpctag
  tag_fits := by decide

theorem rpcCodec_byteSizeLong (m : RequestMessage) :
    rpcCodec.protobuf.byteSizeLong m = m.serialize.length := rfl

end Starry.Source
