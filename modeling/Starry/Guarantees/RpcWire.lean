import Starry.Guarantees.RpcReplies

/-!
# `RpcMessage` on the wire

Protobuf is outside the repository. For runs on given inputs, this is its wire format for
`RpcMessage` (`net/rpc/protos/rpc.proto`), read as `ParseFromArray` reads what
`SerializeWithCachedSizesToArray` has written: each field that does not have its default, in
the order of the field numbers. `parseWire_wire` says that reading inverts writing as far as
lengths fit a varint of ten bytes.
-/
namespace Starry.Guarantees.RpcWire

open Starry.Source
open Starry.Guarantees.RpcReplies (varint bytesField numberField wire)

/-- A base-128 varint of at most `width` bytes at the front. -/
def takeVarint : (width : Nat) → List UInt8 → Option (Nat × List UInt8)
  | 0, _ => none
  | _ + 1, [] => none
  | width + 1, byte :: rest =>
    if byte.toNat < 128 then some (byte.toNat, rest)
    else do
      let (high, rest) ← takeVarint width rest
      return (byte.toNat - 128 + 128 * high, rest)

/-- A field with this key, or its default if another one comes first. -/
def takeNumber (key : UInt8) : List UInt8 → Option (Nat × List UInt8)
  | [] => some (0, [])
  | first :: rest => if first = key then takeVarint 10 rest else some (0, first :: rest)

def takeBytes (key : UInt8) : List UInt8 → Option (List UInt8 × List UInt8)
  | [] => some ([], [])
  | first :: rest =>
    if first = key then do
      let (length, rest) ← takeVarint 10 rest
      if length ≤ rest.length then some (rest.take length, rest.drop length) else none
    else some ([], first :: rest)

def messageType : Nat → Option MessageType
  | 0 => some .UNKNOWN
  | 1 => some .REQUEST
  | 2 => some .RESPONSE
  | 3 => some .ERROR
  | _ => none

/-- `ParseFromArray` of an `RpcMessage` whose fields come in the order of their numbers. -/
def parseWire (bytes : List UInt8) : Option RpcMessage := do
  let (type, rest) ← takeNumber 0x08 bytes
  let (id, rest) ← takeNumber 0x10 rest
  let (service, rest) ← takeBytes 0x1A rest
  let (method, rest) ← takeBytes 0x22 rest
  let (request, rest) ← takeBytes 0x2A rest
  let (response, rest) ← takeBytes 0x32 rest
  let type ← messageType type
  let service ← String.fromUTF8? ⟨service.toArray⟩
  let method ← String.fromUTF8? ⟨method.toArray⟩
  if rest = [] then
    some { type := type, id := UInt64.ofNat id, service := service, method := method
           request := request, response := response }
  else none

/-- A varint is read back, whatever follows it. -/
theorem takeVarint_varint {width n : Nat} (fits : n < 128 ^ (width + 1)) (rest : List UInt8) :
    takeVarint (width + 1) (varint (width + 1) n ++ rest) = some (n, rest) := by
  induction width generalizing n with
  | zero =>
    have small : n < 128 := by simpa using fits
    have byte : (UInt8.ofNat n).toNat = n := by
      rw [UInt8.toNat_ofNat']
      omega
    simp [varint, takeVarint, byte, small]
  | succ width ih =>
    unfold varint
    split
    next small =>
      have byte : (UInt8.ofNat n).toNat = n := by
        rw [UInt8.toNat_ofNat']
        omega
      simp [takeVarint, byte, small]
    next large =>
      have byte : (UInt8.ofNat (n % 128 + 128)).toNat = n % 128 + 128 := by
        rw [UInt8.toNat_ofNat']
        omega
      have high := @ih (n / 128) (by rw [pow_succ] at fits; omega)
      rw [List.cons_append, takeVarint, byte, if_neg (by omega), high]
      simp only [Option.pure_def, Option.bind_eq_bind, Option.bind_some, Option.some.injEq,
        Prod.mk.injEq, and_true]
      omega

/-- Whatever follows has a larger key. -/
def Above (key : UInt8) (rest : List UInt8) : Prop := ∀ first ∈ rest.head?, key < first

theorem above_nil (key : UInt8) : Above key [] := by simp [Above]

/-- Fields are written in the order of their keys. -/
theorem above_bytesField {key other : UInt8} {bytes rest : List UInt8} (order : key < other)
    (above : Above other rest) : Above key (bytesField other bytes ++ rest) := by
  unfold bytesField
  split
  · intro first member
    exact UInt8.lt_trans order (above first member)
  · simpa [Above] using order

theorem above_numberField {key other : UInt8} {n : Nat} {rest : List UInt8} (order : key < other)
    (above : Above other rest) : Above key (numberField other n ++ rest) := by
  unfold numberField
  split
  · intro first member
    exact UInt8.lt_trans order (above first member)
  · simpa [Above] using order

/-- A number is read back, also when it is zero and not written. -/
theorem takeNumber_numberField {key : UInt8} {n : Nat} {rest : List UInt8} (fits : n < 128 ^ 10)
    (above : Above key rest) : takeNumber key (numberField key n ++ rest) = some (n, rest) := by
  unfold numberField
  split
  next zero =>
    subst zero
    cases rest with
    | nil => rfl
    | cons first rest =>
      have other : first ≠ key := (UInt8.ne_of_lt (above first rfl)).symm
      simp [takeNumber, other]
  next => simp [takeNumber, takeVarint_varint fits rest]

theorem takeBytes_bytesField {key : UInt8} {bytes rest : List UInt8}
    (fits : bytes.length < 128 ^ 10) (above : Above key rest) :
    takeBytes key (bytesField key bytes ++ rest) = some (bytes, rest) := by
  unfold bytesField
  split
  next empty =>
    subst empty
    cases rest with
    | nil => rfl
    | cons first rest =>
      have other : first ≠ key := (UInt8.ne_of_lt (above first rfl)).symm
      simp [takeBytes, other]
  next =>
    have length := takeVarint_varint fits (bytes ++ rest)
    simp [takeBytes, length]

/-- A string comes back from its UTF-8. -/
theorem fromUTF8_toUTF8 (s : String) :
    String.fromUTF8? ⟨s.toUTF8.data.toList.toArray⟩ = some s := by
  have bytes : (⟨s.toUTF8.data.toList.toArray⟩ : ByteArray) = s.toByteArray := by
    rw [Array.toArray_toList]
    rfl
  rw [bytes, String.fromUTF8?, dif_pos s.isValidUTF8]
  rfl

theorem length_le_bytesField (key : UInt8) (bytes : List UInt8) :
    bytes.length ≤ (bytesField key bytes).length := by
  unfold bytesField
  split
  next empty => simp [empty]
  next =>
    simp only [List.length_cons, List.length_append]
    omega

/-- A message is parsed from what it is serialised to. -/
theorem parseWire_wire {m : RpcMessage} (fits : (wire m).length < 128 ^ 10) :
    parseWire (wire m) = some m := by
  simp only [wire, List.length_append] at fits
  have service : m.service.toUTF8.data.toList.length < 128 ^ 10 :=
    Nat.lt_of_le_of_lt (length_le_bytesField 0x1A _) (by omega)
  have method : m.method.toUTF8.data.toList.length < 128 ^ 10 :=
    Nat.lt_of_le_of_lt (length_le_bytesField 0x22 _) (by omega)
  have request : m.request.length < 128 ^ 10 :=
    Nat.lt_of_le_of_lt (length_le_bytesField 0x2A _) (by omega)
  have response : m.response.length < 128 ^ 10 :=
    Nat.lt_of_le_of_lt (length_le_bytesField 0x32 _) (by omega)
  have id : m.id.toNat < 128 ^ 10 := Nat.lt_trans m.id.toNat_lt (by norm_num)
  have type : m.type.ctorIdx < 128 ^ 10 ∧ messageType m.type.ctorIdx = some m.type := by
    cases m.type <;> exact ⟨by norm_num [MessageType.ctorIdx], rfl⟩
  have noneAbove := above_nil 0x32
  have response' := @above_bytesField 0x2A 0x32 m.response _ (by decide) noneAbove
  have request' := @above_bytesField 0x22 0x2A m.request _ (by decide) response'
  have method' := @above_bytesField 0x1A 0x22 m.method.toUTF8.data.toList _ (by decide) request'
  have service' := @above_bytesField 0x10 0x1A m.service.toUTF8.data.toList _ (by decide) method'
  have id' := @above_numberField 0x08 0x10 m.id.toNat _ (by decide) service'
  have layout : wire m = numberField 0x08 m.type.ctorIdx ++ (numberField 0x10 m.id.toNat ++
      (bytesField 0x1A m.service.toUTF8.data.toList ++ (bytesField 0x22 m.method.toUTF8.data.toList ++
        (bytesField 0x2A m.request ++ (bytesField 0x32 m.response ++ []))))) := by
    simp [wire]
  rw [layout, parseWire]
  simp only [Option.bind_eq_bind, takeNumber_numberField type.1 id', Option.bind_some,
    takeNumber_numberField id service', takeBytes_bytesField service method',
    takeBytes_bytesField method request', takeBytes_bytesField request response',
    takeBytes_bytesField response noneAbove, type.2, fromUTF8_toUTF8, if_true, UInt64.ofNat_toNat]

/-- `RpcCodec`. -/
def rpcMessageCodec : ProtobufCodecLite RpcMessage where
  protobuf := {
    isInitialized := fun _ => true
    byteSizeLong := fun m => (wire m).length
    serialize := wire
    parse := parseWire }
  adler32_z := adler32
  tag := rpctag
  tag_fits := rpcCodec.tag_fits

end Starry.Guarantees.RpcWire
