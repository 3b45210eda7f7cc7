import Starry.Foundation.BigEndian
import Starry.Foundation.Memory
import Starry.Source.Abort
import Starry.Source.SocketsOps

/-!
# `starry::Buffer`

`net/include/buffer.h` and `net/src/buffer.cpp`. Sizes and indices are `Nat`, for lengths
that no sum with them leaves the width of `size_t`; `Starry.Source.SizedBuffer` has the
functions for any length. Every `assert` is kept under its line. The one of line 252, in the
branch of `makeSpace` that moves the contents, is compiled in when `checkMove` is true;
results about contents alone leave it out.
-/
namespace Starry.Source

open Starry.Foundation
open Starry.Foundation.Memory

structure Buffer where
  buffer : List UInt8
  readerIndex : Nat
  writerIndex : Nat
  deriving DecidableEq, Repr

namespace Buffer

def kCheapPrepend : Nat := 8
def kInitialSize : Nat := 1024

/-- `Buffer(size_t initialSize)`. -/
def new (initialSize : Nat) : Buffer where
  buffer := List.replicate (kCheapPrepend + initialSize) 0
  readerIndex := kCheapPrepend
  writerIndex := kCheapPrepend

def readableBytes (b : Buffer) : Nat := b.writerIndex - b.readerIndex
def writableBytes (b : Buffer) : Nat := b.buffer.length - b.writerIndex
def prependableBytes (b : Buffer) : Nat := b.readerIndex

/-- The bytes from `peek()` to `beginWrite()`. -/
def readable (b : Buffer) : List UInt8 := window b.buffer b.readerIndex b.writerIndex

def swap (b rhs : Buffer) : Buffer × Buffer := (rhs, b)

def retrieveAll (b : Buffer) : Buffer :=
  { b with readerIndex := kCheapPrepend, writerIndex := kCheapPrepend }

def retrieve (b : Buffer) (len : Nat) : Except Abort Buffer := do
  cassert (len ≤ b.readableBytes) .bufferH 70
  if len < b.readableBytes then
    return { b with readerIndex := b.readerIndex + len }
  else
    return b.retrieveAll

/-- `last` is the position of the argument pointer relative to `begin()`. -/
def retrieveUntil (b : Buffer) (last : Nat) : Except Abort Buffer := do
  cassert (b.readerIndex ≤ last) .bufferH 80
  cassert (last ≤ b.writerIndex) .bufferH 81
  b.retrieve (last - b.readerIndex)

def retrieveAsString (b : Buffer) (len : Nat) : Except Abort (List UInt8 × Buffer) := do
  cassert (len ≤ b.readableBytes) .bufferH 98
  let result := window b.buffer b.readerIndex (b.readerIndex + len)
  let rest ← b.retrieve len
  return (result, rest)

def retrieveAllAsString (b : Buffer) : Except Abort (List UInt8 × Buffer) :=
  b.retrieveAsString b.readableBytes

/-- `std::vector<char>::resize`: cut, or padded with zero bytes. -/
def resize (memory : List UInt8) (size : Nat) : List UInt8 :=
  memory.take size ++ List.replicate (size - memory.length) 0

def makeSpace (checkMove : Bool) (b : Buffer) (len : Nat) : Except Abort Buffer := do
  if b.writableBytes + b.prependableBytes < len + kCheapPrepend then
    return { b with buffer := resize b.buffer (b.writerIndex + len) }
  else
    cassert (checkMove = true → kCheapPrepend < b.readableBytes) .bufferH 252
    let readable := b.readableBytes
    let moved : Buffer :=
      { buffer := copyForward b.buffer b.readerIndex kCheapPrepend readable
        readerIndex := kCheapPrepend
        writerIndex := kCheapPrepend + readable }
    cassert (readable = moved.readableBytes) .bufferH 258
    return moved

def ensureWritableBytes (checkMove : Bool) (b : Buffer) (len : Nat) : Except Abort Buffer := do
  let roomy ← (if b.writableBytes < len then b.makeSpace checkMove len else .ok b)
  cassert (len ≤ roomy.writableBytes) .bufferH 120
  return roomy

def hasWritten (b : Buffer) (len : Nat) : Except Abort Buffer := do
  cassert (len ≤ b.writableBytes) .bufferH 125
  return { b with writerIndex := b.writerIndex + len }

/-- `std::copy(data, data + len, beginWrite())`, also the effect of any code that fills
the writable area through `beginWrite()`. -/
def fill (b : Buffer) (data : List UInt8) : Buffer :=
  { b with buffer := store b.buffer b.writerIndex data }

def append (checkMove : Bool) (b : Buffer) (data : List UInt8) : Except Abort Buffer := do
  let roomy ← b.ensureWritableBytes checkMove data.length
  (roomy.fill data).hasWritten data.length

def unwrite (b : Buffer) (len : Nat) : Except Abort Buffer := do
  cassert (len ≤ b.readableBytes) .bufferH 140
  return { b with writerIndex := b.writerIndex - len }

def prepend (b : Buffer) (data : List UInt8) : Except Abort Buffer := do
  cassert (data.length ≤ b.prependableBytes) .bufferH 224
  let first := b.readerIndex - data.length
  return { b with buffer := store b.buffer first data, readerIndex := first }

def shrink (checkMove : Bool) (b : Buffer) (reserve : Nat) : Except Abort Buffer := do
  let other ← (new kInitialSize).ensureWritableBytes checkMove (b.readableBytes + reserve)
  let (text, old) ← b.retrieveAllAsString
  let other ← other.append checkMove text
  return (old.swap other).1

/-! ## Integers in network byte order -/

/-- `htobeN` followed by the copy of its bytes: `width` octets, most significant first. -/
def networkBytes (width : Nat) (x : Int) : List UInt8 :=
  BigEndian.encode width (BigEndian.ofSigned (8 * width) x)

/-- The copy of `width` octets followed by `beNtoh`, as a signed value. -/
def hostInt (width : Nat) (octets : List UInt8) : Int :=
  BigEndian.toSigned (8 * width) (BigEndian.decode octets)

def appendInt (checkMove : Bool) (width : Nat) (b : Buffer) (x : Int) : Except Abort Buffer :=
  b.append checkMove (networkBytes width x)

def appendInt64 (checkMove : Bool) (b : Buffer) (x : Int) := b.appendInt checkMove 8 x
def appendInt32 (checkMove : Bool) (b : Buffer) (x : Int) := b.appendInt checkMove 4 x
def appendInt16 (checkMove : Bool) (b : Buffer) (x : Int) := b.appendInt checkMove 2 x
def appendInt8 (checkMove : Bool) (b : Buffer) (x : Int) := b.appendInt checkMove 1 x

def peekInt (width line : Nat) (b : Buffer) : Except Abort Int := do
  cassert (width ≤ b.readableBytes) .bufferH line
  return hostInt width (window b.buffer b.readerIndex (b.readerIndex + width))

def peekInt64 (b : Buffer) := b.peekInt 8 182
def peekInt32 (b : Buffer) := b.peekInt 4 188
def peekInt16 (b : Buffer) := b.peekInt 2 194
def peekInt8 (b : Buffer) := b.peekInt 1 200

def readInt (width line : Nat) (b : Buffer) : Except Abort (Int × Buffer) := do
  let result ← b.peekInt width line
  let rest ← b.retrieve width
  return (result, rest)

def readInt64 (b : Buffer) := b.readInt 8 182
def readInt32 (b : Buffer) := b.readInt 4 188
def readInt16 (b : Buffer) := b.readInt 2 194
def readInt8 (b : Buffer) := b.readInt 1 200

def prependInt (width : Nat) (b : Buffer) (x : Int) : Except Abort Buffer :=
  b.prepend (networkBytes width x)

def prependInt64 (b : Buffer) (x : Int) := b.prependInt 8 x
def prependInt32 (b : Buffer) (x : Int) := b.prependInt 4 x
def prependInt16 (b : Buffer) (x : Int) := b.prependInt 2 x
def prependInt8 (b : Buffer) (x : Int) := b.prependInt 1 x

/-! ## Reading from a descriptor -/

def extrabufSize : Nat := 65536

/-- The bytes the one or two iovecs of `readFd` offer to the kernel. -/
def offered (b : Buffer) : Nat :=
  if b.writableBytes < extrabufSize then b.writableBytes + extrabufSize else b.writableBytes

structure ReadFd where
  n : Int
  savedErrno : Option Errno
  buffer : Buffer
  deriving DecidableEq, Repr

/-- The writable area filled to its end, as `readv` leaves it before `extrabuf` is used. -/
def filledUp (b : Buffer) (data : List UInt8) : Buffer :=
  { b.fill (data.take b.writableBytes) with
    writerIndex := (b.fill (data.take b.writableBytes)).buffer.length }

/-- The kernel fills the writable area first and `extrabuf` with what does not fit. -/
def readFd (checkMove : Bool) (b : Buffer) : ReadResult → Except Abort ReadFd
  | .failed errno => .ok { n := -1, savedErrno := some errno, buffer := b }
  | .bytes data =>
    if data.length ≤ b.writableBytes then
      .ok { n := data.length, savedErrno := none
            buffer := { b.fill data with writerIndex := b.writerIndex + data.length } }
    else do
      let longer ← (b.filledUp data).append checkMove (data.drop b.writableBytes)
      return { n := data.length, savedErrno := none, buffer := longer }

end Buffer

end Starry.Source
