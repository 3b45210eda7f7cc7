import Starry.Source.Buffer

/-!
# `starry::Buffer` with sizes of type `size_t`

The functions of `net/include/buffer.h` and `net/src/buffer.cpp` that ask for room, with the
sums and differences of sizes taken modulo 2^64, and `std::vector<char>::resize`, which throws
`std::length_error` above `max_size()`. The assertion of line 252 is compiled in. The other
functions compute with no sizes but those of the buffer, and stay those of
`Starry.Source.Buffer`.
-/
namespace Starry.Source

open Starry.Foundation

inductive SizedEnd where
  | stopped (reason : Abort)
  /-- `std::length_error`, thrown by `resize`. -/
  | lengthError
  deriving DecidableEq, Repr

namespace SizedBuffer

open Buffer (kCheapPrepend kInitialSize)

/-- A sum of sizes. -/
def sizeT (n : Nat) : Nat := n % 2 ^ 64

/-- `a - b` for two sizes. -/
def difference (a b : Nat) : Nat := sizeT (a + (2 ^ 64 - b))

/-- `std::vector<char>::max_size()`. -/
def maxSize : Nat := 2 ^ 63 - 1

def readableBytes (b : Buffer) : Nat := difference b.writerIndex b.readerIndex
def writableBytes (b : Buffer) : Nat := difference b.buffer.length b.writerIndex

def resize (memory : List UInt8) (size : Nat) : Except SizedEnd (List UInt8) :=
  if maxSize < size then .error .lengthError else .ok (Buffer.resize memory size)

def assert (condition : Prop) [Decidable condition] (line : Nat) : Except SizedEnd Unit :=
  (cassert condition .bufferH line).mapError .stopped

/-- `size` bytes are put at `position`. Past the end of the vector that is undefined. -/
def inside (b : Buffer) (position size : Nat) (file : SourceFile) (line : Nat) :
    Except SizedEnd Unit :=
  if b.buffer.length < position + size then .error (.stopped (.undefinedBehaviour file line))
  else .ok ()

def makeSpace (b : Buffer) (len : Nat) : Except SizedEnd Buffer := do
  if sizeT (writableBytes b + b.prependableBytes) < sizeT (len + kCheapPrepend) then
    let longer ← resize b.buffer (sizeT (b.writerIndex + len))
    return { b with buffer := longer }
  else
    assert (kCheapPrepend < readableBytes b) 252
    let readable := readableBytes b
    inside b kCheapPrepend readable .bufferH 254
    let moved : Buffer :=
      { buffer := Memory.copyForward b.buffer b.readerIndex kCheapPrepend readable
        readerIndex := kCheapPrepend
        writerIndex := sizeT (kCheapPrepend + readable) }
    assert (readable = readableBytes moved) 258
    return moved

def ensureWritableBytes (b : Buffer) (len : Nat) : Except SizedEnd Buffer := do
  let roomy ← (if writableBytes b < len then makeSpace b len else .ok b)
  assert (len ≤ writableBytes roomy) 120
  return roomy

def append (b : Buffer) (data : List UInt8) : Except SizedEnd Buffer := do
  let roomy ← ensureWritableBytes b data.length
  inside roomy roomy.writerIndex data.length .bufferH 107
  ((roomy.fill data).hasWritten data.length).mapError .stopped

def shrink (b : Buffer) (reserve : Nat) : Except SizedEnd Buffer := do
  let other ← ensureWritableBytes (Buffer.new kInitialSize) (sizeT (readableBytes b + reserve))
  let (text, old) ← b.retrieveAllAsString.mapError .stopped
  let other ← append other text
  return (old.swap other).1

def readFd (b : Buffer) : ReadResult → Except SizedEnd Buffer.ReadFd
  | .failed errno => .ok { n := -1, savedErrno := some errno, buffer := b }
  | .bytes data =>
    if data.length ≤ writableBytes b then do
      inside b b.writerIndex data.length .bufferCpp 26
      return { n := data.length, savedErrno := none
               buffer := { b.fill data with writerIndex := b.writerIndex + data.length } }
    else do
      let longer ← append (b.filledUp data) (data.drop b.writableBytes)
      return { n := data.length, savedErrno := none, buffer := longer }

end SizedBuffer

end Starry.Source
