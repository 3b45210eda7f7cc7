import Mathlib.Data.List.Basic
import Starry.Foundation.Runs
import Starry.Source.Abort

/-!
# `starry::AsyncLogging`

`base/log/src/async_logger.cpp` over `LogStream<kLargeBuffer>` of
`base/log/include/log_stream.h`. What runs under `mutex_` is one step, and so is every
access to the atomic `running_`; the other steps of the backend touch its own variables
only. `wait_for` may return at any time: on a notification, on the timeout or without a
reason. Any number of threads may call `append`.

A buffer is what lies between `data_.begin()` and `cur_`, and a `BufferPtr` may be null.
`LogFile` is represented by the strings its `append` was called with. `lines` and
`linesAtStop` record what was appended, for the results only. A `stop` without a `start`,
which throws in `join`, is left out, and so are the text printed when buffers are dropped
and the destructor.
-/
namespace Starry.Source

open Starry.Foundation

def kLargeBuffer : Nat := 4 * 1024 * 1024

structure LogStream (size : Nat) where
  data : List UInt8
  fits : data.length ≤ size
  deriving DecidableEq

namespace LogStream

variable {size : Nat}

def new : LogStream size := ⟨[], Nat.zero_le _⟩

def avail (b : LogStream size) : Nat := size - b.data.length

/-- What does not fit is cut off. -/
def append (b : LogStream size) (str : List UInt8) : LogStream size where
  data := b.data ++ str.take b.avail
  fits := by
    have fits := b.fits
    simp only [avail, List.length_append, List.length_take]
    omega

def clear (_ : LogStream size) : LogStream size := new

end LogStream

inductive BackendStage where
  /-- `start` has not been called. -/
  | absent
  /-- In `threadFunc`, before the loop. -/
  | entering
  /-- About to read `running_`. -/
  | testing
  /-- In the loop, before the lock. -/
  | locking
  /-- In `wait_for`. -/
  | waiting
  /-- After the critical section. -/
  | swapped
  /-- This many buffers of the batch have been written. -/
  | writing (position : Nat)
  | exited
  deriving DecidableEq, Repr

inductive StopStage where
  | notCalled | joining | returned
  deriving DecidableEq, Repr

abbrev BufferPtr := Option (LogStream kLargeBuffer)

structure AsyncLogging where
  running : Bool
  currentBuffer : BufferPtr
  nextBuffer : BufferPtr
  buffers : List BufferPtr
  newBuffer1 : BufferPtr
  newBuffer2 : BufferPtr
  buffersToWrite : List BufferPtr
  backend : BackendStage
  stopping : StopStage
  written : List (List UInt8)
  lines : List (List UInt8)
  linesAtStop : List (List UInt8)
  deriving DecidableEq

namespace AsyncLogging

def new : AsyncLogging where
  running := false
  currentBuffer := some .new
  nextBuffer := some .new
  buffers := []
  newBuffer1 := none
  newBuffer2 := none
  buffersToWrite := []
  backend := .absent
  stopping := .notCalled
  written := []
  lines := []
  linesAtStop := []

/-- `*pointer` -/
def deref (pointer : BufferPtr) (line : Nat) : Except Abort (LogStream kLargeBuffer) :=
  match pointer with
  | some buffer => .ok buffer
  | none => .error (.undefinedBehaviour .asyncLoggerCpp line)

def append (l : AsyncLogging) (logline : List UInt8) : Except Abort AsyncLogging := do
  let current ← deref l.currentBuffer 33
  let noted := { l with lines := l.lines ++ [logline] }
  if logline.length < current.avail then
    return { noted with currentBuffer := some (current.append logline) }
  else
    let fresh := l.nextBuffer.getD .new
    return { noted with
      buffers := l.buffers ++ [l.currentBuffer]
      nextBuffer := none
      currentBuffer := some (fresh.append logline) }

/-! ## `threadFunc` -/

/-- The critical section after the wait. -/
def swap (l : AsyncLogging) : AsyncLogging :=
  { l with
    buffersToWrite := l.buffers ++ [l.currentBuffer]
    buffers := l.buffersToWrite
    currentBuffer := l.newBuffer1
    newBuffer1 := none
    nextBuffer := if l.nextBuffer.isNone then l.newBuffer2 else l.nextBuffer
    newBuffer2 := if l.nextBuffer.isNone then none else l.newBuffer2
    backend := .swapped }

def dropExcess (batch : List BufferPtr) : List BufferPtr :=
  if 25 < batch.length then batch.take 2 else batch

/-- `if (!spare) { spare = std::move(back()); pop_back(); spare->clear(); }`, where `back()`
is called in `line`. -/
def refill (spare : BufferPtr) (batch : List BufferPtr) (line : Nat) :
    Except Abort (BufferPtr × List BufferPtr) :=
  match spare with
  | some buffer => .ok (some buffer, batch)
  | none =>
    match batch.getLast? with
    | none => .error (.undefinedBehaviour .asyncLoggerCpp line)
    | some last => do
      let used ← deref last (line + 2)
      return (some used.clear, batch.dropLast)

/-- From `resize` to the end of the loop's body. -/
def recycle (l : AsyncLogging) : Except Abort AsyncLogging := do
  let kept := if 2 < l.buffersToWrite.length then l.buffersToWrite.take 2 else l.buffersToWrite
  let (newBuffer1, left) ← refill l.newBuffer1 kept 91
  let (newBuffer2, _) ← refill l.newBuffer2 left 97
  return { l with
    newBuffer1 := newBuffer1
    newBuffer2 := newBuffer2
    buffersToWrite := []
    backend := .testing }

/-! ## Steps -/

inductive Act where
  | append (logline : List UInt8)
  | start
  /-- `threadFunc` up to the loop. -/
  | enter
  | test
  | lock
  /-- `wait_for` returns. -/
  | wake
  | dropExcess
  /-- `output.append` of the next buffer. -/
  | write
  | recycle
  /-- `stop` up to `join`. -/
  | stop
  | join
  deriving DecidableEq

def step (l : AsyncLogging) : Act → Except Abort AsyncLogging
  | .append logline => l.append logline
  | .start => .ok { l with running := true, backend := .entering }
  | .enter =>
    .ok { l with newBuffer1 := some .new, newBuffer2 := some .new, backend := .testing }
  | .test => .ok { l with backend := if l.running then .locking else .exited }
  | .lock => .ok (if l.buffers.isEmpty then { l with backend := .waiting } else l.swap)
  | .wake => .ok l.swap
  | .dropExcess =>
    .ok { l with buffersToWrite := AsyncLogging.dropExcess l.buffersToWrite, backend := .writing 0 }
  | .write =>
    match l.backend with
    | .writing position => do
      let buffer ← deref (l.buffersToWrite[position]?.getD none) 83
      return { l with written := l.written ++ [buffer.data], backend := .writing (position + 1) }
    | _ => .ok l
  | .recycle => l.recycle
  | .stop => .ok { l with running := false, stopping := .joining, linesAtStop := l.lines }
  | .join => .ok { l with stopping := .returned }

/-- The range-based `for` has come to its end. -/
def batchWritten (l : AsyncLogging) : Bool :=
  l.backend = .writing l.buffersToWrite.length

def inBatch (l : AsyncLogging) : Bool :=
  match l.backend with
  | .writing position => position < l.buffersToWrite.length
  | _ => false

def Enabled (l : AsyncLogging) : Act → Prop
  | .append _ => True
  | .start => l.backend = .absent
  | .enter => l.backend = .entering
  | .test => l.backend = .testing
  | .lock => l.backend = .locking
  | .wake => l.backend = .waiting
  | .dropExcess => l.backend = .swapped
  | .write => l.inBatch = true
  | .recycle => l.batchWritten = true
  | .stop => l.backend ≠ .absent ∧ l.stopping = .notCalled
  | .join => l.stopping = .joining ∧ l.backend = .exited

def machine : Machine AsyncLogging Act Abort where
  enabled := Enabled
  step := step

instance (l : AsyncLogging) (a : Act) : Decidable (l.Enabled a) :=
  match a with
  | .append _ => isTrue trivial
  | .start | .enter | .test | .lock | .wake | .dropExcess | .write | .recycle =>
    inferInstanceAs (Decidable (_ = _))
  | .stop | .join => inferInstanceAs (Decidable (_ ∧ _))

instance (l : AsyncLogging) (a : Act) : Decidable (machine.enabled l a) :=
  inferInstanceAs (Decidable (l.Enabled a))

end AsyncLogging

end Starry.Source
