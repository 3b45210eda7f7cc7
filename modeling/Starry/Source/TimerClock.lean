import Starry.Foundation.FloatingPoint
import Starry.Source.SocketsOps
import Starry.Source.TimerQueue

/-!
# Times and intervals of timers

The arithmetic behind `starry::TimerQueue`: `howMuchTimeFromNow` and `resetTimerfd` of
`net/src/timer_queue.cpp`, the constructor of `net/include/timer.h`, and `runEvery` of
`net/src/eventloop.cpp`. A time point of the system clock is an `int64_t` of nanoseconds, and
a difference that does not fit is undefined behaviour, as is the conversion of a `double` that
is out of range.

A `double` is the rational it stands for; every arithmetic result is rounded to 53 bits. No
value here comes near the ends of the exponent range.
-/
namespace Starry.Source

open Starry.Foundation

/-! ## The timerfd -/

structure Timespec where
  tv_sec : Int
  tv_nsec : Int
  deriving DecidableEq, Repr

/-- The casts and `%` of C++ truncate towards zero. -/
def howMuchTimeFromNow (expiration now : Int64) : Except Abort Timespec :=
  let nanoseconds := expiration.toInt - now.toInt
  if -(2 ^ 63) ≤ nanoseconds ∧ nanoseconds < 2 ^ 63 then
    .ok ⟨nanoseconds.tdiv 1000000000, nanoseconds.tmod 1000000000⟩
  else .error (.undefinedBehaviour .timerQueueCpp 40)

/-- `timerfd_settime` with a relative `it_value`: the delay it arms the timerfd for, `none` when
it disarms it. -/
def timerfdSettime (value : Timespec) : Except Errno (Option Int) :=
  if value.tv_sec < 0 ∨ value.tv_nsec < 0 ∨ 1000000000 ≤ value.tv_nsec then .error .EINVAL
  else if value.tv_sec = 0 ∧ value.tv_nsec = 0 then .ok none
  else .ok (some (value.tv_sec * 1000000000 + value.tv_nsec))

def resetTimerfd (expiration now : Int64) : Except Abort (Option Int) := do
  let newValue ← howMuchTimeFromNow expiration now
  match timerfdSettime newValue with
  | .error _ => .error (.logFatal .timerQueueCpp 73)
  | .ok armed => return armed

/-! ## Intervals -/

abbrev Double := ℚ

namespace Double

def mul (x y : Double) : Double := FloatingPoint.round 53 (x * y)

/-- The `double` nearest to a number of milliseconds, in seconds. -/
def ofMilliseconds (k : ℕ) : Double := FloatingPoint.round 53 (k / 1000)

/-- `static_cast<int64_t>(x)` -/
def toInt64 (x : Double) (file : SourceFile) (line : Nat) : Except Abort Int :=
  if -(2 ^ 63) ≤ FloatingPoint.truncate x ∧ FloatingPoint.truncate x < 2 ^ 63 then
    .ok (FloatingPoint.truncate x)
  else .error (.undefinedBehaviour file line)

end Double

/-- `Timer(cb, when, interval)` -/
def Timer.new (time : Timestamp) (interval : Double) (sequence : Nat) : Except Abort Timer := do
  let milliseconds ← (interval.mul 1000).toInt64 .timerH 15
  return ⟨time, milliseconds, 0 < interval, sequence⟩

/-- The timer that `runEvery` gives to `addTimer`, when the clock reads `now`. -/
def runEvery (now : Timestamp) (interval : Double) (sequence : Nat) : Except Abort Timer := do
  let nanoseconds ← (interval.mul 1000000000).toInt64 .eventloopCpp 148
  Timer.new (now + nanoseconds) interval sequence

end Starry.Source
