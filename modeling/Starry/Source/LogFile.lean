import Starry.Foundation.BigEndian
import Starry.Foundation.Calendar
import Starry.Foundation.Runs
import Starry.Source.Abort

/-!
# `starry::LogFile`

`base/log/src/log_file.cpp`. `append` holds `mutex_`, or its caller sees to it that calls do not
overlap, so a call is one step. `clock` lists the readings of the system clock, in nanoseconds
since 1970, in the order in which the program takes them; `reads` counts those taken so far. A
difference of readings that does not fit in 64 bits is undefined behaviour.

The file system works: `open` for appending succeeds, and what is written to an open stream
reaches its file, so `tellp` after a write is the size of the file. `existing` gives the sizes
of the files from before. A stream that is not open takes nothing, and its `tellp` is -1. The
files that were open before are in `closed`, each with the records it was given while it was
open, and `unwritten` records what was appended while no file was.
-/
namespace Starry.Source

open Starry.Foundation

/-- A file from its `open` to its `close`. -/
structure OpenFile where
  name : String
  records : List (List UInt8)
  deriving DecidableEq, Repr

structure LogFile where
  basename : String
  pid : Nat
  rollSize : UInt64
  flushInterval : Int
  checkEveryN : Int
  count : Int
  lastRoll : Int64
  lastFlush : Int64
  file : Option OpenFile
  existing : String → Nat
  closed : List OpenFile
  unwritten : List (List UInt8)
  reads : Nat

namespace LogFile

def kRollPerSeconds : Int := 60 * 60 * 24

/-- `time_point_cast<seconds>` truncates towards zero. -/
def seconds (now : Int64) : Int := now.toInt.tdiv 1000000000

/-- `std::format("{:%Y%m%d-%H%M%S}", …)` for years of four digits. -/
def formatSecond (seconds : Int) : List Char :=
  let t := DateTime.ofSeconds seconds
  fixedDecimal 4 t.date.year.toNat ++ (fixedDecimal 2 t.date.month.toNat ++
    (fixedDecimal 2 t.date.day.toNat ++ ('-' :: (fixedDecimal 2 t.hour ++
      (fixedDecimal 2 t.minute ++ fixedDecimal 2 t.second)))))

def getLogFileName (f : LogFile) (now : Int64) : String :=
  f.basename ++ "." ++ String.ofList (formatSecond (seconds now)) ++ "." ++ toString f.pid ++ ".log"

/-- The files in the order in which they were opened. -/
def openings (f : LogFile) : List OpenFile := f.closed ++ f.file.toList

/-- The records that a file was given under its name. -/
def recordsOf (f : LogFile) (name : String) : List (List UInt8) :=
  (f.openings.filter fun opening => opening.name == name).flatMap OpenFile.records

/-- `file_.tellp()` -/
def tellp (f : LogFile) : Int :=
  match f.file with
  | none => -1
  | some opened => f.existing opened.name + (f.recordsOf opened.name).flatten.length

/-- `static_cast<std::streampos>(rollSize_)` -/
def rollPosition (f : LogFile) : Int := BigEndian.toSigned 64 f.rollSize.toNat

/-- `file_ << logline` -/
def write (f : LogFile) (logline : List UInt8) : LogFile :=
  match f.file with
  | none => { f with unwritten := f.unwritten ++ [logline] }
  | some opened => { f with file := some { opened with records := opened.records ++ [logline] } }

/-- `now() - earlier`, in nanoseconds. -/
def elapsed (now earlier : Int64) (line : Nat) : Except Abort Int :=
  if -(2 ^ 63) ≤ now.toInt - earlier.toInt ∧ now.toInt - earlier.toInt < 2 ^ 63 then
    .ok (now.toInt - earlier.toInt)
  else .error (.undefinedBehaviour .logFileCpp line)

variable (clock : Nat → Int64)

/-- The next reading of the clock. -/
def now (f : LogFile) : Int64 := clock f.reads

def tick (f : LogFile) : LogFile := { f with reads := f.reads + 1 }

def rollFile (f : LogFile) : Bool × LogFile :=
  let now := f.now clock
  let read := f.tick
  if f.lastRoll.toInt < now.toInt then
    (true, { read with
      lastRoll := now
      lastFlush := now
      closed := f.openings
      file := some ⟨f.getLogFileName now, []⟩ })
  else (false, read)

/-- The branch of `append_unlocked` in which `count_` has reached `checkEveryN_`. -/
def checkAge (f : LogFile) : Except Abort LogFile := do
  let now := f.now clock
  let read := { f.tick with count := 0 }
  let sinceRoll ← elapsed now f.lastRoll 61
  if kRollPerSeconds < sinceRoll.tdiv 1000000000 then return (read.rollFile clock).2
  else
    let sinceFlush ← elapsed now f.lastFlush 65
    if f.flushInterval * 1000000000 < sinceFlush then return { read with lastFlush := now }
    else return read

def append_unlocked (f : LogFile) (logline : List UInt8) : Except Abort LogFile :=
  let written := f.write logline
  if written.rollPosition < written.tellp then .ok (written.rollFile clock).2
  else if written.checkEveryN ≤ written.count + 1 then
    checkAge clock { written with count := written.count + 1 }
  else .ok { written with count := written.count + 1 }

/-- The constructor reads the clock for `lastRoll_`, for `lastFlush_` and in `rollFile`. -/
def new (basename : String) (pid : Nat) (rollSize : UInt64) (flushInterval checkEveryN : Int)
    (existing : String → Nat) : Except Abort LogFile := do
  cassert (basename ≠ "" ∧ basename ≠ "." ∧ basename ≠ "..") .logFileCpp 23
  let f : LogFile :=
    { basename := basename
      pid := pid
      rollSize := rollSize
      flushInterval := flushInterval
      checkEveryN := checkEveryN
      count := 0
      lastRoll := clock 0
      lastFlush := clock 1
      file := none
      existing := existing
      closed := []
      unwritten := []
      reads := 2 }
  return (f.rollFile clock).2

/-- The steps are calls of `append`, each with its line. -/
def machine : Machine LogFile (List UInt8) Abort where
  enabled _ _ := True
  step f logline := f.append_unlocked clock logline

instance (f : LogFile) (logline : List UInt8) : Decidable ((machine clock).enabled f logline) :=
  isTrue trivial

end LogFile

end Starry.Source
