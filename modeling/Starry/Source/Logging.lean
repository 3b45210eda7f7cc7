import Mathlib.Data.List.DropRight
import Starry.Source.AsyncLogging
import Starry.Source.LogFile

/-!
# `starry::Logger`

`base/log/src/logging.cpp` over `LogStream<kSmallBuffer>`. A `Logger` lives for one log statement:
the constructor writes the header, the statement streams its values, and the destructor adds the
place of the statement and hands everything to `g_output`.

Texts are lists of bytes. In `operator<<` the type of `value` is a reference, never a pointer, so
every value goes through an `std::ostringstream`; a value is represented by the bytes that come
out of that, in the "C" locale for numbers. A chain of `<<` is the list of what it writes.
`strerror` stands for `strerror_r`, and `now` for the clock's reading, in nanoseconds since 1970.
The macros test the level before they make a `Logger`; what follows `g_output` in the destructor
at level `FATAL` is `Abort.logFatal`.
-/
namespace Starry.Source

open Starry.Foundation

def kSmallBuffer : Nat := 4 * 1024

/-- The bytes of a text of ASCII characters. -/
def ascii (text : List Char) : List UInt8 := text.map fun c => c.toNat.toUInt8

namespace LogStream

variable {size : Nat}

/-- `<<` with one value after the other. -/
def appends (b : LogStream size) (values : List (List UInt8)) : LogStream size :=
  values.foldl append b

end LogStream

inductive LogLevel where
  | TRACE | DEBUG | INFO | WARN | ERROR | FATAL
  deriving DecidableEq, Repr

def LogLevel.toString : LogLevel → String
  | .TRACE => "TRACE "
  | .DEBUG => "DEBUG "
  | .INFO => "INFO "
  | .WARN => "WARN "
  | .ERROR => "ERROR "
  | .FATAL => "FATAL "

/-- `std::source_location` -/
structure SourceLocation where
  file_name : List UInt8
  line : UInt32
  deriving DecidableEq, Repr

structure Logger where
  level : LogLevel
  stream : LogStream kSmallBuffer
  location : SourceLocation

namespace Logger

/-- `std::format("{:%F %T }", …)` for years of four digits. -/
def formatTime (seconds : Int) : List Char :=
  let t := DateTime.ofSeconds seconds
  fixedDecimal 4 t.date.year.toNat ++ '-' :: (fixedDecimal 2 t.date.month.toNat ++ '-' ::
    (fixedDecimal 2 t.date.day.toNat ++ ' ' :: (fixedDecimal 2 t.hour ++ ':' ::
      (fixedDecimal 2 t.minute ++ ':' :: (fixedDecimal 2 t.second ++ [' '])))))

/-- What the first constructor streams. -/
def header (now : Int64) (thread : Nat) (level : LogLevel) : List (List UInt8) :=
  [ascii (formatTime (LogFile.seconds now)), ascii ['['], ascii (Nat.toDigits 10 thread),
    ascii [']', ' '], ascii level.toString.toList]

def new (now : Int64) (thread : Nat) (level : LogLevel) (loc : SourceLocation) : Logger where
  level := level
  stream := LogStream.new.appends (header now thread level)
  location := loc

def decimalInt (n : Int) : List Char :=
  if n < 0 then '-' :: Nat.toDigits 10 n.natAbs else Nat.toDigits 10 n.natAbs

/-- What the constructor for a saved `errno` streams after the first one. -/
def errorText (strerror : Int → List UInt8) (saveErrno : Int) : List (List UInt8) :=
  if saveErrno ≠ 0 then
    [strerror saveErrno, ascii " (errno=".toList, ascii (decimalInt saveErrno), ascii [')', ' ']]
  else []

def newErrno (strerror : Int → List UInt8) (now : Int64) (thread : Nat) (level : LogLevel)
    (saveErrno : Int) (loc : SourceLocation) : Logger :=
  let logger := new now thread level loc
  { logger with stream := logger.stream.appends (errorText strerror saveErrno) }

/-- `filename.substr(filename.find_last_of('/') + 1)` -/
def baseName (filename : List UInt8) : List UInt8 := filename.rtakeWhile (· ≠ 47)

/-- What `finish` streams. -/
def ending (loc : SourceLocation) : List (List UInt8) :=
  [ascii [' ', '-', ' '], baseName loc.file_name, ascii [':'],
    ascii (Nat.toDigits 10 loc.line.toNat), ascii ['\n']]

def finish (logger : Logger) : Logger :=
  { logger with stream := logger.stream.appends (ending logger.location) }

/-- What the destructor passes to `g_output`. -/
def output (logger : Logger) : List UInt8 := logger.finish.stream.data

end Logger

/-- A log statement, through `LOG_SYSERR` or `LOG_SYSFATAL` when there is a saved `errno`. -/
structure LogStatement where
  level : LogLevel
  savedErrno : Option Int
  location : SourceLocation
  values : List (List UInt8)

namespace LogStatement

def logger (strerror : Int → List UInt8) (now : Int64) (thread : Nat) (s : LogStatement) : Logger :=
  match s.savedErrno with
  | none => Logger.new now thread s.level s.location
  | some saveErrno => Logger.newErrno strerror now thread s.level saveErrno s.location

/-- The string that the statement leads `g_output` to be called with. -/
def output (strerror : Int → List UInt8) (now : Int64) (thread : Nat) (s : LogStatement) :
    List UInt8 :=
  let logger := s.logger strerror now thread
  Logger.output { logger with stream := logger.stream.appends s.values }

end LogStatement

end Starry.Source
