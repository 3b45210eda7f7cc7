import Starry.Source.Logging

/-!
# From log statements to log files

The program of `base/log/test/log_performance_test.cpp`: `Logger::setOutput` has made `g_output`
a call of `AsyncLogging::append`, and nothing else calls `append`. Any thread may reach a log
statement at any time. The levels below `WARN` are tested against `g_logLevel` first, by the
macros of `base/log/include/logging.h`; a `FATAL` statement ends the process after its output.

`output` is the `LogFile` of `threadFunc`, once it has been constructed. Of the constructor's
arguments `threadFunc` passes the first two, and `false`, so 3 and 1024 are the defaults.
-/
namespace Starry.Source

open Starry.Foundation

/-- What the process is started with. -/
structure LogSettings where
  strerror : Int → List UInt8
  clock : Nat → Int64
  pid : Nat
  basename : String
  /-- `off_t` -/
  rollSize : Int64
  existing : String → Nat

inductive LogEnd where
  | aborted (reason : Abort)
  /-- The destructor of a `Logger` at level `FATAL` calls `abort`. -/
  | fatal
  deriving DecidableEq, Repr

structure LogPipeline where
  logLevel : LogLevel
  logging : AsyncLogging
  output : Option LogFile

namespace LogPipeline

def new : LogPipeline where
  logLevel := .INFO
  logging := .new
  output := none

def rank : LogLevel → Nat
  | .TRACE => 0
  | .DEBUG => 1
  | .INFO => 2
  | .WARN => 3
  | .ERROR => 4
  | .FATAL => 5

/-- The condition in the macro of a level. -/
def passes (p : LogPipeline) (level : LogLevel) : Bool :=
  match level with
  | .TRACE | .DEBUG | .INFO => rank p.logLevel ≤ rank level
  | .WARN | .ERROR | .FATAL => true

inductive Act where
  /-- A thread runs a log statement, with this reading of the clock. -/
  | log (now : Int64) (thread : Nat) (s : LogStatement)
  | setLogLevel (level : LogLevel)
  /-- A step of `AsyncLogging` other than `append`. -/
  | async (a : AsyncLogging.Act)

variable (settings : LogSettings)

def log (p : LogPipeline) (now : Int64) (thread : Nat) (s : LogStatement) :
    Except LogEnd LogPipeline :=
  if p.passes s.level then
    match p.logging.append (s.output settings.strerror now thread) with
    | .error reason => .error (.aborted reason)
    | .ok logging => if s.level = .FATAL then .error .fatal else .ok { p with logging := logging }
  else .ok p

/-- A step of the backend's loop or of `start` and `stop`. `threadFunc` begins with the
construction of `output`, and its `for` appends a buffer to it. -/
def stepAsync (p : LogPipeline) (a : AsyncLogging.Act) : Except Abort LogPipeline :=
  match a, p.logging.backend, p.output with
  | .enter, _, _ => do
    let output ← LogFile.new settings.clock settings.basename settings.pid
      settings.rollSize.toUInt64 3 1024 settings.existing
    let logging ← p.logging.step .enter
    return { p with logging := logging, output := some output }
  | .write, .writing position, some output => do
    let buffer ← AsyncLogging.deref (p.logging.buffersToWrite[position]?.getD none) 83
    let output ← output.append_unlocked settings.clock buffer.data
    let logging ← p.logging.step .write
    return { p with logging := logging, output := some output }
  | a, _, _ => do
    let logging ← p.logging.step a
    return { p with logging := logging }

def step (p : LogPipeline) : Act → Except LogEnd LogPipeline
  | .log now thread s => p.log settings now thread s
  | .setLogLevel level => .ok { p with logLevel := level }
  | .async a => (p.stepAsync settings a).mapError .aborted

def isAppend : AsyncLogging.Act → Bool
  | .append _ => true
  | _ => false

def Enabled (p : LogPipeline) : Act → Prop
  | .log _ _ _ => True
  | .setLogLevel _ => True
  | .async a => isAppend a = false ∧ p.logging.Enabled a

def machine : Machine LogPipeline Act LogEnd where
  enabled := Enabled
  step := step settings

/-- What a step hands to `append`. -/
def shown (p : LogPipeline) : Act → List (List UInt8)
  | .log now thread s =>
    if p.passes s.level then [s.output settings.strerror now thread] else []
  | _ => []

/-- The contents of the files, in the order in which they were opened. -/
def files (p : LogPipeline) : List (List UInt8) :=
  (p.output.elim [] LogFile.openings).map fun opening => opening.records.flatten

instance (p : LogPipeline) (a : Act) : Decidable (p.Enabled a) :=
  match a with
  | .log _ _ _ | .setLogLevel _ => isTrue trivial
  | .async _ => inferInstanceAs (Decidable (_ ∧ _))

instance (p : LogPipeline) (a : Act) : Decidable ((machine settings).enabled p a) :=
  inferInstanceAs (Decidable (p.Enabled a))

end LogPipeline

end Starry.Source
