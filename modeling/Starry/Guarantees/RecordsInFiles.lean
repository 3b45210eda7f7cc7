import Starry.Guarantees.DroppedBuffers
import Starry.Guarantees.LogRecords
import Starry.Guarantees.LogRolling

/-!
# Records in the log files

The whole way of a record: the stream of a `Logger`, the buffers of `AsyncLogging`, a batch of
the backend, a file of `LogFile`. Whatever the threads do, the files hold whole records in lock
order. When no batch is cut and `stop` comes at a good moment, no record is missing in front of one
that is there, and after `stop` returned none is missing at all.
-/
namespace Starry.Guarantees.RecordsInFiles

open Starry.Foundation
open Starry.Source
open Starry.Source.LogPipeline
open Starry.Guarantees.DroppedBuffers
open Starry.Guarantees.LogLines

variable {l l' : AsyncLogging} {settings : LogSettings} {p p' : LogPipeline}

/-! ## The backend's file -/

/-- The backend has not constructed its `LogFile`. -/
def Early (l : AsyncLogging) : Prop := l.backend = .absent ∨ l.backend = .entering

theorem step_early {a : AsyncLogging.Act} (foreign : isAppend a = false) (other : a ≠ .enter)
    (enabled : l.Enabled a) (stepped : l.step a = .ok l') : Early l' ↔ Early l := by
  cases a with
  | append logline => cases foreign
  | enter => exact absurd rfl other
  | start =>
    have absent : l.backend = .absent := enabled
    cases stepped
    simp [Early, absent]
  | test =>
    have testing : l.backend = .testing := enabled
    cases stepped
    simp only [Early, testing]
    split <;> simp
  | lock =>
    have locking : l.backend = .locking := enabled
    simp only [AsyncLogging.step] at stepped
    split at stepped <;> cases stepped <;> simp [Early, AsyncLogging.swap, locking]
  | wake =>
    have waiting : l.backend = .waiting := enabled
    cases stepped
    simp [Early, AsyncLogging.swap, waiting]
  | dropExcess =>
    have swapped : l.backend = .swapped := enabled
    cases stepped
    simp [Early, swapped]
  | write =>
    obtain ⟨position, writing, _⟩ := inBatch_iff.mp enabled
    simp only [AsyncLogging.step, writing] at stepped
    obtain ⟨buffer, _, success⟩ := bind_eq_ok stepped
    cases success
    simp [Early, writing]
  | recycle =>
    have done : l.backend = .writing l.buffersToWrite.length := by
      simpa [AsyncLogging.Enabled, AsyncLogging.batchWritten] using enabled
    obtain ⟨first, _, success⟩ := bind_eq_ok stepped
    obtain ⟨second, _, success⟩ := bind_eq_ok success
    cases success
    simp [Early, done]
  | stop | join =>
    cases stepped
    exact Iff.rfl

theorem step_written {a : AsyncLogging.Act} (foreign : isAppend a = false) (other : a ≠ .write)
    (stepped : l.step a = .ok l') : l'.written = l.written := by
  cases a with
  | append logline => cases foreign
  | write => exact absurd rfl other
  | start | enter | test | wake | dropExcess | stop | join =>
    cases stepped
    rfl
  | lock =>
    simp only [AsyncLogging.step] at stepped
    split at stepped <;> cases stepped <;> rfl
  | recycle =>
    obtain ⟨first, _, success⟩ := bind_eq_ok stepped
    obtain ⟨second, _, success⟩ := bind_eq_ok success
    cases success
    rfl

/-- The time since the last roll or the last flush does not fit in 64 bits. -/
def ClockJumps (clock : Nat → Int64) (f : LogFile) (reason : Abort) : Prop :=
  ∃ earlier line, (earlier = f.lastRoll ∨ earlier = f.lastFlush) ∧
    LogFile.elapsed (f.now clock) earlier line = .error reason

/-- A `LogFile` fails in the difference of two clock readings only. -/
theorem append_faults (clock : Nat → Int64) (f : LogFile) (logline : List UInt8) :
    Faults (f.append_unlocked clock logline) (ClockJumps clock f) := by
  have same : (f.write logline).now clock = f.now clock ∧
      (f.write logline).lastRoll = f.lastRoll ∧ (f.write logline).lastFlush = f.lastFlush := by
    unfold LogFile.write LogFile.now
    split <;> exact ⟨rfl, rfl, rfl⟩
  obtain ⟨now, lastRoll, lastFlush⟩ := same
  unfold LogFile.append_unlocked
  dsimp only
  split
  · exact .ok
  · split
    · unfold LogFile.checkAge
      refine .bind ?_ fun sinceRoll _ => ?_
      · intro reason failed
        exact ⟨f.lastRoll, 61, .inl rfl, by rw [← now, ← lastRoll]; exact failed⟩
      · split
        · exact .ok
        · refine .bind ?_ fun sinceFlush _ => ?_
          · intro reason failed
            exact ⟨f.lastFlush, 65, .inr rfl, by rw [← now, ← lastFlush]; exact failed⟩
          · split <;> exact .ok
    · exact .ok

/-! ## The whole way -/

theorem stepAsync_ok {a : AsyncLogging.Act} (success : p.stepAsync settings a = .ok p') :
    (∃ output logging, a = .enter ∧
      LogFile.new settings.clock settings.basename settings.pid settings.rollSize.toUInt64 3 1024
        settings.existing = .ok output ∧
      p.logging.step .enter = .ok logging ∧
      p' = { p with logging := logging, output := some output }) ∨
    (∃ position output buffer longer logging, a = .write ∧ p.logging.backend = .writing position ∧
      p.output = some output ∧
      AsyncLogging.deref (p.logging.buffersToWrite[position]?.getD none) 83 = .ok buffer ∧
      output.append_unlocked settings.clock buffer.data = .ok longer ∧
      p.logging.step .write = .ok logging ∧
      p' = { p with logging := logging, output := some longer }) ∨
    (∃ logging, a ≠ .enter ∧
      (∀ position, a = .write → p.logging.backend = .writing position → p.output = none) ∧
      p.logging.step a = .ok logging ∧ p' = { p with logging := logging }) := by
  unfold LogPipeline.stepAsync at success
  split at success
  · obtain ⟨output, constructed, success⟩ := bind_eq_ok success
    obtain ⟨logging, stepped, success⟩ := bind_eq_ok success
    cases success
    exact .inl ⟨output, logging, rfl, constructed, stepped, rfl⟩
  next position output writing opened =>
    obtain ⟨buffer, found, success⟩ := bind_eq_ok success
    obtain ⟨longer, appended, success⟩ := bind_eq_ok success
    obtain ⟨logging, stepped, success⟩ := bind_eq_ok success
    cases success
    exact .inr (.inl ⟨position, output, buffer, longer, logging, rfl, writing, opened, found,
      appended, stepped, rfl⟩)
  next others unopened =>
    obtain ⟨logging, stepped, success⟩ := bind_eq_ok success
    cases success
    refine .inr (.inr ⟨logging, others, ?_, stepped, rfl⟩)
    intro position write writing
    cases opened : p.output with
    | none => rfl
    | some output => exact (unopened position output write writing opened).elim

/-- Where the records are: those shown so far have gone to `append`, and the files hold what the
backend has given to its `LogFile`. -/
structure Filed (shown : List (List UInt8)) (p : LogPipeline) : Prop where
  lines : p.logging.lines = shown
  early : Early p.logging → p.logging.written = []
  unopened : p.output = none → Early p.logging
  held : ∀ output, p.output = some output → LogRolling.Holding p.logging.written output

theorem new_filed : Filed [] LogPipeline.new :=
  ⟨rfl, fun _ => rfl, fun _ => .inl rfl, by rintro _ ⟨⟩⟩

/-- A file is open after the constructor when the clock has moved. -/
theorem new_holding {output : LogFile} {basename : String} {pid : Nat} {rollSize : UInt64}
    {flushInterval checkEveryN : Int} {existing : String → Nat} {clock : Nat → Int64}
    (moved : (clock 0).toInt < (clock 2).toInt)
    (constructed : LogFile.new clock basename pid rollSize flushInterval checkEveryN existing =
      .ok output) : LogRolling.Holding [] output := by
  obtain ⟨written, _, closed, opened⟩ := LogRolling.new_ok constructed
  rcases opened with ⟨_, _, file⟩ | ⟨still, _⟩
  · exact ⟨by simp [file], written, by simp [LogFile.openings, closed, file]⟩
  · exact absurd moved still

/-- A statement below the level is not shown to `append`. -/
theorem log_ok {now : Int64} {thread : Nat} {s : LogStatement}
    (success : p.log settings now thread s = .ok p') :
    (p.passes s.level = false ∧ p' = p) ∨
    (p.passes s.level = true ∧ ∃ logging,
      p.logging.append (s.output settings.strerror now thread) = .ok logging ∧
      p' = { p with logging := logging }) := by
  unfold LogPipeline.log at success
  split at success
  next passes =>
    split at success
    · cases success
    next logging appended =>
      split at success
      · cases success
      · cases success
        exact .inr ⟨passes, logging, appended, rfl⟩
  next stops =>
    cases success
    exact .inl ⟨Bool.not_eq_true _ ▸ stops, rfl⟩

theorem stepAsync_filed {shown : List (List UInt8)} {a : AsyncLogging.Act}
    (moved : (settings.clock 0).toInt < (settings.clock 2).toInt) (filed : Filed shown p)
    (foreign : isAppend a = false) (enabled : p.logging.Enabled a)
    (success : p.stepAsync settings a = .ok p') : Filed shown p' := by
  obtain ⟨lines, early, unopened, held⟩ := filed
  rcases stepAsync_ok success with ⟨output, logging, rfl, constructed, stepped, rfl⟩ |
    ⟨position, output, buffer, longer, logging, rfl, writing, opened, found, appended, stepped, rfl⟩ |
    ⟨logging, other, unwritten, stepped, rfl⟩
  · have entering : p.logging.backend = .entering := enabled
    have none := early (.inr entering)
    have same := step_written foreign (by simp) stepped
    refine ⟨(step_lines (by simp [isAppend]) stepped).trans lines, ?_, by simp, ?_⟩
    · intro _
      exact same.trans none
    · rintro _ ⟨⟩
      dsimp only
      rw [same, none]
      exact new_holding moved constructed
  · have longer_lines := step_lines (by simp [isAppend]) stepped
    have before := step_early foreign (by simp) enabled stepped
    simp only [AsyncLogging.step, writing, found, ok_bind, pure_eq_ok] at stepped
    cases stepped
    refine ⟨longer_lines.trans lines, ?_, by simp, ?_⟩
    · rintro (absent | entering)
      · cases absent
      · cases entering
    · rintro _ ⟨⟩
      exact (held output opened).append appended
  · have before := step_early foreign other enabled stepped
    have same : logging.lines = p.logging.lines := by
      by_cases stop : a = .stop
      · subst stop
        cases stepped
        rfl
      · exact step_lines ⟨foreign, stop⟩ stepped
    have quiet : logging.written = p.logging.written := by
      by_cases write : a = .write
      · subst write
        -- there is no file before the backend has started
        obtain ⟨position, writing, _⟩ := inBatch_iff.mp enabled
        rcases unopened (unwritten position rfl writing) with absent | entering
        · rw [absent] at writing
          cases writing
        · rw [entering] at writing
          cases writing
      · exact step_written foreign write stepped
    refine ⟨same.trans lines, ?_, ?_, ?_⟩
    · intro sooner
      exact quiet.trans (early (before.mp sooner))
    · intro closed
      exact before.mpr (unopened closed)
    · intro output opened
      dsimp only
      rw [quiet]
      exact held output opened

/-- Every step keeps the files in step with the records shown. -/
theorem step_filed {past : List (List UInt8)} {a : Act}
    (moved : (settings.clock 0).toInt < (settings.clock 2).toInt) (filed : Filed past p)
    (enabled : p.Enabled a) (success : p.step settings a = .ok p') :
    Filed (past ++ shown settings p a) p' := by
  cases a with
  | log now thread s =>
    rcases log_ok success with ⟨stops, rfl⟩ | ⟨passes, logging, appended, rfl⟩
    · simpa [shown, stops] using filed
    · obtain ⟨lines, early, unopened, held⟩ := filed
      obtain ⟨longer, backend, written⟩ := append_effect appended
      simp only [shown, passes, if_true]
      refine ⟨?_, ?_, ?_, ?_⟩
      · rw [longer, lines]
      · intro sooner
        rw [Early, backend] at sooner
        exact written.trans (early sooner)
      · intro closed
        rw [Early, backend]
        exact unopened closed
      · intro output opened
        dsimp only
        rw [written]
        exact held output opened
  | setLogLevel level =>
    cases success
    obtain ⟨lines, early, unopened, held⟩ := filed
    simp only [shown, List.append_nil]
    exact ⟨lines, early, unopened, held⟩
  | async a =>
    simp only [shown, List.append_nil]
    simp only [LogPipeline.step] at success
    cases stepped : p.stepAsync settings a with
    | error reason =>
      rw [stepped] at success
      cases success
    | ok after =>
      rw [stepped] at success
      cases success
      exact stepAsync_filed moved filed enabled.1 enabled.2 stepped

theorem stepAsync_logging {a : AsyncLogging.Act} (success : p.stepAsync settings a = .ok p') :
    p.logging.step a = .ok p'.logging := by
  rcases stepAsync_ok success with ⟨_, logging, rfl, _, stepped, rfl⟩ |
    ⟨_, _, _, _, logging, rfl, _, _, _, _, stepped, rfl⟩ | ⟨logging, _, _, stepped, rfl⟩
  · exact stepped
  · exact stepped
  · exact stepped

/-- What a step of the backend does to the logger by itself. -/
theorem step_async {a : AsyncLogging.Act} (success : p.step settings (.async a) = .ok p') :
    p.logging.step a = .ok p'.logging := by
  simp only [LogPipeline.step] at success
  cases inner : p.stepAsync settings a with
  | error reason =>
    rw [inner] at success
    cases success
  | ok after =>
    rw [inner] at success
    cases success
    exact stepAsync_logging inner

/-- A record fits the stream of its `Logger`. -/
theorem output_short (strerror : Int → List UInt8) (now : Int64) (thread : Nat) (s : LogStatement) :
    (s.output strerror now thread).length ≤ kLargeBuffer := by
  rw [LogRecords.output_eq]
  exact (List.length_take_le _ _).trans (by decide)

theorem step_surviving {a : Act} (survives : Surviving p.logging) (enabled : p.Enabled a)
    (success : p.step settings a = .ok p') : Surviving p'.logging := by
  cases a with
  | log now thread s =>
    rcases log_ok success with ⟨_, rfl⟩ | ⟨_, logging, appended, rfl⟩
    · exact survives
    · exact (append_survives survives (output_short _ now thread s)).of_ok appended
  | setLogLevel level =>
    cases success
    exact survives
  | async a =>
    have stepped := step_async success
    refine (step_survives survives enabled.2 ?_).of_ok stepped
    rintro logline rfl
    cases enabled.1

/-- For which reason a step may end the process. -/
def Expected (settings : LogSettings) (p : LogPipeline) : Act → LogEnd → Prop
  | .log _ _ s, .fatal => s.level = .FATAL
  | .async .enter, .aborted reason =>
    reason = .assertion .logFileCpp 23 ∧ settings.basename ∈ ["", ".", ".."]
  | .async .write, .aborted reason =>
    ∃ output, p.output = some output ∧ ClockJumps settings.clock output reason
  | _, _ => False

/-- A step of `AsyncLogging` by itself is never undefined. -/
theorem survivor_steps {a : AsyncLogging.Act} (survives : Surviving p.logging)
    (enabled : isAppend a = false ∧ p.logging.Enabled a) {allowed : Abort → Prop} :
    Faults (p.logging.step a) allowed := by
  refine .of_yields (step_survives survives enabled.2 ?_)
  rintro logline rfl
  cases enabled.1

/-- A step of the logger fails in the ways that are expected of the file. -/
theorem stepAsync_faults {a : AsyncLogging.Act} (survives : Surviving p.logging)
    (enabled : isAppend a = false ∧ p.logging.Enabled a) :
    Faults (p.stepAsync settings a) fun reason => Expected settings p (.async a) (.aborted reason) := by
  unfold LogPipeline.stepAsync
  split
  · refine .bind ?_ fun output _ => .bind (survivor_steps survives enabled) fun logging _ => .ok
    intro reason failed
    unfold LogFile.new cassert at failed
    split at failed
    · cases failed
    next forbidden =>
      cases failed
      refine ⟨rfl, ?_⟩
      simp only [List.mem_cons, List.not_mem_nil, or_false]
      tauto
  next position output writing opened =>
    have found : Faults
        (AsyncLogging.deref (p.logging.buffersToWrite[position]?.getD none) 83)
        (fun reason => Expected settings p (.async .write) (.aborted reason)) := by
      intro reason failed
      obtain ⟨after, stepped, _⟩ := step_survives survives enabled.2 (by rintro _ ⟨⟩)
      simp only [AsyncLogging.step, writing, failed, error_bind] at stepped
      cases stepped
    refine .bind found fun buffer _ => .bind ?_ fun longer _ =>
      .bind (survivor_steps survives enabled) fun logging _ => .ok
    exact (append_faults _ output buffer.data).imp fun reason jumps => ⟨output, opened, jumps⟩
  · exact .bind (survivor_steps survives enabled) fun logging _ => .ok

theorem step_faults {a : Act} (survives : Surviving p.logging) (enabled : p.Enabled a) :
    Faults (p.step settings a) (Expected settings p a) := by
  cases a with
  | log now thread s =>
    obtain ⟨logging, appended, _⟩ :=
      append_survives survives (output_short settings.strerror now thread s)
    simp only [LogPipeline.step, LogPipeline.log, appended]
    split
    · split
      next fatal => exact .error fatal
      · exact .ok
    · exact .ok
  | setLogLevel level => exact .ok
  | async a =>
    intro reason failed
    simp only [LogPipeline.step] at failed
    cases inner : p.stepAsync settings a with
    | ok after =>
      rw [inner] at failed
      cases failed
    | error fault =>
      rw [inner] at failed
      cases failed
      exact stepAsync_faults survives enabled fault inner

/-- The files hold whole records, in the order in which they were shown to `append`, and nothing
but the end of the process that the code asks for, or a jump of the clock, stops the program. -/
structure RecordsKept (settings : LogSettings) (shown : List (List UInt8)) (p : LogPipeline) :
    Prop where
  files : ∃ kept, kept.Sublist shown ∧ Whole p.files kept
  opened : ∀ output, p.output = some output → output.unwritten = []
  faults : ∀ a, p.Enabled a → Faults (p.step settings a) (Expected settings p a)

/-- What the backend has given to its `LogFile` lies whole in the files. -/
theorem Filed.whole_files {shown kept back : List (List UInt8)} (filed : Filed shown p)
    (whole : Whole (p.logging.written ++ back) kept) :
    ∃ fewer, fewer <+: kept ∧ Whole p.files fewer := by
  obtain ⟨fewer, before, written⟩ := whole.front
  unfold LogPipeline.files
  cases opened : p.output with
  | none => exact ⟨[], List.nil_prefix, [], rfl, rfl⟩
  | some output =>
    refine ⟨fewer, before, ?_⟩
    have together : Whole (output.openings.map OpenFile.records).flatten fewer := by
      rw [← List.flatMap_def, (filed.held output opened).records]
      exact written
    have joined := together.join
    rw [List.map_map] at joined
    exact joined

theorem Filed.recordsKept {shown : List (List UInt8)} (filed : Filed shown p)
    (survives : Surviving p.logging) : RecordsKept settings shown p := by
  refine ⟨?_, fun output opened => (filed.held output opened).written,
    fun a enabled => step_faults survives enabled⟩
  obtain ⟨kept, among, good⟩ := survives
  have whole := good.whole
  rw [chain, List.append_assoc] at whole
  obtain ⟨fewer, before, files⟩ := filed.whole_files whole
  rw [filed.lines] at among
  exact ⟨fewer, before.sublist.trans among, files⟩

/-- In every run, if the clock moved while the `LogFile` was constructed. -/
theorem filed_of_run {actions : List Act}
    (moved : (settings.clock 0).toInt < (settings.clock 2).toInt)
    (run : (machine settings).Run .new actions p) :
    Filed ((machine settings).observed (shown settings) .new actions) p :=
  @Machine.Run.observing _ _ _ (machine settings) _ (shown settings) Filed _ _ [] _
    (fun _ _ _ _ filed enabled stepped => step_filed moved filed enabled stepped) new_filed run

/-- In every run of a program whose threads log as they like while the backend works, starts and
stops, and whose clock moved while the `LogFile` was constructed: the files hold records whole, and
a selection of them in lock order; no step is undefined. -/
theorem records_kept {actions : List Act} (moved : (settings.clock 0).toInt < (settings.clock 2).toInt)
    (run : (machine settings).Run .new actions p) :
    RecordsKept settings ((machine settings).observed (shown settings) .new actions) p := by
  have survives := @Machine.Run.invariant _ _ _ (machine settings) (fun p => Surviving p.logging) _ _ _
    (fun _ _ _ survives enabled stepped => step_surviving survives enabled stepped) new_survives run
  exact (filed_of_run moved run).recordsKept survives

/-- A clock that moves by a nanosecond with every reading, and a roll after every buffer. -/
def rollingSettings : LogSettings where
  strerror _ := []
  clock n := Int64.ofNat n
  pid := 1
  basename := "app"
  rollSize := 1
  existing _ := 0

/-- A statement without values, in line 1 of the file `b`. -/
def shortStatement (level : LogLevel) : LogStatement where
  level := level
  savedErrno := none
  location := ⟨ascii ['b'], 1⟩
  values := []

/-- Two threads, a statement below the level, and a file for each of two batches. -/
theorem records_kept_two_files : ∃ p actions,
    (machine rollingSettings).Run .new actions p ∧ p.files.length = 3 ∧
    RecordsKept rollingSettings ((machine rollingSettings).observed (shown rollingSettings) .new actions)
      p := by
  obtain ⟨p, run, files⟩ := (machine rollingSettings).exists_run_of_exec .new
    [.log 0 7 (shortStatement .INFO), .log 0 8 (shortStatement .DEBUG), .async .start,
      .async .enter, .async .test, .async .lock, .async .wake, .async .dropExcess, .async .write,
      .log 0 8 (shortStatement .WARN), .async .recycle, .async .test, .async .lock, .async .wake,
      .async .dropExcess, .async .write]
    (fun p => p.files.length = 3) (by decide +kernel)
  exact ⟨p, _, run, by simpa using files, records_kept (by decide) run⟩

/-! ## At the end -/

/-- No batch holds more than 25 buffers, and `stop` finds the backend between its test and its swap
or the front end empty. -/
def Orderly (p : LogPipeline) : Act → Prop
  | .async a => Timely p.logging a
  | _ => True

/-- The files hold the first records, whole, and when `stop` has returned they hold the bytes of all
that were shown to `append` before it was called. -/
structure NoneMissing (shown : List (List UInt8)) (p : LogPipeline) : Prop where
  first : ∃ kept, kept <+: shown ∧ Whole p.files kept
  stopped : p.logging.stopping = .returned → p.logging.linesAtStop.flatten <+: p.files.flatten

theorem step_flushed_pipeline {a : Act} (flushed : Flushed p.logging) (enabled : p.Enabled a)
    (orderly : Orderly p a) (success : p.step settings a = .ok p') : Flushed p'.logging := by
  cases a with
  | log now thread s =>
    rcases log_ok success with ⟨_, rfl⟩ | ⟨_, logging, appended, rfl⟩
    · exact flushed
    · refine @step_flushed _ _ (.append (s.output settings.strerror now thread)) flushed trivial ?_
        appended
      exact ⟨output_short _ now thread s, by rintro ⟨⟩⟩
  | setLogLevel level =>
    cases success
    exact flushed
  | async a => exact step_flushed flushed enabled.2 orderly (step_async success)

theorem Filed.files_eq {shown : List (List UInt8)} (filed : Filed shown p) :
    p.files.flatten = p.logging.written.flatten := by
  unfold LogPipeline.files
  cases opened : p.output with
  | none => rw [filed.early (filed.unopened opened)]; rfl
  | some output =>
    rw [← (filed.held output opened).records, List.flatMap_def, List.flatten_flatten, List.map_map]
    rfl

theorem Filed.noneMissing {shown : List (List UInt8)} (filed : Filed shown p)
    (flushed : Flushed p.logging) : NoneMissing shown p := by
  constructor
  · have whole := flushed.kept.whole
    rw [chain, List.append_assoc, filed.lines] at whole
    exact filed.whole_files whole
  · intro returned
    rw [filed.files_eq]
    exact flushed.nothingLost returned

/-- If the clock moved while the `LogFile` was constructed: in every run in which no batch is cut and
`stop` comes at another moment than that between a swap and the next test, no record that was shown
before `stop` is missing once it has returned. -/
theorem none_missing {actions : List Act} (moved : (settings.clock 0).toInt < (settings.clock 2).toInt)
    (run : ((machine settings).restrict Orderly).Run .new actions p) :
    NoneMissing ((machine settings).observed (shown settings) .new actions) p := by
  have flushed := @Machine.Run.invariant _ _ _ ((machine settings).restrict Orderly)
    (fun p => Flushed p.logging) _ _ _
    (fun _ _ _ flushed enabled stepped =>
      step_flushed_pipeline flushed enabled.1 enabled.2 stepped) new_flushed run
  exact (filed_of_run moved run.unrestrict).noneMissing flushed

instance (p : LogPipeline) (a : Act) : Decidable (Orderly p a) :=
  match a with
  | .async a => inferInstanceAs (Decidable (Timely p.logging a))
  | .log _ _ _ | .setLogLevel _ => isTrue trivial

/-- `stop` finds the backend waiting. -/
theorem none_missing_stopped : ∃ p actions,
    ((machine rollingSettings).restrict Orderly).Run .new actions p ∧
    p.logging.stopping = .returned ∧ p.logging.linesAtStop.length = 2 ∧
    NoneMissing ((machine rollingSettings).observed (shown rollingSettings) .new actions) p := by
  obtain ⟨p, run, ends⟩ := ((machine rollingSettings).restrict Orderly).exists_run_of_exec .new
    [.log 0 7 (shortStatement .INFO), .async .start, .async .enter, .async .test, .async .lock,
      .log 0 8 (shortStatement .WARN), .async .stop, .async .wake, .async .dropExcess,
      .async .write, .async .recycle, .async .test, .async .join]
    (fun p => decide (p.logging.stopping = .returned ∧ p.logging.linesAtStop.length = 2))
    (by decide +kernel)
  obtain ⟨returned, two⟩ := of_decide_eq_true ends
  exact ⟨p, _, run, returned, two, none_missing (by decide) run⟩

end Starry.Guarantees.RecordsInFiles
