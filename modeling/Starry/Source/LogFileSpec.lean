import Starry.Source.LogFile

/-!
# What an append to a `LogFile` does

An append writes its line and then calls `rollFile` or not. `rollReading` says which, and with
what reading of the clock; `append_ok` says that nothing else happens to the files. File names
are those of seconds: `getLogFileName_inj`.
-/
namespace Starry.Source.LogFile

open Starry.Foundation

variable {clock : Nat → Int64} {f g : LogFile} {logline : List UInt8}

/-- The same files and the same last roll, whatever became of the counters. -/
structure Aside (f g : LogFile) : Prop where
  basename : g.basename = f.basename
  pid : g.pid = f.pid
  rollSize : g.rollSize = f.rollSize
  lastRoll : g.lastRoll = f.lastRoll
  file : g.file = f.file
  existing : g.existing = f.existing
  closed : g.closed = f.closed
  unwritten : g.unwritten = f.unwritten

theorem Aside.counters (f : LogFile) (count : Int) (lastFlush : Int64) (reads : Nat) :
    Aside f { f with count := count, lastFlush := lastFlush, reads := reads } :=
  ⟨rfl, rfl, rfl, rfl, rfl, rfl, rfl, rfl⟩

theorem Aside.refl (f : LogFile) : Aside f f := .counters f f.count f.lastFlush f.reads

theorem Aside.trans {h : LogFile} (first : Aside f g) (second : Aside g h) : Aside f h where
  basename := second.basename.trans first.basename
  pid := second.pid.trans first.pid
  rollSize := second.rollSize.trans first.rollSize
  lastRoll := second.lastRoll.trans first.lastRoll
  file := second.file.trans first.file
  existing := second.existing.trans first.existing
  closed := second.closed.trans first.closed
  unwritten := second.unwritten.trans first.unwritten

theorem Aside.openings (aside : Aside f g) : g.openings = f.openings := by
  rw [LogFile.openings, aside.closed, aside.file]
  rfl

/-- The name of the next file does not depend on what was counted. -/
theorem Aside.getLogFileName (aside : Aside f g) (now : Int64) :
    g.getLogFileName now = f.getLogFileName now := by
  rw [LogFile.getLogFileName, aside.basename, aside.pid]
  rfl

/-- The reading that `rollFile` takes when the line is appended, if it is called. -/
def rollReading (clock : Nat → Int64) (f : LogFile) (logline : List UInt8) : Option Int64 :=
  if (f.write logline).rollPosition < (f.write logline).tellp then some (clock f.reads)
  else if f.checkEveryN ≤ f.count + 1 ∧
      kRollPerSeconds < ((clock f.reads).toInt - f.lastRoll.toInt).tdiv 1000000000 then
    some (clock (f.reads + 1))
  else none

theorem write_settings (f : LogFile) (logline : List UInt8) :
    (f.write logline).checkEveryN = f.checkEveryN ∧ (f.write logline).count = f.count ∧
    (f.write logline).reads = f.reads ∧ (f.write logline).lastRoll = f.lastRoll ∧
    (f.write logline).rollSize = f.rollSize ∧ (f.write logline).basename = f.basename ∧
    (f.write logline).pid = f.pid ∧ (f.write logline).closed = f.closed ∧
    (f.write logline).existing = f.existing := by
  unfold write
  split <;> exact ⟨rfl, rfl, rfl, rfl, rfl, rfl, rfl, rfl, rfl⟩

/-- A difference of two readings that does not overflow. -/
theorem elapsed_ok {now earlier : Int64} {line : Nat} {value : Int}
    (success : elapsed now earlier line = .ok value) : value = now.toInt - earlier.toInt := by
  unfold elapsed at success
  split at success
  · exact (Except.ok.inj success).symm
  · cases success

/-- The file is rolled if its last roll is more than `kRollPerSeconds` ago. -/
theorem checkAge_ok (success : f.checkAge clock = .ok g) :
    (kRollPerSeconds < ((clock f.reads).toInt - f.lastRoll.toInt).tdiv 1000000000 ∧
      ∃ h, Aside f h ∧ h.reads = f.reads + 1 ∧ g = (h.rollFile clock).2) ∨
    (¬kRollPerSeconds < ((clock f.reads).toInt - f.lastRoll.toInt).tdiv 1000000000 ∧
      Aside f g ∧ g.reads = f.reads + 1) := by
  obtain ⟨sinceRoll, measured, success⟩ := bind_eq_ok success
  have value := elapsed_ok measured
  subst value
  split at success
  next old =>
    cases success
    exact .inl ⟨old, { f.tick with count := 0 }, .counters f _ _ _, rfl, rfl⟩
  next young =>
    refine .inr ⟨young, ?_⟩
    obtain ⟨sinceFlush, _, success⟩ := bind_eq_ok success
    split at success
    · cases success
      exact ⟨.counters f _ _ _, rfl⟩
    · cases success
      exact ⟨.counters f _ _ _, rfl⟩

/-- The line is written; then `rollFile` is called, with the reading that `rollReading` says, or
the file is not too long and nothing more happens to it. -/
theorem append_ok (success : f.append_unlocked clock logline = .ok g) :
    (∃ h, Aside (f.write logline) h ∧ f.reads ≤ h.reads ∧
      rollReading clock f logline = some (h.now clock) ∧ g = (h.rollFile clock).2) ∨
    (rollReading clock f logline = none ∧ Aside (f.write logline) g ∧ f.reads ≤ g.reads ∧
      (f.write logline).tellp ≤ (f.write logline).rollPosition) := by
  obtain ⟨checkEveryN, count, reads, lastRoll, _⟩ := write_settings f logline
  unfold append_unlocked at success
  unfold rollReading
  dsimp only at success
  split at success
  next long =>
    cases success
    rw [if_pos long]
    exact .inl ⟨_, .refl _, by rw [reads], by rw [now, reads], rfl⟩
  next short =>
    rw [if_neg short]
    have noted := Aside.counters (f.write logline) ((f.write logline).count + 1)
      (f.write logline).lastFlush (f.write logline).reads
    split at success
    next due =>
      rw [checkEveryN, count] at due
      rcases checkAge_ok success with ⟨old, h, aside, ticked, rolled⟩ | ⟨young, aside, ticked⟩
      · dsimp only at old ticked
        rw [reads] at ticked old
        rw [lastRoll] at old
        rw [if_pos ⟨due, old⟩]
        exact .inl ⟨h, noted.trans aside, by omega, by rw [now, ticked], rolled⟩
      · dsimp only at young ticked
        rw [reads] at ticked young
        rw [lastRoll] at young
        rw [if_neg fun both => young both.2]
        exact .inr ⟨rfl, noted.trans aside, by omega, by omega⟩
    next early =>
      rw [checkEveryN, count] at early
      cases success
      rw [if_neg fun both => early both.1]
      exact .inr ⟨rfl, noted, by simp [reads], by omega⟩

/-- The clock has moved since the last roll. -/
theorem rollFile_of_later (later : f.lastRoll.toInt < (f.now clock).toInt) :
    f.rollFile clock = (true, { f.tick with
      lastRoll := f.now clock
      lastFlush := f.now clock
      closed := f.openings
      file := some ⟨f.getLogFileName (f.now clock), []⟩ }) :=
  if_pos later

/-- A clock that did not move rolls no file. -/
theorem rollFile_of_still (still : ¬f.lastRoll.toInt < (f.now clock).toInt) :
    f.rollFile clock = (false, f.tick) :=
  if_neg still

theorem reads_rollFile : (f.rollFile clock).2.reads = f.reads + 1 := by
  unfold rollFile
  dsimp only
  split <;> rfl

/-! ## File names -/

theorem seconds_mono {first second : Int64} (later : first.toInt ≤ second.toInt) :
    seconds first ≤ seconds second :=
  Int.tdiv_le_tdiv (by omega) later

theorem seconds_range (now : Int64) : -10000000000 < seconds now ∧ seconds now < 10000000000 := by
  have lower := now.le_toInt
  have upper := now.toInt_lt
  have whole := Int.mul_tdiv_add_tmod now.toInt 1000000000
  have below := Int.tmod_lt_of_pos now.toInt (b := 1000000000) (by omega)
  have above := Int.lt_tmod_of_pos now.toInt (b := 1000000000) (by omega)
  unfold seconds
  constructor <;> omega

/-- Years of four digits. -/
theorem year_range {time : Int} (lower : -10000000000 < time) (upper : time < 10000000000) :
    0 ≤ (Date.ofDays (time / 86400)).year ∧ (Date.ofDays (time / 86400)).year < 10000 := by
  obtain ⟨_, _, _, _, first, last⟩ := Date.ofDays_range (time / 86400)
  omega

/-- Different seconds give different names. -/
theorem formatSecond_inj {first second : Int} (low : -10000000000 < first)
    (high : first < 10000000000) (low' : -10000000000 < second) (high' : second < 10000000000)
    (same : formatSecond first = formatSecond second) : first = second := by
  obtain ⟨hour, minute, sec⟩ := DateTime.ofSeconds_range first
  obtain ⟨hour', minute', sec'⟩ := DateTime.ofSeconds_range second
  obtain ⟨month₁, month₂, day₁, day₂, _⟩ := Date.ofDays_range (first / 86400)
  obtain ⟨month₁', month₂', day₁', day₂', _⟩ := Date.ofDays_range (second / 86400)
  have year := year_range low high
  have year' := year_range low' high'
  have date : (DateTime.ofSeconds first).date = Date.ofDays (first / 86400) := rfl
  have date' : (DateTime.ofSeconds second).date = Date.ofDays (second / 86400) := rfl
  simp only [formatSecond] at same
  -- the fields are read off one by one, each in its width
  obtain ⟨years, same⟩ :=
    fixedDecimal_append_inj (by rw [date]; omega) (by rw [date']; omega) same
  obtain ⟨months, same⟩ :=
    fixedDecimal_append_inj (by rw [date]; omega) (by rw [date']; omega) same
  obtain ⟨days, same⟩ :=
    fixedDecimal_append_inj (by rw [date]; omega) (by rw [date']; omega) same
  obtain ⟨hours, same⟩ :=
    fixedDecimal_append_inj (by omega) (by omega) (List.cons_inj_right _ |>.mp same)
  obtain ⟨minutes, same⟩ := fixedDecimal_append_inj (by omega) (by omega) same
  have secs := fixedDecimal_injective (by omega) (by omega) same
  rw [date, date'] at years months days
  have dates : Date.ofDays (first / 86400) = Date.ofDays (second / 86400) := by
    rw [Date.mk.injEq]
    omega
  apply DateTime.ofSeconds_injective
  rw [DateTime.mk.injEq]
  exact ⟨dates, hours, minutes, secs⟩

/-- Two readings give the same file name exactly when they are of the same second. -/
theorem getLogFileName_inj {first second : Int64} :
    f.getLogFileName first = f.getLogFileName second ↔ seconds first = seconds second := by
  constructor
  · intro same
    have texts := congrArg String.toList same
    simp only [getLogFileName, String.toList_append, String.toList_ofList] at texts
    have front := List.append_cancel_right (List.append_cancel_right (List.append_cancel_right texts))
    exact formatSecond_inj (seconds_range first).1 (seconds_range first).2 (seconds_range second).1
      (seconds_range second).2 (List.append_cancel_left front)
  · intro same
    rw [getLogFileName, getLogFileName, same]

end Starry.Source.LogFile
